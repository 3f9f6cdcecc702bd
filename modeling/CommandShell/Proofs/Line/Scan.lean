import CommandShell.Proofs.Line.Place
import Mathlib.Data.List.Basic

/-!
# The scan that normalizes a line

The scan sees a cell at each place of the line before its comment: the character, whether it is an
unquoted space, and whether it belongs to a run of operator characters that is set apart. What the scan
knows at a place it knows from the characters that it has passed and from the next one; what a cell
tells is nevertheless so by all places of the line.

## Main definitions
* `Mark.next`, `Mark.breaks`: one step of the scan.
* `Cell`, `cells`: what the scan sees at each place.
* `Stands`: the scan stands at a place as the places before it ask.

## Main results
* `normalizeFrom_cons`: what one step writes.
* `cells_spec`: what a cell tells of its place is so.
* `isGapAt_of_between`: between neighbours among the visible places there are only unquoted spaces.
-/

namespace CommandShell

/-! ## One step of the scan -/

namespace Mark

/-- The quote in which the scan stands. -/
def quote? : Mark → Option Char
  | quoted q => some q
  | plain _ | operators _ => none

/-- The scan stands at the start of the line or behind an unquoted space. -/
def isFresh : Mark → Bool
  | plain fresh => fresh
  | quoted _ | operators _ => false

/-- The scan stands in a run of operator characters. -/
def inRun : Mark → Bool
  | operators _ => true
  | plain _ | quoted _ => false

/-- The scan stands in a run of operator characters that is set apart. -/
def isApart : Mark → Bool
  | operators apart => apart
  | plain _ | quoted _ => false

/-- Where the scan stands behind the character `c`, which `rest` follows. -/
def next : Mark → Char → Text → Mark
  | quoted q, c, _ => if c = q then plain false else quoted q
  | plain _, c, rest => if isOperatorChar c then operators (CommandShell.isApart c rest) else after c
  | operators apart, c, _ => if isOperatorChar c then operators apart else after c

/-- A space is put before the character `c`, which `rest` follows. -/
def breaks : Mark → Char → Text → Bool
  | quoted _, _, _ => false
  | plain fresh, c, rest => isOperatorChar c && CommandShell.isApart c rest && !fresh
  | operators apart, c, _ => !isOperatorChar c && apart && c != ' '

/-- The character `c` starts a comment. -/
def isComment (mark : Mark) (c : Char) : Bool :=
  mark.isFresh && c == '#'

/-- The character `c` is an unquoted space. -/
def isGap (mark : Mark) (c : Char) : Bool :=
  mark.quote? == none && c == ' '

@[simp] theorem quote?_after (c : Char) : (after c).quote? = quoteAfter none c := by
  by_cases h : isQuote c <;> simp [after, quoteAfter, h, quote?]

/-- The scan follows the quotes of the line. -/
theorem quote?_next (mark : Mark) (c : Char) (rest : Text) :
    (mark.next c rest).quote? = quoteAfter mark.quote? c := by
  cases mark with
  | quoted q => by_cases h : c = q <;> simp [next, quote?, quoteAfter, h]
  | plain fresh =>
      by_cases h : isOperatorChar c
      · simp [next, quote?, h, quoteAfter_none (isQuote_of_isOperatorChar h)]
      · rw [next, if_neg h, quote?_after]; rfl
  | operators apart =>
      by_cases h : isOperatorChar c
      · simp [next, quote?, h, quoteAfter_none (isQuote_of_isOperatorChar h)]
      · rw [next, if_neg h, quote?_after]; rfl

/-- A space is put where a run that is set apart begins or ends, unless one stands there. -/
theorem breaks_eq {mark : Mark} {c : Char} (hgap : mark.isGap c = false) (rest : Text) :
    mark.breaks c rest = (!mark.isFresh && (mark.next c rest).isApart != mark.isApart) := by
  cases mark with
  | quoted q => by_cases h : c = q <;> simp [breaks, next, isApart, h]
  | plain fresh =>
      by_cases h : isOperatorChar c
      · simp [breaks, next, isApart, isFresh, h, Bool.and_comm]
      · by_cases hq : isQuote c <;> simp [breaks, next, isApart, after, h, hq]
  | operators apart =>
      have hspace : (c != ' ') = true := by simpa [isGap, quote?] using hgap
      by_cases h : isOperatorChar c
      · simp [breaks, next, isApart, h]
      · by_cases hq : isQuote c <;> simp [breaks, next, isApart, isFresh, after, h, hq, hspace]

/-- Where a space is put or stands, the scan is in no quote. -/
theorem quote?_of_breaks {mark : Mark} {c : Char} {rest : Text}
    (h : mark.breaks c rest = true) : mark.quote? = none := by
  cases mark <;> simp_all [breaks, quote?]

theorem breaks_of_isGap {mark : Mark} {c : Char} (h : mark.isGap c = true) (rest : Text) :
    mark.breaks c rest = false := by
  obtain ⟨hquote, rfl⟩ : mark.quote? = none ∧ c = ' ' := by simpa [isGap] using h
  cases mark <;> simp_all [breaks, isOperatorChar]

theorem isFresh_next {mark : Mark} {c : Char} (h : mark.isGap c = false) (rest : Text) :
    (mark.next c rest).isFresh = false := by
  have hafter : mark.quote? = none → (after c).isFresh = false := by
    intro hquote
    have hspace : c ≠ ' ' := by simpa [isGap, hquote] using h
    by_cases hc : isQuote c <;> simp [after, isFresh, hc, hspace]
  cases mark with
  | quoted q => by_cases hc : c = q <;> simp [next, isFresh, hc]
  | plain fresh =>
      by_cases hc : isOperatorChar c
      · simp [next, isFresh, hc]
      · rw [next, if_neg hc, hafter rfl]
  | operators apart =>
      by_cases hc : isOperatorChar c
      · simp [next, isFresh, hc]
      · rw [next, if_neg hc, hafter rfl]

end Mark

/-- **One step of normalization.** -/
theorem normalizeFrom_cons (mark : Mark) (c : Char) (rest : Text) :
    normalizeFrom mark (c :: rest) =
      if mark.isComment c then []
      else gap (mark.breaks c rest) ++ c :: normalizeFrom (mark.next c rest) rest := by
  cases mark with
  | quoted q => simp [normalizeFrom, Mark.isComment, Mark.isFresh, Mark.breaks, Mark.next]
  | plain fresh =>
      by_cases hcomment : c = '#' ∧ fresh
      · simp [normalizeFrom, Mark.isComment, Mark.isFresh, hcomment]
      · have hcomment' : ¬ (fresh = true ∧ c = '#') := fun h => hcomment h.symm
        by_cases h : isOperatorChar c <;>
          simp [normalizeFrom, Mark.isComment, Mark.isFresh, hcomment, hcomment', h, Mark.breaks,
            Mark.next]
  | operators apart =>
      by_cases h : isOperatorChar c <;>
        simp [normalizeFrom, Mark.isComment, Mark.isFresh, h, Mark.breaks, Mark.next]

/-! ## Cells -/

/-- What the scan sees at a place of the line. -/
structure Cell where
  place : Nat
  char : Char
  /-- It is an unquoted space. -/
  isGap : Bool
  /-- It belongs to a run of operator characters that is set apart. -/
  isApart : Bool
  deriving DecidableEq

namespace Cell

/-- Two cells join if nothing stands between them and both are set apart or neither is. -/
def joins (g h : Cell) : Bool :=
  h.place == g.place + 1 && h.isApart == g.isApart

end Cell

/-- The cells of the rest of a line, from a given place on. -/
def cellsFrom : Mark → Nat → Text → List Cell
  | _, _, [] => []
  | mark, i, c :: rest =>
    if mark.isComment c then []
    else ⟨i, c, mark.isGap c, (mark.next c rest).isApart⟩ ::
      cellsFrom (mark.next c rest) (i + 1) rest

/-- The cells of a line before its comment. -/
def cells (text : Text) : List Cell :=
  cellsFrom (.plain true) 0 text

/-- The cells that are no unquoted space. -/
def inked (gs : List Cell) : List Cell :=
  gs.filter fun g => !g.isGap

theorem inked_cons_of_gap {g : Cell} (h : g.isGap = true) (gs : List Cell) :
    inked (g :: gs) = inked gs := by
  simp [inked, h]

theorem inked_cons_of_not_gap {g : Cell} (h : g.isGap = false) (gs : List Cell) :
    inked (g :: gs) = g :: inked gs := by
  simp [inked, h]

theorem le_place_of_mem_cellsFrom {mark : Mark} {i : Nat} {rest : Text} {g : Cell}
    (h : g ∈ cellsFrom mark i rest) : i ≤ g.place := by
  induction rest generalizing mark i with
  | nil => simp [cellsFrom] at h
  | cons c rest ih =>
      rw [cellsFrom] at h
      split at h
      · simp at h
      · rcases List.mem_cons.mp h with rfl | h
        · exact Nat.le_refl i
        · have := ih h
          omega

/-! ## What a cell tells of its place -/

/-- The scan stands at a place of the line as the places before it ask. -/
structure Stands (text : Text) (i : Nat) (mark : Mark) : Prop where
  quote_eq : endQuote (text.take i) = mark.quote?
  fresh_iff : mark.quote? = none → (mark.isFresh ↔ i = 0 ∨ text[i - 1]? = some ' ')
  run_iff : mark.inRun ↔ ∃ j, i = j + 1 ∧ IsOperatorAt text j
  apart_iff : ∀ j, i = j + 1 → (mark.isApart ↔ IsApartAt text j)

/-- The cell tells of its place what is so. -/
structure Cell.Describes (text : Text) (g : Cell) : Prop where
  char_eq : text[g.place]? = some g.char
  gap_iff : g.isGap ↔ IsGapAt text g.place
  apart_iff : g.isApart ↔ IsApartAt text g.place

theorem stands_zero (text : Text) : Stands text 0 (.plain true) where
  quote_eq := rfl
  fresh_iff := by simp [Mark.isFresh]
  run_iff := by simp [Mark.inRun]
  apart_iff := by simp

namespace Stands

variable {text rest : Text} {i : Nat} {mark : Mark} {c : Char}

theorem isUnquotedAt_iff (h : Stands text i mark) : IsUnquotedAt text i ↔ mark.quote? = none := by
  rw [IsUnquotedAt, h.quote_eq]

theorem isComment_iff (h : Stands text i mark) (hdrop : text.drop i = c :: rest) :
    mark.isComment c ↔ StartsComment text i := by
  rw [StartsComment, h.isUnquotedAt_iff, getElem?_of_drop hdrop]
  cases hquote : mark.quote? with
  | none => simp [Mark.isComment, h.fresh_iff hquote, and_comm]
  | some q =>
      have hfresh : mark.isFresh = false := by cases mark <;> simp_all [Mark.quote?, Mark.isFresh]
      simp [Mark.isComment, hfresh]

theorem isGap_iff (h : Stands text i mark) (hdrop : text.drop i = c :: rest) :
    mark.isGap c ↔ IsGapAt text i := by
  rw [IsGapAt, h.isUnquotedAt_iff, getElem?_of_drop hdrop]
  simp [Mark.isGap, and_comm]

theorem isOperatorAt_iff (h : Stands text i mark) (hdrop : text.drop i = c :: rest) :
    IsOperatorAt text i ↔ isOperatorChar c ∧ mark.quote? = none := by
  rw [IsOperatorAt, h.isUnquotedAt_iff, getElem?_of_drop hdrop]
  simp

/-- Behind a character the scan stands in a run if the character is an operator character. -/
theorem inRun_next_iff (h : Stands text i mark) (hdrop : text.drop i = c :: rest) :
    (mark.next c rest).inRun ↔ IsOperatorAt text i := by
  rw [h.isOperatorAt_iff hdrop]
  have hafter : (Mark.after c).inRun = false := by
    by_cases hc : isQuote c <;> simp [Mark.after, Mark.inRun, hc]
  cases mark with
  | quoted q => by_cases hc : c = q <;> simp [Mark.next, Mark.inRun, Mark.quote?, hc]
  | plain fresh =>
      by_cases hc : isOperatorChar c <;> simp [Mark.next, hc, hafter, Mark.quote?]
      rfl
  | operators apart =>
      by_cases hc : isOperatorChar c <;> simp [Mark.next, hc, hafter, Mark.quote?]
      rfl

/-- A character that is no operator character is in no run, and the scan behind it in none either. -/
theorem isApart_next_of_not (h : Stands text i mark) (hdrop : text.drop i = c :: rest)
    (hnot : ¬ IsOperatorAt text i) : (mark.next c rest).isApart = false := by
  have hrun : ¬ (mark.next c rest).inRun := by rwa [h.inRun_next_iff hdrop]
  cases hnext : mark.next c rest <;> simp_all [Mark.inRun, Mark.isApart]

/-- **The scan knows which runs are set apart.** A run is judged at its first character by the next
one, and the judgment is kept to its end. -/
theorem isApart_next_iff (h : Stands text i mark) (hdrop : text.drop i = c :: rest) :
    (mark.next c rest).isApart ↔ IsApartAt text i := by
  by_cases hoperator : IsOperatorAt text i
  · obtain ⟨hc, hquote⟩ := (h.isOperatorAt_iff hdrop).mp hoperator
    cases mark with
    | quoted q => simp [Mark.quote?] at hquote
    | plain fresh =>
        have hfirst : i = 0 ∨ ¬ IsOperatorAt text (i - 1) := by
          rcases Nat.eq_zero_or_pos i with hi | hi
          · exact .inl hi
          · refine .inr fun hbefore => ?_
            have := h.run_iff.mpr ⟨i - 1, by omega, hbefore⟩
            simp [Mark.inRun] at this
        rw [isApartAt_iff_isApart hdrop hoperator hfirst]
        simp [Mark.next, Mark.isApart, hc]
    | operators apart =>
        obtain ⟨j, rfl, hbefore⟩ := h.run_iff.mp rfl
        rw [isApartAt_succ_iff hbefore hoperator, ← h.apart_iff j rfl]
        simp [Mark.next, Mark.isApart, hc]
  · rw [h.isApart_next_of_not hdrop hoperator]
    simpa using fun hapart : IsApartAt text i => hoperator hapart.isOperatorAt

/-- **One step further the scan stands as it should.** -/
theorem next (h : Stands text i mark) (hdrop : text.drop i = c :: rest) :
    Stands text (i + 1) (mark.next c rest) where
  quote_eq := by
    rw [endQuote_take_succ (getElem?_of_drop hdrop), h.quote_eq, Mark.quote?_next]
  fresh_iff := by
    intro hquote
    have hc : text[i + 1 - 1]? = some c := getElem?_of_drop hdrop
    rw [hc]
    cases hgap : mark.isGap c with
    | true =>
        obtain ⟨hmark, rfl⟩ : mark.quote? = none ∧ c = ' ' := by simpa [Mark.isGap] using hgap
        cases mark <;> simp_all [Mark.quote?, Mark.next, Mark.after, Mark.isFresh, isOperatorChar,
          isQuote]
    | false =>
        rw [Mark.isFresh_next hgap]
        have hspace : c ≠ ' ' := by
          rintro rfl
          -- A space inside a quote does not close it.
          cases hmark : mark.quote? with
          | none => simp [Mark.isGap, hmark] at hgap
          | some q =>
              have hq : isQuote q := isQuote_of_endQuote (h.quote_eq.trans hmark)
              have hne : ' ' ≠ q := by rintro rfl; simp [isQuote] at hq
              rw [Mark.quote?_next, hmark, quoteAfter_inside hne] at hquote
              simp at hquote
        simp [hspace]
  run_iff := by
    rw [h.inRun_next_iff hdrop]
    simp
  apart_iff := by
    intro j hj
    obtain rfl : i = j := by omega
    exact h.isApart_next_iff hdrop

end Stands

/-- **Every cell tells what is so**, the cells stand at the places of the line one by one, and they
end where a comment starts. -/
theorem cellsFrom_spec {text : Text} {mark : Mark} {i : Nat} (h : Stands text i mark) :
    let gs := cellsFrom mark i (text.drop i)
    gs.map Cell.place = List.range' i gs.length ∧
    (∀ g ∈ gs, g.Describes text ∧ ¬ StartsComment text g.place) ∧
    (i + gs.length = max i text.length ∨ StartsComment text (i + gs.length)) := by
  generalize hrest : text.drop i = rest
  induction rest generalizing i mark with
  | nil =>
      have := List.drop_eq_nil_iff.mp hrest
      simp [cellsFrom, this]
  | cons c rest ih =>
      rw [cellsFrom]
      split
      · rename_i hcomment
        rw [h.isComment_iff hrest] at hcomment
        simp [hcomment]
      · rename_i hcomment
        rw [h.isComment_iff hrest] at hcomment
        obtain ⟨hplaces, hspec, hend⟩ := ih (h.next hrest) (drop_succ_of_drop hrest)
        have hlt : i < text.length :=
          (List.getElem?_eq_some_iff.mp (getElem?_of_drop hrest)).1
        refine ⟨?_, ?_, ?_⟩
        · simp [hplaces, List.range'_succ]
        · intro g hg
          rcases List.mem_cons.mp hg with rfl | hg
          · exact ⟨⟨getElem?_of_drop hrest, h.isGap_iff hrest, h.isApart_next_iff hrest⟩, hcomment⟩
          · exact hspec g hg
        · rw [List.length_cons]
          rcases hend with hend | hend
          · left; omega
          · right
            rwa [Nat.add_right_comm] at hend

section

variable {text : Text}

/-- The line is kept up to the first place where a comment starts. -/
theorem length_kept {n : Nat} (hbefore : ∀ j < n, ¬ StartsComment text j)
    (hend : n = text.length ∨ StartsComment text n) : (kept text).length = n := by
  suffices hn : n ≤ text.length ∧
      (List.range text.length).findIdx (fun i => decide (StartsComment text i)) = n by
    rw [kept, List.length_take, hn.2]
    omega
  rcases hend with rfl | hend
  · refine ⟨Nat.le_refl _, ?_⟩
    rw [List.findIdx_eq_length_of_false, List.length_range]
    intro j hj
    simpa using hbefore j (List.mem_range.mp hj)
  · have hlt : n < text.length := (List.getElem?_eq_some_iff.mp hend.1).1
    refine ⟨by omega, (List.findIdx_eq (by simpa using hlt)).mpr ⟨by simpa using hend, ?_⟩⟩
    intro j hj
    simpa using hbefore j hj

/-- A place is kept if no comment starts at it or before it. -/
theorem lt_length_kept {i : Nat} (hi : i < text.length) (h : ∀ j ≤ i, ¬ StartsComment text j) :
    i < (kept text).length := by
  have hfirst : i < (List.range text.length).findIdx fun j => decide (StartsComment text j) := by
    refine List.lt_findIdx_of_not (by simpa using hi) fun j hj => ?_
    simpa using h j hj
  rw [kept, List.length_take]
  omega

/-- The cells of a line tell what is so at the places of the line before its comment. -/
theorem cells_spec (text : Text) :
    (cells text).map Cell.place = List.range (kept text).length ∧
      ∀ g ∈ cells text, g.Describes text := by
  obtain ⟨hplaces, hspec, hend⟩ := cellsFrom_spec (stands_zero text)
  have hcells : cellsFrom (.plain true) 0 (text.drop 0) = cells text := rfl
  rw [hcells] at hplaces hspec hend
  refine ⟨?_, fun g hg => (hspec g hg).1⟩
  have hbefore : ∀ j < (cells text).length, ¬ StartsComment text j := by
    intro j hj
    obtain ⟨g, hg, rfl⟩ : ∃ g ∈ cells text, g.place = j := by
      have hmem : j ∈ (cells text).map Cell.place := by
        rw [hplaces]
        exact List.mem_range'_1.mpr ⟨Nat.zero_le j, by omega⟩
      simpa using hmem
    exact (hspec g hg).2
  rw [Nat.zero_add, Nat.zero_max] at hend
  rw [hplaces, length_kept hbefore hend, List.range_eq_range']

/-- The visible places of a line are those of its inked cells. -/
theorem map_place_inked (text : Text) : (inked (cells text)).map Cell.place = visible text := by
  obtain ⟨hplaces, hspec⟩ := cells_spec text
  rw [visible, ← hplaces, List.filter_map, inked]
  congr 1
  refine List.filter_congr fun g hg => ?_
  have := (hspec g hg).gap_iff
  simp [← this]

theorem describes_of_mem_inked {g : Cell} (h : g ∈ inked (cells text)) : g.Describes text :=
  (cells_spec text).2 g (List.mem_filter.mp h).1

theorem map_char_inked (text : Text) :
    (inked (cells text)).map Cell.char = (visible text).filterMap (text[·]?) := by
  have hchar : ∀ g ∈ inked (cells text), text[g.place]? = some g.char :=
    fun g hg => (describes_of_mem_inked hg).char_eq
  rw [← map_place_inked, List.filterMap_map, ← List.filterMap_eq_map]
  exact List.filterMap_congr fun g hg => (hchar g hg).symm

theorem visible_lt_of_lt {k n : Nat} (hk : k < (visible text).length)
    (hn : n < (visible text).length) (h : k < n) : (visible text)[k] < (visible text)[n] := by
  have hsorted : (visible text).Pairwise (· < ·) := List.pairwise_lt_range.filter _
  exact List.pairwise_iff_getElem.mp hsorted k n hk hn h

/-- Between two neighbours among the visible places there are only gaps. -/
theorem isGapAt_of_between {k i j m : Nat} (hi : (visible text)[k]? = some i)
    (hj : (visible text)[k + 1]? = some j) (him : i < m) (hmj : m < j) : IsGapAt text m := by
  obtain ⟨hk, rfl⟩ := List.getElem?_eq_some_iff.mp hi
  obtain ⟨hk', rfl⟩ := List.getElem?_eq_some_iff.mp hj
  by_contra hgap
  have hkept : m < (kept text).length := by
    have hmem := List.getElem_mem hk'
    simp only [visible, List.mem_filter, List.mem_range] at hmem
    exact Nat.lt_trans hmj hmem.1
  have hvisible : m ∈ visible text := by simp [visible, hkept, hgap]
  obtain ⟨n, hn, rfl⟩ := List.mem_iff_getElem.mp hvisible
  rcases Nat.lt_trichotomy n k with hlt | rfl | hgt
  · have := visible_lt_of_lt hn hk hlt
    omega
  · omega
  · rcases Nat.eq_or_lt_of_le (Nat.succ_le_of_lt hgt) with heq | hlt
    · simp only [Nat.succ_eq_add_one] at heq
      subst heq
      omega
    · have := visible_lt_of_lt hk' hn hlt
      omega

end

end CommandShell
