import CommandShell.Proofs.Line.Scan
import Mathlib.Data.List.SplitBy

/-!
# Tokens as a partition of the line

The tokens of a line are the characters of the line, less its comment and its unquoted spaces, cut
between two neighbours exactly where a space stood between them or where one of them belongs to a run
of operator characters that is set apart and the other does not.

Two scans lead from the line to its tokens, and the second reads what the first has written. They are
told as one here: the tokens are the cells of the first scan that are no unquoted space, in groups of
those that join.

## Main definitions
* `EndsPiece`: where a piece between separators is over.
* `pieceIndex`: the piece of a partition that holds a given element.

## Main results
* `tokens_eq_splitBy`: the tokens are the groups of cells that join.
* `tokens_partition`: the tokens by places of the line.
-/

namespace CommandShell

/-! ## Pieces between separators -/

/-- A piece ends where the text is over or a separator stands outside quotes. -/
def EndsPiece (separator : Char) (quote : Option Char) (text : Text) : Prop :=
  text = [] ∨ (quote = none ∧ text.head? = some separator)

section

variable {separator : Char} {quote : Option Char} {piece text : Text}

theorem splitFrom_of_endsPiece (h : EndsPiece separator quote text) (hpiece : piece ≠ []) :
    splitFrom separator quote piece text = piece.reverse :: splitFrom separator quote [] text := by
  rcases h with rfl | ⟨rfl, hhead⟩
  · simp [splitFrom, hpiece]
  · obtain ⟨rest, rfl⟩ := List.head?_eq_some_iff.mp hhead
    simp [splitFrom, hpiece]

/-- What is read already goes to the front of the first piece of what follows. -/
theorem splitFrom_of_not_endsPiece (h : ¬ EndsPiece separator quote text) (hpiece : piece ≠ []) :
    splitFrom separator quote piece text =
      (splitFrom separator quote [] text).modifyHead (piece.reverse ++ ·) := by
  induction text generalizing quote piece with
  | nil => exact absurd (.inl rfl) h
  | cons c rest ih =>
      have hc : ¬ (quote = none ∧ c = separator) := fun hc => h (.inr ⟨hc.1, by simp [hc.2]⟩)
      rw [splitFrom, if_neg hc, splitFrom, if_neg hc]
      have hpiece' : c :: piece ≠ [] := List.cons_ne_nil c piece
      have hsingle : [c] ≠ [] := List.cons_ne_nil c []
      by_cases hends : EndsPiece separator (quoteAfter quote c) rest
      · rw [splitFrom_of_endsPiece hends hpiece', splitFrom_of_endsPiece hends hsingle]
        simp
      · rw [ih hends hpiece', ih hends hsingle, List.modifyHead_modifyHead]
        simp [Function.comp_def]

end

/-- A space outside quotes before the first piece is passed over. -/
theorem splitFrom_gap {quote : Option Char} {wanted : Bool} (h : wanted = true → quote = none)
    (text : Text) : splitFrom ' ' quote [] (gap wanted ++ text) = splitFrom ' ' quote [] text := by
  cases wanted with
  | false => rfl
  | true => simp [h rfl, splitFrom]

/-! ## Groups of cells that join -/

section

variable {α : Type} {r : α → α → Bool}

theorem splitBy_cons_of_head {a : α} {l : List α} (h : ∀ b ∈ l.head?, r a b = false) :
    (a :: l).splitBy r = [a] :: l.splitBy r := by
  have happend : ([a] ++ l).splitBy r = [a].splitBy r ++ l.splitBy r :=
    List.splitBy_append fun x hx y hy => by
      obtain rfl : a = x := by simpa using hx
      exact h y hy
  exact happend

theorem splitBy_cons_cons_of_rel {a b : α} {l : List α} (h : r a b = true) :
    (a :: b :: l).splitBy r = ((b :: l).splitBy r).modifyHead (a :: ·) := by
  obtain ⟨first, others, hsplit⟩ := List.exists_cons_of_ne_nil
    (List.splitBy_ne_nil.mpr (List.cons_ne_nil b l) : (b :: l).splitBy r ≠ [])
  obtain ⟨hflatten, hnil, hchain, hbound⟩ := List.splitBy_eq_iff.mp hsplit
  cases first with
  | nil => simp at hnil
  | cons c first =>
      obtain ⟨rfl, hl⟩ : b = c ∧ l = first ++ others.flatten := by simpa using hflatten
      rw [hsplit, List.modifyHead_cons, List.splitBy_eq_iff]
      refine ⟨by simp [hl], by simpa using hnil, ?_, ?_⟩
      · intro group hgroup
        rcases List.mem_cons.mp hgroup with rfl | hgroup
        · exact List.isChain_cons_cons.mpr ⟨h, hchain _ (List.mem_cons_self ..)⟩
        · exact hchain group (List.mem_cons_of_mem _ hgroup)
      · cases others with
        | nil => exact List.isChain_singleton _
        | cons second others =>
            obtain ⟨⟨ha, hb, hfalse⟩, hbound⟩ := List.isChain_cons_cons.mp hbound
            refine List.isChain_cons_cons.mpr ⟨⟨List.cons_ne_nil _ _, hb, ?_⟩, hbound⟩
            rwa [List.getLast_cons ha]

end

/-! ## Tokens as groups of cells -/

/-- Behind a character that is no gap, the piece ends exactly where the next cell does not join. -/
private theorem endsPiece_normalizeFrom {mark : Mark} (hfresh : mark.isFresh = false) (i : Nat)
    (rest : Text) :
    EndsPiece ' ' mark.quote? (normalizeFrom mark rest) ↔
      ∀ h ∈ (inked (cellsFrom mark (i + 1) rest)).head?,
        ¬ (h.place = i + 1 ∧ h.isApart = mark.isApart) := by
  cases rest with
  | nil => simp [normalizeFrom, cellsFrom, inked, EndsPiece]
  | cons d rest =>
      have hcomment : mark.isComment d = false := by simp [Mark.isComment, hfresh]
      rw [normalizeFrom_cons, cellsFrom, hcomment]
      simp only [Bool.false_eq_true, if_false]
      cases hgap : mark.isGap d with
      | true =>
          -- A space stands there, and every later cell is further away.
          obtain ⟨hquote, rfl⟩ : mark.quote? = none ∧ d = ' ' := by simpa [Mark.isGap] using hgap
          have hends : EndsPiece ' ' mark.quote?
              (gap (mark.breaks ' ' rest) ++ ' ' :: normalizeFrom (mark.next ' ' rest) rest) := by
            simp [EndsPiece, hquote, Mark.breaks_of_isGap hgap]
          rw [inked_cons_of_gap rfl]
          refine iff_of_true hends fun h hh hjoin => ?_
          have hmem : h ∈ cellsFrom (mark.next ' ' rest) (i + 1 + 1) rest :=
            (List.mem_filter.mp (List.mem_of_mem_head? hh)).1
          have := le_place_of_mem_cellsFrom hmem
          omega
      | false =>
          have hspace : ¬ (mark.quote? = none ∧ d = ' ') := by simpa [Mark.isGap] using hgap
          have hbreaks := Mark.breaks_eq hgap rest
          rw [inked_cons_of_not_gap rfl, List.head?_cons]
          cases hbreak : mark.breaks d rest with
          | true =>
              have hdiffer : (mark.next d rest).isApart ≠ mark.isApart := by
                rw [hbreak, hfresh] at hbreaks
                simpa using hbreaks.symm
              simp [EndsPiece, Mark.quote?_of_breaks hbreak, hdiffer]
          | false =>
              have hsame : (mark.next d rest).isApart = mark.isApart := by
                rw [hbreak, hfresh] at hbreaks
                simpa using hbreaks.symm
              simp [EndsPiece, hspace, hsame]

/-- **The tokens of the rest of a line are its cells in groups of those that join.** -/
theorem splitFrom_normalizeFrom (mark : Mark) (i : Nat) (rest : Text) :
    splitFrom ' ' mark.quote? [] (normalizeFrom mark rest) =
      ((inked (cellsFrom mark i rest)).splitBy Cell.joins).map (·.map Cell.char) := by
  induction rest generalizing mark i with
  | nil => rfl
  | cons c rest ih =>
      rw [normalizeFrom_cons, cellsFrom]
      split
      · rfl
      rw [splitFrom_gap Mark.quote?_of_breaks]
      cases hgap : mark.isGap c with
      | true =>
          obtain ⟨hquote, rfl⟩ : mark.quote? = none ∧ c = ' ' := by simpa [Mark.isGap] using hgap
          have hnext : (mark.next ' ' rest).quote? = none := by
            rw [Mark.quote?_next, hquote]; rfl
          rw [inked_cons_of_gap rfl, ← ih, hnext, hquote]
          simp [splitFrom]
      | false =>
          have hspace : ¬ (mark.quote? = none ∧ c = ' ') := by simpa [Mark.isGap] using hgap
          have hends := endsPiece_normalizeFrom (Mark.isFresh_next hgap rest) i rest
          rw [splitFrom, if_neg hspace, ← Mark.quote?_next mark c rest, inked_cons_of_not_gap rfl]
          by_cases hpiece : EndsPiece ' ' (mark.next c rest).quote?
            (normalizeFrom (mark.next c rest) rest)
          · rw [splitFrom_of_endsPiece hpiece (by simp), ih (mark.next c rest) (i + 1),
              splitBy_cons_of_head]
            · rfl
            · intro h hh
              have := hends.mp hpiece h hh
              simpa [Cell.joins] using this
          · rw [splitFrom_of_not_endsPiece hpiece (by simp), ih (mark.next c rest) (i + 1)]
            rw [hends] at hpiece
            push Not at hpiece
            obtain ⟨h, hh, hplace, hapart⟩ := hpiece
            obtain ⟨gs, hgs⟩ := List.head?_eq_some_iff.mp hh
            rw [hgs, splitBy_cons_cons_of_rel (by simp [Cell.joins, hplace, hapart])]
            cases (h :: gs).splitBy Cell.joins <;> simp

/-- **The tokens of a line are its cells in groups of those that join.** -/
theorem tokens_eq_splitBy (text : Text) :
    tokens text = ((inked (cells text)).splitBy Cell.joins).map (·.map Cell.char) :=
  splitFrom_normalizeFrom (.plain true) 0 text

/-! ## The tokens by places of the line -/

section

variable {α : Type}

/-- The piece of a list of pieces that holds the element `n` of all of them together. -/
def pieceIndex : List (List α) → Nat → Nat
  | [], _ => 0
  | piece :: rest, n =>
    if n < piece.length then 0 else pieceIndex rest (n - piece.length) + 1

theorem pieceIndex_map {β : Type} (f : α → β) (pieces : List (List α)) (n : Nat) :
    pieceIndex (pieces.map (·.map f)) n = pieceIndex pieces n := by
  induction pieces generalizing n with
  | nil => rfl
  | cons piece rest ih => simp [pieceIndex, ih]

/-- An element more at the front moves every other element of the first piece by one place. -/
theorem pieceIndex_cons_succ (a : α) (piece : List α) (rest : List (List α)) (n : Nat) :
    pieceIndex ((a :: piece) :: rest) (n + 1) = pieceIndex (piece :: rest) n := by
  simp [pieceIndex]

/-- **Two neighbours are in one group exactly if they are related.** -/
theorem pieceIndex_splitBy {r : α → α → Bool} {l : List α} {k : Nat} {a b : α}
    (ha : l[k]? = some a) (hb : l[k + 1]? = some b) :
    pieceIndex (l.splitBy r) k = pieceIndex (l.splitBy r) (k + 1) ↔ r a b = true := by
  induction l generalizing k with
  | nil => simp at ha
  | cons x l ih =>
      cases l with
      | nil => simp at hb
      | cons y l =>
          obtain ⟨first, others, hsplit⟩ := List.exists_cons_of_ne_nil
            (List.splitBy_ne_nil.mpr (List.cons_ne_nil y l) : (y :: l).splitBy r ≠ [])
          have hfirst : first ≠ [] :=
            List.ne_nil_of_mem_splitBy (r := r) (l := y :: l) (by simp [hsplit])
          by_cases hxy : r x y = true
          · rw [splitBy_cons_cons_of_rel hxy, hsplit, List.modifyHead_cons]
            cases k with
            | zero =>
                obtain ⟨rfl, rfl⟩ : x = a ∧ y = b := by simpa using And.intro ha hb
                have hlength : 0 < first.length := List.length_pos_iff.mpr hfirst
                simp [pieceIndex, hlength, hxy]
            | succ k =>
                rw [pieceIndex_cons_succ, pieceIndex_cons_succ, ← hsplit]
                exact ih (by simpa using ha) (by simpa using hb)
          · have hhead : ∀ z ∈ (y :: l).head?, r x z = false := by simpa using hxy
            rw [splitBy_cons_of_head hhead]
            cases k with
            | zero =>
                obtain ⟨rfl, rfl⟩ : x = a ∧ y = b := by simpa using And.intro ha hb
                simp [pieceIndex, hxy]
            | succ k =>
                have hindex : ∀ n, pieceIndex ([x] :: (y :: l).splitBy r) (n + 1) =
                    pieceIndex ((y :: l).splitBy r) n + 1 := fun n => by simp [pieceIndex]
                rw [hindex, hindex, Nat.add_right_cancel_iff]
                exact ih (by simpa using ha) (by simpa using hb)

end

/-- **The tokens of a line are a partition of it.** No token is empty. Together they are the characters
that stand before the comment and are no unquoted spaces. Two neighbours among these lie in different
tokens exactly if an unquoted space stood between them, or if just one of them belongs to a run of
operator characters that is set apart. -/
theorem tokens_partition (text : Text) :
    [] ∉ tokens text ∧
    (tokens text).flatten = (visible text).filterMap (text[·]?) ∧
    ∀ k i j, (visible text)[k]? = some i → (visible text)[k + 1]? = some j →
      (pieceIndex (tokens text) k ≠ pieceIndex (tokens text) (k + 1) ↔
        (∃ m, i < m ∧ m < j ∧ IsGapAt text m) ∨ ¬ (IsApartAt text i ↔ IsApartAt text j)) := by
  rw [tokens_eq_splitBy]
  refine ⟨?_, ?_, ?_⟩
  · intro hmem
    obtain ⟨group, hgroup, hnil⟩ := List.mem_map.mp hmem
    exact List.ne_nil_of_mem_splitBy hgroup (List.map_eq_nil_iff.mp hnil)
  · rw [← List.map_flatten, List.flatten_splitBy, map_char_inked]
  · intro k i j hi hj
    have hlt : i < j := by
      obtain ⟨hk, rfl⟩ := List.getElem?_eq_some_iff.mp hi
      obtain ⟨hk', rfl⟩ := List.getElem?_eq_some_iff.mp hj
      exact visible_lt_of_lt hk hk' (Nat.lt_succ_self k)
    have hbetween : ∀ m, i < m → m < j → IsGapAt text m := fun m => isGapAt_of_between hi hj
    rw [← map_place_inked, List.getElem?_map, Option.map_eq_some_iff] at hi hj
    obtain ⟨g, hg, rfl⟩ := hi
    obtain ⟨h, hh, rfl⟩ := hj
    have hgapart := (describes_of_mem_inked (List.mem_of_getElem? hg)).apart_iff
    have hhapart := (describes_of_mem_inked (List.mem_of_getElem? hh)).apart_iff
    rw [pieceIndex_map, pieceIndex_map, ne_eq, pieceIndex_splitBy hg hh, ← hgapart, ← hhapart]
    by_cases hnext : h.place = g.place + 1
    · have hnone : ¬ ∃ m, g.place < m ∧ m < h.place ∧ IsGapAt text m := by
        rintro ⟨m, hgm, hmh, -⟩
        omega
      have hjoins : g.joins h = (h.isApart == g.isApart) := by simp [Cell.joins, hnext]
      rw [hjoins]
      cases g.isApart <;> cases h.isApart <;> simp [hnone]
    · have hgap : IsGapAt text (g.place + 1) := hbetween _ (by omega) (by omega)
      have hjoins : g.joins h = false := by simp [Cell.joins, hnext]
      simp only [hjoins, Bool.false_eq_true, not_false_eq_true, true_iff]
      exact .inl ⟨g.place + 1, by omega, by omega, hgap⟩

/-- In `a|b&&'c;' #d` the places of `b` and of the first `&` are neighbours in different tokens, since
only the second is in a run that is set apart. -/
theorem tokens_partition_of_run :
    let text := "a|b&&'c;' #d".toList
    (visible text)[2]? = some 2 ∧ (visible text)[3]? = some 3 ∧
      tokens text = ["a|b".toList, "&&".toList, "'c;'".toList] ∧
      ((∃ m, 2 < m ∧ m < 3 ∧ IsGapAt text m) ∨ ¬ (IsApartAt text 2 ↔ IsApartAt text 3)) := by
  intro text
  have hb : (visible text)[2]? = some 2 := by decide
  have hrun : (visible text)[3]? = some 3 := by decide
  have hpieces : pieceIndex (tokens text) 2 ≠ pieceIndex (tokens text) 3 := by decide
  obtain ⟨-, -, hcut⟩ := tokens_partition text
  exact ⟨hb, hrun, by decide, (hcut 2 2 3 hb hrun).mp hpieces⟩

end CommandShell
