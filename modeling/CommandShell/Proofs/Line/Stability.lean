import CommandShell.Proofs.Line.Joining
import CommandShell.Text.Pieces

/-!
# Lines that are normalized again

Normalization puts spaces where a run of operator characters begins or ends, and writes nothing else of
its own. A second scan comes to the same runs and quotes, judges each run as the first one did, and finds a
space already wherever it would put one. So it changes nothing, unless the space behind a run stands before
a `#` now: this was part of the line, and is a comment to the second scan.

A normal text may lose spaces too: its pieces with single spaces between them are cut into just these
pieces again.

## Main definitions
* `MeetsSharpAt`: a run that is set apart ends before a `#`.
* `IsCutInto`: a text told by the pieces into which it is cut.

## Main results
* `normalizeFrom_normalizeFrom_cons`: one step of a second scan.
* `normalizeFrom_normalizeFrom_or`: what a second scan comes to.
* `isCutInto_splitAt`: how a text is made of its pieces.
* `tokens_joinPieces_of_isCutInto`: the pieces of a normal text are tokens.
* `normalize_normalize_iff`: the lines that are stable.
-/

namespace CommandShell

/-- A run of operator characters that is set apart ends at the place, before any comment, and a `#`
follows it directly. -/
def MeetsSharpAt (text : Text) (i : Nat) : Prop :=
  i < (kept text).length ∧ IsApartAt text i ∧ text[i + 1]? = some '#'

/-! ## A second scan -/

/-- What a run is judged by is still there in what the scan has written. -/
theorem isApart_normalizeFrom (c : Char) (apart : Bool) (rest : Text) :
    isApart c (normalizeFrom (.operators apart) rest) = isApart c rest := by
  cases rest with
  | nil => rfl
  | cons d rest =>
      by_cases hd : isOperatorChar d = true
      · rw [normalizeFrom, if_pos hd]
        rfl
      · have hspace : isOperatorChar ' ' = false := rfl
        rw [normalizeFrom, if_neg hd]
        cases apart && d != ' ' <;> simp [isApart, hd, hspace]

namespace Mark

variable {mark : Mark} {c : Char} {rest : Text}

theorem next_normalizeFrom (mark : Mark) (c : Char) (rest : Text) :
    mark.next c (normalizeFrom (mark.next c rest) rest) = mark.next c rest := by
  cases mark with
  | quoted q => rfl
  | plain fresh =>
      by_cases hc : isOperatorChar c = true
      · simp only [next, if_pos hc, isApart_normalizeFrom]
      · simp only [next, if_neg hc]
  | operators apart => rfl

theorem breaks_normalizeFrom (mark : Mark) (c : Char) (rest : Text) :
    mark.breaks c (normalizeFrom (mark.next c rest) rest) = mark.breaks c rest := by
  cases mark with
  | quoted q => rfl
  | plain fresh =>
      by_cases hc : isOperatorChar c = true
      · simp only [breaks, next, if_pos hc, isApart_normalizeFrom]
      · simp only [breaks, hc, Bool.false_and]
  | operators apart => rfl

/-- Behind a space that has been put there the scan goes on as it does without it. -/
theorem next_plain_of_breaks (h : mark.breaks c rest = true) (fresh : Bool) :
    (plain fresh).next c rest = mark.next c rest := by
  cases mark with
  | quoted q => simp [breaks] at h
  | plain other => rfl
  | operators apart =>
      have hc : ¬ isOperatorChar c = true := by
        simp only [breaks, Bool.and_eq_true, Bool.not_eq_true'] at h
        simp [h.1.1]
      simp only [next, if_neg hc]

/-- No space is put behind another one. -/
@[simp] theorem breaks_plain_true (c : Char) (rest : Text) : (plain true).breaks c rest = false := by
  simp [breaks]

/-- A space is put before a `#` just behind a run that is set apart. -/
theorem breaks_sharp (mark : Mark) (rest : Text) : mark.breaks '#' rest = mark.isApart := by
  cases mark <;> simp [breaks, isApart, isOperatorChar]

theorem inRun_of_isApart (h : mark.isApart = true) : mark.inRun = true := by
  cases mark <;> simp_all [isApart, inRun]

end Mark

/-- **A second scan goes the way of the first one**, unless a run that is set apart meets a `#`. -/
theorem normalizeFrom_normalizeFrom_cons {mark : Mark} {c : Char} (rest : Text)
    (hcomment : ¬ mark.isComment c) (hsharp : ¬ (mark.isApart = true ∧ c = '#')) :
    normalizeFrom mark (normalizeFrom mark (c :: rest)) =
      gap (mark.breaks c rest) ++
        c :: normalizeFrom (mark.next c rest) (normalizeFrom (mark.next c rest) rest) := by
  have hnext := mark.next_normalizeFrom c rest
  have hbreaks := mark.breaks_normalizeFrom c rest
  rw [normalizeFrom_cons mark c rest, if_neg hcomment]
  cases hbreak : mark.breaks c rest with
  | false =>
      rw [gap_false, List.nil_append, normalizeFrom_cons, if_neg hcomment, hnext, hbreaks, hbreak,
        gap_false]
  | true =>
      have hplain : ¬ (Mark.plain true).isComment c := by
        intro h
        obtain rfl : c = '#' := by simpa [Mark.isComment, Mark.isFresh] using h
        exact hsharp ⟨mark.breaks_sharp rest ▸ hbreak, rfl⟩
      rw [gap_true, List.singleton_append, normalizeFrom_space_cons (Mark.quote?_of_breaks hbreak),
        normalize, normalizeFrom_cons, if_neg hplain, Mark.breaks_plain_true,
        Mark.next_plain_of_breaks (hbreaks.trans hbreak), hnext]
      rfl

/-! ## A comment that begins in the second scan -/

section

variable {text rest : Text} {i : Nat} {mark : Mark} {c : Char}

/-- Behind a run that is set apart a `#` is met. -/
theorem Stands.meetsSharpAt (h : Stands text i mark) (hdrop : text.drop i = '#' :: rest)
    (hbefore : ∀ j < i, ¬ StartsComment text j) (hapart : mark.isApart = true) :
    ∃ j, MeetsSharpAt text j := by
  obtain ⟨j, rfl, -⟩ := h.run_iff.mp (Mark.inRun_of_isApart hapart)
  have hsharp := getElem?_of_drop hdrop
  have hlt := (List.getElem?_eq_some_iff.mp hsharp).1
  have hkept : j < (kept text).length :=
    lt_length_kept (Nat.lt_of_succ_lt hlt) fun k hk => hbefore k (Nat.lt_succ_of_le hk)
  exact ⟨j, hkept, (h.apart_iff j rfl).mp hapart, hsharp⟩

/-- If no run that is set apart has a `#` behind it here, only a later one can meet a `#`. -/
theorem Stands.lt_of_meetsSharpAt (h : Stands text i mark) (hdrop : text.drop i = c :: rest)
    (hsharp : ¬ (mark.isApart = true ∧ c = '#')) {j : Nat} (hj : i ≤ j + 1)
    (hmeets : MeetsSharpAt text j) : i < j + 1 := by
  refine Nat.lt_of_le_of_ne hj fun heq => hsharp ?_
  subst heq
  obtain ⟨-, hapart, hnext⟩ := hmeets
  exact ⟨(h.apart_iff j rfl).mpr hapart, Option.some.inj ((getElem?_of_drop hdrop).symm.trans hnext)⟩

/-- Where a comment starts, no run meets a `#` any more. -/
theorem not_meetsSharpAt_of_startsComment (hcomment : StartsComment text i)
    (hbefore : ∀ j < i, ¬ StartsComment text j) {j : Nat} (hj : i ≤ j + 1) : ¬ MeetsSharpAt text j := by
  rintro ⟨hkept, hapart, -⟩
  rw [length_kept hbefore (.inr hcomment)] at hkept
  obtain rfl : i = j + 1 := by omega
  exact not_startsComment_succ_of_isApartAt hapart hcomment

/-- **From any place on a second scan writes what the first one has written**, or there is a run that
meets a `#`, and a space outside quotes before it now. -/
theorem normalizeFrom_normalizeFrom_or (h : Stands text i mark) (hdrop : text.drop i = rest)
    (hbefore : ∀ j < i, ¬ StartsComment text j) :
    (normalizeFrom mark (normalizeFrom mark rest) = normalizeFrom mark rest ∧
      ∀ j, i ≤ j + 1 → ¬ MeetsSharpAt text j) ∨
    ((∃ j, MeetsSharpAt text j) ∧
      ∃ xs ys, normalizeFrom mark rest = xs ++ ' ' :: '#' :: ys ∧
        xs.foldl quoteAfter mark.quote? = none) := by
  induction rest generalizing i mark with
  | nil =>
      refine .inl ⟨by simp [normalizeFrom], fun j hj hmeets => ?_⟩
      have hlength := List.drop_eq_nil_iff.mp hdrop
      have hlt := (List.getElem?_eq_some_iff.mp hmeets.2.2).1
      omega
  | cons c rest ih =>
      by_cases hcomment : mark.isComment c = true
      · have hstarts : StartsComment text i := (h.isComment_iff hdrop).mp hcomment
        exact .inl ⟨by simp [normalizeFrom_cons, hcomment, normalizeFrom],
          fun _ => not_meetsSharpAt_of_startsComment hstarts hbefore⟩
      · by_cases hsharp : mark.isApart = true ∧ c = '#'
        · obtain ⟨hapart, rfl⟩ := hsharp
          refine .inr ⟨h.meetsSharpAt hdrop hbefore hapart, [],
            normalizeFrom (mark.next '#' rest) rest, ?_, ?_⟩
          · rw [normalizeFrom_cons, if_neg hcomment, Mark.breaks_sharp, hapart]
            rfl
          · exact Mark.quote?_of_breaks ((mark.breaks_sharp rest).trans hapart)
        · have hbefore' : ∀ j < i + 1, ¬ StartsComment text j := by
            intro j hj
            rcases Nat.lt_succ_iff_lt_or_eq.mp hj with hj | rfl
            · exact hbefore j hj
            · rwa [← h.isComment_iff hdrop]
          rcases ih (h.next hdrop) (drop_succ_of_drop hdrop) hbefore' with
            ⟨hstable, hnone⟩ | ⟨hmeets, xs, ys, hrest, hquote⟩
          · refine .inl ⟨?_, fun j hj hmeets => ?_⟩
            · rw [normalizeFrom_normalizeFrom_cons rest hcomment hsharp, hstable, normalizeFrom_cons,
                if_neg hcomment]
            · exact hnone j (h.lt_of_meetsSharpAt hdrop hsharp hj hmeets) hmeets
          · refine .inr ⟨hmeets, gap (mark.breaks c rest) ++ c :: xs, ys, ?_, ?_⟩
            · rw [normalizeFrom_cons, if_neg hcomment, hrest]
              simp
            · rw [List.foldl_append, foldl_quoteAfter_gap, List.foldl_cons,
                ← Mark.quote?_next mark c rest, hquote]

end

/-! ## Normal texts -/

section

variable {mark : Mark} {text : Text}

/-- What stands at a place of a normal text is no comment, and gets no space. -/
theorem normalizeFrom_cons_eq_self {c : Char} {rest : Text}
    (h : normalizeFrom mark (c :: rest) = c :: rest) :
    ¬ mark.isComment c ∧ mark.breaks c rest = false ∧
      normalizeFrom (mark.next c rest) rest = rest := by
  rw [normalizeFrom_cons] at h
  split at h
  · exact absurd h (List.cons_ne_nil c rest).symm
  · rename_i hcomment
    cases hbreaks : mark.breaks c rest with
    | false =>
        rw [hbreaks, gap_false, List.nil_append] at h
        exact ⟨hcomment, rfl, (List.cons.inj h).2⟩
    | true =>
        rw [hbreaks, gap_true, List.singleton_append] at h
        obtain rfl : ' ' = c := (List.cons.inj h).1
        have hgap : mark.isGap ' ' = true := by simp [Mark.isGap, Mark.quote?_of_breaks hbreaks]
        rw [Mark.breaks_of_isGap hgap] at hbreaks
        exact absurd hbreaks Bool.false_ne_true

/-- No comment starts in a normal text. -/
theorem not_startsComment_of_normalize_eq (h : normalize text = text) (i : Nat) :
    ¬ StartsComment text i := by
  have hfrom : ∀ {rest : Text} {j : Nat} {mark : Mark}, Stands text j mark → text.drop j = rest →
      normalizeFrom mark rest = rest → j ≤ i → ¬ StartsComment text i := by
    intro rest
    induction rest with
    | nil =>
        intro j mark hstands hdrop hnormal hj hcomment
        have hlength := List.drop_eq_nil_iff.mp hdrop
        have hlt := (List.getElem?_eq_some_iff.mp hcomment.1).1
        omega
    | cons c rest ih =>
        intro j mark hstands hdrop hnormal hj
        obtain ⟨hcomment, -, hrest⟩ := normalizeFrom_cons_eq_self hnormal
        rcases Nat.eq_or_lt_of_le hj with rfl | hj
        · rwa [hstands.isComment_iff hdrop] at hcomment
        · exact ih (hstands.next hdrop) (drop_succ_of_drop hdrop) hrest hj
  exact hfrom (stands_zero text) rfl h (Nat.zero_le i)

/-- What stands before a space in a normal text is normal. -/
theorem normalizeFrom_eq_self_of_append_space {xs ys : Text}
    (h : normalizeFrom mark (xs ++ ' ' :: ys) = xs ++ ' ' :: ys) : normalizeFrom mark xs = xs := by
  induction xs generalizing mark with
  | nil => rfl
  | cons c xs ih =>
      rw [List.cons_append] at h
      obtain ⟨hcomment, hbreaks, hrest⟩ := normalizeFrom_cons_eq_self h
      rw [next_append_space] at hrest
      rw [breaks_append_space] at hbreaks
      rw [normalizeFrom_cons, if_neg hcomment, hbreaks, gap_false, List.nil_append, ih hrest]

/-- A text with a `#` behind an unquoted space is not normal. -/
theorem normalize_ne_of_sharp {xs ys : Text} (h : endQuote xs = none) :
    normalize (xs ++ ' ' :: '#' :: ys) ≠ xs ++ ' ' :: '#' :: ys := by
  intro hnormal
  refine not_startsComment_of_normalize_eq hnormal (xs.length + 1) ⟨by simp, ?_, .inr (by simp)⟩
  have htake : (xs ++ ' ' :: '#' :: ys).take (xs.length + 1) = xs ++ [' '] :=
    List.take_length_add_append 1
  rw [IsUnquotedAt, htake, endQuote_append, h]
  rfl

end

/-! ## Pieces -/

/-- The text is its pieces with spaces around them. A piece is not cut itself, and each but the last
ends outside quotes. -/
inductive IsCutInto : Text → List Text → Prop
  | nil : IsCutInto [] []
  | space {text : Text} {pieces : List Text} (later : IsCutInto text pieces) :
      IsCutInto (' ' :: text) pieces
  | last {piece : Text} (hpiece : splitAt ' ' piece = [piece]) : IsCutInto piece [piece]
  | piece {piece text : Text} {pieces : List Text} (hpiece : splitAt ' ' piece = [piece])
      (hquote : endQuote piece = none) (later : IsCutInto text pieces) :
      IsCutInto (piece ++ ' ' :: text) (piece :: pieces)

/-- The induction is on what is to be read. The piece that is read already is not cut. -/
private theorem isCutInto_splitFrom (piece text : Text) (h : ∀ rest, splitAt ' ' (piece.reverse ++ rest) =
      splitFrom ' ' (endQuote piece.reverse) piece rest) :
    IsCutInto (piece.reverse ++ text) (splitFrom ' ' (endQuote piece.reverse) piece text) := by
  have hpiece : piece ≠ [] → splitAt ' ' piece.reverse = [piece.reverse] := by
    intro hne
    simpa [splitFrom, hne] using h []
  induction text generalizing piece with
  | nil =>
      by_cases hne : piece = []
      · simpa [hne, splitFrom] using IsCutInto.nil
      · simpa [hne, splitFrom] using IsCutInto.last (hpiece hne)
  | cons c text ih =>
      rw [splitFrom]
      split
      · rename_i hgap
        obtain ⟨hquote, rfl⟩ := hgap
        have hrest : IsCutInto text (splitFrom ' ' none [] text) :=
          ih [] (fun _ => rfl) (by simp)
        by_cases hne : piece = []
        · simpa [hne] using hrest.space
        · simpa [hne] using IsCutInto.piece (hpiece hne) hquote hrest
      · rename_i hgap
        have hread : ∀ rest, splitAt ' ' ((c :: piece).reverse ++ rest) =
            splitFrom ' ' (endQuote (c :: piece).reverse) (c :: piece) rest := by
          intro rest
          rw [List.reverse_cons, List.append_assoc, List.singleton_append, h, splitFrom, if_neg hgap,
            endQuote_append]
        have hcut := ih (c :: piece) hread fun _ => by simpa [splitFrom] using hread []
        rwa [List.reverse_cons, List.append_assoc, List.singleton_append, endQuote_append] at hcut

/-- **A text is the pieces into which it is cut**, with spaces around them. -/
theorem isCutInto_splitAt (text : Text) : IsCutInto text (splitAt ' ' text) :=
  isCutInto_splitFrom [] text fun _ => rfl

/-- A piece of a normal text is its only token. -/
theorem tokens_of_isPiece {piece : Text} (hnormal : normalize piece = piece)
    (hpiece : splitAt ' ' piece = [piece]) : tokens piece = [piece] := by
  rw [tokens, hnormal, hpiece]

/-- **The pieces of a normal text are tokens**, also with single spaces between them. -/
theorem tokens_joinPieces_of_isCutInto {text : Text} {pieces : List Text} (h : IsCutInto text pieces)
    (hnormal : normalize text = text) : tokens (joinPieces ' ' pieces) = pieces := by
  induction h with
  | nil => rfl
  | @space text pieces later ih =>
      have hspace : normalize (' ' :: text) = ' ' :: normalize text := normalizeFrom_space_cons rfl text
      exact ih (List.cons.inj (hspace.symm.trans hnormal)).2
  | last hpiece => exact tokens_of_isPiece hnormal hpiece
  | @piece piece text pieces hpiece hquote later ih =>
      have hfirst : normalize piece = piece := normalizeFrom_eq_self_of_append_space hnormal
      have hcomplete : IsComplete piece := ⟨hquote, not_startsComment_of_normalize_eq hfirst⟩
      have hrest : normalize text = text := by
        rw [normalize_append_space hcomplete, hfirst] at hnormal
        exact (List.cons.inj (List.append_cancel_left hnormal)).2
      have htoken := tokens_of_isPiece hfirst hpiece
      by_cases hne : pieces = []
      · simpa [hne, joinPieces] using htoken
      · rw [joinPieces_cons ' ' piece hne, tokens_append_space hcomplete, ih hrest, htoken,
          List.singleton_append]

/-! ## Normal lines and their tokens -/

/-- What is read already opens the first piece. -/
theorem exists_splitFrom_eq_cons (separator : Char) (quote : Option Char) {piece : Text}
    (hpiece : piece ≠ []) (text : Text) :
    ∃ first rest, splitFrom separator quote piece text = (piece.reverse ++ first) :: rest := by
  induction text generalizing quote piece with
  | nil => exact ⟨[], [], by simp [splitFrom, hpiece]⟩
  | cons c text ih =>
      rw [splitFrom]
      split
      · exact ⟨[], splitFrom separator none [] text, by simp [hpiece]⟩
      · obtain ⟨first, rest, hsplit⟩ := ih (quoteAfter quote c) (List.cons_ne_nil c piece)
        exact ⟨c :: first, rest, by simp [hsplit]⟩

theorem exists_token_of_sharp {line xs ys : Text} (h : normalize line = xs ++ ' ' :: '#' :: ys)
    (hquote : endQuote xs = none) : ∃ token ∈ tokens line, token.head? = some '#' := by
  have hsharp : splitAt ' ' ('#' :: ys) = splitFrom ' ' none ['#'] ys := rfl
  obtain ⟨first, rest, hsplit⟩ :=
    exists_splitFrom_eq_cons ' ' none (List.cons_ne_nil '#' []) ys
  refine ⟨'#' :: first, ?_, rfl⟩
  rw [tokens, h, splitAt, splitFrom_append_space hquote, hsharp, hsplit]
  simp

/-- **To normalize a line twice is to normalize it once, unless a run that is set apart meets a `#`**
before any comment: the space behind the run then makes a comment of it. The tokens of a line, none of
which opens with a `#`, are the tokens of the line that they make up with single spaces between them. -/
theorem normalize_normalize_iff (line : Text) :
    (normalize (normalize line) = normalize line ↔ ¬ ∃ i, MeetsSharpAt line i) ∧
    ((∀ token ∈ tokens line, token.head? ≠ some '#') →
      tokens (joinPieces ' ' (tokens line)) = tokens line) := by
  rcases normalizeFrom_normalizeFrom_or (stands_zero line) rfl (by simp) with
    ⟨hstable, hnone⟩ | ⟨hmeets, xs, ys, hnormal, hquote⟩
  · refine ⟨iff_of_true hstable ?_, fun _ => ?_⟩
    · rintro ⟨i, hi⟩
      exact hnone i (Nat.zero_le _) hi
    · exact tokens_joinPieces_of_isCutInto (isCutInto_splitAt (normalize line)) hstable
  · have hnormal' : normalize line = xs ++ ' ' :: '#' :: ys := hnormal
    refine ⟨iff_of_false ?_ (not_not_intro hmeets), fun hheads => ?_⟩
    · rw [hnormal']
      exact normalize_ne_of_sharp hquote
    · obtain ⟨token, htoken, hhead⟩ := exists_token_of_sharp hnormal' hquote
      exact absurd hhead (hheads token htoken)

/-- In `a&&#b` the run meets a `#`, and what stands behind the run is lost when the line is normalized
again. A quoted `#` behind a run is not lost, and opens no token. -/
theorem normalize_normalize_iff_of_sharp :
    let line := "a&&#b".toList
    let other := " a|b&&'#  c'  #d".toList
    (∃ i, MeetsSharpAt line i) ∧ normalize line = "a && #b".toList ∧
      normalize (normalize line) = "a && ".toList ∧
      (∀ token ∈ tokens other, token.head? ≠ some '#') ∧
      joinPieces ' ' (tokens other) = "a|b && '#  c'".toList ∧
      tokens (joinPieces ' ' (tokens other)) = tokens other := by
  intro line other
  obtain ⟨hline, -⟩ := normalize_normalize_iff line
  obtain ⟨-, hother⟩ := normalize_normalize_iff other
  have hchanged : normalize (normalize line) ≠ normalize line := by decide
  have hheads : ∀ token ∈ tokens other, token.head? ≠ some '#' := by decide
  exact ⟨not_not.mp fun hnone => hchanged (hline.mpr hnone), by decide, by decide, hheads, by decide,
    hother hheads⟩

end CommandShell
