import CommandShell.Line.Token
import Mathlib.Data.List.Induction
import Mathlib.Tactic.ByContra

/-!
# Places in a line

What stands at a place of a line, said by the places around it and by no scan: whether a quote is open
there, whether a comment starts there, and whether an operator character there belongs to a run that
is set apart. A run is maximal, and is set apart if it has two characters or more, or holds a `;`.

## Main definitions
* `IsUnquotedAt`, `StartsComment`, `kept`: quotes, and the line without its comment.
* `IsGapAt`, `visible`: the unquoted spaces, and the places that are none.
* `IsOperatorAt`, `IsRun`, `IsApartAt`: runs of operator characters.

## Main results
* `isApartAt_iff_isApart`: at the first place of a run, to be set apart shows in the next character.
* `isApartAt_succ_iff`: all places of a run are set apart alike.
-/

namespace CommandShell

/-- No quote is open before the place. -/
def IsUnquotedAt (text : Text) (i : Nat) : Prop :=
  endQuote (text.take i) = none

/-- A comment starts at an unquoted `#` that is the first character or follows a space. -/
def StartsComment (text : Text) (i : Nat) : Prop :=
  text[i]? = some '#' ∧ IsUnquotedAt text i ∧ (i = 0 ∨ text[i - 1]? = some ' ')

/-- An unquoted space stands at the place. -/
def IsGapAt (text : Text) (i : Nat) : Prop :=
  text[i]? = some ' ' ∧ IsUnquotedAt text i

instance (text : Text) (i : Nat) : Decidable (IsUnquotedAt text i) :=
  inferInstanceAs (Decidable (_ = _))

instance (text : Text) (i : Nat) : Decidable (StartsComment text i) :=
  inferInstanceAs (Decidable (_ ∧ _))

instance (text : Text) (i : Nat) : Decidable (IsGapAt text i) :=
  inferInstanceAs (Decidable (_ ∧ _))

/-- The line up to its first comment. -/
def kept (text : Text) : Text :=
  text.take ((List.range text.length).findIdx fun i => StartsComment text i)

/-- The places of a line before its comment where no unquoted space stands. -/
def visible (text : Text) : List Nat :=
  (List.range (kept text).length).filter fun i => ¬ IsGapAt text i

/-- An unquoted operator character stands at the place. -/
def IsOperatorAt (text : Text) (i : Nat) : Prop :=
  (∃ c, text[i]? = some c ∧ isOperatorChar c) ∧ IsUnquotedAt text i

/-- The places from `first` on and before `stop` are a maximal run of operator characters. -/
structure IsRun (text : Text) (first stop : Nat) : Prop where
  isOperatorAt : ∀ i, first ≤ i → i < stop → IsOperatorAt text i
  before : first = 0 ∨ ¬ IsOperatorAt text (first - 1)
  behind : ¬ IsOperatorAt text stop

/-- The place belongs to a run of operator characters that is set apart. -/
def IsApartAt (text : Text) (i : Nat) : Prop :=
  ∃ first stop, IsRun text first stop ∧ first ≤ i ∧ i < stop ∧
    (first + 2 ≤ stop ∨ ∃ j, first ≤ j ∧ j < stop ∧ text[j]? = some ';')

/-! ## One place further -/

theorem endQuote_append (xs : Text) (c : Char) :
    endQuote (xs ++ [c]) = quoteAfter (endQuote xs) c := by
  simp [endQuote]

section

variable {text rest : Text} {i : Nat} {c : Char}

/-- What follows at a place begins with the character at that place. -/
theorem getElem?_of_drop (h : text.drop i = c :: rest) : text[i]? = some c := by
  simpa using congrArg List.head? h

theorem drop_succ_of_drop (h : text.drop i = c :: rest) : text.drop (i + 1) = rest := by
  simpa using congrArg List.tail h

theorem getElem?_succ_of_drop (h : text.drop i = c :: rest) : text[i + 1]? = rest.head? := by
  rw [← drop_succ_of_drop h, List.head?_drop]

theorem endQuote_take_succ (h : text[i]? = some c) :
    endQuote (text.take (i + 1)) = quoteAfter (endQuote (text.take i)) c := by
  rw [List.take_add_one, h, Option.toList_some, endQuote_append]

end

/-- Only a quote character opens a quote. -/
theorem isQuote_of_endQuote {text : Text} {q : Char} (h : endQuote text = some q) : isQuote q := by
  induction text using List.reverseRecOn with
  | nil => simp [endQuote] at h
  | append_singleton text c ih =>
      rw [endQuote_append] at h
      cases hquote : endQuote text with
      | none =>
          rw [hquote] at h
          by_cases hc : isQuote c
          · obtain rfl : c = q := by simpa [quoteAfter, hc] using h
            exact hc
          · simp [quoteAfter, hc] at h
      | some opener =>
          rw [hquote] at h
          by_cases hc : c = opener
          · simp [quoteAfter, hc] at h
          · obtain rfl : opener = q := by simpa [quoteAfter, hc] using h
            exact ih hquote

/-! ## Runs -/

theorem isQuote_of_isOperatorChar {c : Char} (h : isOperatorChar c) : isQuote c = false := by
  simp only [isOperatorChar, Bool.or_eq_true, beq_iff_eq] at h
  rcases h with (rfl | rfl) | rfl <;> rfl

theorem IsOperatorAt.lt_length {text : Text} {i : Nat} (h : IsOperatorAt text i) :
    i < text.length := by
  obtain ⟨⟨c, hc, -⟩, -⟩ := h
  exact (List.getElem?_eq_some_iff.mp hc).1

/-- Behind an operator character no quote is open. -/
theorem IsOperatorAt.isUnquotedAt_succ {text : Text} {i : Nat} (h : IsOperatorAt text i) :
    IsUnquotedAt text (i + 1) := by
  obtain ⟨⟨c, hc, hoperator⟩, hquote⟩ := h
  rw [IsUnquotedAt, endQuote_take_succ hc, hquote]
  exact quoteAfter_none (isQuote_of_isOperatorChar hoperator)

/-- An operator character behind another one is in the same run. -/
theorem IsOperatorAt.succ {text : Text} {i : Nat} (h : IsOperatorAt text i) {c : Char}
    (hc : text[i + 1]? = some c) (hoperator : isOperatorChar c) : IsOperatorAt text (i + 1) :=
  ⟨⟨c, hc, hoperator⟩, h.isUnquotedAt_succ⟩

theorem IsApartAt.isOperatorAt {text : Text} {i : Nat} (h : IsApartAt text i) :
    IsOperatorAt text i := by
  obtain ⟨first, stop, hrun, hfirst, hstop, -⟩ := h
  exact hrun.isOperatorAt i hfirst hstop

/-- Directly behind a run no comment starts. -/
theorem not_startsComment_succ_of_isApartAt {text : Text} {i : Nat} (h : IsApartAt text i) :
    ¬ StartsComment text (i + 1) := by
  rintro ⟨-, -, hzero | hspace⟩
  · exact absurd hzero (Nat.succ_ne_zero i)
  · obtain ⟨⟨c, hc, hoperator⟩, -⟩ := h.isOperatorAt
    rw [Nat.add_sub_cancel, hc] at hspace
    obtain rfl := Option.some.inj hspace
    simp [isOperatorChar] at hoperator

/-- From an operator character on there is a place where the run is over. -/
theorem exists_run_stop {text : Text} {i : Nat} (h : IsOperatorAt text i) :
    ∃ stop, i < stop ∧ (∀ j, i ≤ j → j < stop → IsOperatorAt text j) ∧
      ¬ IsOperatorAt text stop := by
  generalize hn : text.length - i = n
  induction n generalizing i with
  | zero => have := h.lt_length; omega
  | succ n ih =>
      by_cases hnext : IsOperatorAt text (i + 1)
      · obtain ⟨stop, hlt, hall, hstop⟩ := ih hnext (by omega)
        refine ⟨stop, by omega, ?_, hstop⟩
        intro j hij hj
        rcases Nat.eq_or_lt_of_le hij with rfl | hlt'
        · exact h
        · exact hall j (by omega) hj
      · refine ⟨i + 1, by omega, ?_, hnext⟩
        intro j hij hj
        obtain rfl : j = i := by omega
        exact h

/-- **At the first place of a run**, to be set apart shows in the next character. -/
theorem isApartAt_iff_isApart {text rest : Text} {i : Nat} {c : Char}
    (hdrop : text.drop i = c :: rest) (h : IsOperatorAt text i)
    (hfirst : i = 0 ∨ ¬ IsOperatorAt text (i - 1)) : IsApartAt text i ↔ isApart c rest := by
  have hc := getElem?_of_drop hdrop
  have hnext := getElem?_succ_of_drop hdrop
  constructor
  · rintro ⟨first, stop, hrun, hle, hlt, hapart⟩
    obtain rfl : first = i := by
      -- A run that began earlier would hold the place before.
      by_contra hne
      rcases hfirst with rfl | hbefore
      · omega
      · exact hbefore (hrun.isOperatorAt (i - 1) (by omega) (by omega))
    have hsecond : first + 1 < stop → rest.head?.any isOperatorChar := by
      intro hlt'
      obtain ⟨⟨d, hd, hoperator⟩, -⟩ := hrun.isOperatorAt (first + 1) (by omega) hlt'
      rw [hnext] at hd
      simp [hd, hoperator]
    rcases hapart with hlong | ⟨j, hj, hjstop, hsemicolon⟩
    · simp [isApart, hsecond (by omega)]
    · rcases Nat.eq_or_lt_of_le hj with rfl | hlt'
      · obtain rfl : c = ';' := by rw [hc] at hsemicolon; simpa using hsemicolon
        simp [isApart]
      · simp [isApart, hsecond (by omega)]
  · intro hapart
    obtain ⟨stop, hlt, hall, hstop⟩ := exists_run_stop h
    refine ⟨i, stop, ⟨hall, hfirst, hstop⟩, Nat.le_refl i, hlt, ?_⟩
    simp only [isApart, Bool.or_eq_true, beq_iff_eq] at hapart
    rcases hapart with rfl | hhead
    · exact .inr ⟨i, Nat.le_refl i, hlt, hc⟩
    · obtain ⟨d, hd, hoperator⟩ := Option.any_eq_true _ _ |>.mp hhead
      have hsecond : IsOperatorAt text (i + 1) := h.succ (hnext.trans hd) hoperator
      have hne : stop ≠ i + 1 := fun heq => hstop (heq ▸ hsecond)
      exact .inl (by omega)

/-- **All places of a run are set apart alike.** -/
theorem isApartAt_succ_iff {text : Text} {i : Nat} (h : IsOperatorAt text i)
    (hnext : IsOperatorAt text (i + 1)) : IsApartAt text (i + 1) ↔ IsApartAt text i := by
  constructor
  · rintro ⟨first, stop, hrun, hle, hlt, hapart⟩
    have hfirst : first ≤ i := by
      by_contra hgt
      obtain rfl : first = i + 1 := by omega
      rcases hrun.before with hzero | hbefore
      · omega
      · exact hbefore h
    exact ⟨first, stop, hrun, hfirst, by omega, hapart⟩
  · rintro ⟨first, stop, hrun, hle, hlt, hapart⟩
    have hstop : i + 1 < stop := by
      by_contra hge
      obtain rfl : stop = i + 1 := by omega
      exact hrun.behind hnext
    exact ⟨first, stop, hrun, by omega, hstop, hapart⟩

end CommandShell
