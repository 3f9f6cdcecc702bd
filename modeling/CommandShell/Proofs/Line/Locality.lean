import CommandShell.Proofs.Line.Rewriting

/-!
# Expansion at a space

A space ends every name, and a `$` before a space refers to nothing. So no reference reaches over a
space, also where a value brought in its `$` or its name. What stands before a space is expanded as if
the line ended there, and what stands behind it as a line of its own. The two halves share one limit,
which is spent from left to right: if it lasts, a line is expanded piece by piece.

## Main definitions
* `EndsInLimit`: the rewriting of a text comes to its end within the limit.

## Main results
* `RewritesIn.eq_of_isReduced`: a rewriting that has come to its end goes no further.
* `expandWith_of_rewritesIn`: expansion comes to the end of a rewriting, if the budget lasts.
* `exists_expandWith_append_space`: the expansion of two texts with a space between them.
* `expand_append_space`: lines are expanded piece by piece.
-/

namespace CommandShell

/-! ## References at a space -/

/-- A name ends before a space. -/
private theorem span_name_append_space (xs ys : Text) :
    (xs ++ ' ' :: ys).takeWhile Reference.isNameChar = xs.takeWhile Reference.isNameChar ∧
      (xs ++ ' ' :: ys).dropWhile Reference.isNameChar =
        xs.dropWhile Reference.isNameChar ++ ' ' :: ys := by
  induction xs with
  | nil => exact ⟨rfl, rfl⟩
  | cons c rest ih =>
      by_cases hc : Reference.isNameChar c = true
      · simpa [hc] using ih
      · simp [hc]

/-- A reference is read up to a space, whatever stands behind it. -/
theorem read_append_space (xs ys : Text) :
    Reference.read (xs ++ ' ' :: ys) =
      (Reference.read xs).map fun found => (found.1, found.2 ++ ' ' :: ys) := by
  cases xs with
  | nil => rfl
  | cons c rest =>
      obtain ⟨htake, hdrop⟩ := span_name_append_space (c :: rest) ys
      rw [List.cons_append] at htake hdrop ⊢
      rw [Reference.read, Reference.read, htake, hdrop]
      split
      · rfl
      split
      · rfl
      split <;> rfl

/-! ## The end of a rewriting -/

section

variable {value : Reference → Text} {text next last : Text} {n m : Nat}

/-- The rewriting of the text comes to its end before the limit stops it. -/
def EndsInLimit (value : Reference → Text) (text : Text) : Prop :=
  ∃ n ≤ substitutionLimit, ∃ last, RewritesIn value n text last ∧ IsReduced last

theorem not_rewrites_of_isReduced (h : IsReduced text) : ¬ Rewrites value text next := by
  rintro ⟨-, hopens⟩
  exact h _ (isReducibleAt_of_opens hopens _)

/-- **A rewriting that has come to its end goes no further.** -/
theorem RewritesIn.eq_of_isReduced (h : RewritesIn value n text last) (hreduced : IsReduced last)
    (h' : RewritesIn value m text next) (hle : n ≤ m) : next = last := by
  induction h generalizing m with
  | refl text =>
      cases h' with
      | refl => rfl
      | head step steps => exact absurd step (not_rewrites_of_isReduced hreduced)
  | head step steps ih =>
      cases h' with
      | refl => exact absurd hle (Nat.not_succ_le_zero _)
      | head step' steps' =>
          rw [← step.unique step'] at steps'
          exact ih hreduced steps' (Nat.le_of_succ_le_succ hle)

/-- **Expansion comes to the end of a rewriting**, if the budget lasts for it. -/
theorem expandWith_of_rewritesIn {budget : Nat} (h : RewritesIn value n text last)
    (hreduced : IsReduced last) (hn : n ≤ budget) : expandWith value budget text = last := by
  obtain ⟨m, hm, hsteps, hend⟩ := exists_rewritesIn_expandWith value budget text
  rcases Nat.le_total n m with hle | hle
  · exact h.eq_of_isReduced hreduced hsteps hle
  · rcases hend with hreduced' | rfl
    · exact (hsteps.eq_of_isReduced hreduced' h hle).symm
    · exact h.eq_of_isReduced hreduced hsteps hn

/-- The limit does not stop the expansion exactly if nothing is left to be replaced in what comes out. -/
theorem endsInLimit_iff : EndsInLimit value text ↔ IsReduced (expand value text) := by
  constructor
  · rintro ⟨n, hn, last, hsteps, hreduced⟩
    rwa [expand, expandWith_of_rewritesIn hsteps hreduced hn]
  · intro hreduced
    obtain ⟨n, hn, hsteps, -⟩ := exists_rewritesIn_expandWith value substitutionLimit text
    exact ⟨n, hn, _, hsteps, hreduced⟩

theorem IsReduced.of_append {before behind : Text} (h : IsReduced (before ++ behind)) :
    IsReduced behind := by
  induction before with
  | nil => exact h
  | cons c before ih => exact ih (isReduced_cons.mp h).2

end

/-! ## Expansion at a space -/

section

variable (value : Reference → Text)

/-- Without a budget nothing is replaced. -/
theorem expandWith_zero (text : Text) : expandWith value 0 text = text := by
  obtain ⟨n, hn, hsteps, -⟩ := exists_rewritesIn_expandWith value 0 text
  obtain rfl := Nat.le_zero.mp hn
  exact hsteps.unique (.refl text)

/-- **What stands before a space is expanded as if nothing followed**, and what stands behind it with
the budget that is left. -/
theorem exists_expandWith_append_space (budget : Nat) (xs ys : Text) :
    ∃ used left, used + left = budget ∧ RewritesIn value used xs (expandWith value budget xs) ∧
      expandWith value budget (xs ++ ' ' :: ys) =
        expandWith value budget xs ++ ' ' :: expandWith value left ys := by
  fun_induction expandWith value budget xs with
  | case1 budget =>
      exact ⟨0, budget, Nat.zero_add budget, .refl [],
        expandWith_cons_of_ne value budget (by decide) ys⟩
  | case2 budget rest hread ih =>
      obtain ⟨used, left, hbudget, hsteps, heq⟩ := ih
      have hc : ¬ IsReducibleAt ('$' :: rest) 0 := by simp [isReducibleAt_zero_iff_read, hread]
      have hread' : Reference.read (rest ++ ' ' :: ys) = none := by
        rw [read_append_space, hread, Option.map_none]
      refine ⟨used, left, hbudget, (hsteps.cons hc).1, ?_⟩
      rw [List.cons_append, expandWith_of_read_eq_none hread', heq, List.cons_append]
  | case3 rest reference tail hread =>
      refine ⟨0, 0, rfl, .refl _, ?_⟩
      rw [expandWith_zero, expandWith_zero]
  | case4 rest reference tail hread budget ih =>
      obtain ⟨used, left, hbudget, hsteps, heq⟩ := ih
      have hstep : Rewrites value ('$' :: rest) (value reference ++ tail) :=
        rewrites_of_opens (read_eq_some_iff.mp hread)
      have hread' : Reference.read (rest ++ ' ' :: ys) = some (reference, tail ++ ' ' :: ys) := by
        rw [read_append_space, hread, Option.map_some]
      refine ⟨used + 1, left, by omega, .head hstep hsteps, ?_⟩
      rw [List.cons_append, expandWith_of_read_eq_some hread', ← List.append_assoc, heq]
  | case5 budget c rest hne ih =>
      obtain ⟨used, left, hbudget, hsteps, heq⟩ := ih
      have hc : ¬ IsReducibleAt (c :: rest) 0 := fun h => hne (isReducibleAt_zero.mp h).1
      refine ⟨used, left, hbudget, (hsteps.cons hc).1, ?_⟩
      rw [List.cons_append, expandWith_cons_of_ne value budget hne, heq, List.cons_append]

/-- **Lines are expanded piece by piece.** What stands before a space comes out as it does on its own,
also where the limit stops the expansion in it. What stands behind the space is expanded on its own too,
with what the steps before the space have left of the limit. If the limit does not stop the expansion of
the line, the whole is the two expansions with the space between them. -/
theorem expand_append_space (x y : Text) :
    (expand value x ++ [' ']) <+: expand value (x ++ ' ' :: y) ∧
    (∃ used ≤ substitutionLimit, RewritesIn value used x (expand value x) ∧
      expand value (x ++ ' ' :: y) =
        expand value x ++ ' ' :: expandWith value (substitutionLimit - used) y) ∧
    (EndsInLimit value (x ++ ' ' :: y) →
      expand value (x ++ ' ' :: y) = expand value x ++ ' ' :: expand value y) := by
  obtain ⟨used, left, hlimit, hsteps, hline⟩ :=
    exists_expandWith_append_space value substitutionLimit x y
  obtain rfl : left = substitutionLimit - used := by omega
  rw [← expand, ← expand] at hline
  refine ⟨?_, ⟨used, by omega, hsteps, hline⟩, fun hends => ?_⟩
  · refine ⟨expandWith value (substitutionLimit - used) y, ?_⟩
    rw [hline, List.append_assoc, List.singleton_append]
  · have hreduced : IsReduced (expandWith value (substitutionLimit - used) y) := by
      have hwhole := endsInLimit_iff.mp hends
      rw [hline] at hwhole
      exact (isReduced_cons.mp hwhole.of_append).2
    obtain ⟨n, hn, hrest, -⟩ := exists_rewritesIn_expandWith value (substitutionLimit - used) y
    have hbehind : expand value y = expandWith value (substitutionLimit - used) y :=
      expandWith_of_rewritesIn hrest hreduced (by omega)
    rw [hline, hbehind]

/-- With `$B$` for `A`, the `$` at the end of the value does not reach the `B` behind the space. -/
theorem expand_append_space_of_open_value :
    let env : Environment :=
      ⟨[(Utf8.encode ['A'], Utf8.encode "$B$".toList), (Utf8.encode ['B'], Utf8.encode "b c".toList)]⟩
    let s := Session.new "husk".toList 7 env ⟨.empty, .root⟩
    EndsInLimit s.value "$A B $?".toList ∧
      expand s.value "$A B $?".toList = "b c$ B 0".toList ∧
      expand s.value "$A B $?".toList = expand s.value "$A".toList ++ ' ' :: expand s.value "B $?".toList := by
  intro env s
  have hA : s.value (.variable ['A']) = "$B$".toList := by decide
  have hB : s.value (.variable ['B']) = "b c".toList := by decide
  have hstatus : s.value .lastStatus = ['0'] := by decide
  have hexpand : expand s.value "$A B $?".toList = "b c$ B 0".toList := by
    have hfirst : Reference.read "A B $?".toList = some (.variable ['A'], " B $?".toList) := by decide
    have hsecond : Reference.read "B$ B $?".toList = some (.variable ['B'], "$ B $?".toList) := by
      decide
    have hlone : Reference.read " B $?".toList = none := by decide
    have hthird : Reference.read ['?'] = some (.lastStatus, []) := by decide
    calc expandWith s.value 1024 "$A B $?".toList
        = expandWith s.value 1023 "$B$ B $?".toList := by
          refine (expandWith_of_read_eq_some hfirst 1023).trans ?_
          rw [hA]; rfl
      _ = expandWith s.value 1022 "b c$ B $?".toList := by
          refine (expandWith_of_read_eq_some hsecond 1022).trans ?_
          rw [hB]; rfl
      _ = "b c".toList ++ expandWith s.value 1022 "$ B $?".toList := by
          simp [expandWith_cons_of_ne]
      _ = "b c$".toList ++ expandWith s.value 1022 " B $?".toList := by
          refine (congrArg ("b c".toList ++ ·) (expandWith_of_read_eq_none hlone 1022)).trans ?_
          rfl
      _ = "b c$ B ".toList ++ expandWith s.value 1022 "$?".toList := by
          simp [expandWith_cons_of_ne]
      _ = "b c$ B ".toList ++ expandWith s.value 1021 ['0'] := by
          refine (congrArg ("b c$ B ".toList ++ ·) (expandWith_of_read_eq_some hthird 1021)).trans ?_
          rw [hstatus]; rfl
      _ = "b c$ B 0".toList := by rw [expandWith_of_not_mem s.value 1021 (by decide)]; rfl
  have hends : EndsInLimit s.value "$A B $?".toList := by
    have hnil : IsReduced [] := fun i h => by simp [IsReducibleAt] at h
    rw [endsInLimit_iff, hexpand]
    simp [isReduced_cons, isReducibleAt_zero, hnil]
  exact ⟨hends, hexpand, (expand_append_space s.value "$A".toList "B $?".toList).2.2 hends⟩

end

end CommandShell
