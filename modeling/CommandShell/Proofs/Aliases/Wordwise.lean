import CommandShell.Proofs.Aliases.Completeness

/-!
# Replacement word by word

If every name stands for some word, the first word of what came in for a name stands where the name stood,
until a word stays there. So when replacement comes to the next word of a segment, it looks at it
afresh: it no longer knows what has been replaced before. Each word of a segment comes to what it comes to
on its own, also where names lead back to themselves and are cut off in one place and replaced again in the
next. Only the limit is shared.

A name that stands for nothing breaks this: it vanishes, and the next word stands in its place.

## Main definitions
* `Aliases.replaced`: what a word comes to on its own.

## Main results
* `Resolves.exists_append`: replacement of two segments behind each other.
* `Resolves.eq_flatMap`: replacement of each word.
* `Aliases.resolve_append`: the same for a segment with its aliases.
-/

namespace CommandShell

section

variable {replace? : Token → Option (List Token)} {seen xs ys words result : List Token} {n : Nat}
  (hne : ∀ name replacement, replace? name = some replacement → replacement ≠ [])

include hne

/-- **Two segments behind each other are replaced one after the other**, if no name stands for nothing. What
has been replaced in the first is not known any more when the second begins. -/
theorem Resolves.exists_append (h : Resolves replace? seen (xs ++ ys) n result)
    (hseen : xs = [] → seen = []) :
    ∃ k m first second, n = k + m ∧ result = first ++ second ∧
      Resolves replace? seen xs k first ∧ Resolves replace? [] ys m second := by
  generalize hwords : xs ++ ys = words at h
  induction h generalizing xs with
  | nil seen =>
      obtain ⟨rfl, rfl⟩ := List.append_eq_nil_iff.mp hwords
      exact ⟨0, 0, [], [], rfl, rfl, .nil seen, .nil []⟩
  | @keep seen word rest result n hkeep later ih =>
      cases xs with
      | nil =>
          obtain rfl : ys = word :: rest := hwords
          obtain rfl := hseen rfl
          exact ⟨0, n, [], word :: result, (Nat.zero_add n).symm, rfl, .nil [], .keep hkeep later⟩
      | cons first xs =>
          obtain ⟨rfl, rfl⟩ := List.cons.inj hwords
          obtain ⟨k, m, before, behind, rfl, rfl, hbefore, hbehind⟩ := ih (fun _ => rfl) rfl
          exact ⟨k, m, first :: before, behind, rfl, rfl, .keep hkeep hbefore, hbehind⟩
  | @replace seen word rest replacement result n hreplace hnot later ih =>
      cases xs with
      | nil =>
          obtain rfl : ys = word :: rest := hwords
          obtain rfl := hseen rfl
          exact ⟨0, n + 1, [], result, (Nat.zero_add _).symm, rfl, .nil [], .replace hreplace hnot later⟩
      | cons first xs =>
          obtain ⟨rfl, rfl⟩ := List.cons.inj hwords
          -- The place is taken by a word of the replacement, so it is still in the first segment.
          have hplace : replacement ++ xs = [] → first :: seen = [] := fun hnil =>
            absurd (List.append_eq_nil_iff.mp hnil).1 (hne first replacement hreplace)
          obtain ⟨k, m, before, behind, rfl, rfl, hbefore, hbehind⟩ :=
            ih hplace (List.append_assoc replacement xs ys)
          exact ⟨k + 1, m, before, behind, Nat.add_right_comm k m 1, rfl,
            .replace hreplace hnot hbefore, hbehind⟩

/-- **Every word comes to what it comes to on its own.** -/
theorem Resolves.eq_flatMap (h : Resolves replace? [] words n result) {budget : Nat} (hn : n ≤ budget) :
    result = words.flatMap fun word => resolveWith replace? budget [] [word] := by
  induction words generalizing n result with
  | nil => cases h; rfl
  | cons word rest ih =>
      rw [← List.singleton_append] at h
      obtain ⟨k, m, first, second, rfl, rfl, hfirst, hsecond⟩ := h.exists_append hne (fun _ => rfl)
      rw [List.flatMap_cons, hfirst.resolveWith_eq (by omega), ← ih hsecond (by omega)]

end

namespace Aliases

variable {aliases : Aliases} {xs ys : List Token}

/-- What a word comes to on its own. -/
def replaced (aliases : Aliases) (word : Token) : List Token :=
  resolveWith aliases.replacement? resolutionLimit [] [word]

/-- **Replacement goes word by word**, if every alias stands for some word and the limit is not reached. Two
segments behind each other come to what they come to apart, and each word to what it comes to on its own,
whatever stands before and behind it. -/
theorem resolve_append (hvalues : ∀ name value, aliases.get? name = some value → tokens value ≠ [])
    (hxs : xs.head? ≠ some definer) (hys : ys.head? ≠ some definer)
    (hlimit : aliases.StaysInLimit (xs ++ ys)) :
    aliases.resolve (xs ++ ys) = aliases.resolve xs ++ aliases.resolve ys ∧
      aliases.resolve (xs ++ ys) = (xs ++ ys).flatMap aliases.replaced := by
  have hne : ∀ name replacement, aliases.replacement? name = some replacement → replacement ≠ [] := by
    intro name replacement hreplacement
    obtain ⟨value, hvalue, rfl⟩ := Option.map_eq_some_iff.mp hreplacement
    exact hvalues name value hvalue
  have hhead : (xs ++ ys).head? ≠ some definer := by
    cases xs with
    | nil => exact hys
    | cons word rest => exact hxs
  obtain ⟨n, hn, result, hresolves⟩ := hlimit
  obtain ⟨k, m, first, second, rfl, rfl, hfirst, hsecond⟩ :=
    hresolves.exists_append hne (fun _ => rfl)
  have hwhole : aliases.resolve (xs ++ ys) = first ++ second := by
    rw [resolve, if_neg hhead, hresolves.resolveWith_eq hn]
  refine ⟨?_, ?_⟩
  · rw [hwhole, resolve, if_neg hxs, hfirst.resolveWith_eq (by omega), resolve, if_neg hys,
      hsecond.resolveWith_eq (by omega)]
  · rw [hwhole, hresolves.eq_flatMap hne hn]
    rfl

/-- With `b x` for `a` and `a` for `b`, each word of `a b` is cut off where it comes up again in its own
place: both are replaced in both places. -/
theorem resolve_append_of_cycle :
    let aliases := (empty.add ['a'] "b x".toList).add ['b'] ['a']
    (∀ name value, aliases.get? name = some value → tokens value ≠ []) ∧
      aliases.StaysInLimit ([['a']] ++ [['b']]) ∧
      aliases.resolve ([['a']] ++ [['b']]) = [['a'], ['x'], ['b'], ['x']] ∧
      aliases.resolve ([['a']] ++ [['b']]) = aliases.resolve [['a']] ++ aliases.resolve [['b']] := by
  intro aliases
  have hget : ∀ word, aliases.get? word =
      if word = ['b'] then some ['a'] else if word = ['a'] then some "b x".toList else none :=
    get?_add_add (by decide)
  have ha : aliases.replacement? ['a'] = some [['b'], ['x']] := by
    rw [replacement?, hget]; decide
  have hb : aliases.replacement? ['b'] = some [['a']] := by
    rw [replacement?, hget]; decide
  have hx : aliases.replacement? ['x'] = none := by
    rw [replacement?, hget]; decide
  have hvalues : ∀ name value, aliases.get? name = some value → tokens value ≠ [] := by
    intro name value h
    obtain ⟨-, rfl⟩ | ⟨-, rfl⟩ := eq_of_get?_add_add (by decide) h
    · decide
    · decide
  have hsecond : Resolves aliases.replacement? [] [['b']] 2 [['b'], ['x']] :=
    .replace hb (by decide) (.replace ha (by decide)
      (.keep (.inr (by decide)) (.keep (.inl hx) (.nil _))))
  have hwhole : Resolves aliases.replacement? [] ([['a']] ++ [['b']]) 4 [['a'], ['x'], ['b'], ['x']] :=
    .replace ha (by decide) (.replace hb (by decide)
      (.keep (.inr (by decide)) (.keep (.inl hx) hsecond)))
  have hlimit : aliases.StaysInLimit ([['a']] ++ [['b']]) := ⟨4, by decide, _, hwhole⟩
  refine ⟨hvalues, hlimit, ?_, (resolve_append hvalues (by decide) (by decide) hlimit).1⟩
  rw [resolve, if_neg (by decide), hwhole.resolveWith_eq (by decide)]

end Aliases

end CommandShell
