import CommandShell.Proofs.Aliases.Replacement
import Mathlib.Data.Prod.Lex
import Mathlib.Logic.Relation

/-!
# Replacement step by step

Replacement goes through a segment word by word. At a name it stands still while the words of the name come
in, so the segment may grow or shrink before it goes on. A step either replaces a word, which uses up one
of a limited number of replacements, or passes a word, which shortens what is ahead.

No step drops a word that is no name, and none moves it before or behind another one. So such words stand
in the result in the order in which they stood in the segment, whatever the names between them stand for.

## Main definitions
* `Cursor`, `Cursor.Step`, `Cursor.Reaches`: where replacement stands, and how it goes on.
* `Cursor.ofSegment`: where the replacement of a segment begins.

## Main results
* `Cursor.Step.unique`, `Cursor.wellFounded_step`: there is one way to go on, and it ends.
* `Cursor.reaches_resolveWith`: where the steps lead.
* `Cursor.Reaches.sublist`: the words that are no names stay in order.
* `Aliases.resolve_bounded`: what replacement can do to a segment.
-/

namespace CommandShell

/-- Where replacement stands in a segment. -/
structure Cursor where
  /-- The words before it, which stay. -/
  passed : List Token
  /-- The names that have been replaced where it stands. -/
  seen : List Token
  ahead : List Token
  /-- The number of replacements so far. -/
  replaced : Nat

namespace Cursor

/-- All words, in order. -/
def words (cursor : Cursor) : List Token :=
  cursor.passed ++ cursor.ahead

/-- Replacement begins before the first word. A segment that defines or shows aliases is passed at once. -/
def ofSegment (segment : List Token) : Cursor :=
  if segment.head? = some Aliases.definer then ⟨segment, [], [], 0⟩ else ⟨[], [], segment, 0⟩

section

variable (replace? : Token → Option (List Token)) (limit : Nat)

/-- One step of replacement, which may replace `limit` words in all. -/
inductive Step : Cursor → Cursor → Prop
  /-- A name gives way to its words, if it has not done so in this place. -/
  | replace {passed seen rest replacement word n} (hreplace : replace? word = some replacement)
      (hseen : word ∉ seen) (hlimit : n < limit) :
      Step ⟨passed, seen, word :: rest, n⟩ ⟨passed, word :: seen, replacement ++ rest, n + 1⟩
  /-- Any other word stays. -/
  | pass {passed seen rest word n} (hkeep : replace? word = none ∨ word ∈ seen ∨ limit ≤ n) :
      Step ⟨passed, seen, word :: rest, n⟩ ⟨passed ++ [word], [], rest, n⟩

/-- Any number of steps. -/
abbrev Reaches : Cursor → Cursor → Prop :=
  Relation.ReflTransGen (Step replace? limit)

end

variable {replace? : Token → Option (List Token)} {limit : Nat} {cursor other start last : Cursor}

/-! ## Every replacement ends -/

/-- A word that is replaced is not passed. -/
private theorem not_keep {word : Token} {replacement seen : List Token} {n : Nat}
    (hreplace : replace? word = some replacement) (hseen : word ∉ seen) (hlimit : n < limit) :
    ¬ (replace? word = none ∨ word ∈ seen ∨ limit ≤ n) := by
  rintro (hnone | hmem | hle)
  · exact Option.some_ne_none _ (hreplace.symm.trans hnone)
  · exact hseen hmem
  · omega

/-- **There is one way to go on.** -/
theorem Step.unique (h : Step replace? limit cursor start) (h' : Step replace? limit cursor other) :
    start = other := by
  cases h with
  | replace hreplace hseen hlimit =>
      cases h' with
      | replace hreplace' => rw [Option.some.inj (hreplace.symm.trans hreplace')]
      | pass hkeep => exact (not_keep hreplace hseen hlimit hkeep).elim
  | pass hkeep =>
      cases h' with
      | replace hreplace hseen hlimit => exact (not_keep hreplace hseen hlimit hkeep).elim
      | pass => rfl

/-- What is left to do: first the replacements that may still be made, then the words ahead. -/
def rank (limit : Nat) (cursor : Cursor) : Nat ×ₗ Nat :=
  toLex (limit - cursor.replaced, cursor.ahead.length)

/-- **Every step lessens what is left to do.** -/
theorem Step.rank_lt (h : Step replace? limit cursor other) : other.rank limit < cursor.rank limit := by
  rw [rank, rank, Prod.Lex.toLex_lt_toLex]
  cases h with
  | replace hreplace hseen hlimit => exact .inl (Nat.sub_succ_lt_self _ _ hlimit)
  | pass => exact .inr ⟨rfl, Nat.lt_succ_self _⟩

/-- **No replacement goes on for ever**, whatever the names stand for. -/
theorem wellFounded_step (replace? : Token → Option (List Token)) (limit : Nat) :
    WellFounded fun later earlier => Step replace? limit earlier later :=
  Subrelation.wf (fun hstep => Step.rank_lt hstep) (InvImage.wf (rank limit) wellFounded_lt)

theorem not_step_of_ahead_nil (h : cursor.ahead = []) : ¬ Step replace? limit cursor other := by
  intro hstep
  cases hstep <;> simp at h

/-- From wherever replacement comes it goes on to its end. -/
theorem Reaches.reaches_last (hlast : Reaches replace? limit start last) (hend : last.ahead = [])
    (h : Reaches replace? limit start cursor) : Reaches replace? limit cursor last := by
  have hunique : Relator.RightUnique (Step replace? limit) := fun _ _ _ => Step.unique
  rcases Relation.ReflTransGen.total_of_right_unique hunique h hlast with hforth | hback
  · exact hforth
  · rcases Relation.ReflTransGen.cases_head hback with rfl | ⟨_, hstep, -⟩
    · exact .refl
    · exact (not_step_of_ahead_nil hend hstep).elim

/-- **The steps lead to the words that replacement gives.** -/
theorem reaches_resolveWith (budget : Nat) (seen words passed : List Token) {n : Nat}
    (hlimit : n + budget = limit) :
    ∃ seen' m, m ≤ limit ∧ Reaches replace? limit ⟨passed, seen, words, n⟩
      ⟨passed ++ resolveWith replace? budget seen words, seen', [], m⟩ := by
  fun_induction resolveWith replace? budget seen words generalizing passed n with
  | case1 budget seen =>
      rw [List.append_nil]
      exact ⟨seen, n, by omega, .refl⟩
  | case2 seen word rest replacement budget hreplace hseen ih =>
      obtain ⟨seen', m, hm, hrest⟩ := ih (passed ++ [word]) hlimit
      rw [← List.append_cons] at hrest
      exact ⟨seen', m, hm, .head (.pass (.inr (.inl hseen))) hrest⟩
  | case3 seen word rest replacement budget hreplace hseen ih =>
      obtain ⟨seen', m, hm, hrest⟩ := ih passed (n := n + 1) (by omega)
      exact ⟨seen', m, hm, .head (.replace hreplace hseen (by omega)) hrest⟩
  | case4 seen word rest budget hkeep ih =>
      obtain ⟨seen', m, hm, hrest⟩ := ih (passed ++ [word]) hlimit
      rw [← List.append_cons] at hrest
      refine ⟨seen', m, hm, .head (.pass ?_) hrest⟩
      cases hreplace : replace? word with
      | none => exact .inl rfl
      | some replacement =>
          refine .inr (.inr ?_)
          by_contra hlt
          obtain ⟨smaller, rfl⟩ := Nat.exists_eq_succ_of_ne_zero (n := budget) (by omega)
          exact hkeep replacement smaller hreplace rfl

/-! ## Words that are no names -/

/-- A step keeps the words that are no names, in their order. -/
theorem Step.sublist (h : Step replace? limit cursor other) :
    (cursor.words.filter fun word => (replace? word).isNone).Sublist
      (other.words.filter fun word => (replace? word).isNone) := by
  cases h with
  | @replace passed seen rest replacement word n hreplace =>
      simp only [words, List.filter_append]
      rw [List.filter_cons_of_neg (by simp [hreplace])]
      exact (List.Sublist.refl _).append (List.sublist_append_right _ _)
  | pass => simp [words]

/-- **The words that are no names stay, in their order.** -/
theorem Reaches.sublist (h : Reaches replace? limit cursor other) :
    (cursor.words.filter fun word => (replace? word).isNone).Sublist
      (other.words.filter fun word => (replace? word).isNone) := by
  induction h with
  | refl => exact .refl _
  | tail _ hstep ih => exact ih.trans hstep.sublist

end Cursor

namespace Aliases

open Cursor

variable {aliases : Aliases}

theorem words_ofSegment (segment : List Token) : (ofSegment segment).words = segment := by
  rw [ofSegment]
  split <;> simp [Cursor.words]

/-- The replacement of a segment comes to its end within the limit. -/
theorem reaches_resolve (aliases : Aliases) (segment : List Token) :
    ∃ seen n, n ≤ resolutionLimit ∧ Reaches aliases.replacement? resolutionLimit (ofSegment segment)
      ⟨aliases.resolve segment, seen, [], n⟩ := by
  rw [resolve, ofSegment]
  split
  · exact ⟨[], 0, Nat.zero_le _, .refl⟩
  · exact reaches_resolveWith resolutionLimit [] segment [] (Nat.zero_add _)

/-- **Replacement ends after at most 64 steps that replace a word, and loses no word.** No replacement goes
on for ever, and each comes from wherever it stands to the resolved segment. The segment grows by no more
than the words of the longest value for each replacement. The words that are no names stay in their order,
and every other word is one of an alias. -/
theorem resolve_bounded (aliases : Aliases) (segment : List Token) :
    WellFounded (fun later earlier => Step aliases.replacement? resolutionLimit earlier later) ∧
    (∃ seen n, n ≤ 64 ∧
      ∀ cursor, Reaches aliases.replacement? resolutionLimit (ofSegment segment) cursor →
        Reaches aliases.replacement? resolutionLimit cursor ⟨aliases.resolve segment, seen, [], n⟩) ∧
    (∀ m, (∀ name value, aliases.get? name = some value → (tokens value).length ≤ m) →
      (aliases.resolve segment).length ≤ segment.length + 64 * (m - 1)) ∧
    (segment.filter fun word => (aliases.get? word).isNone).Sublist (aliases.resolve segment) ∧
    ∀ word ∈ aliases.resolve segment,
      word ∈ segment ∨ ∃ name value, aliases.get? name = some value ∧ word ∈ tokens value := by
  obtain ⟨seen, n, hn, hlast⟩ := reaches_resolve aliases segment
  refine ⟨wellFounded_step _ _, ⟨seen, n, hn, fun cursor hcursor => hlast.reaches_last rfl hcursor⟩,
    fun m hvalues => length_resolve_le hvalues segment, ?_, fun word => mem_or_mem_tokens_of_mem_resolve⟩
  have hsublist := hlast.sublist
  rw [words_ofSegment] at hsublist
  simpa [Cursor.words, replacement?] using hsublist.trans List.filter_sublist

/-- With `b x` for `a` and `a` for `b`, which lead back to each other, the replacement of `a y b` ends and
keeps `y`. -/
theorem resolve_bounded_of_cycle :
    let aliases := (empty.add ['a'] "b x".toList).add ['b'] ['a']
    (∀ name value, aliases.get? name = some value → (tokens value).length ≤ 2) ∧
      (aliases.resolve [['a'], ['y'], ['b']]).length ≤ 3 + 64 * (2 - 1) ∧
      [['y']].Sublist (aliases.resolve [['a'], ['y'], ['b']]) := by
  intro aliases
  have hvalues : ∀ name value, aliases.get? name = some value → (tokens value).length ≤ 2 := by
    intro name value h
    obtain ⟨-, rfl⟩ | ⟨-, rfl⟩ := eq_of_get?_add_add (by decide) h
    · decide
    · decide
  have hplain : ([['a'], ['y'], ['b']].filter fun word => (aliases.get? word).isNone) = [['y']] := by
    have hget : ∀ word, aliases.get? word =
        if word = ['b'] then some ['a'] else if word = ['a'] then some "b x".toList else none :=
      get?_add_add (by decide)
    simp only [hget]
    decide
  obtain ⟨-, -, hlength, hsublist, -⟩ := resolve_bounded aliases [['a'], ['y'], ['b']]
  exact ⟨hvalues, hlength 2 hvalues, hplain ▸ hsublist⟩

end Aliases

end CommandShell
