import CommandShell.Proofs.Aliases.Replacement
import Mathlib.Data.Fintype.Card
import Mathlib.Data.Set.Finite.Basic
import Mathlib.Logic.Relation

/-!
# Complete replacement

Where no alias leads back to itself, all aliases of a segment can be replaced, wherever they come up,
until none is left. Replacement does just that, with one exception: a name that has been replaced in a
place is not replaced there again. Without cycles the name can only come up there again after all its
words have vanished, which takes aliases that stand for no word at all.

## Main definitions
* `Leads`, `IsAcyclic`: the words that a name brings in, and that it never brings in itself.
* `Resolves`, `countReplaced`: replacement that no limit stops, and how much is replaced.
* `Visits`: the words that are looked at when every name is replaced wherever it comes up.
* `HasNoRepeat`: no name comes up twice in one place.
* `Vanishes`: words of which nothing is left.

## Main results
* `exists_visits_of_isAcyclic`: without cycles every name can be replaced.
* `Resolves.all_none_iff`: replacement is complete exactly if no name comes up twice in one place.
* `Resolves.vanishes_of_isSome`: a name that stays stands for nothing.
* `Aliases.resolve_complete_iff`: the segments in which no alias is left.
-/

namespace CommandShell

section

variable (replace? : Token → Option (List Token))

/-- The word is in the replacement of the name. -/
def Leads (name word : Token) : Prop :=
  ∃ replacement, replace? name = some replacement ∧ word ∈ replacement

/-- No name leads back to itself. -/
def IsAcyclic : Prop :=
  ∀ name, ¬ Relation.TransGen (Leads replace?) name name

/-- Words become a result after a number of replacements, if there is no limit to them. The names in
`seen` have been replaced where the first word now stands. -/
inductive Resolves : List Token → List Token → Nat → List Token → Prop
  | nil (seen : List Token) : Resolves seen [] 0 []
  /-- A word stays if it has no replacement, or has been replaced in this place. -/
  | keep {seen : List Token} {word : Token} {rest result : List Token} {n : Nat}
      (hkeep : replace? word = none ∨ word ∈ seen) (later : Resolves [] rest n result) :
      Resolves seen (word :: rest) n (word :: result)
  /-- Any other word gives way to its replacement. -/
  | replace {seen : List Token} {word : Token} {rest replacement result : List Token} {n : Nat}
      (hreplace : replace? word = some replacement) (hseen : word ∉ seen)
      (later : Resolves (word :: seen) (replacement ++ rest) n result) :
      Resolves seen (word :: rest) (n + 1) result

/-- The number of words that `resolveWith` replaces. -/
def countReplaced (budget : Nat) (seen words : List Token) : Nat :=
  match words with
  | [] => 0
  | word :: rest =>
    match replace? word, budget with
    | some replacement, budget + 1 =>
      if word ∈ seen then countReplaced (budget + 1) [] rest
      else countReplaced budget (word :: seen) (replacement ++ rest) + 1
    | _, budget => countReplaced budget [] rest
termination_by (budget, words.length)

/-- The words that are looked at, in order, when every name is replaced wherever it comes up. -/
inductive Visits : List Token → List Token → Prop
  | nil : Visits [] []
  | plain {word : Token} {rest trace : List Token} (hplain : replace? word = none)
      (later : Visits rest trace) : Visits (word :: rest) (word :: trace)
  | name {word : Token} {rest replacement trace : List Token}
      (hname : replace? word = some replacement) (later : Visits (replacement ++ rest) trace) :
      Visits (word :: rest) (word :: trace)

/-- Between two words that stay, all names are looked at in one place, and no name comes up twice. -/
def HasNoRepeat (trace : List Token) : Prop :=
  ∀ stretch ∈ trace.splitOnP fun word => (replace? word).isNone, stretch.Nodup

/-- When every name is replaced, nothing is left of the words. -/
def Vanishes (words : List Token) : Prop :=
  ∃ trace, Visits replace? words trace ∧ ∀ word ∈ trace, (replace? word).isSome

end

section

variable {replace? : Token → Option (List Token)} {words seen result trace : List Token} {n : Nat}

/-- **Replacement with a limit that is not reached is replacement without one.** -/
theorem Resolves.resolveWith_eq (h : Resolves replace? seen words n result) {budget : Nat}
    (hbudget : n ≤ budget) : resolveWith replace? budget seen words = result := by
  induction h generalizing budget with
  | nil seen => exact resolveWith_nil replace? budget seen
  | keep hkeep later ih => rw [resolveWith_cons_of_keep hkeep, ih hbudget]
  | replace hreplace hseen later ih =>
      obtain ⟨budget, rfl⟩ := Nat.exists_eq_add_of_le' (Nat.le_of_add_left_le hbudget)
      rw [resolveWith_cons_of_some hreplace hseen, ih (by omega)]

/-- **Replacement that does not use up its budget is replacement without a limit.** -/
theorem resolves_of_countReplaced_lt {budget : Nat}
    (h : countReplaced replace? budget seen words < budget) :
    Resolves replace? seen words (countReplaced replace? budget seen words)
      (resolveWith replace? budget seen words) := by
  fun_induction countReplaced replace? budget seen words with
  | case1 budget seen => rw [resolveWith_nil]; exact .nil seen
  | case2 seen word rest replacement budget hreplace hseen ih =>
      rw [resolveWith_cons_of_keep (.inr hseen)]
      exact .keep (.inr hseen) (ih h)
  | case3 seen word rest replacement budget hreplace hseen ih =>
      rw [resolveWith_cons_of_some hreplace hseen]
      exact .replace hreplace hseen (ih (by omega))
  | case4 seen word rest budget hkeep ih =>
      have hnone : replace? word = none := by
        cases hreplace : replace? word with
        | none => rfl
        | some replacement =>
            obtain ⟨smaller, hbudget⟩ := Nat.exists_eq_succ_of_ne_zero (Nat.ne_zero_of_lt h)
            exact (hkeep replacement smaller hreplace hbudget).elim
      rw [resolveWith_cons_of_none hnone]
      exact .keep (.inl hnone) (ih h)

/-! ## Every name replaced -/

/-- Names that lead downwards only are without cycles. -/
theorem isAcyclic_of_rank (rank : Token → Nat)
    (h : ∀ name word, Leads replace? name word → rank word < rank name) : IsAcyclic replace? := by
  have hdown : ∀ {name word}, Relation.TransGen (Leads replace?) name word → rank word < rank name := by
    intro name word hleads
    induction hleads with
    | single hfirst => exact h _ _ hfirst
    | tail _ hlast ih => exact (h _ _ hlast).trans ih
  exact fun name hcycle => (hdown hcycle).false

theorem Visits.append {others last : List Token} (h : Visits replace? words trace)
    (hothers : Visits replace? others last) : Visits replace? (words ++ others) (trace ++ last) := by
  induction h with
  | nil => exact hothers
  | plain hplain later ih => exact .plain hplain ih
  | name hname later ih =>
      rw [List.append_assoc] at ih
      exact .name hname ih

theorem exists_visits_of_forall (h : ∀ word ∈ words, ∃ trace, Visits replace? [word] trace) :
    ∃ trace, Visits replace? words trace := by
  induction words with
  | nil => exact ⟨[], .nil⟩
  | cons word rest ih =>
      obtain ⟨first, hfirst⟩ := h word (List.mem_cons_self ..)
      obtain ⟨later, hlater⟩ := ih fun other hother => h other (List.mem_cons_of_mem _ hother)
      exact ⟨first ++ later, hfirst.append hlater⟩

/-- Finitely many names that never lead back to themselves lead to an end. -/
theorem wellFounded_of_isAcyclic (hfinite : {name | (replace? name).isSome}.Finite)
    (h : IsAcyclic replace?) : WellFounded fun word name => Leads replace? name word := by
  have hplain : ∀ word, replace? word = none →
      Acc (fun word name => Leads replace? name word) word := by
    intro word hword
    refine ⟨word, ?_⟩
    rintro other ⟨replacement, hreplacement, -⟩
    simp [hword] at hreplacement
  have hbelow : WellFounded fun word name : {name | (replace? name).isSome} =>
      Relation.TransGen (Leads replace?) name.1 word.1 := by
    have : Finite {name | (replace? name).isSome} := hfinite
    have : IsTrans {name | (replace? name).isSome} fun word name =>
        Relation.TransGen (Leads replace?) name.1 word.1 :=
      ⟨fun _ _ _ hfirst hsecond => hsecond.trans hfirst⟩
    have : Std.Irrefl fun word name : {name | (replace? name).isSome} =>
        Relation.TransGen (Leads replace?) name.1 word.1 := ⟨fun name => h name.1⟩
    exact Finite.wellFounded_of_trans_of_irrefl _
  -- What a name leads to is a name further down, or leads nowhere.
  have hnames : ∀ name : {name | (replace? name).isSome},
      Acc (fun word name => Leads replace? name word) name.1 := by
    intro name
    induction name using hbelow.induction with
    | _ name ih =>
      refine ⟨name.1, fun word hword => ?_⟩
      cases hreplace : replace? word with
      | none => exact hplain word hreplace
      | some replacement => exact ih ⟨word, by simp [hreplace]⟩ (.single hword)
  refine ⟨fun word => ?_⟩
  cases hreplace : replace? word with
  | none => exact hplain word hreplace
  | some replacement => exact hnames ⟨word, by simp [hreplace]⟩

/-- **Without cycles every name can be replaced wherever it comes up.** -/
theorem exists_visits_of_isAcyclic (hfinite : {name | (replace? name).isSome}.Finite)
    (h : IsAcyclic replace?) (words : List Token) : ∃ trace, Visits replace? words trace := by
  have hone : ∀ word, ∃ trace, Visits replace? [word] trace := by
    intro word
    induction word using (wellFounded_of_isAcyclic hfinite h).induction with
    | _ word ih =>
      cases hreplace : replace? word with
      | none => exact ⟨[word], .plain hreplace .nil⟩
      | some replacement =>
          obtain ⟨trace, htrace⟩ := exists_visits_of_forall fun other hother =>
            ih other ⟨replacement, hreplace, hother⟩
          exact ⟨word :: trace, .name hreplace (by rwa [List.append_nil])⟩
  exact exists_visits_of_forall fun word _ => hone word

/-! ## Names that come up twice -/

/-- Elements at the front of a list that do not separate belong to its first piece. -/
private theorem exists_splitOnP_append {p : Token → Bool} {names : List Token}
    (h : ∀ name ∈ names, p name = false) (others : List Token) :
    ∃ first rest, (names ++ others).splitOnP p = (names ++ first) :: rest := by
  induction names with
  | nil => exact List.exists_cons_of_ne_nil (List.splitOnP_ne_nil p others)
  | cons name names ih =>
      obtain ⟨first, rest, hsplit⟩ := ih fun other hother => h other (List.mem_cons_of_mem _ hother)
      refine ⟨first, rest, ?_⟩
      simp [List.splitOnP_cons_eq_if_modifyHead, h name (List.mem_cons_self ..), hsplit]

section

variable {names : List Token} (hnames : ∀ name ∈ names, (replace? name).isSome)

include hnames

theorem hasNoRepeat_of_all_some : HasNoRepeat replace? names ↔ names.Nodup := by
  have hsplit : names.splitOnP (fun word => (replace? word).isNone) = [names] :=
    List.splitOnP_eq_singleton fun name hname => by simpa using hnames name hname
  simp [HasNoRepeat, hsplit]

/-- A word that stays ends the stretch of names before it. -/
theorem hasNoRepeat_append_cons {word : Token} (hword : replace? word = none) :
    HasNoRepeat replace? (names ++ word :: trace) ↔ names.Nodup ∧ HasNoRepeat replace? trace := by
  have hsplit : (names ++ word :: trace).splitOnP (fun word => (replace? word).isNone) =
      names :: trace.splitOnP (fun word => (replace? word).isNone) :=
    List.splitOnP_append_cons_of_forall_mem (fun name hname => by simpa using hnames name hname)
      word (by simp [hword]) trace
  simp [HasNoRepeat, hsplit]

/-- A name that comes up in its own stretch again is a repeat. -/
theorem not_hasNoRepeat_of_mem {name : Token} (hname : name ∈ names) :
    ¬ HasNoRepeat replace? (names ++ name :: trace) := by
  intro hrepeat
  have hstretch : ∀ other ∈ names ++ [name], (replace? other).isNone = false := by
    intro other hother
    rcases List.mem_append.mp hother with hother | hother
    · simpa using hnames other hother
    · obtain rfl := List.mem_singleton.mp hother
      simpa using hnames other hname
  obtain ⟨first, others, hsplit⟩ := exists_splitOnP_append hstretch trace
  have hnodup : (names ++ [name] ++ first).Nodup := by
    refine hrepeat _ ?_
    rw [List.append_cons, hsplit]
    exact List.mem_cons_self ..
  have hdisjoint := (List.nodup_append.mp (List.nodup_append.mp hnodup).1).2.2
  exact hdisjoint name hname name (List.mem_singleton.mpr rfl) rfl

end

/-- **No name is left exactly if no name comes up twice in one place.** The names in `seen` have come up
in the place where the words stand. -/
theorem Resolves.all_none_iff (h : Resolves replace? seen words n result)
    (htrace : Visits replace? words trace) (hseen : ∀ name ∈ seen, (replace? name).isSome)
    (hnodup : seen.Nodup) :
    (∀ word ∈ result, replace? word = none) ↔ HasNoRepeat replace? (seen.reverse ++ trace) := by
  have hnames : ∀ name ∈ seen.reverse, (replace? name).isSome := fun name hname =>
    hseen name (List.mem_reverse.mp hname)
  induction h generalizing trace with
  | nil seen =>
      cases htrace
      simpa [hasNoRepeat_of_all_some hnames] using hnodup
  | @keep seen word rest result n hkeep later ih =>
      cases htrace with
      | plain hplain hlater =>
          have hrest := ih hlater (by simp) List.nodup_nil (by simp)
          rw [hasNoRepeat_append_cons hnames hplain]
          simp [hplain, hrest, hnodup]
      | @name _ _ replacement trace hname hlater =>
          have hword : word ∈ seen := hkeep.resolve_left (by simp [hname])
          refine iff_of_false ?_ (not_hasNoRepeat_of_mem hnames (List.mem_reverse.mpr hword))
          intro hnone
          simp [hname] at hnone
  | @replace seen word rest replacement result n hreplace hnot later ih =>
      cases htrace with
      | plain hplain => simp [hplain] at hreplace
      | @name _ _ replacement' trace hname hlater =>
          obtain rfl : replacement = replacement' := Option.some.inj (hreplace.symm.trans hname)
          have hseen' : ∀ name ∈ word :: seen, (replace? name).isSome := by
            intro name hmem
            rcases List.mem_cons.mp hmem with rfl | hmem
            · simp [hreplace]
            · exact hseen name hmem
          have hrest := ih hlater hseen' (List.nodup_cons.mpr ⟨hnot, hnodup⟩) fun name hmem =>
            hseen' name (List.mem_reverse.mp hmem)
          rwa [List.reverse_cons, List.append_assoc, List.singleton_append] at hrest

/-! ## Names that stay -/

/-- Of what came in for a name, the words at the front of the list are left. -/
def LeavesAhead (replace? : Token → Option (List Token)) (words : List Token) (name : Token) : Prop :=
  ∃ live, live <+: words ∧ (∀ word ∈ live, Relation.TransGen (Leads replace?) name word) ∧
    (Vanishes replace? live → Vanishes replace? [name])

theorem vanishes_nil : Vanishes replace? [] :=
  ⟨[], .nil, by simp⟩

theorem Vanishes.cons {word : Token} {rest replacement : List Token}
    (hword : replace? word = some replacement) (h : Vanishes replace? (replacement ++ rest)) :
    Vanishes replace? (word :: rest) := by
  obtain ⟨trace, htrace, hnames⟩ := h
  exact ⟨word :: trace, .name hword htrace, by simpa [hword] using hnames⟩

/-- A replacement leaves its own words ahead, and takes the place of a word that was ahead. -/
theorem LeavesAhead.replace {word name : Token} {rest replacement : List Token}
    (hword : replace? word = some replacement)
    (h : name = word ∨ LeavesAhead replace? (word :: rest) name) :
    LeavesAhead replace? (replacement ++ rest) name := by
  rcases h with rfl | ⟨live, hlive, hleads, hvanish⟩
  · refine ⟨replacement, List.prefix_append .., fun other hother => ?_, fun h => ?_⟩
    · exact .single ⟨replacement, hword, hother⟩
    · exact Vanishes.cons hword (by rwa [List.append_nil])
  · rcases List.prefix_cons_iff.mp hlive with rfl | ⟨live, rfl, hrest⟩
    · exact ⟨[], List.nil_prefix, by simp, hvanish⟩
    · have hname := hleads word (List.mem_cons_self ..)
      refine ⟨replacement ++ live, (List.prefix_append_right_inj _).mpr hrest, fun other hother => ?_,
        fun h => hvanish (h.cons hword)⟩
      rcases List.mem_append.mp hother with hother | hother
      · exact hname.tail ⟨replacement, hword, hother⟩
      · exact hleads other (List.mem_cons_of_mem _ hother)

/-- **A name that stays stands for nothing.** -/
theorem Resolves.vanishes_of_isSome (hacyclic : IsAcyclic replace?)
    (h : Resolves replace? seen words n result)
    (hseen : ∀ name ∈ seen, LeavesAhead replace? words name) {name : Token} (hname : name ∈ result)
    (hsome : (replace? name).isSome) : Vanishes replace? [name] := by
  induction h with
  | nil => simp at hname
  | @keep seen word rest result n hkeep later ih =>
      rcases List.mem_cons.mp hname with rfl | hname
      · have hmem : name ∈ seen := hkeep.resolve_left (Option.isSome_iff_ne_none.mp hsome)
        obtain ⟨live, hlive, hleads, hvanish⟩ := hseen name hmem
        rcases List.prefix_cons_iff.mp hlive with rfl | ⟨live, rfl, -⟩
        · exact hvanish vanishes_nil
        · exact absurd (hleads name (List.mem_cons_self ..)) (hacyclic name)
      · exact ih (by simp) hname
  | @replace seen word rest replacement result n hreplace hnot later ih =>
      refine ih (fun other hother => ?_) hname
      exact .replace hreplace ((List.mem_cons.mp hother).imp_right (hseen other))

/-- Nothing vanishes if every replacement has a word. -/
theorem not_vanishes_of_ne_nil (h : ∀ name replacement, replace? name = some replacement →
    replacement ≠ []) (hwords : words ≠ []) : ¬ Vanishes replace? words := by
  rintro ⟨trace, htrace, hnames⟩
  induction htrace with
  | nil => exact hwords rfl
  | plain hplain => simpa [hplain] using hnames _ (List.mem_cons_self ..)
  | name hname later ih =>
      refine ih ?_ fun word hword => hnames word (List.mem_cons_of_mem _ hword)
      simp [h _ _ hname]

end

/-! ## Aliases -/

namespace Aliases

variable {aliases : Aliases} {segment : List Token}

/-- A store has finitely many names. -/
theorem finite_names (aliases : Aliases) : {name | (aliases.replacement? name).isSome}.Finite := by
  refine aliases.slots.keys.finite_toSet.subset ?_
  intro name hname
  refine Std.HashMap.mem_keys.mpr (Std.HashMap.mem_iff_isSome_getElem?.mpr ?_)
  cases hslot : aliases.slots[name]? with
  | none => simp [replacement?, get?, entry?, hslot] at hname
  | some slot => rfl

/-- The segment is resolved before the limit stops that. -/
def StaysInLimit (aliases : Aliases) (segment : List Token) : Prop :=
  ∃ n ≤ resolutionLimit, ∃ result, Resolves aliases.replacement? [] segment n result

/-- A segment that does not use up the limit stays in it. -/
theorem staysInLimit_of_countReplaced_lt
    (h : countReplaced aliases.replacement? resolutionLimit [] segment < resolutionLimit) :
    aliases.StaysInLimit segment :=
  ⟨_, h.le, _, resolves_of_countReplaced_lt h⟩

/-- **No alias is left in a segment exactly if none comes up twice in one place**, where no alias leads
back to itself and the limit is not reached. An alias that is left stands for nothing. So none is left if
each alias stands for some word. -/
theorem resolve_complete_iff (hacyclic : IsAcyclic aliases.replacement?)
    (hhead : segment.head? ≠ some definer) (hlimit : aliases.StaysInLimit segment) :
    (∃ trace, Visits aliases.replacement? segment trace ∧
      ((∀ word ∈ aliases.resolve segment, aliases.get? word = none) ↔
        HasNoRepeat aliases.replacement? trace)) ∧
    (∀ word ∈ aliases.resolve segment, (aliases.get? word).isSome →
      Vanishes aliases.replacement? [word]) ∧
    ((∀ name value, aliases.get? name = some value → tokens value ≠ []) →
      ∀ word ∈ aliases.resolve segment, aliases.get? word = none) := by
  obtain ⟨n, hn, result, hresolves⟩ := hlimit
  have hresult : aliases.resolve segment = result := by
    rw [resolve, if_neg hhead, hresolves.resolveWith_eq hn]
  have hvanish : ∀ word ∈ result, (aliases.get? word).isSome →
      Vanishes aliases.replacement? [word] := by
    intro word hword hsome
    exact hresolves.vanishes_of_isSome hacyclic (by simp) hword (by simpa [replacement?] using hsome)
  rw [hresult]
  refine ⟨?_, hvanish, ?_⟩
  · obtain ⟨trace, htrace⟩ := exists_visits_of_isAcyclic aliases.finite_names hacyclic segment
    have hiff := hresolves.all_none_iff htrace (by simp) List.nodup_nil
    exact ⟨trace, htrace, by simpa [replacement?_eq_none_iff] using hiff⟩
  · intro hwords word hword
    by_contra hsome
    refine not_vanishes_of_ne_nil ?_ (List.cons_ne_nil word [])
      (hvanish word hword (Option.isSome_iff_ne_none.mpr hsome))
    intro name replacement hreplacement
    obtain ⟨value, hvalue, rfl⟩ := Option.map_eq_some_iff.mp hreplacement
    exact hwords name value hvalue

/-- With `a` for `b` and `b` for `echo it`, no alias is left of `a a`. -/
theorem resolve_complete_iff_of_chain :
    let aliases := (empty.add ['a'] ['b']).add ['b'] "echo it".toList
    IsAcyclic aliases.replacement? ∧ aliases.StaysInLimit [['a'], ['a']] ∧
      ∀ word ∈ aliases.resolve [['a'], ['a']], aliases.get? word = none := by
  intro aliases
  have hget : ∀ word, aliases.get? word =
      if word = ['b'] then some "echo it".toList else if word = ['a'] then some ['b'] else none :=
    get?_add_add (by decide)
  have hvalue : ∀ name value, aliases.get? name = some value →
      name = ['b'] ∧ value = "echo it".toList ∨ name = ['a'] ∧ value = ['b'] := by
    intro name value h
    rw [hget] at h
    split at h
    · exact .inl ⟨‹_›, (Option.some.inj h).symm⟩
    split at h
    · exact .inr ⟨‹_›, (Option.some.inj h).symm⟩
    · simp at h
  have hb : aliases.replacement? ['b'] = some ["echo".toList, "it".toList] := by
    rw [replacement?, hget]; decide
  have ha : aliases.replacement? ['a'] = some [['b']] := by
    rw [replacement?, hget]; decide
  have hecho : aliases.replacement? "echo".toList = none := by
    rw [replacement?, hget]; decide
  have hit : aliases.replacement? "it".toList = none := by
    rw [replacement?, hget]; decide
  have hacyclic : IsAcyclic aliases.replacement? := by
    refine isAcyclic_of_rank (fun word => if word = ['a'] then 2 else if word = ['b'] then 1 else 0) ?_
    rintro name word ⟨replacement, hsome, hword⟩
    obtain ⟨value, h, rfl⟩ := Option.map_eq_some_iff.mp hsome
    obtain ⟨rfl, rfl⟩ | ⟨rfl, rfl⟩ := hvalue name value h
    · have : ∀ word ∈ tokens "echo it".toList, word ≠ ['a'] ∧ word ≠ ['b'] := by decide
      simp [this word hword]
    · have : ∀ word ∈ tokens ['b'], word = ['b'] := by decide
      simp [this word hword]
  have hlimit : aliases.StaysInLimit [['a'], ['a']] := by
    refine ⟨4, by decide, ["echo".toList, "it".toList, "echo".toList, "it".toList], ?_⟩
    have hlast : Resolves aliases.replacement? [] [['a']] 2 ["echo".toList, "it".toList] :=
      .replace ha (by decide) (.replace hb (by decide) (.keep (.inl hecho) (.keep (.inl hit) (.nil _))))
    exact .replace ha (by decide) (.replace hb (by decide) (.keep (.inl hecho) (.keep (.inl hit) hlast)))
  obtain ⟨-, -, hcomplete⟩ := resolve_complete_iff hacyclic (by decide) hlimit
  refine ⟨hacyclic, hlimit, hcomplete ?_⟩
  intro name value h
  obtain ⟨rfl, rfl⟩ | ⟨rfl, rfl⟩ := hvalue name value h <;> decide

/-- With `n` for nothing, `n n` comes to `n`, although no alias leads back to itself and one word is
replaced only. -/
theorem alias_of_nothing_stays :
    let aliases := empty.add ['n'] []
    IsAcyclic aliases.replacement? ∧ aliases.StaysInLimit [['n'], ['n']] ∧
      aliases.resolve [['n'], ['n']] = [['n']] ∧ aliases.get? ['n'] = some [] := by
  intro aliases
  have hget : ∀ word, aliases.get? word = if word = ['n'] then some [] else none :=
    get?_add_empty ['n'] []
  have hn : aliases.replacement? ['n'] = some [] := by
    rw [replacement?, hget]; decide
  have hacyclic : IsAcyclic aliases.replacement? := by
    refine isAcyclic_of_rank (fun _ => 0) ?_
    rintro name word ⟨replacement, hsome, hword⟩
    rw [replacement?, hget] at hsome
    split at hsome
    · obtain rfl := Option.some.inj hsome
      simp at hword
    · simp at hsome
  have hresolves : Resolves aliases.replacement? [] [['n'], ['n']] 1 [['n']] :=
    .replace hn (by decide) (.keep (.inr (by decide)) (.nil _))
  refine ⟨hacyclic, ⟨1, by decide, _, hresolves⟩, ?_, by rw [hget]; rfl⟩
  rw [resolve, if_neg (by decide), hresolves.resolveWith_eq (by decide)]

end Aliases

end CommandShell
