import CommandShell.Proofs.Aliases.Store
import CommandShell.Proofs.History
import Mathlib.Data.List.Dedup

/-!
# Alias stores after many definitions

Whatever has been defined, and however often, the index of a store leads to the entries and nowhere else.
So what it finds is what a search of the entries would find, and the entries are those of a table from
which nothing is removed: each name stands where it was first defined, with the value that it was given
last.

## Main definitions
* `Aliases.defined`: the store of a list of definitions.

## Main results
* `IsIndexed.entry?_eq_find?`: looking up is searching.
* `isTableOf_add`, `isTableOf_defined`: one more definition, all definitions.
* `defined_is_indexed_table`: the index and the entries after any definitions.
-/

namespace CommandShell.Aliases

/-- The store after definitions, one after the other. -/
def defined (definitions : List (Text × Text)) : Aliases :=
  definitions.foldl (fun store entry => store.add entry.1 entry.2) empty

/-! ## One store -/

namespace IsIndexed

variable {aliases : Aliases} (h : aliases.IsIndexed)

include h

/-- The index leads to entries. -/
theorem lt_size {name : Text} {slot : Nat} (hslot : aliases.slots[name]? = some slot) :
    slot < aliases.entries.size := by
  obtain ⟨entry, hentry, -⟩ := Option.map_eq_some_iff.mp ((h name slot).mp hslot)
  exact (Array.getElem?_eq_some_iff.mp hentry).1

theorem exists_slot {name : Text} (hname : name ∈ aliases.toList.map Prod.fst) :
    ∃ slot, aliases.slots[name]? = some slot := by
  obtain ⟨entry, hentry, rfl⟩ := List.mem_map.mp hname
  obtain ⟨slot, hslot⟩ := Array.mem_iff_getElem?.mp (Array.mem_toList_iff.mp hentry)
  exact ⟨slot, (h entry.1 slot).mpr (by rw [hslot]; rfl)⟩

/-- The index holds the names of the entries. -/
theorem mem_slots_iff {name : Text} : name ∈ aliases.slots ↔ name ∈ aliases.toList.map Prod.fst := by
  rw [Std.HashMap.mem_iff_isSome_getElem?, Option.isSome_iff_exists]
  refine ⟨fun ⟨slot, hslot⟩ => ?_, h.exists_slot⟩
  obtain ⟨entry, hentry, rfl⟩ := Option.map_eq_some_iff.mp ((h name slot).mp hslot)
  exact List.mem_map_of_mem (Array.mem_toList_iff.mpr (Array.mem_of_getElem? hentry))

/-- **Looking a name up is searching the entries.** -/
theorem entry?_eq_find? (name : Text) :
    aliases.entry? name = aliases.toList.find? fun entry => entry.1 == name :=
  Option.ext fun _ => by rw [h.entry?_eq_some_iff, find?_eq_some_iff_of_nodup h.nodup_names]

/-- A name that is there keeps its place. -/
theorem toList_add_of_mem {name : Text} (hname : name ∈ aliases.toList.map Prod.fst) (value : Text) :
    (aliases.add name value).toList =
      aliases.toList.map fun entry => if entry.1 = name then (name, value) else entry := by
  obtain ⟨slot, hslot⟩ := h.exists_slot hname
  rw [Aliases.add, hslot]
  refine List.ext_getElem? fun i => ?_
  rw [toList, toList, Array.getElem?_toList, Array.getElem?_modify, List.getElem?_map,
    Array.getElem?_toList]
  cases hentry : aliases.entries[i]? with
  | none => simp
  | some entry =>
      have hplace := h name i
      rw [hslot, hentry, Option.map_some, Option.some_inj, Option.some_inj] at hplace
      by_cases hi : slot = i
      · rw [if_pos hi, Option.map_some, Option.map_some, if_pos (hplace.mp hi), hplace.mp hi]
      · rw [if_neg hi, Option.map_some, if_neg (mt hplace.mpr hi)]

/-- **One more definition.** -/
theorem isTableOf_add {history : List (TableEvent Text Text)} (htable : IsTableOf history aliases.toList)
    (name value : Text) :
    IsTableOf (history ++ [.given name value]) (aliases.add name value).toList := by
  by_cases hname : name ∈ aliases.toList.map Prod.fst
  · rw [h.toList_add_of_mem hname]
    exact htable.overwrite hname value
  · rw [h.toList_add_of_not_mem hname]
    exact htable.append hname value

end IsIndexed

/-! ## Definitions alone -/

section

variable {definitions : List (Text × Text)} {name : Text}

/-- What has been done to the names of a store that was only added to. -/
abbrev givenAll (definitions : List (Text × Text)) : List (TableEvent Text Text) :=
  definitions.map fun entry => .given entry.1 entry.2

theorem isPresent_givenAll_iff :
    IsPresent (givenAll definitions) name ↔ name ∈ definitions.map Prod.fst := by
  induction definitions using List.reverseRecOn with
  | nil => simp [not_isPresent_nil]
  | append_singleton definitions entry ih =>
      rw [givenAll, List.map_append, List.map_singleton, isPresent_concat_given, ih, List.map_append,
        List.mem_append, or_comm]
      simp [eq_comm]

/-- The value given last is that of the last definition of the name. -/
theorem isLastValue_givenAll_iff {value : Text} :
    IsLastValue (givenAll definitions) name value ↔
      HasSince (fun later => later.1 ≠ name) definitions (name, value) := by
  induction definitions using List.reverseRecOn with
  | nil => simp [IsLastValue, not_hasSince_nil]
  | append_singleton definitions entry ih =>
      rw [givenAll, List.map_append, List.map_singleton, isLastValue_concat_iff, ih, hasSince_concat_iff,
        TableEvent.given.injEq, Prod.ext_iff]
      rfl

/-- A name comes in with its first definition. -/
theorem idxOf_of_isInsertedAt {moment : Nat} (h : IsInsertedAt (givenAll definitions) moment name) :
    (definitions.map Prod.fst).idxOf name = moment := by
  induction definitions using List.reverseRecOn with
  | nil => exact absurd h.lt_length (Nat.not_lt_zero _)
  | append_singleton definitions entry ih =>
      rw [givenAll, List.map_append, List.map_singleton, isInsertedAt_concat_iff] at h
      rw [List.map_append]
      rcases h with ⟨-, hold⟩ | ⟨value, hentry, rfl, habsent⟩
      · rw [List.idxOf_append_of_mem (isPresent_givenAll_iff.mp hold.isPresent), ih hold]
      · have hnew : name ∉ definitions.map Prod.fst := fun hname =>
          habsent (isPresent_givenAll_iff.mpr hname)
        rw [List.idxOf_append_of_notMem hnew]
        simp [(TableEvent.given.inj hentry).1]

/-- The order in which names come in is that of their first definitions. -/
theorem idxOf_lt_of_comesInBefore {later : Text} (h : ComesInBefore (givenAll definitions) name later) :
    (definitions.map Prod.fst).idxOf name < (definitions.map Prod.fst).idxOf later := by
  obtain ⟨moment, moment', hfirst, hlater, hlt⟩ := h
  rwa [idxOf_of_isInsertedAt hfirst, idxOf_of_isInsertedAt hlater]

end

/-- **The store is indexed, and is the table of its definitions.** -/
theorem isTableOf_defined (definitions : List (Text × Text)) :
    (defined definitions).IsIndexed ∧
      IsTableOf (givenAll definitions) (defined definitions).toList := by
  rw [givenAll, List.map_eq_flatMap]
  exact foldl_follows
    (motive := fun history (store : Aliases) => store.IsIndexed ∧ IsTableOf history store.toList)
    ⟨isIndexed_empty, isTableOf_nil⟩
    (fun _ _ entry ⟨h, htable⟩ => ⟨h.add entry.1 entry.2, h.isTableOf_add htable entry.1 entry.2⟩)
    definitions

/-- **The index and the entries of a store never come apart**, whatever has been defined. The index holds
the names of the entries and leads from each to the one slot that holds it, so it never leads beyond the
entries, and what it finds is what a search of the entries finds. No name stands twice, there are as many
as have been defined, and they stand in the order of their first definitions, each with the value of its
last one. -/
theorem defined_is_indexed_table (definitions : List (Text × Text)) :
    let store := defined definitions
    let names := store.toList.map Prod.fst
    (∀ name, name ∈ store.slots ↔ name ∈ names) ∧
    (∀ (name : Text) (slot : Nat),
      store.slots[name]? = some slot ↔ (store.entries[slot]?).map Prod.fst = some name) ∧
    (∀ (name : Text) (slot : Nat), store.slots[name]? = some slot → slot < store.entries.size) ∧
    (∀ name, store.entry? name = store.toList.find? fun entry => entry.1 == name) ∧
    (∀ name, store.get? name = (store.toList.find? fun entry => entry.1 == name).map Prod.snd) ∧
    names.Nodup ∧ store.size = (definitions.map Prod.fst).dedup.length ∧
    (∀ name, name ∈ names ↔ name ∈ definitions.map Prod.fst) ∧
    (names.Pairwise fun name later =>
      (definitions.map Prod.fst).idxOf name < (definitions.map Prod.fst).idxOf later) ∧
    ∀ name value, (name, value) ∈ store.toList ↔
      ∃ before after, definitions = before ++ (name, value) :: after ∧
        ∀ later ∈ after, later.1 ≠ name := by
  intro store names
  obtain ⟨hindexed, htable⟩ := isTableOf_defined definitions
  have hnames : ∀ name, name ∈ names ↔ name ∈ definitions.map Prod.fst := fun name =>
    (htable.mem_names_iff name).trans isPresent_givenAll_iff
  refine ⟨fun name => hindexed.mem_slots_iff, hindexed, fun name slot => hindexed.lt_size,
    hindexed.entry?_eq_find?, fun name => ?_, hindexed.nodup_names, ?_, hnames, ?_, fun name value =>
      (htable.mem_iff name value).trans isLastValue_givenAll_iff⟩
  · rw [get?, hindexed.entry?_eq_find?]
  · have hperm : names.Perm (definitions.map Prod.fst).dedup :=
      (List.perm_ext_iff_of_nodup hindexed.nodup_names (List.nodup_dedup _)).mpr fun name => by
        rw [hnames, List.mem_dedup]
    rw [← hperm.length_eq, List.length_map]
    rfl
  · exact htable.inOrder.imp idxOf_lt_of_comesInBefore

/-- A name that is defined again keeps its slot in front of the others, with its later value. -/
theorem defined_is_indexed_table_of_redefinition :
    let first := "ll".toList
    let second := "gs".toList
    let store := defined
      [(first, "ls -la".toList), (second, "git status".toList), (first, "ls -l".toList)]
    store.toList = [(first, "ls -l".toList), (second, "git status".toList)] ∧
      store.slots[first]? = some 0 ∧ 0 < store.entries.size ∧ store.size = 2 ∧
      store.get? first = some "ls -l".toList := by
  intro first second store
  have hlist : store.toList = [(first, "ls -l".toList), (second, "git status".toList)] := by
    have hone := isIndexed_empty.add first "ls -la".toList
    have htwo := hone.add second "git status".toList
    have hfirst : (empty.add first "ls -la".toList).toList = [(first, "ls -la".toList)] :=
      isIndexed_empty.toList_add_of_not_mem List.not_mem_nil _
    have hsecond : ((empty.add first "ls -la".toList).add second "git status".toList).toList =
        [(first, "ls -la".toList), (second, "git status".toList)] := by
      rw [hone.toList_add_of_not_mem (by rw [hfirst]; decide), hfirst]
      rfl
    refine (htwo.toList_add_of_mem (by rw [hsecond]; decide) _).trans ?_
    rw [hsecond]
    decide
  obtain ⟨-, hslot, hbound, -, hget, -, hsize, -⟩ := defined_is_indexed_table
    [(first, "ls -la".toList), (second, "git status".toList), (first, "ls -l".toList)]
  have hentry : store.entries[0]? = some (first, "ls -l".toList) := by
    rw [← Array.getElem?_toList]
    exact congrArg (·[0]?) hlist
  have hfirst : store.slots[first]? = some 0 := (hslot first 0).mpr (by rw [hentry]; rfl)
  refine ⟨hlist, hfirst, hbound first 0 hfirst, hsize.trans (by decide), ?_⟩
  rw [hget, hlist]
  decide

end CommandShell.Aliases
