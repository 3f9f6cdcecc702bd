import CommandShell.Aliases
import Mathlib.Data.List.Nodup

/-!
# Alias stores

The index of a store leads from each name to the slot that holds it, and to no other. So a name has one
slot, the entries alone tell what is found, and defining the entries of one store in another, one by one
and in their order, rebuilds the store.

## Main definitions
* `Aliases.IsIndexed`: the index agrees with the entries.

## Main results
* `eq_or_get?_of_get?_add`: where a value comes from.
* `isIndexed_empty`, `IsIndexed.add`: every store that definitions build is indexed.
* `IsIndexed.get?_eq_some_iff`: a value is found if it stands in the store.
* `IsIndexed.toList_foldl_add`: definitions stand in the order in which they were made.
* `IsIndexed.rebuilt`: a store is rebuilt from its definitions.
-/

namespace CommandShell.Aliases

/-- The index leads from each name to the slot that holds it. -/
def IsIndexed (aliases : Aliases) : Prop :=
  ∀ (name : Text) (slot : Nat), aliases.slots[name]? = some slot ↔
    (aliases.entries[slot]?).map Prod.fst = some name

theorem isIndexed_empty : empty.IsIndexed := by
  intro name slot
  simp [empty]

/-- A value that is found is the one that was defined last, or was found before. -/
theorem eq_or_get?_of_get?_add {aliases : Aliases} {name value other found : Text}
    (h : (aliases.add name value).get? other = some found) :
    found = value ∨ aliases.get? other = some found := by
  obtain ⟨entry, hentry, rfl⟩ := Option.map_eq_some_iff.mp h
  obtain ⟨slot, hslot, hentry⟩ := Option.bind_eq_some_iff.mp hentry
  rw [add] at hslot hentry
  cases hname : aliases.slots[name]? with
  | some place =>
      simp only [hname] at hslot hentry
      rw [Array.getElem?_modify] at hentry
      split at hentry
      · obtain ⟨old, -, rfl⟩ := Option.map_eq_some_iff.mp hentry
        exact .inl rfl
      · exact .inr (by simp [get?, entry?, hslot, hentry])
  | none =>
      simp only [hname] at hslot hentry
      rw [Array.getElem?_push] at hentry
      split at hentry
      · obtain rfl := Option.some.inj hentry
        exact .inl rfl
      · rename_i hplace
        rw [Std.HashMap.getElem?_insert] at hslot
        split at hslot
        · exact absurd (Option.some.inj hslot).symm hplace
        · exact .inr (by simp [get?, entry?, hslot, hentry])

namespace IsIndexed

variable {aliases : Aliases} (h : aliases.IsIndexed)

include h

/-- **Defining a name keeps a store indexed.** A name that is there keeps its slot, and another one takes
the slot behind the last. -/
theorem add (name value : Text) : (aliases.add name value).IsIndexed := by
  intro other slot
  rw [Aliases.add]
  cases hslot : aliases.slots[name]? with
  | some found =>
      have hname : ((aliases.entries.modify found fun e => (e.1, value))[slot]?).map Prod.fst =
          (aliases.entries[slot]?).map Prod.fst := by
        rw [Array.getElem?_modify]
        split
        · simp [Option.map_map, Function.comp_def]
        · rfl
      exact (h other slot).trans (by rw [hname])
  | none =>
      have habsent : (aliases.entries[slot]?).map Prod.fst ≠ some name := fun heq => by
        simp [(h name slot).mpr heq] at hslot
      show (aliases.slots.insert name aliases.entries.size)[other]? = some slot ↔
        ((aliases.entries.push (name, value))[slot]?).map Prod.fst = some other
      rw [Std.HashMap.getElem?_insert, Array.getElem?_push]
      by_cases hother : name = other
      · subst hother
        by_cases hlast : slot = aliases.entries.size
        · simp [hlast]
        · simpa [hlast, Ne.symm hlast] using habsent
      · by_cases hlast : slot = aliases.entries.size
        · have hbeyond := h other slot
          simp only [hlast, Array.getElem?_eq_none (Nat.le_refl _), Option.map_none, reduceCtorEq,
            iff_false] at hbeyond
          simp [hlast, hother, hbeyond]
        · simpa [hlast, hother] using h other slot

/-- The entry that is found is that of the name. -/
theorem entry?_eq_some_iff {name : Text} {entry : Text × Text} :
    aliases.entry? name = some entry ↔ entry ∈ aliases.toList ∧ entry.1 = name := by
  rw [toList, Array.mem_toList_iff, Array.mem_iff_getElem?]
  constructor
  · intro hfound
    obtain ⟨slot, hslot, hentry⟩ := Option.bind_eq_some_iff.mp hfound
    have hname := (h name slot).mp hslot
    rw [hentry, Option.map_some, Option.some_inj] at hname
    exact ⟨⟨slot, hentry⟩, hname⟩
  · rintro ⟨⟨slot, hentry⟩, rfl⟩
    have hslot : aliases.slots[entry.1]? = some slot := (h entry.1 slot).mpr (by rw [hentry]; rfl)
    simp [hslot, hentry, entry?]

/-- **A value is found if it stands in the store.** -/
theorem get?_eq_some_iff {name value : Text} :
    aliases.get? name = some value ↔ (name, value) ∈ aliases.toList := by
  rw [get?, Option.map_eq_some_iff]
  constructor
  · rintro ⟨entry, hfound, rfl⟩
    obtain ⟨hentry, rfl⟩ := h.entry?_eq_some_iff.mp hfound
    exact hentry
  · intro hentry
    exact ⟨(name, value), h.entry?_eq_some_iff.mpr ⟨hentry, rfl⟩, rfl⟩

/-- Stores with the same definitions find the same values. -/
theorem get?_eq {other : Aliases} (hother : other.IsIndexed) (heq : other.toList = aliases.toList)
    (name : Text) : other.get? name = aliases.get? name :=
  Option.ext fun value => by rw [h.get?_eq_some_iff, hother.get?_eq_some_iff, heq]

/-- **No name has two definitions.** -/
theorem nodup_names : (aliases.toList.map Prod.fst).Nodup := by
  rw [List.nodup_iff_getElem?_ne_getElem?]
  intro i j hij hj heq
  have hname : ∀ slot, (aliases.toList.map Prod.fst)[slot]? =
      (aliases.entries[slot]?).map Prod.fst := fun slot => by
    rw [toList, List.getElem?_map, Array.getElem?_toList]
  have hlast := List.getElem?_eq_getElem hj
  have hfirst := heq.trans hlast
  rw [hname, ← h] at hfirst hlast
  rw [hfirst, Option.some_inj] at hlast
  omega

/-- A new name stands behind all others. -/
theorem toList_add_of_not_mem {name : Text} (hname : name ∉ aliases.toList.map Prod.fst)
    (value : Text) : (aliases.add name value).toList = aliases.toList ++ [(name, value)] := by
  have hslot : aliases.slots[name]? = none := by
    rw [Option.eq_none_iff_forall_ne_some]
    intro slot hslot
    obtain ⟨entry, hentry, rfl⟩ := Option.map_eq_some_iff.mp ((h name slot).mp hslot)
    exact hname (List.mem_map_of_mem (Array.mem_toList_iff.mpr (Array.mem_of_getElem? hentry)))
  rw [Aliases.add, hslot]
  simp [toList]

/-- **Definitions of new names stand behind each other, in the order in which they were made.** -/
theorem toList_foldl_add {definitions : List (Text × Text)}
    (hnames : ((aliases.toList ++ definitions).map Prod.fst).Nodup) :
    (definitions.foldl (fun store entry => store.add entry.1 entry.2) aliases).IsIndexed ∧
      (definitions.foldl (fun store entry => store.add entry.1 entry.2) aliases).toList =
        aliases.toList ++ definitions := by
  induction definitions generalizing aliases with
  | nil => exact ⟨h, by simp⟩
  | cons entry rest ih =>
      have hentry : entry.1 ∉ aliases.toList.map Prod.fst := by
        rw [List.map_append, List.nodup_append] at hnames
        exact fun hmem => hnames.2.2 _ hmem _ (List.mem_cons_self ..) rfl
      have hadd := h.toList_add_of_not_mem hentry entry.2
      obtain ⟨hindexed, hlist⟩ := ih (h.add entry.1 entry.2) (by simpa [hadd] using hnames)
      exact ⟨hindexed, by simpa [hadd] using hlist⟩

/-- **A store is rebuilt from its definitions**, made in their order. -/
theorem rebuilt :
    let store := aliases.toList.foldl (fun store entry => store.add entry.1 entry.2) empty
    store.toList = aliases.toList ∧ ∀ name, store.get? name = aliases.get? name := by
  have hnames : ((empty.toList ++ aliases.toList).map Prod.fst).Nodup := by
    simpa using h.nodup_names
  obtain ⟨hindexed, hlist⟩ := isIndexed_empty.toList_foldl_add hnames
  rw [toList_empty, List.nil_append] at hlist
  exact ⟨hlist, h.get?_eq hindexed hlist⟩

end IsIndexed

end CommandShell.Aliases
