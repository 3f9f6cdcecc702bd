import Mathlib.Data.List.Induction
import Mathlib.Data.List.Nodup
import Mathlib.Tactic.Choose

/-!
# Tables and their histories

A table gives values to names. What has been done to it is a history: names were given values, one by
one, and were removed. The history alone tells which names the table has, with which values and in which
order, as long as an overwritten entry keeps its place and a new one stands behind all others.

## Main definitions
* `TableEvent`: a name is given a value, or is removed.
* `HasSince`: what has happened, and what all that came later is like.
* `IsPresent`, `IsLastValue`, `IsInsertedAt`: what a history says of a name.
* `ComesInBefore`: the order of two names.
* `IsTableOf`: the table that a history leads to.

## Main results
* `foldl_follows`: what every step keeps, a run keeps.
* `IsInsertedAt.unique`: a name comes in at one moment.
* `IsTableOf.overwrite`, `IsTableOf.append`, `IsTableOf.remove`: one more event.
* `IsTableOf.exists_moment`: the order of the names.
-/

namespace CommandShell

/-- What is done to a name of a table. -/
inductive TableEvent (α β : Type)
  | given (name : α) (value : β)
  | removed (name : α)

namespace TableEvent

variable {α β : Type}

/-- The name to which it is done. -/
def name : TableEvent α β → α
  | given name _ | removed name => name

end TableEvent

/-! ## What has happened -/

section

variable {γ : Type} {P : γ → Prop} {history : List γ} {event last : γ}

/-- The event has happened, and all that came later is as stated. -/
def HasSince (P : γ → Prop) (history : List γ) (event : γ) : Prop :=
  ∃ before after, history = before ++ event :: after ∧ ∀ later ∈ after, P later

/-- An event of a history is the last one, or one of those before it. -/
theorem concat_eq_append_cons_iff {before after : List γ} :
    history ++ [last] = before ++ event :: after ↔
      (after = [] ∧ history = before ∧ last = event) ∨
        ∃ front, after = front ++ [last] ∧ history = before ++ event :: front := by
  constructor
  · intro h
    rcases List.eq_nil_or_concat after with rfl | ⟨front, later, rfl⟩
    · obtain ⟨hbefore, hlast⟩ := List.append_inj' h rfl
      exact .inl ⟨rfl, hbefore, (List.cons.inj hlast).1⟩
    · rw [List.concat_eq_append, ← List.cons_append, ← List.append_assoc] at h
      obtain ⟨hhistory, hlast⟩ := List.append_inj' h rfl
      exact .inr ⟨front, by rw [List.concat_eq_append, hlast], hhistory⟩
  · rintro (⟨rfl, rfl, rfl⟩ | ⟨front, rfl, rfl⟩)
    · rfl
    · simp

theorem not_hasSince_nil : ¬ HasSince P [] event := by
  rintro ⟨before, after, h, -⟩
  simp at h

/-- What has happened is the last event, or had happened before it. -/
theorem hasSince_concat_iff :
    HasSince P (history ++ [last]) event ↔ last = event ∨ P last ∧ HasSince P history event := by
  simp only [HasSince, concat_eq_append_cons_iff]
  constructor
  · rintro ⟨before, after, ⟨-, -, heq⟩ | ⟨front, rfl, hhistory⟩, hafter⟩
    · exact .inl heq
    · exact .inr ⟨hafter last (by simp), before, front, hhistory, fun x hx => hafter x (by simp [hx])⟩
  · rintro (rfl | ⟨hlast, before, after, hhistory, hafter⟩)
    · exact ⟨history, [], .inl ⟨rfl, rfl, rfl⟩, by simp⟩
    · refine ⟨before, after ++ [last], .inr ⟨after, rfl, hhistory⟩, fun later hlater => ?_⟩
      rcases List.mem_append.mp hlater with hlater | hlater
      · exact hafter later hlater
      · rwa [List.mem_singleton.mp hlater]

/-- **What every step keeps while it adds its events, a run of steps keeps.** -/
theorem foldl_follows {σ ι : Type} {motive : List γ → σ → Prop} {step : σ → ι → σ}
    {events : ι → List γ} {s : σ} (h : motive history s)
    (hstep : ∀ history s i, motive history s → motive (history ++ events i) (step s i))
    (steps : List ι) : motive (history ++ steps.flatMap events) (steps.foldl step s) := by
  induction steps generalizing history s with
  | nil => simpa using h
  | cons i rest ih => simpa using ih (hstep history s i h)

end

section

variable {α β : Type} {history : List (TableEvent α β)} {event : TableEvent α β} {name other : α}
  {value : β} {moment : Nat}

/-- The name has been given a value, and has not been removed since. -/
def IsPresent (history : List (TableEvent α β)) (name : α) : Prop :=
  ∃ value, HasSince (· ≠ .removed name) history (.given name value)

/-- The name has been given this value, and nothing has been done to the name since. -/
def IsLastValue (history : List (TableEvent α β)) (name : α) (value : β) : Prop :=
  HasSince (fun later => later.name ≠ name) history (.given name value)

/-- At this moment the name was given a value while it was not present, and it has not been removed
since. -/
def IsInsertedAt (history : List (TableEvent α β)) (moment : Nat) (name : α) : Prop :=
  ∃ before value after, history = before ++ .given name value :: after ∧ before.length = moment ∧
    ¬ IsPresent before name ∧ .removed name ∉ after

/-- Both names have come in and are still there, the first one before the other. -/
def ComesInBefore (history : List (TableEvent α β)) (name later : α) : Prop :=
  ∃ moment moment', IsInsertedAt history moment name ∧ IsInsertedAt history moment' later ∧
    moment < moment'

theorem not_isPresent_nil : ¬ IsPresent ([] : List (TableEvent α β)) name :=
  fun ⟨_, h⟩ => not_hasSince_nil h

theorem isPresent_concat_given :
    IsPresent (history ++ [.given other value]) name ↔ other = name ∨ IsPresent history name := by
  simp only [IsPresent, hasSince_concat_iff, TableEvent.given.injEq, ne_eq, reduceCtorEq,
    not_false_eq_true, true_and, exists_or, exists_and_left, exists_eq', and_true]

theorem isPresent_concat_removed :
    IsPresent (history ++ [.removed other]) name ↔ other ≠ name ∧ IsPresent history name := by
  simp [IsPresent, hasSince_concat_iff]

theorem isLastValue_concat_iff :
    IsLastValue (history ++ [event]) name value ↔
      event = .given name value ∨ event.name ≠ name ∧ IsLastValue history name value :=
  hasSince_concat_iff

/-- A name comes in with the last event, or has come in before it and stays. -/
theorem isInsertedAt_concat_iff :
    IsInsertedAt (history ++ [event]) moment name ↔
      (event ≠ .removed name ∧ IsInsertedAt history moment name) ∨
        ∃ value, event = .given name value ∧ moment = history.length ∧ ¬ IsPresent history name := by
  simp only [IsInsertedAt, concat_eq_append_cons_iff]
  constructor
  · rintro ⟨before, value, after, ⟨-, rfl, rfl⟩ | ⟨front, rfl, hhistory⟩, hmoment, habsent, hafter⟩
    · exact .inr ⟨value, rfl, hmoment.symm, habsent⟩
    · obtain ⟨hfront, hevent⟩ : .removed name ∉ front ∧ .removed name ≠ event := by simpa using hafter
      exact .inl ⟨hevent.symm, before, value, front, hhistory, hmoment, habsent, hfront⟩
  · rintro (⟨hevent, before, value, after, hhistory, hmoment, habsent, hafter⟩ |
      ⟨value, rfl, rfl, habsent⟩)
    · exact ⟨before, value, after ++ [event], .inr ⟨after, rfl, hhistory⟩, hmoment, habsent,
        by simp [hafter, hevent.symm]⟩
    · exact ⟨history, value, [], .inl ⟨rfl, rfl, rfl⟩, rfl, habsent, by simp⟩

/-- The names that are not removed stay where they have come in. -/
theorem IsInsertedAt.concat (h : IsInsertedAt history moment name) (hevent : event ≠ .removed name) :
    IsInsertedAt (history ++ [event]) moment name :=
  isInsertedAt_concat_iff.mpr (.inl ⟨hevent, h⟩)

theorem IsInsertedAt.lt_length (h : IsInsertedAt history moment name) : moment < history.length := by
  obtain ⟨before, value, after, rfl, rfl, -⟩ := h
  simp

theorem IsInsertedAt.isPresent (h : IsInsertedAt history moment name) : IsPresent history name := by
  obtain ⟨before, value, after, rfl, -, -, hafter⟩ := h
  exact ⟨value, before, after, rfl, fun event hevent heq => hafter (heq ▸ hevent)⟩

/-- **A name comes in at one moment**: it cannot come in while it is present. -/
theorem IsInsertedAt.unique {moment' : Nat} (h : IsInsertedAt history moment name)
    (h' : IsInsertedAt history moment' name) : moment = moment' := by
  induction history using List.reverseRecOn with
  | nil => exact absurd h.lt_length (Nat.not_lt_zero _)
  | append_singleton history event ih =>
      rcases isInsertedAt_concat_iff.mp h with ⟨-, hold⟩ | ⟨value, -, rfl, habsent⟩ <;>
        rcases isInsertedAt_concat_iff.mp h' with ⟨-, hold'⟩ | ⟨value', -, rfl, habsent'⟩
      · exact ih hold hold'
      · exact absurd hold.isPresent habsent'
      · exact absurd hold'.isPresent habsent
      · rfl

/-- A name that is present has come in. -/
theorem IsPresent.exists_isInsertedAt (h : IsPresent history name) :
    ∃ moment, IsInsertedAt history moment name := by
  induction history using List.reverseRecOn with
  | nil => exact absurd h not_isPresent_nil
  | append_singleton history event ih =>
      cases event with
      | given other value =>
          by_cases hpresent : IsPresent history name
          · obtain ⟨moment, hmoment⟩ := ih hpresent
            exact ⟨moment, hmoment.concat nofun⟩
          · obtain rfl := (isPresent_concat_given.mp h).resolve_right hpresent
            exact ⟨_, isInsertedAt_concat_iff.mpr (.inr ⟨value, rfl, rfl, hpresent⟩)⟩
      | removed other =>
          obtain ⟨hne, hpresent⟩ := isPresent_concat_removed.mp h
          obtain ⟨moment, hmoment⟩ := ih hpresent
          exact ⟨moment, hmoment.concat (by simpa using hne)⟩

end

/-! ## Tables -/

section

variable {α β : Type} {history : List (TableEvent α β)} {table : List (α × β)} {name : α}

/-- The table to which the history leads, from one without entries. -/
structure IsTableOf (history : List (TableEvent α β)) (table : List (α × β)) : Prop where
  nodup_names : (table.map Prod.fst).Nodup
  mem_names_iff (name : α) : name ∈ table.map Prod.fst ↔ IsPresent history name
  mem_iff (name : α) (value : β) : (name, value) ∈ table ↔ IsLastValue history name value
  /-- The names stand in the order in which they came in. -/
  inOrder : (table.map Prod.fst).Pairwise (ComesInBefore history)

/-- Where no name stands twice, a search finds the entry of a name. -/
theorem find?_eq_some_iff_of_nodup [BEq α] [LawfulBEq α] (h : (table.map Prod.fst).Nodup)
    {entry : α × β} :
    (table.find? fun entry => entry.1 == name) = some entry ↔ entry ∈ table ∧ entry.1 = name := by
  constructor
  · intro hfind
    exact ⟨List.mem_of_find?_eq_some hfind, by simpa using List.find?_some hfind⟩
  · rintro ⟨hentry, rfl⟩
    obtain ⟨found, hfind⟩ : ∃ found, (table.find? fun other => other.1 == entry.1) = some found :=
      Option.isSome_iff_exists.mp (List.find?_isSome.mpr ⟨entry, hentry, by simp⟩)
    have hname : found.1 = entry.1 := by simpa using List.find?_some hfind
    rw [hfind, List.inj_on_of_nodup_map h (List.mem_of_find?_eq_some hfind) hentry hname]

/-- Another value for a name changes no name. -/
theorem names_overwrite [DecidableEq α] (table : List (α × β)) (name : α) (value : β) :
    (table.map fun entry => if entry.1 = name then (name, value) else entry).map Prod.fst =
      table.map Prod.fst := by
  rw [List.map_map]
  refine List.map_congr_left fun entry _ => ?_
  rw [Function.comp_apply]
  split
  · rename_i heq
    exact heq.symm
  · rfl

theorem isTableOf_nil : IsTableOf ([] : List (TableEvent α β)) [] where
  nodup_names := List.nodup_nil
  mem_names_iff _ := by simp [not_isPresent_nil]
  mem_iff _ _ := by simp [IsLastValue, not_hasSince_nil]
  inOrder := .nil

namespace IsTableOf

variable (h : IsTableOf history table)

include h

/-- **The names stand in the order of their moments.** -/
theorem exists_moment : ∃ moment : α → Nat,
    (∀ name ∈ table.map Prod.fst, ∀ place, IsInsertedAt history place name ↔ place = moment name) ∧
      (table.map Prod.fst).Pairwise fun name later => moment name < moment later := by
  have hexists : ∀ name ∈ table.map Prod.fst, ∃ moment, IsInsertedAt history moment name :=
    fun name hname => ((h.mem_names_iff name).mp hname).exists_isInsertedAt
  choose! moment hmoment using hexists
  refine ⟨moment, fun name hname place => ⟨fun hplace => hplace.unique (hmoment name hname), ?_⟩, ?_⟩
  · rintro rfl
    exact hmoment name hname
  · refine h.inOrder.imp_of_mem fun {name later} hname hlater ⟨_, _, hfirst, hsecond, hlt⟩ => ?_
    rwa [hfirst.unique (hmoment name hname), hsecond.unique (hmoment later hlater)] at hlt

/-- Names of the table that are not removed keep their order. -/
theorem pairwise_concat {names : List α} (hnames : names.Sublist (table.map Prod.fst))
    {event : TableEvent α β} (hevent : ∀ name ∈ names, event ≠ .removed name) :
    names.Pairwise (ComesInBefore (history ++ [event])) :=
  (h.inOrder.sublist hnames).imp_of_mem
    fun hname hlater ⟨moment, moment', hfirst, hsecond, hlt⟩ =>
      ⟨moment, moment', hfirst.concat (hevent _ hname), hsecond.concat (hevent _ hlater), hlt⟩

/-- **A name that is there keeps its place** when it is given another value. -/
theorem overwrite [DecidableEq α] (hname : name ∈ table.map Prod.fst) (value : β) :
    IsTableOf (history ++ [.given name value])
      (table.map fun entry => if entry.1 = name then (name, value) else entry) := by
  have hnames := names_overwrite table name value
  refine ⟨hnames ▸ h.nodup_names, fun other => ?_, fun other value' => ?_, ?_⟩
  · rw [hnames, isPresent_concat_given, h.mem_names_iff]
    exact ⟨.inr, fun hcases => hcases.elim (fun heq => heq ▸ (h.mem_names_iff name).mp hname) id⟩
  · rw [isLastValue_concat_iff, ← h.mem_iff, List.mem_map, TableEvent.given.injEq]
    constructor
    · rintro ⟨entry, hentry, heq⟩
      split at heq
      · exact .inl (Prod.mk.inj heq)
      · rename_i hne
        obtain rfl := heq
        exact .inr ⟨Ne.symm hne, hentry⟩
    · rintro (⟨rfl, rfl⟩ | ⟨hne, hentry⟩)
      · obtain ⟨entry, hentry, rfl⟩ := List.mem_map.mp hname
        exact ⟨entry, hentry, if_pos rfl⟩
      · exact ⟨_, hentry, if_neg (Ne.symm hne)⟩
  · rw [hnames]
    exact h.pairwise_concat (.refl _) fun _ _ => nofun

/-- **A new name stands behind all others.** -/
theorem append (hname : name ∉ table.map Prod.fst) (value : β) :
    IsTableOf (history ++ [.given name value]) (table ++ [(name, value)]) := by
  have habsent : ¬ IsPresent history name := fun hpresent => hname ((h.mem_names_iff name).mpr hpresent)
  have hnames : (table ++ [(name, value)]).map Prod.fst = table.map Prod.fst ++ [name] := by simp
  refine ⟨?_, fun other => ?_, fun other value' => ?_, ?_⟩
  · rw [hnames, ← List.concat_eq_append]
    exact h.nodup_names.concat hname
  · rw [hnames, List.mem_append, h.mem_names_iff, isPresent_concat_given, or_comm, List.mem_singleton,
      eq_comm]
  · rw [isLastValue_concat_iff, List.mem_append, ← h.mem_iff, or_comm, TableEvent.given.injEq,
      List.mem_singleton, Prod.mk.injEq, eq_comm (a := other), eq_comm (a := value')]
    have hother : (other, value') ∈ table → name ≠ other := fun hentry heq =>
      hname (heq ▸ List.mem_map_of_mem hentry)
    exact or_congr_right (and_iff_right_of_imp hother).symm
  · rw [hnames, List.pairwise_append]
    refine ⟨h.pairwise_concat (.refl _) fun _ _ => nofun, List.pairwise_singleton .., ?_⟩
    intro earlier hearlier later hlater
    obtain rfl := List.mem_singleton.mp hlater
    obtain ⟨moment, hmoment⟩ := ((h.mem_names_iff earlier).mp hearlier).exists_isInsertedAt
    exact ⟨moment, history.length, hmoment.concat nofun,
      isInsertedAt_concat_iff.mpr (.inr ⟨value, rfl, rfl, habsent⟩), hmoment.lt_length⟩

/-- **The others stay in their order** when a name is removed. -/
theorem remove [DecidableEq α] (name : α) :
    IsTableOf (history ++ [.removed name]) (table.filter fun entry => entry.1 ≠ name) := by
  have hsublist := (List.filter_sublist (p := fun entry => entry.1 ≠ name) (l := table)).map Prod.fst
  have hmem : ∀ other, other ∈ (table.filter fun entry => entry.1 ≠ name).map Prod.fst ↔
      name ≠ other ∧ other ∈ table.map Prod.fst := by
    intro other
    have hnames : (table.filter fun entry => entry.1 ≠ name).map Prod.fst =
        (table.map Prod.fst).filter fun other => other ≠ name := by
      rw [List.filter_map]
      rfl
    rw [hnames, List.mem_filter, decide_eq_true_eq, and_comm, ne_comm]
  refine ⟨h.nodup_names.sublist hsublist, fun other => ?_, fun other value => ?_, ?_⟩
  · rw [hmem, isPresent_concat_removed, h.mem_names_iff]
  · rw [isLastValue_concat_iff, ← h.mem_iff, List.mem_filter, decide_eq_true_eq, and_comm, ne_comm]
    exact (or_iff_right nofun).symm
  · refine h.pairwise_concat hsublist fun other hother heq => ?_
    exact ((hmem other).mp hother).1 (TableEvent.removed.inj heq)

end IsTableOf

end

end CommandShell
