import CommandShell.Environment
import CommandShell.Proofs.History
import CommandShell.Proofs.Stream

/-!
# Environments after many changes

An environment is built from pairs, in which names may come up again, and is changed by calls that set
and remove variables. Building it goes through the names one by one as setting them does, so that no name
ever stands twice. Then removing the first entry of a name removes the name, and its value is that of its
only entry.

## Main definitions
* `Change`, `Environment.changed`, `Environment.after`: calls, and what comes of them.
* `Change.events`, `historyOf`: what has been done to the names.

## Main results
* `isTableOf_assign`, `isTableOf_changed`: one more value, one more call.
* `isTableOf_after`: all calls.
* `lookup_eq_some_iff`, `entries_unset`: looking a name up and removing it.
* `after_follows_history`: environments are tables in the order of insertion.
-/

namespace CommandShell

/-- A call that changes an environment. -/
inductive Change
  | set (name : Text) (value : Bytes)
  | unset (name : Text)

namespace Change

/-- What a call does to a name. A name that no variable can have is not set. -/
def events : Change → List (TableEvent Bytes Bytes)
  | set name value => if name = [] ∨ '=' ∈ name then [] else [.given (Utf8.encode name) value]
  | unset name => [.removed (Utf8.encode name)]

end Change

/-- What has been done to the names of an environment: first the pairs came in, then the calls. -/
def historyOf (start : List (Bytes × Bytes)) (changes : List Change) : List (TableEvent Bytes Bytes) :=
  (start.map fun entry => .given entry.1 entry.2) ++ changes.flatMap Change.events

namespace Environment

/-- The environment that a call leaves. -/
def changed (env : Environment) : Change → Environment
  | .set name value =>
    match env.set name value with
    | .ok env => env
    | .error _ => env
  | .unset name => env.unset name

/-- The environment that is built from pairs, after the calls. -/
def after (start : List (Bytes × Bytes)) (changes : List Change) : Environment :=
  changes.foldl changed (ofList start)

/-! ## Names that stand once -/

section

variable {table : List (Bytes × Bytes)} {name : Bytes}

/-- A value for a new name stands at the end. -/
theorem assign_of_not_mem (hname : name ∉ table.map Prod.fst) (value : Bytes) :
    assign name value table = table ++ [(name, value)] := by
  induction table with
  | nil => rfl
  | cons entry rest ih =>
      obtain ⟨hentry, hrest⟩ : name ≠ entry.1 ∧ name ∉ rest.map Prod.fst := by simpa using hname
      rw [assign, if_neg hentry.symm, ih hrest, List.cons_append]

theorem map_overwrite_of_not_mem (hname : name ∉ table.map Prod.fst) (value : Bytes) :
    (table.map fun entry => if entry.1 = name then (name, value) else entry) = table := by
  refine (List.map_congr_left fun entry hentry => if_neg fun heq => hname ?_).trans (List.map_id table)
  exact heq ▸ List.mem_map_of_mem hentry

variable (h : (table.map Prod.fst).Nodup)

include h

/-- A value for a name that is there takes the place of the old one. -/
theorem assign_of_mem (hname : name ∈ table.map Prod.fst) (value : Bytes) :
    assign name value table =
      table.map fun entry => if entry.1 = name then (name, value) else entry := by
  induction table with
  | nil => simp at hname
  | cons entry rest ih =>
      obtain ⟨hentry, hrest⟩ := List.nodup_cons.mp h
      rw [assign, List.map_cons]
      by_cases heq : entry.1 = name
      · rw [if_pos heq, if_pos heq, map_overwrite_of_not_mem (heq ▸ hentry)]
      · rw [if_neg heq, if_neg heq, ih hrest ((List.mem_cons.mp hname).resolve_left (Ne.symm heq))]

/-- **A name has the value of its entry.** -/
theorem lookup_eq_some_iff {value : Bytes} :
    lookup name table = some value ↔ (name, value) ∈ table := by
  rw [lookup, Option.map_eq_some_iff]
  constructor
  · rintro ⟨entry, hfind, rfl⟩
    obtain ⟨hentry, rfl⟩ := (find?_eq_some_iff_of_nodup h).mp hfind
    exact hentry
  · intro hentry
    exact ⟨(name, value), (find?_eq_some_iff_of_nodup h).mpr ⟨hentry, rfl⟩, rfl⟩

/-- To remove the first entry of a name is to remove the name. -/
theorem eraseP_eq_filter (name : Bytes) :
    (table.eraseP fun entry => entry.1 == name) = table.filter fun entry => entry.1 ≠ name := by
  induction table with
  | nil => rfl
  | cons entry rest ih =>
      obtain ⟨hentry, hrest⟩ := List.nodup_cons.mp h
      by_cases heq : entry.1 = name
      · have hgone : ∀ other ∈ rest, decide (other.1 ≠ name) = true := fun other hother =>
          decide_eq_true fun hname => hentry (heq ▸ hname ▸ List.mem_map_of_mem hother)
        rw [List.eraseP_cons_of_pos (by simpa using heq), List.filter_cons_of_neg (by simpa using heq),
          List.filter_eq_self.mpr hgone]
      · rw [List.eraseP_cons_of_neg (by simpa using heq), List.filter_cons_of_pos (by simpa using heq),
          ih hrest]

end

/-- The other variables stay as they are, in their order. -/
theorem entries_unset {env : Environment} (h : (env.entries.map Prod.fst).Nodup) (name : Text) :
    (env.unset name).entries = env.entries.filter fun entry => entry.1 ≠ Utf8.encode name :=
  eraseP_eq_filter h (Utf8.encode name)

/-! ## Names that can be set -/

theorem isValidName_iff {name : Text} : isValidName name ↔ ¬ (name = [] ∨ '=' ∈ name) := by
  simp [isValidName]

section

variable {env : Environment} {name : Text}

theorem set_of_invalid (h : name = [] ∨ '=' ∈ name) (value : Bytes) :
    env.set name value = .error ⟨name⟩ := by
  rw [set, if_neg fun hvalid => isValidName_iff.mp hvalid h]

theorem set_of_valid (h : ¬ (name = [] ∨ '=' ∈ name)) (value : Bytes) :
    env.set name value = .ok ⟨assign (Utf8.encode name) value env.entries⟩ := by
  rw [set, if_pos (isValidName_iff.mpr h)]

/-- A name is refused if it is empty or holds a `=`. -/
theorem set_eq_error_iff (value : Bytes) :
    env.set name value = .error ⟨name⟩ ↔ name = [] ∨ '=' ∈ name := by
  refine ⟨fun h => ?_, fun h => set_of_invalid h value⟩
  by_contra hvalid
  rw [set_of_valid hvalid] at h
  cases h

end

/-! ## Histories -/

section

variable {history : List (TableEvent Bytes Bytes)} {table : List (Bytes × Bytes)}

/-- **One more value** overwrites the old one of its name, or stands at the end. -/
theorem isTableOf_assign (h : IsTableOf history table) (name value : Bytes) :
    IsTableOf (history ++ [.given name value]) (assign name value table) := by
  by_cases hname : name ∈ table.map Prod.fst
  · rw [assign_of_mem h.nodup_names hname]
    exact h.overwrite hname value
  · rw [assign_of_not_mem hname]
    exact h.append hname value

/-- **One more call.** -/
theorem isTableOf_changed {env : Environment} (h : IsTableOf history env.entries) (change : Change) :
    IsTableOf (history ++ change.events) (env.changed change).entries := by
  cases change with
  | set name value =>
      rw [changed, Change.events]
      by_cases hname : name = [] ∨ '=' ∈ name
      · rw [set_of_invalid hname, if_pos hname, List.append_nil]
        exact h
      · rw [set_of_valid hname, if_neg hname]
        exact isTableOf_assign h (Utf8.encode name) value
  | unset name =>
      rw [changed, entries_unset h.nodup_names]
      exact h.remove (Utf8.encode name)

end

/-- **The variables are the table of all that has been done to them.** The pairs come in one by one, and
then the calls follow. -/
theorem isTableOf_after (start : List (Bytes × Bytes)) (changes : List Change) :
    IsTableOf (historyOf start changes) (after start changes).entries := by
  have hstart : IsTableOf (start.map fun entry => .given entry.1 entry.2) (ofList start).entries := by
    rw [List.map_eq_flatMap]
    exact foldl_follows isTableOf_nil (fun _ _ entry h => isTableOf_assign h entry.1 entry.2) start
  exact foldl_follows (motive := fun history (env : Environment) => IsTableOf history env.entries)
    hstart (fun _ _ change h => isTableOf_changed h change) changes

/-! ## The listing -/

/-- The line that shows a variable. -/
def line (entry : Bytes × Bytes) : Bytes :=
  entry.1 ++ Utf8.encode ['='] ++ entry.2 ++ Utf8.encode ['\n']

theorem contents_listing (env : Environment) :
    (env.listing.map Chunk.bytes).flatMap Chunk.contents = env.entries.flatMap line := by
  have hline : line = fun entry =>
      entry.1 ++ Utf8.encode ['='] ++ entry.2 ++ Utf8.encode ['\n'] := rfl
  simp [listing, hline, List.flatMap_map, List.flatMap_assoc, Chunk.contents]

/-- **An environment is a table in the order of insertion**, whatever pairs it was built from and whatever
calls came after. No name stands twice. A name is there if it was among the pairs or has been set, and has
not been removed since, and it has the value that was given last. The names stand in the order of the
moments at which they came in, each when it was given a value for the first time since it was last
removed. So a further value leaves all names in their places, and removing a name leaves the others in
their order. A name that is empty or holds a `=` is refused, and a refused call leaves no trace. What is
written are the lines of the variables in this order. -/
theorem after_follows_history (start : List (Bytes × Bytes)) (changes : List Change) :
    let env := after start changes
    let history := historyOf start changes
    let names := env.entries.map Prod.fst
    names.Nodup ∧
    (∀ name, name ∈ names ↔ IsPresent history name) ∧
    (∀ name value, env.getBytes? name = some value ↔ IsLastValue history name value) ∧
    (∀ name value, (name, value) ∈ env.entries ↔ IsLastValue history name value) ∧
    (∃ moment : Bytes → Nat,
      (∀ name ∈ names, ∀ place, IsInsertedAt history place name ↔ place = moment name) ∧
        names.Pairwise fun name later => moment name < moment later) ∧
    (∀ name value, Utf8.encode name ∈ names → ∀ env', env.set name value = .ok env' →
      env'.entries.map Prod.fst = names) ∧
    (∀ name, (env.unset name).entries = env.entries.filter fun entry => entry.1 ≠ Utf8.encode name) ∧
    (∀ name value, (env.set name value = .error ⟨name⟩ ↔ name = [] ∨ '=' ∈ name) ∧
      (name = [] ∨ '=' ∈ name → env.changed (.set name value) = env)) ∧
    ∀ out : Stream, out.TakesAll →
      ∃ out', out.writeAll (env.listing.map .bytes) = (.ok (), out') ∧
        out'.contents = out.contents ++ env.entries.flatMap line := by
  intro env history names
  have htable : IsTableOf history env.entries := isTableOf_after start changes
  refine ⟨htable.nodup_names, htable.mem_names_iff, fun name value => ?_, htable.mem_iff,
    htable.exists_moment, ?_, entries_unset htable.nodup_names, fun name value =>
      ⟨set_eq_error_iff value, fun hname => by rw [changed, set_of_invalid hname]⟩, fun out htakes => ?_⟩
  · exact (lookup_eq_some_iff htable.nodup_names).trans (htable.mem_iff name value)
  · intro name value hname env' hset
    have hvalid : ¬ (name = [] ∨ '=' ∈ name) := fun hinvalid => by
      rw [set_of_invalid hinvalid] at hset
      cases hset
    rw [set_of_valid hvalid, assign_of_mem htable.nodup_names hname] at hset
    obtain rfl := Except.ok.inj hset
    exact names_overwrite env.entries (Utf8.encode name) value
  · have hwrite := Stream.writeAll_of_takesAll htakes (env.listing.map .bytes)
    rw [← contents_listing]
    exact ⟨_, Prod.ext hwrite rfl, Stream.contents_writeAll_of_ok hwrite⟩

/-- `A` comes in twice, is removed and comes in again behind `B`, which has got another value by then. The
call that sets a variable without a name leaves no trace. -/
theorem after_follows_history_of_return :
    let name := fun c : Char => Utf8.encode [c]
    let start := [(name 'A', [1]), (name 'B', [2]), (name 'A', [3])]
    let changes := [Change.unset ['A'], .set ['B'] [4], .set [] [5], .set ['A'] [6]]
    let env := after start changes
    let history := historyOf start changes
    env.entries = [(name 'B', [4]), (name 'A', [6])] ∧ IsPresent history (name 'A') ∧
      IsLastValue history (name 'A') [6] ∧
      (∃ early late, IsInsertedAt history early (name 'B') ∧ IsInsertedAt history late (name 'A') ∧
        early < late) ∧
      (∃ env', env.set ['B'] [7] = .ok env' ∧ env'.entries.map Prod.fst = [name 'B', name 'A']) ∧
      env.changed (.set "A=B".toList [8]) = env ∧
      ∃ out', Stream.new.writeAll (env.listing.map .bytes) = (.ok (), out') ∧
        out'.contents = [66, 61, 4, 10, 65, 61, 6, 10] := by
  intro name start changes env history
  have hentries : env.entries = [(name 'B', [4]), (name 'A', [6])] := by decide
  have hnames : env.entries.map Prod.fst = [name 'B', name 'A'] := by rw [hentries]; rfl
  obtain ⟨-, hpresent, -, hvalue, ⟨moment, hmoment, horder⟩, hset, -, hrefused, hwrite⟩ :=
    after_follows_history start changes
  have hfirst : name 'B' ∈ env.entries.map Prod.fst := by simp [hnames]
  have hlast : name 'A' ∈ env.entries.map Prod.fst := by simp [hnames]
  have hlt : moment (name 'B') < moment (name 'A') := by
    rw [hnames] at horder
    exact List.rel_of_pairwise_cons horder (List.mem_singleton_self _)
  obtain ⟨out', hout, hcontents⟩ := hwrite .new Stream.isWorking_new.takesAll
  refine ⟨hentries, (hpresent _).mp hlast, (hvalue _ _).mp (by simp [env, hentries]),
    ⟨_, _, (hmoment _ hfirst _).mpr rfl, (hmoment _ hlast _).mpr rfl, hlt⟩,
    ⟨_, rfl, (hset _ _ hfirst _ rfl).trans hnames⟩, (hrefused _ _).2 (.inr (by decide)), out', hout, ?_⟩
  rw [hcontents]
  decide

end Environment

end CommandShell
