import CommandShell.Proofs.Files.Walk
import CommandShell.Proofs.Session.Action
import CommandShell.Session.Execute

/-!
# Changing the working directory

The command asks for the path of the working directory before anything else, so it fails where the
working directory has been removed. Otherwise it looks for the directory that its operands ask for; if it
finds one, it enters it and sets its two variables, neither of which can fail then. What is left is to
show the directory if it was gone back to.

## Main definitions
* `Environment.inStep`, `Environment.others`: the two variables, and all others.
* `Builtin.arrival`: the directory that is found.
* `Builtin.showDirectory`, `shownBy`: what is left to do after the change, and what it writes.
* `Session.moved`: the session after the change.

## Main results
* `changeDirectory_of_not_isThere`, `changeDirectory_of_error`, `changeDirectory_of_arrival`: what a call
  does, in the three ways it can go.
* `changeDirectory_cases`, `arrival_of_status`: all that it can do, and what has happened if it succeeds.
* `changeDirectory_absolute_iff_isThere`: when any directory can be gone to.
* `removed_directory_is_not_left`: why only then.
-/

namespace CommandShell

open Builtin

/-! ## The two variables -/

namespace Environment

/-- The environment after the two variables have been set: first the one for the directory before the
change, then the one for the directory after it. -/
def inStep (env : Environment) (previous current : Bytes) : Environment :=
  ⟨assign (Utf8.encode currentVariable) current
    (assign (Utf8.encode previousVariable) previous env.entries)⟩

/-- The entries of all variables but these two. -/
def others (env : Environment) : List (Bytes × Bytes) :=
  env.entries.filter fun entry =>
    entry.1 != Utf8.encode currentVariable && entry.1 != Utf8.encode previousVariable

/-- To give a name a value keeps the entries of other names, and their order. -/
theorem filter_assign {keep : Bytes × Bytes → Bool} {name : Bytes}
    (h : ∀ value, keep (name, value) = false) (value : Bytes) (table : List (Bytes × Bytes)) :
    (assign name value table).filter keep = table.filter keep := by
  induction table with
  | nil => simp [assign, h]
  | cons entry rest ih =>
      by_cases hname : entry.1 = name
      · obtain ⟨first, second⟩ := entry
        obtain rfl : first = name := hname
        simp [assign, h]
      · simp [assign, hname, List.filter_cons, ih]

variable (env : Environment) (previous current : Bytes)

theorem isValidName_previous : isValidName previousVariable := by decide

theorem isValidName_current : isValidName currentVariable := by decide

theorem get?_previous_inStep : (env.inStep previous current).get? previousVariable = some previous := by
  have hne : Utf8.encode previousVariable ≠ Utf8.encode currentVariable := by decide
  rw [get?, getBytes?, inStep, lookup_assign_of_ne hne, lookup_assign_self]

theorem get?_current_inStep : (env.inStep previous current).get? currentVariable = some current :=
  lookup_assign_self _ _ _

theorem others_inStep : (env.inStep previous current).others = env.others := by
  rw [others, inStep, filter_assign (by simp), filter_assign (by simp), others]

end Environment

/-! ## What a call does -/

namespace Builtin

/-- The disk seen from the directory that the operands ask for. -/
def arrival (operands : List Text) (s : Session) : Except CommandError Disk := do
  go s.disk (← destination operands s)

/-- What is left to be done after the change: the directory is shown if it was gone back to. -/
def showDirectory (operands : List Text) (path : Bytes) : Action Flow := do
  if operands.head? = some backOperand then
    writeOut directoryName ((Utf8.stretches (Utf8.units path)).map Chunk.text ++ [Chunk.text ['\n']])
  return .status 0

end Builtin

/-- The session after a change of the working directory, before anything is shown. -/
def Session.moved (s : Session) (disk : Disk) : Session :=
  { s with disk, env := s.env.inStep s.disk.cwd.place.path disk.cwd.place.path }

section

variable {operands : List Text} {s : Session} {disk : Disk} {e : CommandError}

theorem workingPath_of_isThere (h : disk.cwd.isThere) : workingPath disk = .ok disk.cwd.place.path := by
  simp [workingPath, Disk.currentDirectory, h, Except.mapError]

theorem arrival_eq_ok_iff : arrival operands s = .ok disk ↔
    ∃ target, destination operands s = .ok target ∧ go s.disk target = .ok disk := by
  unfold arrival
  cases destination operands s with
  | error refusal => exact ⟨nofun, nofun⟩
  | ok target => exact ⟨fun hgo => ⟨target, rfl, hgo⟩, fun ⟨_, rfl, hgo⟩ => hgo⟩

theorem arrival_eq_error_iff : arrival operands s = .error e ↔
    destination operands s = .error e ∨
      ∃ target, destination operands s = .ok target ∧ go s.disk target = .error e := by
  unfold arrival
  cases destination operands s with
  | error refusal =>
      change Except.error refusal = Except.error e ↔ _
      simp
  | ok target =>
      change go s.disk target = .error e ↔ _
      simp

/-- Where the working directory is still there, so is any directory that is found from it. -/
theorem isThere_of_arrival (h : s.disk.cwd.isThere) (harrival : arrival operands s = .ok disk) :
    disk.cwd.isThere := by
  obtain ⟨target, -, hgo⟩ := arrival_eq_ok_iff.mp harrival
  cases target with
  | none =>
      obtain rfl : s.disk = disk := Except.ok.inj hgo
      exact h
  | some path =>
      obtain ⟨p, hp, rfl⟩ := Disk.enter_eq_ok_iff.mp (mapError_eq_ok_iff.mp hgo)
      exact Disk.isThere_of_directory hp (.inr h)

/-- To set a variable of a valid name cannot fail. -/
theorem run_setDirectory {name : Text} (hname : Environment.isValidName name) (path : Bytes)
    (s : Session) : (setDirectory name path).run s =
      (.ok (), { s with env := ⟨Environment.assign (Utf8.encode name) path s.env.entries⟩ }) := by
  have hset : s.env.set name path = .ok ⟨Environment.assign (Utf8.encode name) path s.env.entries⟩ :=
    if_pos hname
  simp only [setDirectory, run_bind, run_get, hset, run_modify]

/-- **Where the working directory has been removed, the command does nothing** but fail. -/
theorem changeDirectory_of_not_isThere (h : ¬ s.disk.cwd.isThere) (operands : List Text) :
    (changeDirectory operands).run s =
      (.error (.failed directoryName (.system .noSuchFile)), s) := by
  have hpath : workingPath s.disk = .error (.failed directoryName (.system .noSuchFile)) := by
    simp [workingPath, Disk.currentDirectory, h, Except.mapError]
  rw [changeDirectory, run_bind_of_ok (run_get s), run_bind, run_liftExcept, hpath]

/-- **Where no directory is found, the command does nothing** but fail. -/
theorem changeDirectory_of_error (h : s.disk.cwd.isThere) (harrival : arrival operands s = .error e) :
    (changeDirectory operands).run s = (.error e, s) := by
  simp only [changeDirectory, run_bind, run_get, run_liftExcept, workingPath_of_isThere h]
  rcases arrival_eq_error_iff.mp harrival with htarget | ⟨target, htarget, hgo⟩
  · rw [htarget]
  · simp only [htarget, hgo]

/-- **Where a directory is found, the command goes there** and sets its two variables. -/
theorem changeDirectory_of_arrival (h : s.disk.cwd.isThere) (harrival : arrival operands s = .ok disk) :
    (changeDirectory operands).run s =
      (showDirectory operands disk.cwd.place.path).run (s.moved disk) := by
  have hcurrent := workingPath_of_isThere (isThere_of_arrival h harrival)
  obtain ⟨target, htarget, hgo⟩ := arrival_eq_ok_iff.mp harrival
  simp only [changeDirectory, run_bind, run_get, run_liftExcept, run_modify, workingPath_of_isThere h,
    htarget, hgo, hcurrent, run_setDirectory Environment.isValidName_previous,
    run_setDirectory Environment.isValidName_current]
  rfl

/-! ## What is shown -/

/-- What a call writes to the output stream when it has come to a directory. -/
def shownBy (operands : List Text) (path : Bytes) : Bytes :=
  if operands.head? = some backOperand then Utf8.encode (Utf8.decodeLossy path ++ ['\n']) else []

/-- To show a directory changes the output stream alone, and fails only as that does. -/
theorem run_showDirectory_cases (operands : List Text) (path : Bytes) (s : Session) :
    ∃ out, (showDirectory operands path).run s = (.ok (.status 0), { s with out }) ∨
      ∃ cause, (showDirectory operands path).run s =
        (.error (.failed directoryName cause), { s with out }) := by
  unfold showDirectory
  split
  · rw [run_bind, run_writeOut]
    generalize s.out.writeAll _ = outcome
    obtain ⟨result, out⟩ := outcome
    cases result with
    | ok done => exact ⟨out, .inl rfl⟩
    | error cause => exact ⟨out, .inr ⟨cause, rfl⟩⟩
  · exact ⟨s.out, .inl rfl⟩

/-- A path is shown with U+FFFD for what is no text in it. -/
theorem flatMap_contents_stretches (path : Bytes) :
    ((Utf8.stretches (Utf8.units path)).map Chunk.text ++ [Chunk.text ['\n']]).flatMap Chunk.contents =
      Utf8.encode (Utf8.decodeLossy path ++ ['\n']) := by
  rw [Utf8.decodeLossy, ← Utf8.flatten_stretches]
  generalize Utf8.stretches (Utf8.units path) = texts
  induction texts with
  | nil => rfl
  | cons text rest ih => simpa [Chunk.text, Chunk.contents] using ih

theorem run_showDirectory_of_takesAll (htakes : s.out.TakesAll) (operands : List Text)
    (path : Bytes) :
    ∃ out, (showDirectory operands path).run s = (.ok (.status 0), { s with out }) ∧
      out.contents = s.out.contents ++ shownBy operands path := by
  unfold showDirectory shownBy
  split
  · have hwrite := Stream.writeAll_of_takesAll htakes
      ((Utf8.stretches (Utf8.units path)).map Chunk.text ++ [Chunk.text ['\n']])
    have hcontents := Stream.contents_writeAll_of_ok hwrite
    rw [flatMap_contents_stretches] at hcontents
    refine ⟨_, ?_, hcontents⟩
    rw [run_bind_of_ok (writeOut_of_writeAll hwrite _), run_pure]
  · exact ⟨s.out, rfl, by simp⟩

/-- **All that a call can do**: it stays, because no directory is found, or goes to one that is found, and
then fails only where that cannot be shown. -/
theorem changeDirectory_cases (operands : List Text) (s : Session) :
    (∃ e, (changeDirectory operands).run s = (.error e, s) ∧
      (e = .failed directoryName (.system .noSuchFile) ∨ arrival operands s = .error e)) ∨
    ∃ disk out result, (changeDirectory operands).run s = (result, { s.moved disk with out }) ∧
      (result = .ok (.status 0) ∨ ∃ cause, result = .error (.failed directoryName cause)) ∧
      s.disk.cwd.isThere ∧ arrival operands s = .ok disk := by
  by_cases hthere : s.disk.cwd.isThere
  · cases harrival : arrival operands s with
    | error e => exact .inl ⟨e, changeDirectory_of_error hthere harrival, .inr rfl⟩
    | ok disk =>
        have hrun := changeDirectory_of_arrival hthere harrival
        obtain ⟨out, hshow | ⟨cause, hshow⟩⟩ :=
          run_showDirectory_cases operands disk.cwd.place.path (s.moved disk)
        · exact .inr ⟨disk, out, _, hrun.trans hshow, .inl rfl, hthere, rfl⟩
        · exact .inr ⟨disk, out, _, hrun.trans hshow, .inr ⟨cause, rfl⟩, hthere, rfl⟩
  · exact .inl ⟨_, changeDirectory_of_not_isThere hthere operands, .inl rfl⟩

/-- **A call that succeeds has gone somewhere**, from a working directory that was still there. -/
theorem arrival_of_status {t : Session} {flow : Flow}
    (h : (changeDirectory operands).run s = (.ok flow, t)) :
    s.disk.cwd.isThere ∧ ∃ disk out, arrival operands s = .ok disk ∧
      t = { s.moved disk with out } := by
  obtain ⟨e, hrun, -⟩ | ⟨disk, out, result, hrun, -, hthere, harrival⟩ := changeDirectory_cases operands s
  · rw [hrun] at h
    cases h
  · rw [hrun] at h
    exact ⟨hthere, disk, out, harrival, (congrArg Prod.snd h).symm⟩

end

/-! ## Leaving a directory -/

section

variable {s : Session} {operand : Text} {p : Position}

/-- A directory that an operand stands for is found, if the user may search it. -/
theorem arrival_of_directory (hoption : operand.head? ≠ some '-')
    (hdirectory : s.disk.directory (Utf8.encode operand) = .ok p) (rest : List Text) :
    arrival (operand :: rest) s = .ok { s.disk with cwd := p } := by
  have hback : ¬ (operand = backOperand ∨ operand = quietBackOperand) := by
    rintro (rfl | rfl) <;> exact hoption rfl
  have henter : s.disk.canEnter (Utf8.encode operand) := Disk.canEnter_iff.mpr ⟨p, hdirectory⟩
  have hgo : s.disk.enter (Utf8.encode operand) = .ok { s.disk with cwd := p } :=
    Disk.enter_eq_ok_iff.mpr ⟨p, hdirectory, rfl⟩
  rw [arrival, destination, if_neg hback, if_neg hoption, if_pos henter]
  exact mapError_eq_ok_iff.mpr hgo

/-- **The command goes to any directory that the user may search, if the working directory is still
there**, and fails otherwise. -/
theorem changeDirectory_absolute_iff_isThere (s : Session) {operand : Text} (rest : List Text)
    {p : Position} (hoption : operand.head? ≠ some '-')
    (habsolute : Path.isAbsolute (Utf8.encode operand))
    (hlocate : s.disk.locate (Utf8.encode operand) = .ok (.directory p))
    (hsearchable : s.disk.files.isSearchable p) :
    let outcome := (changeDirectory (operand :: rest)).run s
    (outcome.1 = .ok (.status 0) ↔ s.disk.cwd.isThere) ∧
      (s.disk.cwd.isThere →
        outcome.2.disk = { s.disk with cwd := p } ∧
        outcome.2.disk.currentDirectory = .ok p.place.path ∧
        outcome.2.env.get? currentVariable = some p.place.path ∧
        outcome.2.out = s.out) ∧
      (¬ s.disk.cwd.isThere →
        outcome = (.error (.failed directoryName (.system .noSuchFile)), s)) := by
  intro outcome
  have hdirectory := Disk.directory_eq_ok_iff.mpr ⟨hlocate, hsearchable⟩
  have hp : p.isThere := Disk.isThere_of_directory hdirectory (.inl habsolute)
  by_cases hthere : s.disk.cwd.isThere
  · have hback : (operand :: rest).head? ≠ some backOperand := by
      rintro ⟨⟩
      exact hoption rfl
    have houtcome : outcome = (.ok (.status 0), s.moved { s.disk with cwd := p }) := by
      refine (changeDirectory_of_arrival hthere (arrival_of_directory hoption hdirectory rest)).trans ?_
      rw [showDirectory, if_neg hback]
      rfl
    rw [houtcome]
    refine ⟨⟨fun _ => hthere, fun _ => rfl⟩, fun _ => ?_, fun hgone => absurd hthere hgone⟩
    refine ⟨rfl, ?_, Environment.get?_current_inStep _ _ _, rfl⟩
    simp [Session.moved, Disk.currentDirectory, hp]
  · have houtcome : outcome = (.error (.failed directoryName (.system .noSuchFile)), s) :=
      changeDirectory_of_not_isThere hthere _
    rw [houtcome]
    exact ⟨⟨nofun, fun h => absurd h hthere⟩, fun h => absurd h hthere, fun _ => rfl⟩

end

/-- From `/a`, a directory below `/`, to `/`. -/
theorem changeDirectory_absolute_iff_isThere_of_root :
    let a := [Utf8.encode ['a']]
    let s := Session.new "husk".toList 1 .empty ⟨⟨[(a, .directory true)]⟩, ⟨a, 0⟩⟩
    let outcome := (changeDirectory [['/']]).run s
    (['/'] : Text).head? ≠ some '-' ∧ Path.isAbsolute (Utf8.encode ['/']) ∧
      s.disk.locate (Utf8.encode ['/']) = .ok (.directory .root) ∧
      s.disk.files.isSearchable .root ∧
      outcome.1 = .ok (.status 0) ∧ outcome.2.disk.cwd = .root ∧
      outcome.2.env.get? currentVariable = some [slash] := by
  intro a s outcome
  have hsearchable : s.disk.files.isSearchable .root := by decide
  obtain ⟨hstatus, hthere, -⟩ :=
    changeDirectory_absolute_iff_isThere s [] (by decide) (by decide) (s.disk.locate_slash) hsearchable
  obtain ⟨hdisk, -, hcurrent, -⟩ := hthere rfl
  exact ⟨by decide, by decide, s.disk.locate_slash, hsearchable, hstatus.mpr rfl, congrArg Disk.cwd hdisk,
    hcurrent⟩

/-- A directory that is removed while it is the working directory cannot be left any more. -/
theorem removed_directory_is_not_left :
    let d := Utf8.encode ['d']
    let s := Session.new "husk".toList 1 .empty ⟨⟨[([d], .directory true)]⟩, .root⟩
    let entered := ((changeDirectory ["/d".toList]).run s).2
    let t := { entered with disk := entered.disk.adopt (entered.disk.files.remove [d]) }
    let outcome := (changeDirectory [['/']]).run t
    t.disk.locate (Utf8.encode ['/']) = .ok (.directory .root) ∧
      t.disk.files.isSearchable .root ∧
      outcome = (.error (.failed directoryName (.system .noSuchFile)), t) ∧
      outcome.2.disk.currentDirectory = .error (.system .noSuchFile) ∧
      outcome.2.env.get? currentVariable = some (Utf8.encode "/d".toList) := by
  intro d s entered t outcome
  have hdirectory : s.disk.directory (Utf8.encode "/d".toList) = .ok ⟨[d], 0⟩ :=
    Disk.directory_below_root (by constructor <;> decide) (by decide) (by decide) rfl
  have hentered : entered = s.moved { s.disk with cwd := ⟨[d], 0⟩ } := by
    have hrun := changeDirectory_of_arrival rfl (arrival_of_directory (by decide) hdirectory [])
    exact congrArg Prod.snd hrun
  have hgone : ¬ t.disk.cwd.isThere := by
    simp only [t, hentered]
    decide
  have houtcome : outcome = (.error (.failed directoryName (.system .noSuchFile)), t) :=
    changeDirectory_of_not_isThere hgone _
  rw [houtcome]
  refine ⟨Disk.locate_slash _, isSearchable_root _, rfl, ?_, ?_⟩
  · simp [Disk.currentDirectory, hgone]
  · simp only [t, hentered]
    exact Environment.get?_current_inStep _ _ _

end CommandShell
