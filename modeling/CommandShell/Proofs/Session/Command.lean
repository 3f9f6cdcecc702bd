import CommandShell.Proofs.Chain.Log
import CommandShell.Proofs.Session.Frame
import CommandShell.Proofs.Session.Record

/-!
# While a command runs, and when it ends

As long as a command runs, the last status and the number of the command stay, and whatever it reports
bears that number. Its end sets the last status, unless the command asks to leave, and takes the number.
Only one builtin can ask to leave.

## Main definitions
* `Stream.diagnostics`: the reports on a stream.
* `Reports`: under which name and number a command and a refusal report.
* `IsUnderway`: what has happened while a command is not at its end.
* `GoesOn`: an action that never asks to leave.

## Main results
* `isUnderway_runCommand`: what happens until the end of a command.
* `counter_dispatch`, `lastStatus_dispatch`, `reports_dispatch`: what has happened at the end.
* `goesOn_runCommand`, `head?_of_stops_dispatch`: which command asks to leave.
-/

namespace CommandShell

/-- The diagnostic that has been written, if it is one, whatever the stream has taken of it. -/
def Use.diagnostic? : Use → Option Diagnostic
  | write (.diagnostic d) _ => some d
  | write (.bytes _) _ | receive _ => none

/-! ## Streams -/

namespace Stream

/-- The diagnostics that have been written to a stream, in order. -/
def diagnostics (stream : Stream) : List Diagnostic :=
  stream.log.filterMap Use.diagnostic?

@[simp] theorem diagnostics_receive (stream : Stream) (data : Bytes) :
    (stream.receive data).diagnostics = stream.diagnostics := by
  unfold receive diagnostics
  split <;> simp [Use.diagnostic?]

@[simp] theorem diagnostics_flush (stream : Stream) :
    stream.flush.2.diagnostics = stream.diagnostics := rfl

@[simp] theorem diagnostics_write_bytes (stream : Stream) (data : Bytes) :
    (stream.write (.bytes data)).2.diagnostics = stream.diagnostics := by
  unfold write diagnostics
  split <;> simp [Use.diagnostic?]

/-- A report is one diagnostic more. -/
@[simp] theorem diagnostics_report (stream : Stream) (d : Diagnostic) :
    (stream.report d).diagnostics = stream.diagnostics ++ [d] := by
  have hne : (Chunk.diagnostic d).contents.isEmpty = false := by
    simp [Chunk.contents, Diagnostic.render, Utf8.encode]
  rw [diagnostics, log_report, write, hne]
  simp [diagnostics, Use.diagnostic?]

end Stream

/-! ## Commands on the way to their end -/

/-- What has been reported since `s` stands behind the reports that were there, and bears the name under
which the interpreter runs and the number that comes next in `s`. -/
structure Reports (s t : Session) : Prop where
  program : t.program = s.program
  diagnostics : ∃ reported, t.err.diagnostics = s.err.diagnostics ++ reported ∧
    ∀ d ∈ reported, d.program = s.program ∧ d.counter = s.counter

/-- A command that began in `s` has not come to its end in `t`. -/
structure IsUnderway (s t : Session) : Prop extends Reports s t where
  lastStatus : t.lastStatus = s.lastStatus
  counter : t.counter = s.counter

section

variable {s t u : Session}

/-- Where the reports have not changed, nothing has been reported. -/
theorem Reports.of_eq (hprogram : t.program = s.program)
    (h : t.err.diagnostics = s.err.diagnostics) : Reports s t :=
  ⟨hprogram, [], by simpa using h, by simp⟩

theorem IsUnderway.trans (hst : IsUnderway s t) (htu : IsUnderway t u) : IsUnderway s u where
  program := htu.program.trans hst.program
  lastStatus := htu.lastStatus.trans hst.lastStatus
  counter := htu.counter.trans hst.counter
  diagnostics := by
    obtain ⟨first, hfirst, hbears⟩ := hst.diagnostics
    obtain ⟨second, hsecond, hbears'⟩ := htu.diagnostics
    refine ⟨first ++ second, by rw [hsecond, hfirst, List.append_assoc], fun d hd => ?_⟩
    rcases List.mem_append.mp hd with hd | hd
    · exact hbears d hd
    · obtain ⟨hprogram, hcounter⟩ := hbears' d hd
      exact ⟨hprogram.trans hst.program, hcounter.trans hst.counter⟩

/-- To report an error is no end of a command yet. -/
theorem isUnderway_report (s : Session) (e : CommandError) : IsUnderway s (s.report e) where
  program := rfl
  lastStatus := rfl
  counter := rfl
  diagnostics := by
    refine ⟨[s.diagnostic e], Stream.diagnostics_report _ _, fun d hd => ?_⟩
    obtain rfl := List.mem_singleton.mp hd
    exact ⟨rfl, rfl⟩

/-- To flush a stream is no report. -/
theorem isUnderway_flush (s : Session) : IsUnderway s s.flush.2 := by
  rw [Session.flush]
  generalize s.out.flush = outcome
  obtain ⟨_ | _, out⟩ := outcome
  · exact ⟨.of_eq rfl rfl, rfl, rfl⟩
  · exact ⟨.of_eq rfl (Stream.diagnostics_flush _), rfl, rfl⟩

theorem isFrame_isUnderway (machine : Machine) : IsFrame machine IsUnderway where
  refl _ := ⟨.of_eq rfl rfl, rfl, rfl⟩
  trans := IsUnderway.trans
  env _ _ := ⟨.of_eq rfl rfl, rfl, rfl⟩
  disk _ _ := ⟨.of_eq rfl rfl, rfl, rfl⟩
  out _ _ := ⟨.of_eq rfl rfl, rfl, rfl⟩
  err _ _ := ⟨.of_eq rfl (Stream.diagnostics_write_bytes _ _), rfl, rfl⟩
  flush := isUnderway_flush
  adopt _ _ _ _ _ := ⟨.of_eq rfl (Stream.diagnostics_receive _ _), rfl, rfl⟩

/-- **Until its end a command changes neither the last status nor the number of the command**, and what
it reports bears that number. -/
theorem isUnderway_runCommand (machine : Machine) (name : Text) (operands : List Text) :
    LeadsAlong IsUnderway (runCommand machine name operands) :=
  let hframe := isFrame_isUnderway machine
  hframe.runCommand fun _ => hframe.defineAliases
    (fun _ _ _ _ _ _ => ⟨.of_eq rfl rfl, rfl, rfl⟩) isUnderway_report

end

/-! ## Commands that ask to leave -/

/-- The action never succeeds with a flow that asks to leave. -/
def GoesOn (action : Action Flow) : Prop :=
  ∀ s flow, (action.run s).1 = .ok flow → flow.stops = false

namespace GoesOn

open Builtin

theorem status (status : Status) : GoesOn (return .status status) := by
  intro s flow hflow
  obtain rfl := Except.ok.inj hflow
  rfl

theorem throw (e : CommandError) : GoesOn (throw e) :=
  fun _ _ hflow => nomatch hflow

/-- Only what stands last tells the flow. -/
theorem bind {α : Type} {action : Action α} {next : α → Action Flow} (h : ∀ a, GoesOn (next a)) :
    GoesOn (action >>= next) := by
  intro s flow hflow
  rw [run_bind] at hflow
  generalize action.run s = outcome at hflow
  obtain ⟨result, s'⟩ := outcome
  cases result with
  | ok a => exact h a s' flow hflow
  | error e => exact absurd hflow nofun

theorem defineAliases (operands : List Text) : GoesOn (defineAliases operands) := by
  rw [Builtin.defineAliases]
  split
  · exact bind fun _ => bind fun _ => status 0
  · exact bind fun _ => status _

theorem changeDirectory (operands : List Text) : GoesOn (changeDirectory operands) := by
  refine bind fun _ => bind fun _ => bind fun _ => bind fun _ => bind fun _ => bind fun _ => ?_
  refine bind fun _ => bind fun _ => bind fun _ => bind fun _ => ?_
  split
  · exact bind fun _ => status 0
  · exact status 0

theorem help (operands : List Text) : GoesOn (help operands) := by
  cases operands with
  | nil => exact bind fun _ => status 0
  | cons name rest =>
      rw [Builtin.help]
      cases topic? name with
      | some text => exact bind fun _ => status 0
      | none => exact bind fun _ => bind fun _ => status 0

theorem setVariable (operands : List Text) : GoesOn (setVariable operands) := by
  unfold Builtin.setVariable
  split
  · refine bind fun _ => ?_
    split
    · exact bind fun _ => status 0
    · exact throw _
  · exact throw _

theorem unsetVariable (operands : List Text) : GoesOn (unsetVariable operands) := by
  cases operands with
  | nil => exact throw _
  | cons name rest => exact bind fun _ => status 0

end GoesOn

/-- **Only one builtin can ask to leave.** -/
theorem goesOn_runCommand (machine : Machine) {name : Text} (hname : name ≠ Builtin.leaveName)
    (operands : List Text) : GoesOn (runCommand machine name operands) := by
  unfold runCommand
  split
  · rename_i builtin hbuiltin
    have hfound : builtin.name = name := by simpa using List.find?_some hbuiltin
    cases builtin with
    | defining => exact .defineAliases operands
    | entering => exact .changeDirectory operands
    | listing => exact .bind fun _ => .bind fun _ => .status 0
    | leaving => exact absurd hfound.symm hname
    | helping => exact .help operands
    | setting => exact .setVariable operands
    | unsetting => exact .unsetVariable operands
  · exact .bind fun _ => .status _

/-! ## Commands at their end -/

section

variable {s t : Session}

/-- The end of a command sets the last status to its status, unless the command asks to leave. -/
theorem lastStatus_settle (s : Session) (result : Except CommandError Flow) :
    (∀ status, (s.settle result).1 = .status status → (s.settle result).2.lastStatus = status) ∧
      ((s.settle result).1.stops → result = .ok (s.settle result).1 ∧ (s.settle result).2 = s) := by
  rcases result with e | status | _ | code
  · exact ⟨fun _ h => Flow.status.inj h, nofun⟩
  · exact ⟨fun _ h => Flow.status.inj h, nofun⟩
  · exact ⟨nofun, fun _ => ⟨rfl, rfl⟩⟩
  · exact ⟨nofun, fun _ => ⟨rfl, rfl⟩⟩

theorem Reports.advance (h : Reports s t) : Reports s t.advance :=
  ⟨h.program, h.diagnostics⟩

theorem Reports.settle (h : IsUnderway s t) (result : Except CommandError Flow) :
    Reports s (t.settle result).2 ∧ (t.settle result).2.counter = s.counter := by
  rcases result with e | status | _ | code
  · obtain ⟨⟨hprogram, hdiagnostics⟩, -, hcounter⟩ := h.trans (isUnderway_report t e)
    exact ⟨⟨hprogram, hdiagnostics⟩, hcounter⟩
  · exact ⟨⟨h.program, h.diagnostics⟩, h.counter⟩
  · exact ⟨h.toReports, h.counter⟩
  · exact ⟨h.toReports, h.counter⟩

end

section

variable (machine : Machine) {segment : List Token} (s : Session)

/-- **Every command takes one number**, whatever comes of it. -/
theorem counter_dispatch (hne : segment ≠ []) :
    (dispatch machine segment s).2.counter = s.counter + 1 := by
  cases segment with
  | nil => exact absurd rfl hne
  | cons token rest =>
      have hrun := isUnderway_runCommand machine token.word (rest.map Token.word) s
      exact congrArg (· + 1) (Reports.settle hrun _).2

/-- **A command reports under its own number.** -/
theorem reports_dispatch (segment : List Token) : Reports s (dispatch machine segment s).2 := by
  cases segment with
  | nil => exact .of_eq rfl rfl
  | cons token rest =>
      have hrun := isUnderway_runCommand machine token.word (rest.map Token.word) s
      exact (Reports.settle hrun _).1.advance

/-- **A command that ends with a status sets the last status**; one that asks to leave does not. -/
theorem lastStatus_dispatch (segment : List Token) :
    (∀ status, (dispatch machine segment s).1 = .status status →
      (dispatch machine segment s).2.lastStatus = status) ∧
    ((dispatch machine segment s).1.stops →
      (dispatch machine segment s).2.lastStatus = s.lastStatus) := by
  cases segment with
  | nil => exact ⟨fun _ h => Flow.status.inj h, nofun⟩
  | cons token rest =>
      have hrun := isUnderway_runCommand machine token.word (rest.map Token.word) s
      rw [dispatch_cons, commandOutcome]
      obtain ⟨hstatus, hstops⟩ := lastStatus_settle
        ((runCommand machine token.word (rest.map Token.word)).run s).2
        ((runCommand machine token.word (rest.map Token.word)).run s).1
      exact ⟨hstatus, fun h => (congrArg Session.lastStatus (hstops h).2).trans hrun.lastStatus⟩

/-- **A command that asks to leave is the builtin for it.** -/
theorem head?_of_stops_dispatch (h : (dispatch machine segment s).1.stops) :
    segment.head?.map Token.word = some Builtin.leaveName := by
  cases segment with
  | nil => exact absurd h nofun
  | cons token rest =>
      rw [dispatch_cons] at h
      have hresult := ((lastStatus_settle _ _).2 h).1
      by_contra hhead
      have hname : token.word ≠ Builtin.leaveName := by simpa using hhead
      have hgoes := goesOn_runCommand machine hname (rest.map Token.word) s _ hresult
      exact absurd (hgoes.symm.trans h) nofun

/-- A refusal is reported under the number of the next command, and takes none. -/
theorem reports_refuse (token : Token) :
    Reports s (s.refuse token).2 ∧ (s.refuse token).2.counter = s.counter :=
  Reports.settle ((isFrame_isUnderway Machine.idle).refl s) _

end

end CommandShell
