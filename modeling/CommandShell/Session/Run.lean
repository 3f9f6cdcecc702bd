import CommandShell.Session.Execute
import CommandShell.Session.Input

/-!
# Runs

A run reads and executes lines until the input ends, a line asks to leave, or something fails that
stops the interpreter. The lines of a file that is read at the start are executed without a run around
them: nothing is flushed, and they leave only when one of them asks to.

A run may also read its lines from the standard input. What it reads in a block before a line is
complete is then its own; what it has not read yet is for the programs that it starts.

## Main definitions
* `Flow.leaves?`: the code that a flow leaves with.
* `run`: a run over a source of its own.
* `runInput`: a run over the standard input.
* `sourceLines`
-/

namespace CommandShell

/-- The code to leave with, if a flow asks to leave. -/
def Flow.leaves? (lastStatus : Status) : Flow → Option Status
  | .status _ => none
  | .terminate => some lastStatus
  | .exit code => some code

namespace Session

/-- Hands on what has been written; a failure is fatal. -/
def handOn (s : Session) : Except FatalError Unit × Session :=
  (s.flush.1.mapError .failed, s.flush.2)

/-- Hands on what has been written, and ends a run with the last status. -/
def conclude (s : Session) : Except FatalError Status × Session :=
  (s.handOn.1.map fun _ => s.lastStatus, s.handOn.2)

/-- Ends a run at the end of its input. A user is left on a new line. -/
def finish (s : Session) (isInteractive : Bool) : Except FatalError Status × Session :=
  if isInteractive then
    match s.out.write (.text ['\n']) with
    | (.ok (), out) => { s with out }.conclude
    | (.error cause, out) => (.error (.failed cause), { s with out })
  else s.conclude

/-- Shows the prompt before a line is read. -/
def ask (s : Session) (prompt : Text) : Session :=
  { s with out := s.out.receive (Utf8.encode prompt) }

/-- How a run ends after a line, if it does, and the state when what the line wrote has been handed
on. -/
def ending? (s : Session) (flow : Flow) : Option (Except FatalError Status) × Session :=
  match s.handOn with
  | (.error e, t) => (some (.error e), t)
  | (.ok (), t) => ((flow.leaves? s.lastStatus).map .ok, t)

end Session

/-- Executes the lines that a source still has, and ends as the source does. -/
def runLines (machine : Machine) (source : LineSource) :
    List Text → Session → Except FatalError Status × Session
  | [], s =>
    let s := s.ask source.manner.prompt
    match source.failure with
    | some e => (.error e, s)
    | none => s.finish source.manner.isInteractive
  | line :: rest, s =>
    let (flow, s) := executeLine machine line (s.ask source.manner.prompt)
    match s.ending? flow with
    | (some ending, s) => (ending, s)
    | (none, s) => runLines machine source rest s

/-- Runs the lines of a source, and tells the code to leave with. -/
def run (machine : Machine) (source : LineSource) (s : Session) :
    Except FatalError Status × Session :=
  runLines machine source source.lines s

/-- Executes at most `fuel` lines of the standard input, the first of which may have been read already
as far as `read` goes. -/
def runInputFrom (machine : Machine) (manner : Manner) :
    Nat → Bytes → Session → Except FatalError Status × Session
  | 0, _, s => s.finish manner.isInteractive
  | fuel + 1, read, s =>
    let s := s.ask manner.prompt
    let (read, input) := Input.fill (·.contains newline) read s.input
    let s := { s with input }
    if read.isEmpty then s.finish manner.isInteractive
    else
      match manner.line (read.takeWhile (· != newline)) (read.contains newline) with
      | .error e => (.error e, s)
      | .ok line =>
        let (flow, s) := executeLine machine line s
        match s.ending? flow with
        | (some ending, s) => (ending, s)
        | (none, s) => runInputFrom machine manner fuel (read.dropWhile (· != newline)).tail s

/-- Runs the lines of the standard input, and tells the code to leave with. Every line takes something
of the input, so its size is fuel enough. -/
def runInput (machine : Machine) (manner : Manner) (s : Session) :
    Except FatalError Status × Session :=
  runInputFrom machine manner (s.input.size + 1) [] s

/-- Executes lines up to the first that asks to leave, and tells the code that it leaves with. -/
def sourceLines (machine : Machine) : List Text → Session → Option Status × Session
  | [], s => (none, s)
  | line :: rest, s =>
    let (flow, s) := executeLine machine line s
    match flow.leaves? s.lastStatus with
    | some code => (some code, s)
    | none => sourceLines machine rest s

@[simp] theorem sourceLines_nil (machine : Machine) (s : Session) :
    sourceLines machine [] s = (none, s) := rfl

/-- Lines executed in two parts are executed as a whole. -/
theorem sourceLines_append (machine : Machine) (xs ys : List Text) (s : Session) :
    sourceLines machine (xs ++ ys) s =
      match sourceLines machine xs s with
      | (none, s) => sourceLines machine ys s
      | leaving => leaving := by
  induction xs generalizing s with
  | nil => rfl
  | cons line rest ih =>
    simp only [List.cons_append, sourceLines]
    cases (executeLine machine line s).1.leaves? (executeLine machine line s).2.lastStatus with
    | none => exact ih _
    | some code => rfl

end CommandShell
