import CommandShell.Builtin
import CommandShell.Chain
import CommandShell.Program

/-!
# Single commands

A segment whose aliases have been replaced is a command: its tokens without their quotes are the
command word and the operands. A builtin is run by the interpreter itself, any other command word
names a program to be searched and started. An error is reported and becomes the status of the
command, and every command takes one number.

## Main definitions
* `Session.programPath?`: the program that a command word names.
* `runProgram`: a program found and run to its end.
* `runCommand`: a builtin or a program.
* `dispatch`: a segment run as one command.
-/

namespace CommandShell

namespace Session

/-- The directory in which empty entries of the search path look: the working directory, or where
the environment says that it was. -/
def searchBase (s : Session) : Bytes :=
  match s.disk.currentDirectory with
  | .ok path => path
  | .error _ => (s.env.get? Builtin.currentVariable).getD selfName

/-- The path of the program that a command word names. -/
def programPath? (s : Session) (name : Text) : Option Bytes :=
  findProgram s.disk.contains (Utf8.encode name) (s.env.get? "PATH".toList) s.searchBase

/-- The state after a program has ended: its output behind what was written before, the files as it
left them. -/
def adopt (s : Session) (done : Completion) : Session :=
  { s with
    out := s.out.receive done.out
    err := s.err.receive done.err
    disk := s.disk.adopt done.files
    input := done.input }

end Session

namespace SpawnError

/-- The error of a command whose program could not be started. -/
def commandError (name : Text) : SpawnError → CommandError
  | notFound _ => .notFound name
  | permissionDenied _ => .permissionDenied name
  | failed _ cause => .failed name cause

end SpawnError

/-- Finds the program that a command word names and runs it to its end. What has been written so far
is handed on before it starts. -/
def runProgram (machine : Machine) (name : Text) (words : List Text) : Action Status := do
  let some path := (← get).programPath? name | throw (.notFound name)
  let (flushed, s) := (← get).flush
  set s
  liftExcept (flushed.mapError (CommandError.failed name))
  match spawn machine s.disk s.env s.input path words with
  | .ok done =>
    set (s.adopt done)
    return done.ending.status
  | .error refusal => throw (refusal.commandError name)

/-- Runs a command, given its command word and its operands. -/
def runCommand (machine : Machine) (name : Text) (operands : List Text) : Action Flow :=
  match Builtin.ofName? name with
  | some builtin => builtin.run operands
  | none => do return .status (← runProgram machine name (name :: operands))

namespace Session

/-- The state and the flow after a command: an error is reported, and a status is kept. -/
def settle (s : Session) : Except CommandError Flow → Flow × Session
  | .ok (.status status) => (.status status, { s with lastStatus := status })
  | .ok flow => (flow, s)
  | .error e => (.status e.status, { s.report e with lastStatus := e.status })

/-- The state when the next command has a new number. -/
def advance (s : Session) : Session :=
  { s with counter := s.counter + 1 }

end Session

/-- Runs a segment as one command. A segment without tokens changes nothing. -/
def dispatch (machine : Machine) : Runner Session
  | [], s => (.status s.lastStatus, s)
  | token :: rest, s =>
    let (result, s) := (runCommand machine token.word (rest.map Token.word)).run s
    let (flow, s) := s.settle result
    (flow, s.advance)

end CommandShell
