import CommandShell.Aliases
import CommandShell.Environment
import CommandShell.Files.Disk
import CommandShell.Input
import CommandShell.Line.Expansion
import CommandShell.Stream

/-!
# Sessions

The state of the interpreter, and actions on it: an action may fail with a command error, and leaves
the state as it is at that moment.

## Main definitions
* `Session`, `Session.new`
* `Session.report`: an error reported on the diagnostic stream.
* `Action`, `writeOut`, `writeErr`
-/

namespace CommandShell

/-- The state of the interpreter. -/
structure Session where
  /-- The name under which it runs. -/
  program : Text
  pid : UInt32
  env : Environment
  aliases : Aliases
  lastStatus : Status
  /-- The number of the next command. -/
  counter : UInt64
  out : Stream
  err : Stream
  disk : Disk
  /-- What is left of the standard input, which the programs that it starts share with it. -/
  input : Input

namespace Session

/-- The state before the first command. -/
def new (program : Text) (pid : UInt32) (env : Environment) (disk : Disk) : Session where
  program
  pid
  env
  aliases := .empty
  lastStatus := 0
  counter := 1
  out := .new
  err := .new
  disk
  input := .empty

/-- The diagnostic of an error that occurs now. -/
def diagnostic (s : Session) (e : CommandError) : Diagnostic :=
  ⟨s.program, s.counter, e⟩

/-- Reports an error, as far as the diagnostic stream takes it. -/
def report (s : Session) (e : CommandError) : Session :=
  { s with err := s.err.report (s.diagnostic e) }

/-- What a reference in a line stands for. An unknown variable stands for nothing. -/
def value (s : Session) : Reference → Text
  | .processId => natural s.pid.toNat
  | .lastStatus => s.lastStatus.text
  | .variable name => (s.env.getLossy? name).getD []

/-- Flushes the output stream and then, if that can be done, the diagnostic stream. -/
def flush (s : Session) : Except Failure Unit × Session :=
  match s.out.flush with
  | (.ok (), out) => (s.err.flush.1, { s with out, err := s.err.flush.2 })
  | (.error cause, out) => (.error cause, { s with out })

@[simp] theorem report_env (s : Session) (e : CommandError) : (s.report e).env = s.env := rfl

@[simp] theorem report_aliases (s : Session) (e : CommandError) :
    (s.report e).aliases = s.aliases := rfl

@[simp] theorem report_lastStatus (s : Session) (e : CommandError) :
    (s.report e).lastStatus = s.lastStatus := rfl

@[simp] theorem report_counter (s : Session) (e : CommandError) :
    (s.report e).counter = s.counter := rfl

@[simp] theorem report_out (s : Session) (e : CommandError) : (s.report e).out = s.out := rfl

@[simp] theorem report_disk (s : Session) (e : CommandError) : (s.report e).disk = s.disk := rfl

end Session

/-- What a command does to the state, and what comes of it. -/
abbrev Action (α : Type) := ExceptT CommandError (StateM Session) α

/-- Writes chunks to the output stream, in the name of a command. -/
def writeOut (command : Text) (chunks : List Chunk) : Action Unit := do
  let (result, out) := (← get).out.writeAll chunks
  modify ({ · with out })
  match result with
  | .ok () => return
  | .error cause => throw (.failed command cause)

/-- Writes chunks to the diagnostic stream, in the name of a command. -/
def writeErr (command : Text) (chunks : List Chunk) : Action Unit := do
  let (result, err) := (← get).err.writeAll chunks
  modify ({ · with err })
  match result with
  | .ok () => return
  | .error cause => throw (.failed command cause)

end CommandShell
