import CommandShell.Files.Setup
import CommandShell.Program
import CommandShell.Userland.Script.Command

/-!
# Running scripts

The state of a running script: its parameters, its functions, what it does on signals, and where its
descriptors lead. What it writes goes to sinks, of which the first two are its standard output and its
diagnostic output; what it reads comes from sources, of which the first is its standard input.

## Main definitions
* `Channel`, `Script`, `Script.ofProcess`
* `Script.parameter?`, `Script.assign`
* `Script.write`, `Script.input`
* `Stop`, `Run`: why a script does not go on, and actions on its state.
-/

namespace CommandShell.Userland

/-- A variable of a script. -/
structure Variable where
  name : Bytes
  /-- Nothing if it has been declared only. -/
  value : Option Bytes
  /-- The programs that the script starts are handed it. -/
  isExported : Bool
  /-- It takes no other value. -/
  isFixed : Bool

/-- Where a descriptor leads. -/
inductive Channel
  | sink (number : Nat)
  | source (number : Nat)
  | file (location : Location)

/-- The state of a running script. -/
structure Script where
  /-- The name under which it runs. -/
  name : Bytes
  arguments : List Bytes
  /-- The command in whose name something is said. -/
  speaker : Option Bytes
  /-- The arguments of the program that runs it. -/
  commandLine : List Bytes
  bindings : List Variable
  functions : List (Bytes × Command)
  /-- What is run on a signal; the signal 0 stands for the end of the script. -/
  traps : List (Nat × Bytes)
  /-- Signals that have come and are still to be answered. -/
  signals : List Nat
  /-- The letters of the options that are set. -/
  options : List Char
  /-- The variables to be restored at the end of each function that is running, the inner one first. -/
  frames : List (List (Bytes × Option Variable))
  /-- The number of loops that are running in the function. -/
  loops : Nat
  channels : List (Nat × Channel)
  sinks : List Bytes
  sources : List Input
  disk : Disk
  status : UInt8
  /-- The status of what is running is looked at. -/
  isTested : Bool

/-- The exit code that an end is seen as. -/
def codeOf : Ending → UInt8
  | .code c => c
  | .signal n => 128 + n

/-- Why a script does not go on. -/
inductive Stop
  /-- It is asked to end. -/
  | exit (code : UInt8)
  /-- It has ended without being asked. -/
  | ended (ending : Ending)
  /-- A number of loops around it are left, or the last of them begins its next round. -/
  | loop (isLeft : Bool) (depth : Nat)
  /-- The function is left. -/
  | function

/-- What is done in a script. -/
abbrev Run (α : Type) := ExceptT Stop (StateM Script) α

/-- The process number that a script finds as its own. -/
def ownNumber : Bytes := bytesOf "2"

namespace Script

/-- A variable by its name. -/
def binding? (s : Script) (name : Bytes) : Option Variable :=
  s.bindings.find? fun v => v.name == name

/-- The value of a variable. -/
def value? (s : Script) (name : String) : Option Bytes :=
  (s.binding? (bytesOf name)).bind Variable.value

/-- The state with a variable, in the place of the one with its name or behind all others. -/
def put (s : Script) (v : Variable) : Script :=
  match s.bindings.findIdx? fun other => other.name == v.name with
  | some i => { s with bindings := s.bindings.set i v }
  | none => { s with bindings := s.bindings ++ [v] }

/-- The state with a value given to a variable, which from then on is exported if it was, or if that
is asked for. -/
def assign (s : Script) (name value : Bytes) (exports : Bool) : Script :=
  let before := s.binding? name
  s.put ⟨name, some value, before.any Variable.isExported || exports || s.options.contains 'a',
    before.any Variable.isFixed⟩

/-- The state without a variable. -/
def unset (s : Script) (name : Bytes) : Script :=
  { s with bindings := s.bindings.filter fun v => v.name != name }

/-- The state in which a variable is again what it was. -/
def restore (s : Script) (name : Bytes) (before : Option Variable) : Script :=
  match before with
  | some v => s.put v
  | none => s.unset name

/-- The number of rows in which variables are kept. -/
def rowCount : Nat := 39

/-- The row in which a variable is kept: sixteen times its first byte and all its bytes, summed up. -/
def rowOf (name : Bytes) : Nat :=
  name.foldl (fun sum b => sum + b.toNat) (16 * (name.headD 61).toNat) % rowCount

/-- The variables that have a place before the others of their row, the last one first. -/
def givenNames : List String :=
  ["HISTSIZE", "TERM", "LINENO", "OPTIND", "PS4", "PS2", "PS1", "PATH", "MAILPATH", "MAIL", "IFS",
    "ATTY"]

/-- The entries that programs are handed, row by row. -/
def entries (s : Script) : List Bytes :=
  let exported := s.bindings.filter Variable.isExported
  let given := givenNames.filterMap fun name => exported.find? fun v => v.name == bytesOf name
  let others := exported.filter fun v => !givenNames.any (bytesOf · == v.name)
  let ordered := given ++ others
  (ordered.mergeSort fun v w => decide (rowOf v.name ≤ rowOf w.name)).filterMap fun v =>
    v.value.map (v.name ++ 61 :: ·)

/-- The bytes between fields. -/
def separators (s : Script) : Bytes :=
  (s.value? "IFS").getD [32, 9, newline]

/-- The arguments joined by the first separator. -/
def joinedArguments (s : Script) : Bytes :=
  match s.separators with
  | [] => s.arguments.flatten
  | b :: _ => joinPieces b s.arguments

/-- What a parameter stands for. -/
def parameter? (s : Script) (name : Bytes) : Option Bytes :=
  match name.map charOf with
  | ['@'] | ['*'] => if s.arguments.isEmpty then none else some s.joinedArguments
  | ['#'] => some (Utf8.encode (natural s.arguments.length))
  | ['?'] => some (Utf8.encode (natural s.status.toNat))
  | ['$'] => some ownNumber
  | ['-'] => some (Utf8.encode s.options)
  | ['!'] => none
  | ['0'] => some s.name
  | _ =>
    if name.all isDecimal then s.arguments[numberOf 10 name - 1]?
    else (s.binding? name).bind Variable.value

/-- The bytes of a stored file that has been opened. -/
def contentAt (s : Script) (location : Location) : Bytes :=
  match s.disk.files.node? location with
  | some (.file content _) => content
  | _ => []

/-- Writes to a descriptor. -/
def write (s : Script) (descriptor : Nat) (data : Bytes) : Script :=
  match s.channels.lookup descriptor with
  | some (.sink number) => { s with sinks := s.sinks.modify number (· ++ data) }
  | some (.file location) =>
    match s.disk.files.node? location with
    | some (.file content access) =>
      { s with
        disk := s.disk.adopt (s.disk.files.put location (.file (content ++ data) access)) }
    | _ => s
  | _ => s

/-- Says something on the diagnostic output, in the name of the script and of a command in it. -/
def say (s : Script) (line : Nat) (message : Bytes) : Script :=
  let speakers := [s.name, Utf8.encode (natural line)] ++ s.speaker.toList
  s.write 2 (speakers.flatMap (· ++ bytesOf ": ") ++ message ++ [newline])

/-- What can be read from the standard input as it leads now. -/
def input (s : Script) : Input :=
  match s.channels.lookup 0 with
  | some (.source number) => s.sources[number]?.getD .empty
  | some (.file location) => .ofBytes (s.contentAt location)
  | _ => .empty

/-- The state with what is left of the standard input. -/
def leave (s : Script) (input : Input) : Script :=
  match s.channels.lookup 0 with
  | some (.source number) => { s with sources := s.sources.set number input }
  | _ => s

/-- The state in which a descriptor leads somewhere, or nowhere. -/
def lead (s : Script) (descriptor : Nat) (channel : Option Channel) : Script :=
  let others := s.channels.filter fun entry => entry.1 != descriptor
  { s with channels := (channel.map fun c => (descriptor, c)).toList ++ others }

/-- The state in which a descriptor leads to bytes that can be read. -/
def feed (s : Script) (descriptor : Nat) (data : Bytes) : Script :=
  { s with sources := s.sources ++ [Input.ofBytes data] }.lead descriptor
    (some (.source s.sources.length))

/-- The directory of a script at its start: what the environment says if that is true. -/
def startDirectory (disk : Disk) (claimed : Option Bytes) : Bytes :=
  let physical := disk.currentDirectory.toOption.getD []
  match claimed with
  | none => physical
  | some path =>
    match disk.directory path with
    | .ok p => if Path.isAbsolute path && p == disk.cwd then path else physical
    | .error _ => physical

/-- The variable that an entry sets, if its name can be used in scripts. -/
def imported? (entry : Bytes) : Option Variable :=
  let name := entry.takeWhile (· != 61)
  if isName name && name.length < entry.length then
    some ⟨name, some (entry.drop (name.length + 1)), true, false⟩
  else none

/-- The values that variables have at the start if they are handed none. -/
def startValues : List (String × String) :=
  [("PATH", "/usr/local/sbin:/usr/local/bin:/usr/sbin:/usr/bin:/sbin:/bin"), ("PS1", "$ "),
    ("PS2", "> "), ("PS4", "+ ")]

/-- The values that variables have at the start, whatever they are handed. -/
def fixedStartValues : List (String × String) :=
  [("IFS", " \t\n"), ("OPTIND", "1")]

/-- The state in which a script starts. -/
def ofProcess (p : Process) (name : Bytes) (arguments : List Bytes) : Script :=
  let s : Script :=
    { name, arguments, speaker := none, commandLine := p.arguments
      bindings := p.environment.filterMap imported?
      functions := [], traps := [], signals := [], options := [], frames := [], loops := 0
      channels := [(0, .source 0), (1, .sink 0), (2, .sink 1)]
      sinks := [[], []], sources := [p.input], disk := p.disk, status := 0, isTested := false }
  let s := s.assign (bytesOf "PWD") (startDirectory p.disk (s.value? "PWD")) true
  let missing := startValues.filter fun entry => (s.value? entry.1).isNone
  let s := (missing ++ fixedStartValues).foldl
    (fun s entry => s.assign (bytesOf entry.1) (bytesOf entry.2) false) s
  if p.disk.cwd.isThere then s
  else s.write 2 (bytesOf "sh: 0: getcwd() failed: No such file or directory\n")

end Script

namespace Run

/-- Gives the command that runs a status. -/
def result (status : UInt8) : Run Unit :=
  modify ({ · with status })

/-- Writes to the standard output. -/
def print (data : Bytes) : Run Unit :=
  modify (·.write 1 data)

/-- Complains about a command on a line, and gives it a status. -/
def complain (line : Nat) (status : UInt8) (message : Bytes) : Run Unit := do
  modify (·.say line message)
  result status

/-- Complains on a line, and ends the script. -/
def fail {α : Type} (line : Nat) (message : Bytes) : Run α := do
  modify (·.say line message)
  throw (.exit 2)

/-- Gives a variable a value; one that takes no other ends the script. -/
def give (line : Nat) (name value : Bytes) (exports : Bool) : Run Unit := do
  if ((← get).binding? name).any Variable.isFixed then fail line (name ++ bytesOf ": is read only")
  modify (·.assign name value exports)

/-- Does something, and changes the state behind it, also if the script does not go on. -/
def andThen {α : Type} (run : Run α) (after : Script → Script) : Run α :=
  ExceptT.mk do
    let result ← run.run
    modify after
    return result

/-- Does something in the name of a command. -/
def speaking {α : Type} (command : Bytes) (run : Run α) : Run α := do
  let speaker := (← get).speaker
  modify ({ · with speaker := some command })
  andThen run ({ · with speaker })

/-- How something comes to its end, whether the script goes on or not. -/
def outcome (run : Run Unit) : Run (Option Stop) :=
  ExceptT.mk do
    match ← run.run with
    | .ok () => return .ok none
    | .error stop => return .ok (some stop)

end Run

end CommandShell.Userland
