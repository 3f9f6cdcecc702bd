import CommandShell.Files.Disk
import CommandShell.Flow
import CommandShell.Input
import CommandShell.Search

/-!
# Programs

Starting a program: the path must lead to an executable file, a file that begins with `#!` is run by
the interpreter that it names, and no text that is handed over may hold a NUL byte. What a started
program then does is up to the machine, which is a parameter of everything that runs commands.

## Main definitions
* `Process`, `Completion`, `Machine`: what a program is given, what it leaves, what programs do.
* `interpreter?`: the interpreter that a file names on its first line.
* `Disk.image`: the program that stands behind a path.
* `spawnImage`, `spawn`: a program run to its end.
-/

namespace CommandShell

/-- What a program is started with. -/
structure Process where
  /-- The program of the machine that runs. -/
  program : Text
  arguments : List Bytes
  /-- Entries `NAME=VALUE`. -/
  environment : List Bytes
  disk : Disk
  /-- What can be read from the standard input. -/
  input : Input

/-- How a program ended. -/
inductive Ending
  /-- By itself, with an exit code. -/
  | code (value : UInt8)
  /-- On a signal. -/
  | signal (number : UInt8)
  deriving DecidableEq

/-- The status of a program that ended on a signal, less the number of the signal. -/
def signalBase : Status := 128

namespace Ending

/-- The status that stands for the end of a program. -/
def status : Ending → Status
  | code value => value.toNat.toInt32
  | signal number => signalBase + number.toNat.toInt32

end Ending

/-- What a program leaves behind. -/
structure Completion where
  ending : Ending
  out : Bytes
  err : Bytes
  files : Files
  /-- What it has left of the standard input. -/
  input : Input

/-- What the programs of a machine do. -/
abbrev Machine := Process → Completion

/-- A space or a tab. -/
def isSpacing (b : UInt8) : Bool :=
  b == 32 || b == 9

/-- The number of bytes of a file in which the name of its interpreter is looked for. -/
def headerSize : Nat := 256

/-- The line behind `#!` at the start of a file, of which the header, filled up with NUL bytes, is
given. A line that does not end in the header reaches up to its last byte, and must show where the name
of the interpreter ends. -/
def headerLine? (header : Bytes) : Option Bytes :=
  let withoutSpacing := fun line : Bytes => (line.reverse.dropWhile isSpacing).reverse
  if (header.takeWhile (· != 0)).contains newline then
    some (withoutSpacing (header.takeWhile (· != newline)))
  else if (header.dropWhile isSpacing).any fun b => isSpacing b || b == 0 then
    some (withoutSpacing header.dropLast)
  else none

/-- The interpreter that a file names behind `#!` on its first line, with at most one argument. A NUL
byte ends the name and the argument. -/
def interpreter? (content : Bytes) : Option (Bytes × Option Bytes) :=
  match (content ++ List.replicate headerSize 0).take headerSize with
  | 35 :: 33 :: header =>
    (headerLine? header).bind fun line =>
      let endsName := fun b : UInt8 => isSpacing b || b == 0
      match line.dropWhile isSpacing with
      | [] => none
      | line =>
        let name := line.takeWhile (!endsName ·)
        match line.drop name.length with
        | [] | 0 :: _ => some (name, none)
        | behind => some (name, some ((behind.dropWhile isSpacing).takeWhile (· != 0)))
  | _ => none

/-- The number of interpreters that may stand behind one another. -/
def interpreterLimit : Nat := 5

namespace Disk

/-- The program of the machine that runs when a path is executed, with its arguments. -/
def image (disk : Disk) : Nat → Bytes → List Bytes → Except Failure (Text × List Bytes)
  | depth, path, arguments => do
    match ← disk.locate path with
    | .file _ (.program name) => .ok (name, arguments)
    | .file _ (.file content ⟨_, true⟩) =>
      match interpreter? content with
      | none => .error (.system .notExecutable)
      | some (name, argument) =>
        match depth with
        | 0 => .error (.system .tooManyLinks)
        | depth + 1 =>
          disk.image depth name (name :: argument.toList ++ path :: arguments.tail)
    | _ => .error (.system .permissionDenied)

/-- The search path of a program that is named without a slash and has no `PATH`. -/
def defaultSearchPath : Bytes :=
  Utf8.encode "/bin:/usr/bin".toList

/-- The first of the candidates that can be run. A candidate that is not there is passed over, and
so is one that is forbidden, unless there is no other; a file of no known format is given to the
command interpreter of the machine. -/
def firstImage (disk : Disk) (arguments : List Bytes) :
    Failure → List Bytes → Except Failure (Text × List Bytes)
  | refusal, [] => .error refusal
  | refusal, candidate :: rest =>
    match disk.image interpreterLimit candidate arguments with
    | .ok image => .ok image
    | .error (.system .permissionDenied) =>
      disk.firstImage arguments (.system .permissionDenied) rest
    | .error (.system .notExecutable) =>
      let shell := Utf8.encode "/bin/sh".toList
      disk.image interpreterLimit shell (shell :: candidate :: arguments.tail)
    | .error (.system .noSuchFile) | .error (.system .notDirectory) =>
      disk.firstImage arguments refusal rest
    | .error failure => .error failure

end Disk

/-- Why a program could not be started. -/
inductive SpawnError
  | notFound (path : Bytes)
  | permissionDenied (path : Bytes)
  | failed (path : Bytes) (cause : Failure)
  deriving DecidableEq

namespace SpawnError

/-- What is said about a program that could not be started. -/
def message : SpawnError → Text
  | notFound path => "Command not found: ".toList ++ Utf8.decodeLossy path
  | permissionDenied path => "Permission denied: ".toList ++ Utf8.decodeLossy path
  | failed path cause =>
    "Failed to run ".toList ++ Utf8.decodeLossy path ++ ": ".toList ++ cause.text

/-- The error for a refusal to run what stands at a path. A file that has no format the system can
execute counts as one that must not be run. -/
def ofFailure (path : Bytes) : Failure → SpawnError
  | .system .noSuchFile => notFound path
  | .system .permissionDenied | .system .notExecutable => permissionDenied path
  | failure => failed path failure

end SpawnError

namespace Environment

/-- The entries that a program is handed, in the order of their names. -/
def handed (env : Environment) : List Bytes :=
  (env.entries.mergeSort fun a b => decide (a.1 ≤ b.1)).map fun entry =>
    entry.1 ++ Utf8.encode ['='] ++ entry.2

end Environment

/-- The number of bytes that one argument or entry may have. -/
def argumentLimit : Nat := 131071

/-- The number of bytes that the path, all arguments and all entries may have. Each takes one more for
its end, and each argument and entry eight for its place in the list. -/
def argumentsLimit : Nat := 2097152

/-- More is handed over than the system passes on. -/
def isTooMuch (path : Bytes) (handedOver : List Bytes) : Bool :=
  handedOver.any (argumentLimit < ·.length) ||
    argumentsLimit <
      handedOver.foldl (fun total data => total + data.length + 9) (path.length + 1)

/-- Finds the program behind a path, for a start with these arguments, where the search path may be set.
Directories of the search path that are too long for a path are passed over. -/
def findImage (disk : Disk) (searched : Option Bytes) (path : Bytes) (arguments : List Bytes) :
    Except Failure (Text × List Bytes) :=
  if path.contains slash then disk.image interpreterLimit path arguments
  else if path.isEmpty then .error (.system .noSuchFile)
  else
    let directories :=
      (pieces colon (searched.getD Disk.defaultSearchPath)).filter (·.length ≤ Disk.pathLimit)
    disk.firstImage arguments (.system .noSuchFile) (directories.map (Path.join · path))

/-- Runs the program that `image` gives for the path to its end. Without arguments, the path itself is the
first one. -/
def spawnImage (machine : Machine) (disk : Disk) (env : Environment) (input : Input) (path : Bytes)
    (image : List Bytes → Except Failure (Text × List Bytes)) (arguments : List Text) :
    Except SpawnError Completion := do
  let arguments := if arguments.isEmpty then [path] else arguments.map Utf8.encode
  let handed := env.handed
  if path.contains 0 || arguments.any (·.contains 0) || handed.any (·.contains 0) then
    throw (.failed path .nulByte)
  match image arguments with
  | .error failure => throw (.ofFailure path failure)
  | .ok (program, arguments) =>
    if isTooMuch path (arguments ++ handed) then throw (.failed path (.system .argumentsTooLong))
    return machine { program, arguments, environment := handed, disk, input }

/-- Runs the program at a path to its end. -/
def spawn (machine : Machine) (disk : Disk) (env : Environment) (input : Input) (path : Bytes)
    (arguments : List Text) : Except SpawnError Completion :=
  spawnImage machine disk env input path (findImage disk (env.get? "PATH".toList) path) arguments

end CommandShell
