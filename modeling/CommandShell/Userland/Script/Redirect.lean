import CommandShell.Userland.Script.Builtin

/-!
# Files and programs that scripts lead to

## Main definitions
* `Script.redirect`: a descriptor led to a file, a document or another descriptor.
* `startProgram`: a program started, where what programs do is a parameter.
-/

namespace CommandShell.Userland

/-! ## Redirections -/

/-- Where a failure to open a file is told, with what was to be done. -/
def openFailure (doing : String) (path : Bytes) (missing : String) : Failure → Bytes
  | .system .noSuchFile | .system .notDirectory =>
    bytesOf doing ++ path ++ bytesOf (": " ++ missing)
  | .system e => bytesOf doing ++ path ++ bytesOf ": " ++ Utf8.encode e.description
  | _ => bytesOf doing ++ path ++ bytesOf (": " ++ missing)

/-- The content of a file that is opened. A script finds its own command line in a file of the
system. -/
def Script.contentOf (s : Script) (path : Bytes) : Except Failure Bytes :=
  if path = bytesOf "/proc/" ++ ownNumber ++ bytesOf "/cmdline" then
    .ok (s.commandLine.flatMap (· ++ [0]))
  else do
    let found ← s.disk.locate path
    match found, found.read with
    | .directory _, _ => return []
    | _, content => content

/-- The file that takes everything and keeps nothing. -/
def nowhere : Bytes := bytesOf "/dev/null"

/-- The state in which a descriptor leads to a file, with the content that the file keeps. -/
def Script.openFile (s : Script) (descriptor : Nat) (path : Bytes) (keeps : Bool) :
    Except Bytes Script :=
  if path = nowhere then .ok (s.lead descriptor none)
  else
    let failed := openFailure "cannot create " path "Directory nonexistent"
    match s.disk.locate path, s.disk.files.placeFor linkLimit (s.disk.startOf path) (Path.names path)
      with
    | .ok (.directory _), _ => .error (failed (.system .isDirectory))
    | _, none => .error (failed (.system .noSuchFile))
    | found, some location =>
      let content := if keeps && found.isOk then s.contentAt location else []
      .ok ({ s with disk := s.disk.writeFile path content none }.lead descriptor
        (some (.file location)))

/-- The state after a redirection to an expanded target, or what is wrong with it. -/
def Script.redirect (s : Script) (descriptor : Nat) (kind : Redirection) (target : Bytes) :
    Except Bytes Script :=
  match kind with
  | .document _ => .ok (s.feed descriptor target)
  | .read | .readWrite =>
    match s.contentOf target with
    | .ok content => .ok (s.feed descriptor content)
    | .error cause =>
      if kind = .readWrite then s.openFile descriptor target true
      else .error (openFailure "cannot open " target "No such file" cause)
  | .write => s.openFile descriptor target false
  | .append => s.openFile descriptor target true
  | .copy =>
    if target = [45] then .ok (s.lead descriptor none)
    else if target.isEmpty || !target.all isDecimal then .error (bytesOf "Syntax error: Bad fd number")
    else
      match s.channels.lookup (numberOf 10 target) with
      | some channel => .ok (s.lead descriptor (some channel))
      | none => .error (target ++ bytesOf ": Bad file descriptor")

/-! ## Programs -/

/-- What is said when a program cannot be run, and the status that tells it. -/
def refusalOf (name : Bytes) : Failure → UInt8 × Bytes
  | .system .noSuchFile | .system .notDirectory => (127, name ++ bytesOf ": not found")
  | .system .tooManyLinks =>
    (127, name ++ bytesOf ": " ++ Utf8.encode SystemError.tooManyLinks.description)
  | .system .nameTooLong =>
    (127, name ++ bytesOf ": " ++ Utf8.encode SystemError.nameTooLong.description)
  | .system e => (126, name ++ bytesOf ": " ++ Utf8.encode e.description)
  | _ => (126, name ++ bytesOf ": not found")

/-- The program behind a path, for a start with these arguments. A file of no known format is run as a
script. -/
def imageOf (disk : Disk) (path : Bytes) (arguments : List Bytes) :
    Except Failure (Text × List Bytes) :=
  match disk.image interpreterLimit path arguments with
  | .error (.system .notExecutable) =>
    let runner := bytesOf "/bin/sh"
    disk.image interpreterLimit runner (runner :: path :: arguments.tail)
  | result => result

/-- Starts a program and waits for its end, which is told; none if it cannot be started. -/
def startProgram (start : Machine) (line : Nat) (name : Bytes) (operands : List Bytes) :
    Run (Option Ending) := do
  let s ← get
  match s.locate name with
  | none =>
    Run.complain line 127 (name ++ bytesOf ": not found")
    return none
  | some path =>
    match imageOf s.disk path (name :: operands) with
    | .error cause =>
      let (status, message) := refusalOf name cause
      Run.complain line status message
      return none
    | .ok (program, arguments) =>
      let done := start
        { program, arguments, environment := s.entries, disk := s.disk, input := s.input }
      let s := { s with disk := s.disk.adopt done.files }
      set ((((s.leave done.input).write 1 done.out).write 2 done.err))
      Run.result (codeOf done.ending)
      return some done.ending

end CommandShell.Userland
