import CommandShell.Session.Run
import CommandShell.Startup.Options
import CommandShell.Startup.RcFile
import CommandShell.Startup.Terminal

/-!
# Launching the interpreter

The interpreter is started with a name, arguments and an environment, and ends with a code of one byte
and what it wrote. It runs a script, or what is redirected to its standard input, or a dialogue with
the user at a terminal.

## Main definitions
* `Invocation`, `Outcome`
* `launch`
-/

namespace CommandShell

/-- What the interpreter is started with. -/
structure Invocation where
  /-- The name under which it runs. -/
  program : Bytes
  arguments : List Bytes
  /-- Entries `NAME=VALUE`. -/
  environment : List Bytes
  pid : UInt32
  disk : Disk
  input : Bytes
  /-- The standard input is a terminal at which the input is typed. -/
  isTerminal : Bool

/-- What the interpreter leaves. -/
structure Outcome where
  code : UInt8
  out : Bytes
  err : Bytes
  deriving DecidableEq

namespace Environment

/-- The name and the value of an entry. The first byte belongs to the name in any case, and what has
no `=` behind it is no entry. -/
def entry? : Bytes → Option (Bytes × Bytes)
  | [] => none
  | first :: rest =>
    match rest.dropWhile (· != 61) with
    | [] => none
    | _ :: value => some (first :: rest.takeWhile (· != 61), value)

/-- The environment that is handed over as entries. -/
def ofHanded (entries : List Bytes) : Environment :=
  ofList (entries.filterMap entry?)

end Environment

/-- The text that tells the version. -/
def versionText : Text := "husk 0.1.0\n".toList

/-- What is shown before each line of a dialogue. -/
def prompt : Text := "$ ".toList

namespace Outcome

/-- The code that is left of a status. -/
def codeOf (status : Status) : UInt8 :=
  status.toUInt32.toUInt8

/-- A text on the standard output, and success. -/
def ofText (text : Text) : Outcome :=
  ⟨0, Utf8.encode text, []⟩

/-- The line that tells a fatal error. -/
def complaint (program : Text) : FatalError → Text
  | e@(.scriptNotOpened _) => program ++ ": 0: ".toList ++ e.message ++ ['\n']
  | e => program ++ ": ".toList ++ e.message ++ ['\n']

/-- The code of a fatal error. -/
def fatalCode : FatalError → UInt8
  | .scriptNotOpened _ => 127
  | _ => 2

/-- The end of an interpreter whose name or whose arguments are no text. -/
def crash : Outcome :=
  ⟨101, [], []⟩

/-- The end of the interpreter in some state. -/
def ofSession (result : Except FatalError Status) (s : Session) : Outcome :=
  match result with
  | .ok status => ⟨codeOf status, s.out.contents, s.err.contents⟩
  | .error e =>
    ⟨fatalCode e, s.out.contents, s.err.contents ++ Utf8.encode (complaint s.program e)⟩

end Outcome

/-- Runs the script at a path. -/
def runScript (machine : Machine) (path : Bytes) (s : Session) :
    Except FatalError Status × Session :=
  match s.disk.locate path with
  | .error _ => (.error (.scriptNotOpened path), s)
  | .ok found =>
    match found.read with
    | .error cause => run machine (.unreadable cause) s
    | .ok content => run machine (.ofStream content) s

/-- Runs a dialogue, after the commands of the user's own file. A file that cannot be read is passed
over. -/
def runDialogue (machine : Machine) (home : Option Bytes) (s : Session) :
    Except FatalError Status × Session :=
  let commands := (home.bind fun home => (RcFile.read s.disk home).toOption).getD []
  match sourceLines machine commands s with
  | (some code, s) => (.ok code, s)
  | (none, s) => runInput machine (.dialogue prompt Terminal.editor) s

/-- Starts the interpreter on arguments that are texts, and runs it to its end. -/
def launchWith (machine : Machine) (invocation : Invocation) (program : Text)
    (arguments : List Text) : Outcome :=
  let env := Environment.ofHanded invocation.environment
  let s := Session.new program invocation.pid env invocation.disk
  match Options.read arguments with
  | (_, some e) => .ofSession (.error e) s
  | (options, none) =>
    if options.isSet .help then .ofText Options.usage
    else if options.isSet .version then .ofText versionText
    else
      let s := { s with
        input :=
          if invocation.isTerminal then Terminal.input invocation.input
          else .ofBytes invocation.input }
      let (result, s) :=
        match options.script with
        | some path => runScript machine (Utf8.encode path) s
        | none =>
          if invocation.isTerminal then
            let home := RcFile.homeDirectory (RcFile.handedHome invocation.environment)
            runDialogue machine (if options.isSet .norc then none else some home) s
          else runInput machine .batch s
      .ofSession result s

/-- Starts the interpreter and runs it to its end. -/
def launch (machine : Machine) (invocation : Invocation) : Outcome :=
  match Utf8.decode? invocation.program, invocation.arguments.mapM Utf8.decode? with
  | some program, some arguments => launchWith machine invocation program arguments
  | _, _ => .crash

end CommandShell
