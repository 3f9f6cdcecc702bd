import CommandShell.FatalError
import CommandShell.Files.Disk
import CommandShell.Text.Blank

/-!
# The file of first commands

A dialogue begins with the commands of the user's own file, if there is one. Blank lines and lines that
begin with `#` are left out.

## Main definitions
* `RcFile.handedHome`, `RcFile.homeDirectory`, `RcFile.pathIn`: where the file is.
* `RcFile.commands`: the commands in a text.
* `RcFile.read`
-/

namespace CommandShell.RcFile

/-- The name of the file. -/
def fileName : Bytes :=
  Utf8.encode ".huskrc".toList

/-- The user's own directory where the environment does not name one. -/
def defaultHome : Bytes :=
  Utf8.encode "/root".toList

/-- The user's own directory, given what the environment says about it. -/
def homeDirectory : Option Bytes → Bytes
  | none | some [] => defaultHome
  | some home => home

/-- What the entries of an environment say about the user's own directory: of several, the first one
counts. -/
def handedHome (entries : List Bytes) : Option Bytes :=
  let start := Utf8.encode "HOME=".toList
  (entries.find? start.isPrefixOf).map (·.drop start.length)

/-- The path of the file in a directory. -/
def pathIn (directory : Bytes) : Bytes :=
  Path.join directory fileName

/-- The line holds a command: it is not blank and no comment. -/
def isCommand (line : Text) : Bool :=
  !line.isEmpty && line.head? != some '#'

/-- The commands in a text, one on a line. -/
def commands (text : Text) : List Text :=
  ((pieces '\n' text).map trim).filter isCommand

/-- Reads the commands of the file in a directory. A file that is not there holds none. -/
def read (disk : Disk) (directory : Bytes) : Except FatalError (List Text) :=
  match disk.read (pathIn directory) with
  | .error (.system .noSuchFile) => .ok []
  | .error cause => .error (.configUnread (pathIn directory) cause)
  | .ok content =>
    match Utf8.decode? content with
    | none => .error (.configUnread (pathIn directory) .notText)
    | some text => .ok (commands text)

end CommandShell.RcFile
