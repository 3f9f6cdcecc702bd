import CommandShell.Text.Pieces

/-!
# Paths

A path is a byte string; the names in it are separated by slashes. A directory or file has one
location: the names that lead to it from the root, without links.

## Main definitions
* `Name`, `Location`, `Location.path`
* `Path.isAbsolute`, `Path.names`, `Path.join`
-/

namespace CommandShell

/-- The name of an entry in a directory. -/
abbrev Name := Bytes

/-- The names that lead to something from the root. -/
abbrev Location := List Name

/-- The byte that separates the names of a path. -/
def slash : UInt8 := 47

/-- The name by which a directory refers to itself. -/
def selfName : Name := [46]

/-- The name by which a directory refers to the one that holds it. -/
def parentName : Name := [46, 46]

namespace Location

/-- The absolute path of a location. -/
def path : Location → Bytes
  | [] => [slash]
  | names => names.flatMap (slash :: ·)

end Location

namespace Path

/-- The path begins at the root. -/
def isAbsolute (path : Bytes) : Bool :=
  path.head? == some slash

/-- The names in a path. A slash at its end asks for a directory, as a last `.` would. -/
def names (path : Bytes) : List Name :=
  let named := (pieces slash path).filter (!·.isEmpty)
  if path.getLast? = some slash then named ++ [selfName] else named

/-- The path of a name in a directory. An absolute path leads to its own place from anywhere. -/
def join (directory path : Bytes) : Bytes :=
  if isAbsolute path || directory.isEmpty then path
  else if directory.getLast? = some slash then directory ++ path
  else directory ++ slash :: path

end Path

end CommandShell
