import CommandShell.Environment
import CommandShell.Files.Path

/-!
# The search path

A command word without a slash is looked for in the directories of the search path, in their order; a
word with a slash names its program itself. What exists is a parameter, so that the search can be
spoken of for any file system.

## Main definitions
* `searchDirectories`: the directories of a search path.
* `findProgram`: the path of the program that a command word names.
-/

namespace CommandShell

/-- The byte that separates the directories of a search path. -/
def colon : UInt8 := 58

/-- The directories of a search path. An empty entry stands for the directory `base`. -/
def searchDirectories (path base : Bytes) : List Bytes :=
  if path.isEmpty then []
  else (pieces colon path).map fun directory => if directory.isEmpty then base else directory

/-- The path of the program that a command word names: of those that exist, the first. -/
def findProgram (isThere : Bytes → Bool) (command : Bytes) (path : Option Bytes) (base : Bytes) :
    Option Bytes :=
  if command.isEmpty then none
  else if command.contains slash then if isThere command then some command else none
  else
    path.bind fun path =>
      ((searchDirectories path base).map (Path.join · command)).find? isThere

/-- An empty entry takes the place of the base directory, every other entry stands for itself. -/
theorem length_searchDirectories {path : Bytes} (h : path ≠ []) (base : Bytes) :
    (searchDirectories path base).length = path.count colon + 1 := by
  simp [searchDirectories, h, length_pieces]

end CommandShell
