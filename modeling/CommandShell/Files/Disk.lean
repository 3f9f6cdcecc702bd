import CommandShell.Files

/-!
# The disk from the working directory

## Main definitions
* `Disk`: files and a working directory.
* `Disk.locate`: what a path stands for.
* `Disk.contains`, `Disk.canEnter`, `Disk.read`, `Disk.enter`, `Disk.currentDirectory`
* `Disk.adopt`: the disk after its files have changed.
-/

namespace CommandShell

/-- Files, seen from a working directory. -/
structure Disk where
  files : Files
  cwd : Position

namespace Found

/-- The bytes of a file that has been opened. A directory can be opened and not read. -/
def read : Found → Except Failure Bytes
  | directory _ => .error (.system .isDirectory)
  | file _ (.file content access) =>
    if access.readable then .ok content else .error (.system .permissionDenied)
  | file _ _ => .ok []

end Found

namespace Disk

/-- The number of bytes that a path may have. -/
def pathLimit : Nat := 4095

/-- What a path stands for. -/
def locate (disk : Disk) (path : Bytes) : Except Failure Found :=
  if path.contains 0 then .error .nulInPath
  else if path.isEmpty then .error (.system .noSuchFile)
  else if pathLimit < path.length then .error (.system .nameTooLong)
  else
    (disk.files.walk linkLimit (if Path.isAbsolute path then .root else disk.cwd)
      (Path.names path)).mapError .system

/-- The path stands for something. -/
def contains (disk : Disk) (path : Bytes) : Bool :=
  (disk.locate path).isOk

/-- The directory that a path stands for, if the user may search it. -/
def directory (disk : Disk) (path : Bytes) : Except Failure Position := do
  match ← disk.locate path with
  | .directory p =>
    if disk.files.isSearchable p then .ok p else .error (.system .permissionDenied)
  | .file _ _ => .error (.system .notDirectory)

/-- The path stands for a directory that the user may search. -/
def canEnter (disk : Disk) (path : Bytes) : Bool :=
  (disk.directory path).isOk

/-- The disk seen from the directory that a path stands for. -/
def enter (disk : Disk) (path : Bytes) : Except Failure Disk := do
  return { disk with cwd := ← disk.directory path }

/-- The path of the working directory, unless it has been removed. -/
def currentDirectory (disk : Disk) : Except Failure Bytes :=
  if disk.cwd.isThere then .ok disk.cwd.place.path else .error (.system .noSuchFile)

/-- The bytes of the file that a path stands for. -/
def read (disk : Disk) (path : Bytes) : Except Failure Bytes := do
  (← disk.locate path).read

/-- The disk with other files, seen from the same working directory as far as it is left. -/
def adopt (disk : Disk) (files : Files) : Disk :=
  ⟨files, disk.cwd.settle files⟩

end Disk

end CommandShell
