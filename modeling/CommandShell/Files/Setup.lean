import CommandShell.Files.Disk

/-!
# Setting up files

Putting something at a path, with the directories above it made where they are missing, and removing
what stands at a path. In a directory that has been removed nothing can be put or removed.

## Main definitions
* `Disk.makeDirectory`, `Disk.makeFile`, `Disk.makeLink`
* `Disk.removeAt`
-/

namespace CommandShell

namespace Files

/-- Follows names from a position, making the directories that are missing. -/
def makeDirectories (files : Files) (start : Position) : List Name → Files × Position
  | [] => (files, start)
  | name :: rest =>
    match files.walk linkLimit start [name] with
    | .ok (.directory p) => files.makeDirectories p rest
    | _ =>
      if start.isThere then
        let place := start.place ++ [name]
        (files.put place (.directory true)).makeDirectories ⟨place, 0⟩ rest
      else (files, start)

/-- The location of a file that is made under the last of some names: a link that is there, through
at most `links` others, leads to the file. -/
def placeFor (files : Files) (links : Nat) (start : Position) (names : List Name) :
    Option Location :=
  match names.getLast?, files.walk links start names.dropLast with
  | some name, .ok (.directory p) =>
    if !p.isThere || name = selfName || name = parentName then none
    else match files.node? (p.place ++ [name]), links with
      | some (.link _), 0 => none
      | some (.link target), links + 1 =>
        files.placeFor links (if Path.isAbsolute target then .root else p) (Path.names target)
      | _, _ => some (p.place ++ [name])
  | _, _ => none

end Files

namespace Disk

/-- The position that a path starts from. -/
def startOf (disk : Disk) (path : Bytes) : Position :=
  if Path.isAbsolute path then .root else disk.cwd

/-- The disk with the directories above a path. -/
def makeAbove (disk : Disk) (path : Bytes) : Disk :=
  disk.adopt (disk.files.makeDirectories (disk.startOf path) (Path.names path).dropLast).1

/-- The disk with a directory at a path, which can be searched if that is not told otherwise. -/
def makeDirectory (disk : Disk) (path : Bytes) (searchable : Option Bool) : Disk :=
  let (files, p) := disk.files.makeDirectories (disk.startOf path) (Path.names path)
  match searchable with
  | some searchable =>
    disk.adopt (if p.isThere then files.put p.place (.directory searchable) else files)
  | none => disk.adopt files

/-- The disk with a file at a path where a file can be made. A file that is there keeps its access if
no other is told. -/
def writeFile (disk : Disk) (path content : Bytes) (access : Option Access) : Disk :=
  match disk.files.placeFor linkLimit (disk.startOf path) (Path.names path) with
  | none => disk
  | some location =>
    let before := match disk.files.node? location with
      | some (.file _ before) => before
      | _ => .plain
    disk.adopt (disk.files.put location (.file content (access.getD before)))

/-- The disk with a file at a path, and the directories above it. -/
def makeFile (disk : Disk) (path content : Bytes) (access : Option Access) : Disk :=
  (disk.makeAbove path).writeFile path content access

/-- The disk with a symbolic link at a path; a link that is there is replaced. -/
def makeLink (disk : Disk) (path target : Bytes) : Disk :=
  let disk := disk.makeAbove path
  let names := Path.names path
  match names.getLast?, disk.files.walk linkLimit (disk.startOf path) names.dropLast with
  | some name, .ok (.directory p) =>
    if p.isThere then disk.adopt (disk.files.put (p.place ++ [name]) (.link target)) else disk
  | _, _ => disk

/-- The disk without what stands at a path; of a link only the link itself is removed. -/
def removeAt (disk : Disk) (path : Bytes) : Disk :=
  let names := (Path.names path).filter (· != selfName)
  match names.getLast?, disk.files.walk linkLimit (disk.startOf path) names.dropLast with
  | some name, .ok (.directory p) =>
    if p.isThere && name != parentName then disk.adopt (disk.files.remove (p.place ++ [name]))
    else disk
  | _, _ => disk

end Disk

end CommandShell
