import CommandShell.Files.Path
import CommandShell.Failure

/-!
# Files

What there is on the disk: directories, files, programs and symbolic links, each at a location. A walk
along the names of a path leads from a directory to what the path stands for; links are followed, up
to a number of them.

A working directory that has been removed can still be walked from. Such a position counts how many
directories it lies below the last one that is left: `.` stays there, `..` goes up, and no other name
leads anywhere.

## Main definitions
* `Access`, `Node`, `Files`, with `node?`, `put`, `remove`
* `Position`, `Found`
* `Files.walk`: what a list of names leads to.
* `Position.settle`: a position after the files have changed.
-/

namespace CommandShell

/-- What the user, who owns all that is made, may do with a file. -/
structure Access where
  readable : Bool
  executable : Bool
  deriving DecidableEq

namespace Access

/-- What the permission bits of a file allow its owner. -/
def ofMode (mode : Nat) : Access :=
  ⟨mode / 256 % 2 = 1, mode / 64 % 2 = 1⟩

/-- A file for reading. -/
def plain : Access := ⟨true, false⟩

end Access

/-- What stands at a location. -/
inductive Node
  /-- A directory; the user may search it or not. -/
  | directory (searchable : Bool)
  | file (content : Bytes) (access : Access)
  /-- A program of the machine. -/
  | program (name : Text)
  /-- A symbolic link. -/
  | link (target : Bytes)
  deriving DecidableEq

/-- What is on the disk, by location. The root is a directory and needs no entry. -/
structure Files where
  nodes : List (Location × Node)

/-- A directory that can be walked from: `gone` removed directories below an existing place. -/
structure Position where
  place : Location
  gone : Nat
  deriving DecidableEq

namespace Position

/-- The root directory. -/
def root : Position := ⟨[], 0⟩

/-- The directory that holds this one; the root holds itself. -/
def parent (p : Position) : Position :=
  if p.gone = 0 then ⟨p.place.dropLast, 0⟩ else ⟨p.place, p.gone - 1⟩

/-- The position is a directory that is still there. -/
def isThere (p : Position) : Bool :=
  p.gone == 0

end Position

/-- What a path leads to. -/
inductive Found
  | directory (p : Position)
  | file (location : Location) (node : Node)

/-- The number of links that one path may lead through. -/
def linkLimit : Nat := 40

/-- The number of bytes that the name of an entry may have. -/
def nameLimit : Nat := 255

namespace Files

/-- A disk with nothing but its root directory. -/
def empty : Files := ⟨[]⟩

/-- What stands at a location. -/
def node? (files : Files) : Location → Option Node
  | [] => some (.directory true)
  | location => (files.nodes.find? fun entry => entry.1 == location).map Prod.snd

/-- Puts something at a location, in the place of what was there. -/
def put (files : Files) (location : Location) (node : Node) : Files :=
  ⟨(location, node) :: files.nodes.filter fun entry => entry.1 != location⟩

/-- Removes what stands at a location, with all that is below it. -/
def remove (files : Files) (location : Location) : Files :=
  ⟨files.nodes.filter fun entry => !location.isPrefixOf entry.1⟩

/-- There is a directory at a location. -/
def isDirectory (files : Files) (location : Location) : Bool :=
  match files.node? location with
  | some (.directory _) => true
  | _ => false

/-- The user may look names up in the directory at a position. -/
def isSearchable (files : Files) (p : Position) : Bool :=
  !p.isThere || files.node? p.place == some (.directory true)

/-- Follows names from a position, through at most `links` links. -/
def walk (files : Files) (links : Nat) (start : Position) (names : List Name) :
    Except SystemError Found :=
  match names with
  | [] => .ok (.directory start)
  | name :: rest =>
    if !files.isSearchable start then .error .permissionDenied
    else if name = selfName then files.walk links start rest
    else if name = parentName then files.walk links start.parent rest
    else if !start.isThere then .error .noSuchFile
    else if nameLimit < name.length then .error .nameTooLong
    else
      match files.node? (start.place ++ [name]) with
      | none => .error .noSuchFile
      | some (.directory _) => files.walk links ⟨start.place ++ [name], 0⟩ rest
      | some (.link target) =>
        match links with
        | 0 => .error .tooManyLinks
        | links + 1 =>
          files.walk links (if Path.isAbsolute target then .root else start)
            (Path.names target ++ rest)
      | some node =>
        if rest.isEmpty then .ok (.file (start.place ++ [name]) node) else .error .notDirectory
termination_by (links, names.length)

/-- How far a list of names below a directory leads through directories. -/
def reachableBelow (files : Files) (above : Location) : List Name → Location
  | [] => above
  | name :: rest =>
    if files.isDirectory (above ++ [name]) then files.reachableBelow (above ++ [name]) rest
    else above

/-- How much of a location can still be reached through directories. -/
def reachable (files : Files) (location : Location) : Location :=
  files.reachableBelow [] location

end Files

namespace Position

/-- A position after the files have changed: it sinks below the last directory above it that is
still there. -/
def settle (p : Position) (files : Files) : Position :=
  let left := files.reachable p.place
  ⟨left, p.gone + (p.place.length - left.length)⟩

end Position

end CommandShell
