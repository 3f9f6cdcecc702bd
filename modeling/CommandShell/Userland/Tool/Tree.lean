import CommandShell.Files.Setup
import CommandShell.Userland.Tool.Lines

/-!
# Tools that change the tree of files

Programs that make, remove, copy and list what is on the disk.

## Main definitions
* `onEach`: a program that does something for each operand.
* `treeTools`
-/

namespace CommandShell.Userland

/-- The location of the entry that a path names, whether it is there or not. -/
def placeNamed (disk : Disk) (path : Bytes) : Except Failure Location := do
  let names := Path.names path
  let names := if names.getLast? = some selfName then names.dropLast else names
  if path.isEmpty then throw (.system .noSuchFile)
  match names.getLast?, ← (disk.files.walk linkLimit (disk.startOf path) names.dropLast).mapError
      Failure.system with
  | some name, .directory p =>
    if p.isThere then return p.place ++ [name] else throw (.system .noSuchFile)
  | none, .directory p => return p.place
  | _, .file _ _ => throw (.system .notDirectory)

/-- Something is below a location. -/
def isFilled (files : Files) (location : Location) : Bool :=
  files.nodes.any fun entry => location.isPrefixOf entry.1 && entry.1 != location

/-- A program that changes the disk for each operand, or says why it cannot. -/
def onEach (change : Disk → Bytes → Except Bytes Disk) : Tool := fun p operands =>
  if operands.isEmpty then missingOperand p
  else
    let (disk, complaints) := operands.foldl (fun (disk, complaints) operand =>
      match change disk operand with
      | .ok disk => (disk, complaints)
      | .error message =>
        (disk, complaints ++ p.arguments.headD [] ++ bytesOf ": " ++ message ++ [newline]))
      (p.disk, [])
    ⟨.code (if complaints.isEmpty then 0 else 1), [], complaints, disk.files, p.input⟩

/-- What is said when something cannot be done with a path. -/
def cannot {α : Type} (doing : String) (path : Bytes) (cause : String) : Except Bytes α :=
  .error (bytesOf doing ++ cited path ++ bytesOf (": " ++ cause))

/-- The location that a path names, or why something cannot be done with it. -/
def placeFor (doing : String) (disk : Disk) (path : Bytes) : Except Bytes Location :=
  (placeNamed disk path).mapError fun cause =>
    bytesOf doing ++ cited path ++ bytesOf ": " ++ described cause

/-- Makes directories. -/
def makeDirectories : Tool := fun p operands =>
  let (options, paths) := splitOptions operands
  let letters := lettersOf options
  onEach (fun disk path => do
    if letters.contains 'p' then return disk.makeDirectory path none
    let doing := "cannot create directory "
    let place ← placeFor doing disk path
    match disk.files.node? place with
    | some _ => cannot doing path "File exists"
    | none => return disk.adopt (disk.files.put place (.directory true))) p paths

/-- Removes directories with nothing in them. -/
def removeDirectories : Tool := fun p operands =>
  onEach (fun disk path => do
    let doing := "failed to remove "
    let place ← placeFor doing disk path
    match disk.files.node? place with
    | none => cannot doing path "No such file or directory"
    | some (.directory _) =>
      if isFilled disk.files place then cannot doing path "Directory not empty"
      else return disk.adopt (disk.files.remove place)
    | some _ => cannot doing path "Not a directory") p (splitOptions operands).2

/-- Removes files, and directories with all in them where that is asked for. -/
def removeFiles : Tool := fun p operands =>
  let (options, paths) := splitOptions operands
  let letters := lettersOf options
  let isForced := letters.contains 'f'
  if isForced && paths.isEmpty then p.silent 0
  else onEach (fun disk path => do
    let doing := "cannot remove "
    match placeFor doing disk path with
    | .error message => if isForced then return disk else .error message
    | .ok place =>
      match disk.files.node? place with
      | none => if isForced then return disk else cannot doing path "No such file or directory"
      | some (.directory _) =>
        if letters.contains 'r' || letters.contains 'R' then
          return disk.adopt (disk.files.remove place)
        else cannot doing path "Is a directory"
      | some _ => return disk.adopt (disk.files.remove place)) p paths

/-- Makes files that are not there. -/
def touch : Tool := fun p operands =>
  onEach (fun disk path => do
    if disk.contains path then return disk
    let _ ← placeFor "cannot touch " disk path
    return disk.writeFile path [] none) p (splitOptions operands).2

/-- The path at which something is put: in a directory that is there, under its own last name. -/
def targetOf (disk : Disk) (source target : Bytes) : Bytes :=
  if disk.canEnter target then Path.join target (lastName source) else target

/-- Puts each of the operands but the last at the last. -/
def ontoLast (put : Disk → Bytes → Bytes → Except Bytes Disk) : Tool := fun p operands =>
  match operands.getLast? with
  | some target => onEach (fun disk source => put disk source (targetOf disk source target)) p
      operands.dropLast
  | none => p.complains 1 (bytesOf "missing file operand")

/-- Makes links. -/
def makeLinks : Tool := fun p operands =>
  let (options, paths) := splitOptions operands
  let letters := lettersOf options
  ontoLast (fun disk source target => do
    let doing := "failed to create symbolic link "
    let place ← placeFor doing disk target
    if (disk.files.node? place).isSome && !letters.contains 'f' then
      cannot doing target "File exists"
    else if letters.contains 's' then return disk.adopt (disk.files.put place (.link source))
    else match disk.locate source with
      | .ok (.file _ node) => return disk.adopt (disk.files.put place node)
      | _ => cannot "failed to access " source "No such file or directory") p paths

/-- Copies files. -/
def copyFiles : Tool := fun p operands =>
  ontoLast (fun disk source target => do
    match disk.locate source with
    | .ok (.file _ node) => return disk.adopt (disk.files.put (← placeFor "cannot create regular file "
        disk target) node)
    | .ok (.directory _) => .error (bytesOf "-r not specified; omitting directory " ++ cited source)
    | .error cause => .error (bytesOf "cannot stat " ++ cited source ++ bytesOf ": " ++
        described cause)) p (splitOptions operands).2

/-- Files in which all at and below one location is at another. -/
def moved (files : Files) (source target : Location) : Files :=
  let below := files.nodes.filter fun entry => source.isPrefixOf entry.1
  below.reverse.foldl (fun files entry => files.put (target ++ entry.1.drop source.length) entry.2)
    ((files.remove source).remove target)

/-- Moves files and directories. -/
def moveFiles : Tool := fun p operands =>
  ontoLast (fun disk source target => do
    let doing := "cannot stat "
    let here ← placeFor doing disk source
    let there ← placeFor "cannot move to " disk target
    if (disk.files.node? here).isNone then cannot doing source "No such file or directory"
    else return disk.adopt (moved disk.files here there)) p (splitOptions operands).2

/-- Changes the permission bits of files. -/
def changeMode : Tool := fun p operands =>
  match operands with
  | mode :: paths =>
    let change := fun (before : Access) =>
      if mode.all isDecimal then Access.ofMode (numberOf 8 mode)
      else
        let gives := !mode.contains 45
        ⟨if mode.contains 114 then gives else before.readable,
          if mode.contains 120 then gives else before.executable⟩
    onEach (fun disk path =>
      match disk.locate path with
      | .ok (.file place (.file content access)) =>
        .ok (disk.adopt (disk.files.put place (.file content (change access))))
      | .ok (.directory ⟨place, 0⟩) =>
        let isSearchable := disk.files.isSearchable ⟨place, 0⟩
        .ok (disk.adopt (disk.files.put place
          (.directory (change ⟨true, isSearchable⟩).executable)))
      | .ok _ => .ok disk
      | .error cause =>
        .error (bytesOf "cannot access " ++ cited path ++ bytesOf ": " ++ described cause)) p paths
  | [] => missingOperand p

/-- Writes the targets of links. -/
def readLinks : Tool := fun p operands =>
  let targets := (splitOptions operands).2.map (linkAt? p.disk)
  p.ended (if targets.all Option.isSome then 0 else 1)
    (targets.flatMap fun target? => (target?.map (· ++ [newline])).getD []) []

/-- The names of the entries of a directory that are not hidden, in order. -/
def entriesOf (files : Files) (place : Location) (showsAll : Bool) : List Name :=
  let names := files.nodes.filterMap fun entry =>
    if entry.1.dropLast == place && !entry.1.isEmpty then entry.1.getLast? else none
  (names.filter fun name => showsAll || name.head? != some 46).mergeSort fun a b =>
    decide (a ≤ b)

/-- Lists files and the entries of directories. -/
def list : Tool := fun p operands =>
  let (options, paths) := splitOptions operands
  let letters := lettersOf options
  let paths := if paths.isEmpty then [selfName] else paths.mergeSort fun a b => decide (a ≤ b)
  let files := paths.filter fun path =>
    p.disk.contains path && (letters.contains 'd' || (p.disk.directory path).toOption.isNone)
  let directories := if letters.contains 'd' then [] else paths.filterMap fun path =>
    (p.disk.directory path).toOption.map (path, ·)
  let listing := directories.map fun (path, position) =>
    let title := if 1 < paths.length then path ++ bytesOf ":\n" else []
    let dots := if letters.contains 'a' then [selfName, parentName] else []
    title ++ joinLines (dots ++ entriesOf p.disk.files position.place
      (letters.contains 'a' || letters.contains 'A'))
  let parts := (if files.isEmpty then [] else [joinLines files]) ++ listing
  let complaints := paths.flatMap fun path =>
    match p.disk.locate path with
    | .ok _ => []
    | .error cause => p.arguments.headD [] ++ bytesOf ": cannot access " ++ cited path ++
        bytesOf ": " ++ described cause ++ [newline]
  p.ended (if complaints.isEmpty then 0 else 2) (joinPieces newline parts) complaints

/-- Writes its input, also to files. -/
def tee : Tool := fun p operands =>
  let (options, paths) := splitOptions operands
  let (data, input) := p.input.readAll
  let disk := paths.foldl (fun (disk : Disk) path =>
    let before := if (lettersOf options).contains 'a' then (disk.read path).toOption.getD [] else []
    disk.writeFile path (before ++ data) none) p.disk
  ⟨.code 0, data, [], disk.files, input⟩

/-- The tools that change or list the tree of files, by name. -/
def treeTools : List (String × Tool) :=
  [("mkdir", makeDirectories), ("rmdir", removeDirectories), ("rm", removeFiles), ("touch", touch),
    ("ln", makeLinks), ("cp", copyFiles), ("mv", moveFiles), ("chmod", changeMode),
    ("readlink", readLinks), ("ls", list), ("tee", tee)]

end CommandShell.Userland
