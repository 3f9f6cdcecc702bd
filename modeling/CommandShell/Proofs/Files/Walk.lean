import CommandShell.Files.Disk
import CommandShell.Proofs.Text.Lines

/-!
# Walks and the paths of directories

A walk from a directory that is still there leads to directories that are still there, whatever links it
follows: only a working directory can have been removed. So where the working directory is left for
another one, that one has a path.

This path leads back to the directory as long as every part of it is a directory. If a link takes the
place of one of them, it may lead elsewhere.

## Main definitions
* `Disk.LeadsBack`: a path that is the path of the directory that it leads to.
* `IsEntryName`, `Files.IsDirectoryChain`: a location that is reached through directories alone.

## Main results
* `isThere_of_directory`: directories that can be entered are still there.
* `walk_of_isDirectoryChain`: where the names of a location lead.
* `leadsBack_path`: the path of a directory leads back to it.
* `Disk.locate_slash`, `Disk.directory_below_root`: directories that are found from everywhere.
-/

namespace CommandShell

theorem mapError_eq_ok_iff {ε ε' α : Type} {result : Except ε α} {f : ε → ε'} {a : α} :
    result.mapError f = .ok a ↔ result = .ok a := by
  cases result <;> simp [Except.mapError]

/-! ## Directories that are still there -/

section

variable {files : Files} {links : Nat} {start p : Position}

theorem isThere_parent (h : p.isThere) : p.parent.isThere := by
  have hgone : p.gone = 0 := by simpa [Position.isThere] using h
  simp [Position.parent, Position.isThere, hgone]

theorem isSearchable_root (files : Files) : files.isSearchable .root = true := by
  simp [Files.isSearchable, Files.node?, Position.root]

/-- **A walk from a directory that is still there leads to one that is still there.** The induction is
that of the walk, in which a link may start again from the root. -/
theorem isThere_of_walk {names : List Name} (hstart : start.isThere)
    (h : files.walk links start names = .ok (.directory p)) : p.isThere := by
  fun_induction Files.walk files links start names with
  | case1 links start =>
      obtain rfl : start = p := by simpa using h
      exact hstart
  | case3 links start rest hsearchable ih => exact ih hstart h
  | case4 links start rest hsearchable hself ih => exact ih (isThere_parent hstart) h
  | case8 links start name rest hsearchable hself hparent hthere hlimit searchable hnode ih =>
      exact ih rfl h
  | case10 start name rest hsearchable hself hparent hthere hlimit target hnode links ih =>
      refine ih ?_ h
      split
      · rfl
      · exact hstart
  | _ => cases h

end

namespace Disk

variable {disk : Disk} {path : Bytes} {p : Position}

/-- A directory that can be entered is what the path stands for, and the user may search it. -/
theorem directory_eq_ok_iff :
    disk.directory path = .ok p ↔
      disk.locate path = .ok (.directory p) ∧ disk.files.isSearchable p = true := by
  unfold directory
  cases disk.locate path with
  | error failure => exact ⟨nofun, nofun⟩
  | ok found =>
      cases found with
      | file location node => exact ⟨nofun, nofun⟩
      | directory q =>
          change (if disk.files.isSearchable q then Except.ok q
            else Except.error (Failure.system .permissionDenied)) = Except.ok p ↔ _
          by_cases hq : disk.files.isSearchable q = true
          · rw [if_pos hq]
            constructor
            · rintro ⟨⟩
              exact ⟨rfl, hq⟩
            · rintro ⟨⟨⟩, -⟩
              rfl
          · rw [if_neg hq]
            exact ⟨nofun, fun ⟨hfound, hp⟩ => by cases hfound; exact absurd hp hq⟩

theorem enter_eq_ok_iff {entered : Disk} :
    disk.enter path = .ok entered ↔ ∃ p, disk.directory path = .ok p ∧ { disk with cwd := p } = entered := by
  unfold enter
  cases disk.directory path with
  | error failure => exact ⟨nofun, nofun⟩
  | ok p =>
      change Except.ok { disk with cwd := p } = Except.ok entered ↔ _
      simp

theorem canEnter_iff : disk.canEnter path ↔ ∃ p, disk.directory path = .ok p := by
  unfold canEnter
  cases disk.directory path <;> simp [Except.isOk, Except.toBool]

/-- The working directory has a path as long as it is there. -/
theorem currentDirectory_eq_ok_iff :
    disk.currentDirectory = .ok path ↔ disk.cwd.isThere ∧ disk.cwd.place.path = path := by
  unfold currentDirectory
  split <;> simp_all

/-- Where a walk begins. -/
theorem walk_of_locate {found : Found} (h : disk.locate path = .ok found) :
    disk.files.walk linkLimit (if Path.isAbsolute path then .root else disk.cwd) (Path.names path) =
      .ok found := by
  unfold locate at h
  split at h
  · cases h
  split at h
  · cases h
  split at h
  · cases h
  · exact mapError_eq_ok_iff.mp h

/-- A path that the system takes stands for what its names lead to. -/
theorem locate_of_walk {found : Found} (hnul : ¬ path.contains 0) (hempty : ¬ path.isEmpty)
    (hlimit : path.length ≤ pathLimit)
    (hwalk : disk.files.walk linkLimit (if Path.isAbsolute path then .root else disk.cwd)
      (Path.names path) = .ok found) :
    disk.locate path = .ok found := by
  rw [locate, if_neg hnul, if_neg hempty, if_neg (Nat.not_lt.mpr hlimit), hwalk]
  rfl

/-- The root directory is found from everywhere. -/
theorem locate_slash (disk : Disk) : disk.locate (Utf8.encode ['/']) = .ok (.directory .root) := by
  have hnames : Path.names (Utf8.encode ['/']) = [selfName] := by decide
  refine locate_of_walk (by decide) (by decide) (by decide) ?_
  rw [if_pos (by decide), hnames, Files.walk, isSearchable_root, Files.walk]
  rfl

theorem directory_slash (disk : Disk) : disk.directory (Utf8.encode ['/']) = .ok .root :=
  directory_eq_ok_iff.mpr ⟨disk.locate_slash, isSearchable_root _⟩

/-- **Directories that can be entered are still there**, if the path is absolute or the working directory
is there. -/
theorem isThere_of_directory (h : disk.directory path = .ok p)
    (hstart : Path.isAbsolute path ∨ disk.cwd.isThere) : p.isThere := by
  refine isThere_of_walk ?_ (walk_of_locate (directory_eq_ok_iff.mp h).1)
  split
  · rfl
  · rename_i hrelative
    exact hstart.resolve_left hrelative

end Disk

/-! ## The path of a directory -/

/-- The name can be that of an entry of a directory. -/
structure IsEntryName (name : Name) : Prop where
  ne_nil : name ≠ []
  slash_not_mem : slash ∉ name
  ne_selfName : name ≠ selfName
  ne_parentName : name ≠ parentName

/-- The location is that of a directory, and so are all that it is below of: no link is on the way. -/
structure Files.IsDirectoryChain (files : Files) (location : Location) : Prop where
  isEntryName : ∀ name ∈ location, IsEntryName name
  isDirectory : ∀ above, above <+: location → files.isDirectory above

/-- The directory that the path leads to has this path. -/
def Disk.LeadsBack (disk : Disk) (path : Bytes) : Prop :=
  ∀ entered, disk.enter path = .ok entered → entered.currentDirectory = .ok path

section

variable {files : Files} {location above below : Location}

theorem isDirectory_iff :
    files.isDirectory location ↔ ∃ searchable, files.node? location = some (.directory searchable) := by
  unfold Files.isDirectory
  split
  · rename_i searchable hnode
    simp [hnode]
  · rename_i hnode
    simpa using hnode

theorem Files.isDirectoryChain_nil : files.IsDirectoryChain [] :=
  ⟨by simp, fun _ habove => by rw [List.prefix_nil.mp habove]; rfl⟩

theorem Files.IsDirectoryChain.concat {name : Name} (h : files.IsDirectoryChain location)
    (hname : IsEntryName name) (hdirectory : files.isDirectory (location ++ [name])) :
    files.IsDirectoryChain (location ++ [name]) := by
  constructor
  · intro name' hmem
    rcases List.mem_append.mp hmem with hmem | hmem
    · exact h.isEntryName name' hmem
    · rwa [List.mem_singleton.mp hmem]
  · intro above habove
    rcases List.prefix_concat_iff.mp habove with rfl | habove
    · exact hdirectory
    · exact h.isDirectory above habove

/-- **The names of a location lead to it**, if they lead anywhere. -/
theorem walk_of_isDirectoryChain {links : Nat} {found : Found}
    (h : files.IsDirectoryChain (above ++ below))
    (hwalk : files.walk links ⟨above, 0⟩ below = .ok found) :
    found = .directory ⟨above ++ below, 0⟩ := by
  induction below generalizing above with
  | nil =>
      rw [Files.walk] at hwalk
      simpa using hwalk.symm
  | cons name rest ih =>
      have hname := h.isEntryName name (by simp)
      obtain ⟨searchable, hnode⟩ := isDirectory_iff.mp (h.isDirectory (above ++ [name]) ⟨rest, by simp⟩)
      have hstep : above ++ name :: rest = (above ++ [name]) ++ rest := by simp
      rw [hstep] at h ⊢
      refine ih h ?_
      rw [Files.walk, if_neg hname.ne_selfName, if_neg hname.ne_parentName] at hwalk
      split at hwalk
      · cases hwalk
      split at hwalk
      · cases hwalk
      split at hwalk
      · cases hwalk
      simpa only [hnode] using hwalk

/-- What holds no separator belongs to the first piece of what stands behind it. -/
theorem pieces_append_of_not_mem {α : Type} [DecidableEq α] {separator : α} {xs ys piece : List α}
    {later : List (List α)} (h : separator ∉ xs) (hys : pieces separator ys = piece :: later) :
    pieces separator (xs ++ ys) = (xs ++ piece) :: later := by
  induction xs with
  | nil => exact hys
  | cons x xs ih =>
      obtain ⟨hx, hxs⟩ : separator ≠ x ∧ separator ∉ xs := by simpa using h
      rw [List.cons_append, pieces, if_neg hx.symm, ih hxs, List.cons_append]

theorem pieces_flatMap_slash (h : ∀ name ∈ location, IsEntryName name) :
    pieces slash (location.flatMap (slash :: ·)) = [] :: location := by
  induction location with
  | nil => rfl
  | cons name rest ih =>
      obtain ⟨hname, hrest⟩ := List.forall_mem_cons.mp h
      rw [List.flatMap_cons, List.cons_append, pieces_cons_separator,
        pieces_append_of_not_mem hname.slash_not_mem (ih hrest), List.append_nil]

theorem getLast?_flatMap_slash (h : ∀ name ∈ location, IsEntryName name) (hne : location ≠ []) :
    (location.flatMap (slash :: ·)).getLast? ≠ some slash := by
  have hname := h (location.getLast hne) (List.getLast_mem hne)
  have hne' := hname.ne_nil
  rw [← List.dropLast_concat_getLast hne, List.flatMap_append, List.flatMap_singleton,
    ← List.dropLast_concat_getLast hne', ← List.cons_append, ← List.append_assoc, List.getLast?_concat]
  intro hlast
  exact hname.slash_not_mem (Option.some.inj hlast ▸ List.getLast_mem hne')

/-- The names in the path of a location are its names. -/
theorem names_path (h : ∀ name ∈ location, IsEntryName name) (hne : location ≠ []) :
    Path.names location.path = location := by
  have hpath : location.path = location.flatMap (slash :: ·) := by
    cases location with
    | nil => exact absurd rfl hne
    | cons name rest => rfl
  rw [Path.names, hpath, if_neg (getLast?_flatMap_slash h hne), pieces_flatMap_slash h,
    List.filter_cons_of_neg (by simp), List.filter_eq_self]
  intro name hname
  simpa using (h name hname).ne_nil

theorem isAbsolute_path (location : Location) : Path.isAbsolute location.path := by
  cases location <;> rfl

namespace Disk

section

variable {disk : Disk} {name : Name} (hname : IsEntryName name) (hnul : 0 ∉ name)
  (hlimit : name.length ≤ nameLimit)

include hname hnul hlimit

/-- What a name leads to from the root is found from everywhere. -/
theorem locate_below_root {found : Found} (hwalk : disk.files.walk linkLimit .root [name] = .ok found) :
    disk.locate (slash :: name) = .ok found := by
  have hpath : Location.path [name] = slash :: name := by simp [Location.path]
  have hnames : Path.names (slash :: name) = [name] := by
    rw [← hpath]
    exact names_path (by simpa using hname) (by simp)
  have hlength : (slash :: name).length ≤ pathLimit := by
    rw [List.length_cons]
    exact (Nat.succ_le_succ hlimit).trans (by decide)
  have hslash : (0 : UInt8) ≠ slash := by decide
  refine locate_of_walk (by simp [hnul, hslash]) (by simp) hlength ?_
  rwa [if_pos (by rfl), hnames]

/-- A directory right below the root is found from everywhere. -/
theorem directory_below_root (hnode : disk.files.node? [name] = some (.directory true)) :
    disk.directory (slash :: name) = .ok ⟨[name], 0⟩ := by
  refine directory_eq_ok_iff.mpr ⟨locate_below_root hname hnul hlimit ?_, ?_⟩
  · have hparts : Position.root.place ++ [name] = [name] := rfl
    rw [Files.walk, isSearchable_root, if_neg hname.ne_selfName, if_neg hname.ne_parentName, hparts,
      hnode]
    simp [Position.root, Position.isThere, Nat.not_lt.mpr hlimit, Files.walk]
  · simp [Files.isSearchable, Position.isThere, hnode]

/-- So is a file, and a program. -/
theorem locate_file_below_root {node : Node} (hnode : disk.files.node? [name] = some node)
    (hdirectory : ∀ searchable, node ≠ .directory searchable) (hlink : ∀ target, node ≠ .link target) :
    disk.locate (slash :: name) = .ok (.file [name] node) := by
  refine locate_below_root hname hnul hlimit ?_
  have hparts : Position.root.place ++ [name] = [name] := rfl
  rw [Files.walk, isSearchable_root, if_neg hname.ne_selfName, if_neg hname.ne_parentName, hparts, hnode]
  cases node with
  | directory searchable => exact absurd rfl (hdirectory searchable)
  | link target => exact absurd rfl (hlink target)
  | file content access | program name => simp [Position.root, Position.isThere, Nat.not_lt.mpr hlimit]

end

end Disk

/-- **The path of a directory leads back to it.** -/
theorem leadsBack_path {disk : Disk} (h : disk.files.IsDirectoryChain location) :
    disk.LeadsBack location.path := by
  intro entered henter
  obtain ⟨p, hp, rfl⟩ := Disk.enter_eq_ok_iff.mp henter
  have hwalk := Disk.walk_of_locate (Disk.directory_eq_ok_iff.mp hp).1
  rw [if_pos (isAbsolute_path location)] at hwalk
  have hp' : p = ⟨location, 0⟩ := by
    by_cases hne : location = []
    · subst hne
      have hnames : Path.names (Location.path []) = [selfName] := by decide
      rw [hnames, Files.walk, isSearchable_root, Files.walk] at hwalk
      obtain rfl : .root = p := by simpa using hwalk
      rfl
    · have hroot : disk.files.IsDirectoryChain ([] ++ location) := h
      rw [names_path h.isEntryName hne] at hwalk
      simpa using walk_of_isDirectoryChain hroot hwalk
  rw [hp']
  rfl

end

end CommandShell
