import CommandShell.Proofs.Files.Walk
import CommandShell.Proofs.Session.Program
import CommandShell.Proofs.Text.Newlines

/-!
# Finding programs

The search path is cut at its colons, and an empty component stands for a directory of its own, be it at
either end or between two colons. A command word without a slash names its entry in the first of the
directories that has one. What is found has a slash in it, so a session starts it where it was found: the
search that the system itself makes for names without a slash cannot lead anywhere else.

## Main definitions
* `IsComponents`: what stands between the colons of a search path.
* `IsFirstWith`: the first directory in which a command exists.
* `Session.RunsImageAt`: what stands at a path is run.

## Main results
* `exists_isComponents`: the directories that are searched.
* `findProgram_eq_some_iff`, `findProgram_eq_none_iff`: what the search finds.
* `slash_mem_of_findProgram`, `spawn_of_slash_mem`: no second search is made.
* `runsImageAt_of_programPath?`: what a session runs.
* `findProgram_first_match`: the search as a whole, and what a session runs that has made it.
-/

namespace CommandShell

/-! ## The directories of a search path -/

/-- Colons stand between the components of the path, and nowhere else. -/
structure IsComponents (path : Bytes) (components : List Bytes) : Prop where
  colon_not_mem : ∀ component ∈ components, colon ∉ component
  joined : joinPieces colon components = path

/-- **Each component is a directory**, in order, an empty one the directory `base`. -/
theorem exists_isComponents {path : Bytes} (h : path ≠ []) (base : Bytes) :
    ∃ components, IsComponents path components ∧
      searchDirectories path base =
        components.map fun component => if component = [] then base else component := by
  refine ⟨pieces colon path, ⟨fun _ => not_mem_of_mem_pieces, joinPieces_pieces colon path⟩, ?_⟩
  rw [searchDirectories, if_neg (by simpa using h)]
  simp only [List.isEmpty_iff]

theorem ne_nil_of_mem_searchDirectories {path base directory : Bytes} (hbase : base ≠ [])
    (h : directory ∈ searchDirectories path base) : directory ≠ [] := by
  by_cases hpath : path = []
  · subst hpath
    cases h
  · obtain ⟨components, -, hdirectories⟩ := exists_isComponents hpath base
    rw [hdirectories] at h
    obtain ⟨component, -, rfl⟩ := List.mem_map.mp h
    split
    · exact hbase
    · assumption

/-! ## The entry of a directory -/

section

variable {directory command : Bytes}

/-- One slash stands between a directory and the name of its entry. -/
theorem join_of_slash_not_mem (hdirectory : directory ≠ []) (hcommand : slash ∉ command) :
    Path.join directory command =
      directory ++ (if directory.getLast? = some slash then [] else [slash]) ++ command := by
  have hrelative : Path.isAbsolute command = false := by
    cases command with
    | nil => rfl
    | cons b rest =>
        have hb : b ≠ slash := fun h => hcommand (h ▸ List.mem_cons_self ..)
        simpa [Path.isAbsolute] using hb
  rw [Path.join, if_neg (by simp [hrelative, hdirectory])]
  split <;> simp

theorem slash_mem_join (hdirectory : directory ≠ []) (hcommand : slash ∉ command) :
    slash ∈ Path.join directory command := by
  rw [join_of_slash_not_mem hdirectory hcommand]
  split
  · rename_i hlast
    simp [List.mem_of_getLast? hlast]
  · simp

end

/-! ## The search -/

/-- The command exists in the directory, and in none of those before it. -/
def IsFirstWith (isThere : Bytes → Bool) (command : Bytes) (directories : List Bytes)
    (directory : Bytes) : Prop :=
  isThere (Path.join directory command) ∧
    ∃ before after, directories = before ++ directory :: after ∧
      ∀ earlier ∈ before, isThere (Path.join earlier command) = false

section

variable {isThere : Bytes → Bool} {command base found : Bytes} {path? : Option Bytes}

/-- A command word with a slash names its program itself. -/
theorem findProgram_of_slash_mem (h : slash ∈ command) :
    findProgram isThere command path? base = some found ↔ found = command ∧ isThere command := by
  have hempty : ¬ command.isEmpty := by simpa using List.ne_nil_of_mem h
  rw [findProgram, if_neg hempty, if_pos (by simpa using h)]
  by_cases hthere : isThere command
  · rw [if_pos hthere, Option.some_inj]
    exact ⟨fun heq => ⟨heq.symm, hthere⟩, fun heq => heq.1.symm⟩
  · rw [if_neg hthere]
    exact ⟨nofun, fun heq => absurd heq.2 hthere⟩

/-- A command word without a slash is looked for in one directory after the other. -/
theorem findProgram_of_slash_not_mem (hne : command ≠ []) (h : slash ∉ command) :
    findProgram isThere command path? base = path?.bind fun path =>
      ((searchDirectories path base).find? fun directory => isThere (Path.join directory command)).map
        (Path.join · command) := by
  rw [findProgram, if_neg (by simpa using hne), if_neg (by simpa using h)]
  simp only [List.find?_map, Function.comp_def]

/-- **What is found** is the entry of the first directory in which the command exists. -/
theorem findProgram_eq_some_iff (hne : command ≠ []) (h : slash ∉ command) :
    findProgram isThere command path? base = some found ↔
      ∃ path ∈ path?, ∃ directory, IsFirstWith isThere command (searchDirectories path base) directory ∧
        found = Path.join directory command := by
  rw [findProgram_of_slash_not_mem hne h, Option.bind_eq_some_iff]
  refine exists_congr fun path => and_congr_right fun _ => ?_
  rw [Option.map_eq_some_iff]
  refine exists_congr fun directory => and_congr ?_ eq_comm
  rw [List.find?_eq_some_iff_append]
  simp [IsFirstWith]

/-- **Nothing is found** if the command exists in no directory, or if there is none to be searched. -/
theorem findProgram_eq_none_iff (hne : command ≠ []) (h : slash ∉ command) :
    findProgram isThere command path? base = none ↔
      path? = none ∨ path? = some [] ∨
        ∃ path ∈ path?, ∀ directory ∈ searchDirectories path base,
          isThere (Path.join directory command) = false := by
  rw [findProgram_of_slash_not_mem hne h]
  cases path? with
  | none => simp
  | some path =>
      have hnone : path = [] → searchDirectories path base = [] := by
        rintro rfl
        rfl
      simp only [Option.bind_some, Option.map_eq_none_iff, List.find?_eq_none, reduceCtorEq,
        Option.some_inj, Option.mem_def, exists_eq_left', false_or, Bool.not_eq_true]
      exact ⟨.inr, fun hcases => hcases.elim (fun hpath => by simp [hnone hpath]) id⟩

/-- **What is found has a slash in it**, if no entry is looked for without a directory. -/
theorem slash_mem_of_findProgram (hbase : base ≠ [])
    (h : findProgram isThere command path? base = some found) : slash ∈ found := by
  by_cases hslash : slash ∈ command
  · obtain ⟨rfl, -⟩ := (findProgram_of_slash_mem hslash).mp h
    exact hslash
  · have hne : command ≠ [] := by
      rintro rfl
      cases h
    obtain ⟨path, -, directory, ⟨-, before, after, hdirectories, -⟩, rfl⟩ :=
      (findProgram_eq_some_iff hne hslash).mp h
    exact slash_mem_join (ne_nil_of_mem_searchDirectories hbase (by rw [hdirectories]; simp)) hslash

end

/-! ## Starting what was found -/

/-- A path with a slash is started as it stands, whatever the search path of the system. -/
theorem findImage_of_slash_mem {path : Bytes} (h : slash ∈ path) (disk : Disk) (searched : Option Bytes)
    (arguments : List Bytes) :
    findImage disk searched path arguments = disk.image interpreterLimit path arguments := by
  rw [findImage, if_pos (by simpa using h)]

theorem spawn_of_slash_mem {path : Bytes} (h : slash ∈ path) (machine : Machine) (disk : Disk)
    (env : Environment) (input : Input) (words : List Text) :
    spawn machine disk env input path words =
      spawnImage machine disk env input path (disk.image interpreterLimit path) words := by
  rw [spawn, funext (findImage_of_slash_mem h disk _)]

/-- Empty entries look in a directory, unless the working directory has been removed and its variable
is set to nothing. -/
theorem searchBase_ne_nil_iff {s : Session} :
    s.searchBase ≠ [] ↔ s.disk.cwd.isThere ∨ s.env.get? Builtin.currentVariable ≠ some [] := by
  rw [Session.searchBase, Disk.currentDirectory]
  by_cases hthere : s.disk.cwd.isThere
  · rw [if_pos hthere]
    cases hplace : s.disk.cwd.place <;> simp [Location.path, hthere]
  · rw [if_neg hthere]
    cases hvalue : s.env.get? Builtin.currentVariable <;> simp [selfName, hthere]

/-- For this command word the session runs what stands at the path, and searches for nothing: it flushes
both streams and, if that can be done, starts the program behind the path with these words. The command
ends as the flush or the start does. -/
structure Session.RunsImageAt (machine : Machine) (s : Session) (name : Text) (words : List Text)
    (path : Bytes) : Prop where
  hands : spawn machine s.disk s.env s.input path words =
    spawnImage machine s.disk s.env s.input path (s.disk.image interpreterLimit path) words
  unflushed : ∀ cause, s.flush.1 = .error cause →
    (runProgram machine name words).run s = (.error (.failed name cause), s.flush.2)
  runs : s.flush.1 = .ok () → ∀ done, spawn machine s.disk s.env s.input path words = .ok done →
    (runProgram machine name words).run s = (.ok done.ending.status, s.flush.2.adopt done)
  refused : s.flush.1 = .ok () → ∀ refusal,
    spawn machine s.disk s.env s.input path words = .error refusal →
    (runProgram machine name words).run s = (.error (refusal.commandError name), s.flush.2)

section

variable {machine : Machine} {s : Session} {name : Text} {words : List Text} {path : Bytes}

/-- **A session runs what it has found**, at the path where it was found. -/
theorem runsImageAt_of_programPath? (h : s.programPath? name = some path) (hslash : slash ∈ path) :
    s.RunsImageAt machine name words path := by
  have hrun := run_runProgram machine name words s
  rw [h] at hrun
  refine ⟨spawn_of_slash_mem hslash .., ?_, ?_, ?_⟩
  · intro cause hflush
    rw [hrun, ← Prod.eta s.flush, hflush]
  · intro hflush done hdone
    rw [hrun, ← Prod.eta s.flush, hflush]
    simp only [hdone]
  · intro hflush refusal hrefusal
    rw [hrun, ← Prod.eta s.flush, hflush]
    simp only [hrefusal]

end

/-- **The search finds the first match, and is the only one.** A search path that is not empty names one
directory for each of its components, in their order, and so one more than it has colons; an empty
component names the directory `base`. A command word without a slash is found as the entry of the first
directory in which it exists, and is not found if it exists in none of them, or if the search path is
not set or empty. A command word with a slash is its own path, if it exists. Whatever is found has a slash
in it, if `base` is a directory at all, and what is started then is what stands at this very path.

A session makes this search on its disk, with the search path of its environment and its working
directory. If it finds nothing, the command is not found and nothing has changed; what it finds is what it
runs. -/
theorem findProgram_first_match (isThere : Bytes → Bool) (command base : Bytes) :
    (∀ path, path ≠ [] →
      (∃ components, IsComponents path components ∧
        searchDirectories path base =
          components.map fun component => if component = [] then base else component) ∧
      (searchDirectories path base).length = path.count colon + 1) ∧
    (command ≠ [] → slash ∉ command → ∀ path? : Option Bytes,
      (∀ found, findProgram isThere command path? base = some found ↔
        ∃ path ∈ path?, ∃ directory,
          IsFirstWith isThere command (searchDirectories path base) directory ∧
            found = Path.join directory command) ∧
      (findProgram isThere command path? base = none ↔
        path? = none ∨ path? = some [] ∨
          ∃ path ∈ path?, ∀ directory ∈ searchDirectories path base,
            isThere (Path.join directory command) = false)) ∧
    (slash ∈ command → ∀ path? found,
      findProgram isThere command path? base = some found ↔ found = command ∧ isThere command) ∧
    (base ≠ [] → ∀ path? found, findProgram isThere command path? base = some found →
      slash ∈ found ∧ ∀ disk searched arguments,
        findImage disk searched found arguments = disk.image interpreterLimit found arguments) ∧
    ∀ (machine : Machine) (s : Session) (name : Text) (words : List Text),
      (s.searchBase ≠ [] ↔ s.disk.cwd.isThere ∨ s.env.get? Builtin.currentVariable ≠ some []) ∧
      s.programPath? name = findProgram s.disk.contains (Utf8.encode name) (s.env.get? "PATH".toList)
        s.searchBase ∧
      (s.programPath? name = none → (runProgram machine name words).run s = (.error (.notFound name), s)) ∧
      (s.searchBase ≠ [] → ∀ path, s.programPath? name = some path →
        slash ∈ path ∧ s.RunsImageAt machine name words path) := by
  refine ⟨fun path hpath => ⟨exists_isComponents hpath base, length_searchDirectories hpath base⟩,
    fun hne hslash path? => ⟨fun found => findProgram_eq_some_iff hne hslash,
      findProgram_eq_none_iff hne hslash⟩,
    fun hslash path? found => findProgram_of_slash_mem hslash, fun hbase path? found h => ?_,
    fun machine s name words => ⟨searchBase_ne_nil_iff, rfl, fun h => ?_, fun hbase path h => ?_⟩⟩
  · have hslash := slash_mem_of_findProgram hbase h
    exact ⟨hslash, findImage_of_slash_mem hslash⟩
  · rw [run_runProgram, h]
  · have hslash := slash_mem_of_findProgram hbase h
    exact ⟨hslash, runsImageAt_of_programPath? h hslash⟩

/-- With empty components at both ends and in the middle, `tool` is found behind directories that do not
have it. A session finds it in its working directory, and runs it there. Without a search path it does
not find it. -/
theorem findProgram_first_match_of_empty_components :
    let path := Utf8.encode ":/bin::/usr/bin:".toList
    let base := Utf8.encode "/work".toList
    let command := Utf8.encode "tool".toList
    let target := Utf8.encode "/usr/bin/tool".toList
    let s := Session.new "husk".toList 1 ⟨[(Utf8.encode "PATH".toList, [colon])]⟩
      ⟨⟨[([command], .program "tool".toList)]⟩, .root⟩
    let done : Completion := ⟨.code 7, [], [], .empty, .empty⟩
    path ≠ [] ∧ base ≠ [] ∧ command ≠ [] ∧ slash ∉ command ∧
      (searchDirectories path base).length = 5 ∧
      IsFirstWith (· == target) command (searchDirectories path base) (Utf8.encode "/usr/bin".toList) ∧
      findProgram (· == target) command (some path) base = some target ∧ slash ∈ target ∧
      findProgram (fun _ => false) command (some path) base = none ∧
      s.searchBase ≠ [] ∧ s.programPath? "tool".toList = some (slash :: command) ∧
      spawn (fun _ => done) s.disk s.env s.input (slash :: command) [] = .ok done ∧
      (runProgram (fun _ => done) "tool".toList []).run s = (.ok 7, s.flush.2.adopt done) ∧
      (runProgram (fun _ => done) "tool".toList []).run { s with env := .empty } =
        (.error (.notFound "tool".toList), { s with env := .empty }) := by
  intro path base command target s done
  have hpath : path ≠ [] := by decide
  have hbase : base ≠ [] := by decide
  have hne : command ≠ [] := by decide
  have hslash : slash ∉ command := by decide
  have hfirst : IsFirstWith (· == target) command (searchDirectories path base)
      (Utf8.encode "/usr/bin".toList) :=
    ⟨by decide, [base, Utf8.encode "/bin".toList, base], [base], by decide, by decide⟩
  obtain ⟨hdirectories, hsearch, -, hstart, hsession⟩ :=
    findProgram_first_match (· == target) command base
  obtain ⟨-, hnowhere, -, -, -⟩ := findProgram_first_match (fun _ => false) command base
  have hfound : findProgram (· == target) command (some path) base = some target :=
    ((hsearch hne hslash (some path)).1 target).mpr ⟨path, rfl, _, hfirst, by decide⟩
  have hthere : s.disk.locate (slash :: command) = .ok (.file [command] (.program "tool".toList)) :=
    Disk.locate_file_below_root (by constructor <;> decide) (by decide) (by decide) rfl nofun nofun
  have hnonempty : s.searchBase ≠ [] := by decide
  have hprogram : s.programPath? "tool".toList = some (slash :: command) := by
    have hjoined : Path.join s.searchBase command = slash :: command := by decide
    have hcontains : s.disk.contains (slash :: command) = true := by
      rw [Disk.contains, hthere]
      rfl
    refine (findProgram_eq_some_iff hne hslash).mpr ⟨[colon], rfl, s.searchBase, ?_, hjoined.symm⟩
    exact ⟨hjoined ▸ hcontains, [], [s.searchBase], by decide, by simp⟩
  obtain ⟨-, -, -, hruns⟩ := hsession (fun _ => done) s "tool".toList []
  obtain ⟨-, hat⟩ := hruns hnonempty _ hprogram
  have hstarted : spawn (fun _ => done) s.disk s.env s.input (slash :: command) [] = .ok done := by
    have himage : ∀ arguments, s.disk.image interpreterLimit (slash :: command) arguments =
        .ok ("tool".toList, arguments) := by
      intro arguments
      rw [Disk.image, hthere]
      rfl
    have hhanded : s.env.handed = [Utf8.encode "PATH=:".toList] := by
      simp [Environment.handed, s, Session.new]
      decide
    rw [hat.hands, spawnImage, hhanded]
    simp only [himage]
    rfl
  obtain ⟨-, -, hgone, -⟩ := hsession (fun _ => done) { s with env := .empty } "tool".toList []
  exact ⟨hpath, hbase, hne, hslash, (hdirectories path hpath).2.trans (by decide), hfirst, hfound,
    (hstart hbase _ _ hfound).1,
    (hnowhere hne hslash (some path)).2.mpr (.inr (.inr ⟨path, rfl, fun _ _ => rfl⟩)), hnonempty,
    hprogram, hstarted, hat.runs rfl done hstarted, hgone (by decide)⟩

-- Without a directory for empty entries, a name is found that the system would search for again.
example : findProgram (fun _ => true) selfName (some [colon]) [] = some selfName := by decide

end CommandShell
