import CommandShell.Userland.Tool

/-!
# Tools that start programs

A program that changes what it is started with and then lets a command take its place.

## Main definitions
* `become`: a command takes the place of a program.
* `changeEnvironment`: a command with another environment, or the environment itself.
* `launchingTools`
-/

namespace CommandShell.Userland

/-- A program that starts others; what those do is told. -/
abbrev Launcher := Machine → Tool

/-- The exit code of a launcher that is not used as it must be. -/
def misuse : UInt8 := 125

/-- A command takes the place of a program. A file of no known format is run as a script. -/
def become (start : Machine) (p : Process) (words : List Bytes) : Completion :=
  let name := words.headD []
  let searched := (valuesIn p.environment (bytesOf "PATH")).head?
  let shell := bytesOf "/bin/sh"
  let found := match findImage p.disk searched name words with
    | .error (.system .notExecutable) =>
      p.disk.image interpreterLimit shell (shell :: name :: words.tail)
    | result => result
  match found with
  | .ok (program, arguments) => start { p with program, arguments }
  | .error cause =>
    let isMissing := cause == .system .noSuchFile
    let done := p.complains (if isMissing then 127 else 126)
      (cited name ++ bytesOf ": " ++ described cause)
    let hint := p.arguments.headD [] ++ bytesOf ": use -[v]S to pass options in shebang lines\n"
    if isMissing && name.any isSeparator then { done with err := done.err ++ hint } else done
where
  /-- A blank, which the name of a program seldom holds. -/
  isSeparator (b : UInt8) : Bool := b == 32 || (9 ≤ b && b ≤ 13)

/-- Entries with one more, which takes the place of the first for the same variable. -/
def withEntry (entries : List Bytes) (entry : Bytes) : List Bytes :=
  let start := entry.takeWhile (· != 61) ++ [61]
  match entries.findIdx? start.isPrefixOf with
  | some i => entries.set i entry
  | none => entries ++ [entry]

/-- Entries without those for a variable. -/
def withoutEntry (entries : List Bytes) (name : Bytes) : List Bytes :=
  entries.filter fun entry => !(name ++ [61]).isPrefixOf entry

/-- How the environment of a command is made. -/
structure EnvironmentChange where
  /-- Nothing of the old environment is kept. -/
  isFresh : Bool
  /-- The variables that are taken out. -/
  removed : List Bytes
  /-- A NUL byte ends each entry that is written. -/
  isNulEnded : Bool
  /-- The directory to start in. -/
  directory : Option Bytes

/-- The words of a text: blanks stand between them, and quotes keep them together. -/
def splitWords (text : Bytes) : List Bytes :=
  go none none text
where
  /-- Takes byte after byte, with the word so far and the quote that is open. -/
  go (word : Option Bytes) (quote : Option UInt8) : Bytes → List Bytes
    | [] => word.toList
    | b :: rest =>
      let kept := some (word.getD [] ++ [b])
      match quote with
      | some q => if b = q then go word none rest else go kept quote rest
      | none =>
        if b = 39 || b = 34 then go (some (word.getD [])) (some b) rest
        else if become.isSeparator b then word.toList ++ go none none rest
        else go kept none rest

/-- What is left when the options are read, or what is wrong with them. Every step takes an option or
a letter of one, which the fuel counts. -/
def readChange : Nat → EnvironmentChange → List Bytes →
    Except Bytes (EnvironmentChange × List Bytes)
  | 0, change, words => .ok (change, words)
  | _, change, [] => .ok (change, [])
  | fuel + 1, change, word :: rest =>
    let valued := fun (value : Bytes) (use : Bytes → List Bytes → EnvironmentChange × List Bytes) =>
      match value, rest with
      | [], [] => .error (bytesOf "option requires an argument -- " ++ cited (word.drop 1))
      | [], value :: rest =>
        let (change, words) := use value rest
        readChange fuel change words
      | value, rest =>
        let (change, words) := use value rest
        readChange fuel change words
    let long := fun (name : String) => word == bytesOf name
    let assigned := fun (name : String) =>
      if (bytesOf name).isPrefixOf word then some (word.drop (bytesOf name).length) else none
    if long "--" then .ok (change, rest)
    else if long "--ignore-environment" then readChange fuel { change with isFresh := true } rest
    else if long "--null" then readChange fuel { change with isNulEnded := true } rest
    else match assigned "--unset=", assigned "--chdir=", assigned "--split-string=" with
      | some name, _, _ =>
        readChange fuel { change with removed := change.removed ++ [name] } rest
      | _, some path, _ => readChange fuel { change with directory := some path } rest
      | _, _, some text => readChange fuel change (splitWords text ++ rest)
      | none, none, none =>
        match word.map charOf with
        | '-' :: '-' :: _ => .error (bytesOf "unrecognized option " ++ cited word)
        | '-' :: letter :: _ =>
          let value := word.drop 2
          let next := if value.isEmpty then rest else (45 :: value) :: rest
          match letter with
          | 'i' => readChange fuel { change with isFresh := true } next
          | '0' => readChange fuel { change with isNulEnded := true } next
          | 'v' => readChange fuel change next
          | 'u' => valued value fun name rest =>
            ({ change with removed := change.removed ++ [name] }, rest)
          | 'C' => valued value fun path rest => ({ change with directory := some path }, rest)
          | 'S' => valued value fun text rest => (change, splitWords text ++ rest)
          | _ => .error (bytesOf "invalid option -- " ++ cited ((word.drop 1).take 1))
        | _ => .ok (change, word :: rest)

/-- Runs a command with another environment. Without a command the environment is written. -/
def changeEnvironment : Launcher := fun start p operands =>
  let size := operands.foldl (fun size word => size + 2 * word.length + 2) 0
  match readChange size ⟨false, [], false, none⟩ operands with
  | .error message =>
    let done := p.complains misuse message
    { done with
      err := done.err ++ bytesOf "Try " ++ cited (p.arguments.headD [] ++ bytesOf " --help") ++
        bytesOf " for more information.\n" }
  | .ok (change, words) =>
    let isFresh := change.isFresh || words.head? == some [45]
    let words := if words.head? == some [45] then words.tail else words
    let kept := if isFresh then [] else change.removed.foldl withoutEntry p.environment
    let isEntry := fun word : Bytes => word.contains 61
    let environment := (words.takeWhile isEntry).foldl withEntry kept
    let command := words.dropWhile isEntry
    match change.removed.find? fun name => name.isEmpty || name.contains 61 with
    | some name =>
      p.complains misuse (bytesOf "cannot unset " ++ cited name ++ bytesOf ": Invalid argument")
    | none =>
      if command.isEmpty then
        if change.directory.isSome then
          p.complains misuse (bytesOf "must specify command with --chdir (-C)")
        else
          p.prints (environment.flatMap (· ++ [if change.isNulEnded then 0 else newline]))
      else if change.isNulEnded then
        p.complains misuse (bytesOf "cannot specify --null (-0) with command")
      else match change.directory with
        | none => become start { p with environment } command
        | some path =>
          match p.disk.enter path with
          | .ok disk => become start { p with environment, disk } command
          | .error cause =>
            p.complains misuse (bytesOf "cannot change directory to " ++ cited path ++
              bytesOf ": " ++ described cause)

/-- Runs a command without another priority, time or terminal than it would have. -/
def runPlainly (options : Nat) : Launcher := fun start p operands =>
  let words := operands.dropWhile fun word => word.head? == some 45
  become start p (words.drop options)

/-- The tools that start programs, by name. -/
def launchingTools : List (String × Launcher) :=
  [("env", changeEnvironment), ("nohup", runPlainly 0), ("setsid", runPlainly 0),
    ("timeout", runPlainly 1)]

end CommandShell.Userland
