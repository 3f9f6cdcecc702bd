import CommandShell.Userland.Script.Symbol

/-!
# Commands of scripts

A script is read one complete command at a time, so that what stands before an error still runs.

## Main definitions
* `Redirect`, `Command`: what a script does.
* `Reading`: what is read from symbols, or what is wrong with them.
* `readComplete?`: the next command of a script.
-/

namespace CommandShell.Userland

/-- A redirection, with the word that it leads to. -/
structure Redirect where
  descriptor : Nat
  kind : Redirection
  target : Word

/-- What a script does. -/
inductive Command
  | nothing
  /-- Words of a command, on a line, with the redirections in force for it. -/
  | simple (line : Nat) (words : List Word) (redirects : List Redirect)
  | list (commands : List Command)
  | both (first second : Command)
  | either (first second : Command)
  | pipe (first second : Command)
  | negation (command : Command)
  | background (command : Command)
  | choice (condition yes no : Command)
  /-- A choice by the patterns that a word matches. -/
  | cases (line : Nat) (subject : Word) (arms : List (List Word × Command))
  /-- A loop over the given words, or over the arguments. -/
  | loop (line : Nat) (name : Bytes) (words : Option (List Word)) (body : Command)
  /-- A loop while a condition holds, or until it does. -/
  | repetition (isUntil : Bool) (condition body : Command)
  | define (name : Bytes) (body : Command)
  /-- A command with redirections. -/
  | routed (line : Nat) (command : Command) (redirects : List Redirect)
  /-- A command whose variables and directory are its own. -/
  | apart (command : Command)

/-- Symbols that are still to be read. -/
abbrev Symbols := List (Nat × Symbol)

/-- What is wrong with a script, and on which line. -/
structure Misspelling where
  line : Nat
  message : Bytes
  /-- The script is all right as far as it goes. -/
  isShort : Bool

/-- What is read from symbols, as a rule with those that are left. -/
abbrev Reading := Except Misspelling

/-- The bytes of a word in which nothing is quoted or referred to. -/
def plainBytes? (word : Word) : Option Bytes :=
  word.mapM fun
    | .plain b => some b
    | _ => none

/-- The first symbol is a certain bare word. -/
def startsWith (name : String) : Symbols → Bool
  | (_, .word word) :: _ => plainBytes? word == some (bytesOf name)
  | _ => false

/-- The words that have a meaning where a command begins. -/
def reserved : List String :=
  ["!", "case", "do", "done", "elif", "else", "esac", "fi", "for", "if", "in", "then", "until",
    "while", "\x7b", "\x7d"]

/-- What a symbol is called. -/
def Symbol.described : Symbol → Bytes
  | .word content =>
    match (plainBytes? content).filter fun bytes => reserved.any (bytesOf · == bytes) with
    | some bytes => 34 :: bytes ++ [34]
    | none => bytesOf "word"
  | .newline => bytesOf "newline"
  | .semicolon => bytesOf "\";\""
  | .ampersand => bytesOf "\"&\""
  | .doubleSemicolon => bytesOf "\";;\""
  | .and => bytesOf "\"&&\""
  | .or => bytesOf "\"||\""
  | .pipe => bytesOf "\"|\""
  | .opening => bytesOf "\"(\""
  | .closing => bytesOf "\")\""
  | .redirection _ _ => bytesOf "redirection"
  | .body _ _ | .finish => bytesOf "end of file"

/-- What is wrong where the first symbol stands and another one is expected. -/
def unexpected {α : Type} (expected : String) (symbols : Symbols) : Reading (α × Symbols) :=
  let (line, symbol) := symbols.headD (1, .finish)
  let wanted := if expected.isEmpty then [] else bytesOf s!" (expecting {expected})"
  let message := bytesOf "Syntax error: " ++ symbol.described ++ bytesOf " unexpected" ++ wanted
  .error ⟨line, message, symbol == .finish⟩

/-- The symbols behind a bare word. -/
def expectWord (name : String) (symbols : Symbols) : Reading Symbols :=
  if startsWith name symbols then .ok symbols.tail
  else (unexpected (α := Unit) ("\"" ++ name ++ "\"") symbols).map (·.2)

/-- The words that end a list of commands. -/
def closers : List String := ["then", "elif", "else", "fi", "do", "done", "esac", "\x7d"]

/-- Nothing more of a list of commands follows. -/
def endsList : Symbols → Bool
  | [] | (_, .closing) :: _ | (_, .doubleSemicolon) :: _ | (_, .finish) :: _ => true
  | symbols => closers.any (startsWith · symbols)

/-- Passes over newlines. -/
def skipNewlines (symbols : Symbols) : Symbols :=
  symbols.dropWhile fun symbol => symbol.2 == .newline

/-- What is said about something in the word that is not closed. -/
def complaint? (word : Word) : Option String :=
  word.findSome? fun
    | .unclosed complaint => some complaint
    | _ => none

/-- What is wrong with a word in which a quote or a reference is not closed. It reaches up to the end of
the script, and that is where it is told. -/
def unclosedAt {α : Type} (complaint : String) (symbols : Symbols) : Reading (α × Symbols) :=
  .error ⟨(symbols.getLastD (1, .finish)).1, bytesOf ("Syntax error: " ++ complaint), true⟩

/-- The words and the redirections of a simple command. -/
def readSimple : Symbols → Reading ((List Word × List Redirect) × Symbols)
  | (_, .word word) :: rest =>
    match complaint? word with
    | some complaint => unclosedAt complaint rest
    | none => do
      let ((words, redirects), left) ← readSimple rest
      return ((word :: words, redirects), left)
  | (_, .redirection descriptor kind) :: (_, .word word) :: rest =>
    match complaint? word with
    | some complaint => unclosedAt complaint rest
    | none => do
      let ((words, redirects), left) ← readSimple rest
      return ((words, ⟨descriptor, kind, word⟩ :: redirects), left)
  | (_, .redirection _ _) :: rest => unexpected "" rest
  | symbols => .ok (([], []), symbols)

/-- The redirections behind a command. -/
def readRedirects : Symbols → Reading (List Redirect × Symbols)
  | (_, .redirection descriptor kind) :: (_, .word word) :: rest => do
    let (redirects, left) ← readRedirects rest
    return (⟨descriptor, kind, word⟩ :: redirects, left)
  | symbols => .ok ([], symbols)

/-- The words of a loop, if they are given. -/
def readLoopWords (symbols : Symbols) : Reading (Option (List Word) × Symbols) :=
  let behind := skipNewlines symbols
  if startsWith "in" behind then do
    let ((words, _), left) ← readSimple behind.tail
    return (some words, left)
  else .ok (none, symbols)

/-- The patterns of an arm, up to the parenthesis that closes them. -/
def readPatterns : Symbols → Reading (List Word × Symbols)
  | (_, .word word) :: (_, .closing) :: rest => .ok ([word], rest)
  | (_, .word word) :: (_, .pipe) :: rest => do
    let (words, left) ← readPatterns rest
    return (word :: words, left)
  | (_, .word _) :: rest => unexpected "\")\"" rest
  | symbols => unexpected "" symbols

/-- Passes over a semicolon, and over newlines. -/
def skipSeparators (symbols : Symbols) : Symbols :=
  match skipNewlines symbols with
  | (_, .semicolon) :: rest => skipNewlines rest
  | symbols => symbols

/-- What the reading of a part needs more of fuel than there was. -/
def exhausted {α : Type} : Reading (α × Symbols) :=
  .error ⟨1, bytesOf "Syntax error", false⟩

mutual

/-- Reads commands up to what ends a list, or if only a line is wanted up to its end. -/
def readList (isLine : Bool) : Nat → Symbols → Reading (List Command × Symbols)
  | 0, _ => exhausted
  | fuel + 1, symbols => do
    let symbols := if isLine then symbols else skipNewlines symbols
    if endsList symbols || startsWithNewline symbols then return ([], symbols)
    let (first, rest) ← readChain fuel symbols
    match rest with
    | (_, .semicolon) :: rest =>
      let (later, rest) ← readList isLine fuel rest
      return (first :: later, rest)
    | (_, .ampersand) :: rest =>
      let (later, rest) ← readList isLine fuel rest
      return (.background first :: later, rest)
    | (_, .newline) :: later =>
      if isLine then return ([first], rest)
      else
        let (later, rest) ← readList isLine fuel later
        return (first :: later, rest)
    | rest => return ([first], rest)
where
  /-- The first symbol is a newline. -/
  startsWithNewline : Symbols → Bool
    | (_, .newline) :: _ => true
    | _ => false

/-- Reads commands joined by `&&` and `||`. -/
def readChain : Nat → Symbols → Reading (Command × Symbols)
  | 0, _ => exhausted
  | fuel + 1, symbols => do
    let (first, rest) ← readPipe fuel symbols
    readJoined fuel first rest

/-- Reads what is joined to a command by `&&` and `||`. -/
def readJoined : Nat → Command → Symbols → Reading (Command × Symbols)
  | 0, _, _ => exhausted
  | fuel + 1, first, symbols => do
    match symbols with
    | (_, .and) :: rest =>
      let (second, rest) ← readPipe fuel (skipNewlines rest)
      readJoined fuel (.both first second) rest
    | (_, .or) :: rest =>
      let (second, rest) ← readPipe fuel (skipNewlines rest)
      readJoined fuel (.either first second) rest
    | rest => return (first, rest)

/-- Reads commands joined by `|`. -/
def readPipe : Nat → Symbols → Reading (Command × Symbols)
  | 0, _ => exhausted
  | fuel + 1, symbols => do
    if startsWith "!" symbols then
      let (command, rest) ← readPipe fuel symbols.tail
      return (.negation command, rest)
    let (first, rest) ← readCommand fuel symbols
    match rest with
    | (_, .pipe) :: rest =>
      let (second, rest) ← readPipe fuel (skipNewlines rest)
      return (.pipe first second, rest)
    | rest => return (first, rest)

/-- Reads one command, with the redirections behind it. -/
def readCommand : Nat → Symbols → Reading (Command × Symbols)
  | 0, _ => exhausted
  | fuel + 1, symbols => do
    match symbols with
    | (_, .word name) :: (_, .opening) :: rest =>
      match rest, (plainBytes? name).filter isName with
      | (_, .closing) :: rest, some name =>
        let (body, rest) ← readCommand fuel (skipNewlines rest)
        return (.define name body, rest)
      | (line, .closing) :: _, none => .error ⟨line, bytesOf "Syntax error: Bad function name", false⟩
      | rest, _ => unexpected "\")\"" rest
    | _ =>
      match ← readCompound fuel symbols with
      | (some command, rest) =>
        let (redirects, left) ← readRedirects rest
        let line := (symbols.headD (1, .finish)).1
        return (if redirects.isEmpty then command else .routed line command redirects, left)
      | (none, _) =>
        if endsList symbols then return ← unexpected "" symbols
        match ← readSimple symbols with
        | (([], []), rest) => unexpected "" rest
        | ((words, redirects), rest) =>
          return (.simple (symbols.headD (1, .finish)).1 words redirects, rest)

/-- Reads a command that is made of others, if one begins. -/
def readCompound : Nat → Symbols → Reading (Option Command × Symbols)
  | 0, _ => exhausted
  | fuel + 1, symbols => do
    if startsWith "if" symbols then
      let (command, rest) ← readChoice fuel symbols.tail
      return (some command, rest)
    else if startsWith "while" symbols || startsWith "until" symbols then
      let (condition, rest) ← readList false fuel symbols.tail
      let (body, rest) ← readList false fuel (← expectWord "do" rest)
      let loop := .repetition (startsWith "until" symbols) (.list condition) (.list body)
      return (some loop, ← expectWord "done" rest)
    else if startsWith "for" symbols then
      match symbols.tail with
      | (line, .word name) :: rest =>
        let some name := (plainBytes? name).filter isName
          | .error ⟨line, bytesOf "Syntax error: Bad for loop variable", false⟩
        let (words, rest) ← readLoopWords rest
        let (body, rest) ← readList false fuel (← expectWord "do" (skipSeparators rest))
        return (some (.loop line name words (.list body)), ← expectWord "done" rest)
      | rest =>
        let line := (rest.headD (1, .finish)).1
        .error ⟨line, bytesOf "Syntax error: Bad for loop variable", false⟩
    else if startsWith "case" symbols then
      match symbols.tail with
      | (line, .word subject) :: rest =>
        let (arms, rest) ← readArms fuel (← expectWord "in" (skipNewlines rest))
        return (some (.cases line subject arms), ← expectWord "esac" rest)
      | rest => unexpected "word" rest
    else if startsWith "\x7b" symbols then
      let (commands, rest) ← readList false fuel symbols.tail
      return (some (.list commands), ← expectWord "\x7d" rest)
    else match symbols with
      | (_, .opening) :: rest =>
        let (commands, rest) ← readList false fuel rest
        match rest with
        | (_, .closing) :: rest => return (some (.apart (.list commands)), rest)
        | rest => unexpected "\")\"" rest
      | symbols => return (none, symbols)

/-- Reads a choice, behind its first word. -/
def readChoice : Nat → Symbols → Reading (Command × Symbols)
  | 0, _ => exhausted
  | fuel + 1, symbols => do
    let (condition, rest) ← readList false fuel symbols
    let (yes, rest) ← readList false fuel (← expectWord "then" rest)
    if startsWith "elif" rest then
      let (no, rest) ← readChoice fuel rest.tail
      return (.choice (.list condition) (.list yes) no, rest)
    else if startsWith "else" rest then
      let (no, rest) ← readList false fuel rest.tail
      return (.choice (.list condition) (.list yes) (.list no), ← expectWord "fi" rest)
    else return (.choice (.list condition) (.list yes) .nothing, ← expectWord "fi" rest)

/-- Reads the arms of a choice by patterns. -/
def readArms : Nat → Symbols → Reading (List (List Word × Command) × Symbols)
  | 0, _ => exhausted
  | fuel + 1, symbols => do
    let symbols := skipNewlines symbols
    if startsWith "esac" symbols then return ([], symbols)
    let symbols := match symbols with
      | (_, .opening) :: rest => rest
      | symbols => symbols
    let (patterns, rest) ← readPatterns symbols
    let (commands, rest) ← readList false fuel rest
    match skipNewlines rest with
    | (_, .doubleSemicolon) :: rest =>
      let (arms, rest) ← readArms fuel rest
      return ((patterns, .list commands) :: arms, rest)
    | rest => return ([(patterns, .list commands)], rest)

end

/-- Reads the next command of a script, up to the end of a line. Reading goes down at most eight steps
for a symbol, and once more at the end. -/
def readComplete? (symbols : Symbols) : Reading (Option (Command × Symbols)) := do
  let symbols := skipNewlines symbols
  match symbols with
  | [] | (_, .finish) :: _ => return none
  | symbols =>
    let (commands, rest) ← readList true (8 * symbols.length + 8) symbols
    match rest with
    | [] | (_, .newline) :: _ | (_, .finish) :: _ => return some (.list commands, rest)
    | rest => return some (← unexpected "" rest)

end CommandShell.Userland
