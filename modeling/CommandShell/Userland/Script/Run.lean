import CommandShell.Userland.Script.Apart
import CommandShell.Userland.Script.Arithmetic
import CommandShell.Userland.Script.Field
import CommandShell.Userland.Script.Loop
import CommandShell.Userland.Script.Redirect

/-!
# Running the commands of a script

What the programs do that a script starts is a parameter.

## Main definitions
* `expandWord`: what a word expands to.
* `exec`: a command run.
* `evaluate`: the commands of a text run.
-/

namespace CommandShell.Userland

/-! ## Words -/

/-- The assignment that a field spells. -/
def assignment? (field : Bytes) : Option (Bytes × Bytes) :=
  let name := field.takeWhile (· != 61)
  if isName name && name.length < field.length then some (name, field.drop (name.length + 1))
  else none

/-- The word begins as an assignment does. -/
def isAssignment (word : Word) : Bool :=
  let bare := word.takeWhile fun
    | .plain _ => true
    | _ => false
  (((plainBytes? bare).bind assignment?)).isSome

/-- A tilde stands for the home directory before this. -/
def endsTilde (isValue : Bool) : Word → Bool
  | [] => true
  | .plain b :: _ => b = slash || (isValue && b = colon)
  | _ => false

/-- A word with the home directory in the place of a tilde at its start, and in a value in those behind
colons. -/
def withHome (home : Bytes) (isValue : Bool) : Bool → Word → Word
  | _, [] => []
  | isStart, fragment :: rest =>
    let later := withHome home isValue (isValue && fragment == .plain colon) rest
    if isStart && fragment == .plain 126 && endsTilde isValue rest then .quoted home :: later
    else fragment :: later

/-- A word with the home directory in the place of a tilde, and if it is an assignment in those of the
tildes in the value. -/
def Script.settled (s : Script) (isAssignment : Bool) (word : Word) : Word :=
  match s.value? "HOME" with
  | none => word
  | some home =>
    if isAssignment then
      let name := word.takeWhile (· != .plain 61)
      name ++ .plain 61 :: withHome home true true (word.drop (name.length + 1))
    else withHome home false true word

/-- Something in the word refers to the output of commands. -/
def refersToOutput (word : Word) : Bool :=
  word.any fun
    | .output _ _ => true
    | _ => false

/-- A value that is quoted or not. -/
def valuePieces (isQuoted : Bool) (value : Bytes) : List Piece :=
  if isQuoted then [.fixed value true] else [.loose value]

/-- The pieces that the arguments make up, each in a field of its own. -/
def argumentPieces (isQuoted : Bool) : List Bytes → List Piece
  | [] => []
  | [argument] => valuePieces isQuoted argument
  | argument :: rest => valuePieces isQuoted argument ++ .boundary :: argumentPieces isQuoted rest

/-- The value that is left without its start or its end that matches a pattern. -/
def withoutMatch (atStart isLongest : Bool) (pattern : Marked) (value : Bytes) : Bytes :=
  let lengths := List.range (value.length + 1)
  let ordered := if isLongest then lengths.reverse else lengths
  let part := fun count => if atStart then value.take count else value.drop (value.length - count)
  match ordered.find? fun count => matchesAll (glyphs pattern) (part count) with
  | none => value
  | some count => if atStart then value.drop count else value.take (value.length - count)

/-- The word that an operand spells, in which blanks stand for themselves. -/
def operandWord (isQuoted : Bool) (operand : Bytes) : Word :=
  if isQuoted then readDocument operand.length operand else go operand.length operand
where
  /-- Reads words and the bytes between them. -/
  go : Nat → Bytes → Word
    | 0, _ => []
    | fuel + 1, text =>
      match readWord (text.length + 1) false text with
      | (word, []) => word
      | (word, b :: rest) => word ++ .plain b :: go fuel rest

/-- The bytes of a piece of an operand can be cut, if the reference is not quoted. -/
def loosened (isQuoted : Bool) : Piece → Piece
  | .fixed content false => if isQuoted then .fixed content false else .loose content
  | piece => piece

mutual

/-- What the fragments of a word expand to. Each level of nesting takes fuel. -/
def expandWord (start : Machine) (line : Nat) : Nat → Word → Run (List Piece)
  | 0, _ => return []
  | fuel + 1, word => do
    let pieces ← word.mapM fun
      | .plain b => pure [Piece.fixed [b] false]
      | .quoted content => pure [Piece.fixed content true]
      | .unclosed complaint => Run.fail line (bytesOf ("Syntax error: " ++ complaint))
      | .meaningless => Run.fail line (bytesOf "Bad substitution")
      | .output script isQuoted => do
        let out ← outputOf (evaluate start fuel 1) (evaluate start fuel line script)
        return valuePieces isQuoted (out.reverse.dropWhile (· == newline)).reverse
      | .arithmetic expression isQuoted => do
        let text := (joined (← expandWord start line fuel (operandWord true expression))).bytes
        let wrong := fun {α : Type} (what : String) => Run.fail (α := α) line
          (bytesOf ("arithmetic expression: " ++ what ++ ": \"") ++ text ++ [34])
        let some e := Expression.ofText? text | wrong "expecting primary"
        let s ← get
        let lookup := fun name =>
          Int64.ofInt (integerOf (((s.binding? name).bind Variable.value).getD []))
        let some (n, given) := e.value lookup [] | wrong "division by zero"
        for (name, n) in given.reverse do
          Run.give line name (Utf8.encode (integer n.toInt)) false
        return valuePieces isQuoted (Utf8.encode (integer n.toInt))
      | .parameter name form operand isQuoted =>
        expandParameter start line fuel name form operand isQuoted
    return pieces.flatten
termination_by structural fuel => fuel

/-- What a reference to a parameter expands to. -/
def expandParameter (start : Machine) (line : Nat) : Nat → Bytes → Form → Bytes → Bool →
    Run (List Piece)
  | 0, _, _, _, _ => return []
  | fuel + 1, name, form, operand, isQuoted => do
    let s ← get
    let value := if name = bytesOf "LINENO" then some (Utf8.encode (natural line))
      else s.parameter? name
    let isList := name.map charOf = ['@'] || name.map charOf = ['*']
    let own := fun (_ : Unit) => do
      if value.isNone && !isList && s.options.contains 'u' then
        Run.fail line (name ++ bytesOf ": parameter not set")
      return if name.map charOf = ['@'] || (isList && !isQuoted) then
          argumentPieces isQuoted s.arguments
        else valuePieces isQuoted (value.getD [])
    let isMissing := fun alsoEmpty => value.isNone || (alsoEmpty && value == some [])
    let other := fun (_ : Unit) => do
      let pieces ← expandWord start line fuel (operandWord isQuoted operand)
      return pieces.map (loosened isQuoted)
    let pattern := fun (_ : Unit) => do
      return joined (← expandWord start line fuel (operandWord false operand))
    match form with
    | .value => own ()
    | .length => return valuePieces isQuoted (Utf8.encode (natural (value.getD []).length))
    | .orElse alsoEmpty => if isMissing alsoEmpty then other () else own ()
    | .orAssign alsoEmpty =>
      if isMissing alsoEmpty then
        let given := (joined (← other ())).bytes
        Run.give line name given false
        return valuePieces isQuoted given
      else own ()
    | .orRefuse alsoEmpty =>
      if isMissing alsoEmpty then
        let message := (joined (← other ())).bytes
        Run.fail line (name ++ bytesOf ": " ++
          if message.isEmpty then bytesOf "parameter not set" else message)
      else own ()
    | .ifSet alsoEmpty => if isMissing alsoEmpty then return [] else other ()
    | .withoutStart isLongest =>
      return valuePieces isQuoted (withoutMatch true isLongest (← pattern ()) (value.getD []))
    | .withoutEnd isLongest =>
      return valuePieces isQuoted (withoutMatch false isLongest (← pattern ()) (value.getD []))
termination_by structural fuel => fuel

/-- Leads descriptors where redirections say; the first that fails is told. -/
def redirectAll (start : Machine) (line : Nat) : Nat → List Redirect → Run Bool
  | 0, _ => return true
  | fuel + 1, redirects => do
    match redirects with
    | [] => return true
    | first :: rest =>
      let pieces ← expandWord start line fuel ((← get).settled false first.target)
      match (← get).redirect first.descriptor first.kind (joined pieces).bytes with
      | .ok s =>
        set s
        redirectAll start line fuel rest
      | .error message =>
        Run.complain line 2 message
        return false
termination_by structural fuel => fuel

/-- Runs a command, where `start` tells what programs do. Each level of nesting takes fuel, and a
script that goes too deep ends. -/
def exec (start : Machine) : Nat → Command → Run Unit
  | 0, _ => throw (.exit 2)
  | fuel + 1, command => do
    match command with
    | .nothing => Run.result 0
    | .list commands => commands.forM (exec start fuel)
    | .both first second =>
      tested (exec start fuel first)
      if (← get).status = 0 then exec start fuel second
    | .either first second =>
      tested (exec start fuel first)
      if (← get).status != 0 then exec start fuel second
    | .negation command =>
      tested (exec start fuel command)
      Run.result (if (← get).status = 0 then 1 else 0)
    | .background command =>
      inSubshell (evaluate start fuel 1) (exec start fuel command)
      Run.result 0
    | .choice condition yes no =>
      tested (exec start fuel condition)
      if (← get).status = 0 then exec start fuel yes
      else
        Run.result 0
        exec start fuel no
    | .repetition isUntil condition body =>
      let goes : Run Bool := do
        tested (exec start fuel condition)
        return ((← get).status = 0) != isUntil
      inLoop (rounds goes (exec start fuel body) roundLimit 0)
    | .loop line name words body =>
      let values ← match words with
        | none => pure (← get).arguments
        | some words => expandFields start line fuel words
      Run.result 0
      inLoop (eachOf (fun value => do
        Run.give line name value false
        exec start fuel body) values)
    | .cases line subject arms =>
      let text := (joined (← expandWord start line fuel ((← get).settled false subject))).bytes
      let arm ← arms.findM? fun (patterns, _) => patterns.anyM fun pattern => do
        let pattern := joined (← expandWord start line fuel pattern)
        return matchesAll (glyphs pattern) text
      match arm with
      | none => Run.result 0
      | some (_, body) =>
        Run.result 0
        exec start fuel body
    | .define name body =>
      modify fun s =>
        { s with functions := (name, body) :: s.functions.filter fun entry => entry.1 != name }
      Run.result 0
    | .routed line command redirects =>
      let channels := (← get).channels
      Run.andThen (do
        if ← redirectAll start line fuel redirects then exec start fuel command)
        ({ · with channels })
    | .apart command =>
      inSubshell (evaluate start fuel 1) (exec start fuel command)
      checkStatus
    | .pipe first second =>
      let written ← outputOf (evaluate start fuel 1) (exec start fuel first)
      fedWith (evaluate start fuel 1) written (exec start fuel second)
      checkStatus
    | .simple line words redirects =>
      execSimple start fuel line words redirects
      let signals ← modifyGet fun s => (s.signals, { s with signals := [] })
      for signal in signals do
        let s ← get
        if let some text := s.traps.lookup signal then
          evaluate start fuel 1 text
          Run.result s.status
      checkStatus
termination_by structural fuel => fuel

/-- The fields that words expand to. -/
def expandFields (start : Machine) (line : Nat) : Nat → List Word → Run (List Bytes)
  | 0, _ => return []
  | fuel + 1, words => do
    let fields ← words.mapM fun word => do
      let pieces ← expandWord start line fuel ((← get).settled false word)
      let s ← get
      return (fieldsOf s.separators pieces).flatMap s.spread
    return fields.flatten
termination_by structural fuel => fuel

/-- Gives variables the values that words spell, and tells their names. -/
def assignAll (start : Machine) (line : Nat) : Nat → Bool → List Word → Run (List Bytes)
  | 0, _, _ => return []
  | fuel + 1, exports, words =>
    words.filterMapM fun word => do
      let text := (joined (← expandWord start line fuel ((← get).settled true word))).bytes
      match assignment? text with
      | none => return none
      | some (name, value) =>
        Run.give line name value exports
        return some name
termination_by structural fuel => fuel

/-- Runs a simple command. -/
def execSimple (start : Machine) : Nat → Nat → List Word → List Redirect → Run Unit
  | 0, _, _, _ => throw (.exit 2)
  | fuel + 1, line, words, redirects => do
    let assignments := words.takeWhile isAssignment
    let fields ← expandFields start line fuel (words.drop assignments.length)
    let before ← get
    if before.options.contains 'x' && !fields.isEmpty then
      modify (·.write 2 (bytesOf "+ " ++ joinPieces 32 fields ++ [newline]))
    let lasts := fields.head? == some (bytesOf "exec") && fields.length == 1
    Run.andThen (do
      if ← redirectAll start line fuel redirects then
        match fields with
        | [] =>
          if !words.any refersToOutput then Run.result 0
          let _ ← assignAll start line fuel false assignments
        | name :: operands =>
          let names ← assignAll start line fuel true assignments
          Run.andThen (execNamed start fuel line name operands) fun s =>
            if isSpecial name then s
            else names.foldl (fun s name => s.restore name (before.binding? name)) s)
      fun s => if lasts then s else { s with channels := before.channels }
termination_by structural fuel => fuel

/-- Runs the command that a name stands for. -/
def execNamed (start : Machine) : Nat → Nat → Bytes → List Bytes → Run Unit
  | 0, _, _, _ => throw (.exit 2)
  | fuel + 1, line, name, operands => do
    match (← get).functions.lookup name with
    | some body =>
      let s ← get
      set { s with arguments := operands, frames := [] :: s.frames, loops := 0 }
      let stop ← Run.outcome (exec start fuel body)
      modify fun t =>
        let t := (t.frames.headD []).foldl (fun t entry => t.restore entry.1 entry.2) t
        { t with arguments := s.arguments, frames := s.frames, loops := s.loops }
      match stop with
      | none | some .function => return
      | some stop => throw stop
    | none => execWithoutFunctions start fuel line name operands
termination_by structural fuel => fuel

/-- Runs the command that a name stands for where no function counts. -/
def execWithoutFunctions (start : Machine) : Nat → Nat → Bytes → List Bytes → Run Unit
  | 0, _, _, _ => throw (.exit 2)
  | fuel + 1, line, name, operands => do
    match (Utf8.decode? name).map String.ofList, operands with
    | some "eval", operands =>
      Run.result 0
      Run.speaking (bytesOf "eval") (evaluate start fuel 1 (joinPieces 32 operands))
    | some "exec", [] => Run.result 0
    | some "exec", name :: operands =>
      match ← Run.speaking (bytesOf "exec") (startProgram start line name operands) with
      | some ending => throw (.ended ending)
      | none => throw (.exit (← get).status)
    | some ".", path :: _ =>
      let s ← get
      let dot := bytesOf "."
      let some place := s.locate path | Run.speaking dot (Run.fail line (path ++ bytesOf ": not found"))
      match s.contentOf place with
      | .error cause =>
        Run.speaking dot (Run.fail line (openFailure "cannot open " place "No such file" cause))
      | .ok text =>
        Run.result 0
        match ← Run.outcome (Run.speaking place (evaluate start fuel 1 text)) with
        | none | some .function => return
        | some stop => throw stop
    | some "command", [45, 118] :: name :: _ =>
      let s ← get
      if (scriptBuiltin? name).isSome || (s.functions.lookup name).isSome || isSpecial name then
        Run.print (name ++ [newline])
        Run.result 0
      else match (s.locate name).filter (isExecutable s.disk) with
        | some path =>
          Run.print (path ++ [newline])
          Run.result 0
        | none => Run.result 127
    | some "command", name :: operands => execWithoutFunctions start fuel line name operands
    | some "type", names =>
      Run.result 0
      for name in names do
        let s ← get
        if (s.functions.lookup name).isSome then
          Run.print (name ++ bytesOf " is a shell function\n")
        else if isSpecial name then Run.print (name ++ bytesOf " is a special shell builtin\n")
        else if (scriptBuiltin? name).isSome then
          Run.print (name ++ bytesOf " is a shell builtin\n")
        else match (s.locate name).filter (isExecutable s.disk) with
          | some path => Run.print (name ++ bytesOf " is " ++ path ++ [newline])
          | none =>
            Run.print (name ++ bytesOf ": not found\n")
            Run.result 127
    | _, operands =>
      match scriptBuiltin? name with
      | some builtin => Run.speaking name (builtin line operands)
      | none => let _ ← startProgram start line name operands
termination_by structural fuel => fuel

/-- Runs the commands that a text spells which begins on a line. What is misspelt ends the script. -/
def evaluate (start : Machine) : Nat → Nat → Bytes → Run Unit
  | 0, _, _ => throw (.exit 2)
  | fuel + 1, line, text =>
    go (exec start fuel) (symbols line text).length (symbols line text)
termination_by structural fuel => fuel
where
  /-- Runs commands one by one. Each takes a symbol, so their number is fuel enough. -/
  go (exec : Command → Run Unit) : Nat → Symbols → Run Unit
    | 0, _ => return
    | count + 1, symbols => do
      match readComplete? symbols with
      | .error wrong => Run.fail wrong.line wrong.message
      | .ok none => return
      | .ok (some (command, rest)) =>
        exec command
        go exec count rest

end

end CommandShell.Userland
