import CommandShell.Userland.Condition
import CommandShell.Userland.Script.State

/-!
# Commands that a script runs itself

## Main definitions
* `builtin?`: the command with a name, given its line and its operands.
* `isSpecial`: the names of commands before which an assignment lasts.
* `locate`: where the program is that a name stands for.
-/

namespace CommandShell.Userland

/-- A command that a script runs itself, given its line and its operands. -/
abbrev ScriptBuiltin := Nat → List Bytes → Run Unit

/-- The commands before which an assignment lasts. -/
def specials : List String :=
  [".", ":", "break", "continue", "eval", "exec", "exit", "export", "readonly", "return", "set",
    "shift", "times", "trap", "unset"]

/-- An assignment before a command of this name lasts. -/
def isSpecial (name : Bytes) : Bool :=
  specials.any (bytesOf · == name)

/-! ## Signals -/

/-- The numbers of signals, by name. -/
def signalNames : List (String × Nat) :=
  [("EXIT", 0), ("HUP", 1), ("INT", 2), ("QUIT", 3), ("ILL", 4), ("TRAP", 5), ("ABRT", 6),
    ("BUS", 7), ("FPE", 8), ("KILL", 9), ("USR1", 10), ("SEGV", 11), ("USR2", 12), ("PIPE", 13),
    ("ALRM", 14), ("TERM", 15), ("STKFLT", 16), ("CHLD", 17), ("CONT", 18), ("STOP", 19),
    ("TSTP", 20), ("TTIN", 21), ("TTOU", 22), ("URG", 23), ("XCPU", 24), ("XFSZ", 25),
    ("VTALRM", 26), ("PROF", 27), ("WINCH", 28), ("IO", 29), ("PWR", 30), ("SYS", 31)]

/-- The number of a signal, given by number or name. -/
def signal? (operand : Bytes) : Option Nat :=
  if !operand.isEmpty && operand.all isDecimal then
    if numberOf 10 operand ≤ 64 then some (numberOf 10 operand) else none
  else
    (signalNames.find? fun entry =>
      bytesOf entry.1 == operand || bytesOf ("SIG" ++ entry.1) == operand).map Prod.snd

/-- The signals that do not end a program. -/
def harmless : List Nat := [0, 17, 18, 19, 20, 21, 22, 23, 28]

/-- Sends a signal to the script itself; no other process is there. -/
def send (line : Nat) (signal : Nat) (target : Bytes) : Run Unit := do
  if target != ownNumber && target != bytesOf "0" then
    Run.complain line 1 (bytesOf "No such process\n")
  else
    Run.result 0
    match (← get).traps.lookup signal with
    | some [] => return
    | some _ => modify fun s => { s with signals := s.signals ++ [signal] }
    | none =>
      if !harmless.contains signal then throw (.ended (.signal signal.toUInt8))

/-- Sends a signal. -/
def kill : ScriptBuiltin := fun line operands => do
  match operands with
  | [45, 115] :: name :: target :: _ | (45 :: name) :: target :: _ =>
    match signal? name with
    | some signal => send line signal target
    | none => Run.complain line 2 (bytesOf "Illegal option -" ++ name)
  | target :: _ => send line 15 target
  | [] => Run.complain line 2 (bytesOf "Usage: kill [-s sigspec | -signum] pid")

/-- Tells what is to be run on signals. -/
def trap : ScriptBuiltin := fun line operands => do
  let (action, names) := match operands with
    | [] => (none, [])
    | [45] :: names => (none, names)
    | [name] => if (signal? name).isSome then (none, [name]) else (some name, [])
    | action :: names =>
      if !action.isEmpty && action.all isDecimal then (none, operands) else (some action, names)
  names.forM fun name => do
    match signal? name with
    | none => Run.complain line 1 (name ++ bytesOf ": bad trap")
    | some signal =>
      modify fun s =>
        let others := s.traps.filter fun entry => entry.1 != signal
        { s with traps := (action.map fun text => (signal, text)).toList ++ others }
  if operands.isEmpty then
    for (signal, text) in (← get).traps.mergeSort fun a b => decide (a.1 ≤ b.1) do
      let name := ((signalNames.find? fun entry => entry.2 == signal).map Prod.fst).getD ""
      Run.print (bytesOf "trap -- '" ++ text ++ bytesOf "' " ++ bytesOf name ++ [newline])
  if names.all fun name => (signal? name).isSome then Run.result 0

/-! ## Leaving -/

/-- The number that an operand spells, or the end of the script. -/
def numberOperand (line : Nat) (operand : Bytes) : Run Nat :=
  if operand.all isDecimal && numberOf 10 operand ≤ 2147483647 then
    return numberOf 10 operand
  else Run.fail line (bytesOf "Illegal number: " ++ operand)

/-- Ends the script. -/
def leaveScript : ScriptBuiltin := fun line operands => do
  match operands with
  | [] => throw (.exit (← get).status)
  | operand :: _ => throw (.exit (← numberOperand line operand).toUInt8)

/-- Leaves the function. -/
def leaveFunction : ScriptBuiltin := fun line operands => do
  if let operand :: _ := operands then
    Run.result (← numberOperand line operand).toUInt8
  throw .function

/-- Leaves loops, or begins the next round of one. Where no loop is running, nothing is done. -/
def leaveLoop (isLeft : Bool) : ScriptBuiltin := fun line operands => do
  let depth ← match operands with
    | [] => pure 1
    | operand :: _ => numberOperand line operand
  if depth = 0 then Run.fail line (bytesOf "Illegal number: " ++ operands.headD [])
  let depth := min depth (← get).loops
  Run.result 0
  if depth != 0 then throw (.loop isLeft depth)

/-! ## Directories -/

/-- Goes to a directory. -/
def changeDirectory : ScriptBuiltin := fun line operands => do
  let s ← get
  let operands := operands.filter fun operand => operand != bytesOf "--" && operand != bytesOf "-L"
  let isBack := operands.head? == some [45]
  let target :=
    if isBack then (s.value? "OLDPWD").getD []
    else operands.head?.getD ((s.value? "HOME").getD [])
  match s.disk.enter target with
  | .error _ => Run.complain line 2 (bytesOf "can't cd to " ++ operands.headD target)
  | .ok disk =>
    let before := (s.value? "PWD").getD []
    let after := Script.startDirectory disk none
    modify fun s => ({ s with disk }.assign (bytesOf "OLDPWD") before true).assign (bytesOf "PWD")
      after true
    if isBack then Run.print (after ++ [newline])
    Run.result 0

/-- Writes the directory, without links or as the script came to it. -/
def showDirectory : ScriptBuiltin := fun _ operands => do
  let s ← get
  let claimed := if operands = [bytesOf "-P"] then none else s.value? "PWD"
  Run.print (Script.startDirectory s.disk claimed ++ [newline])
  Run.result 0

/-! ## Variables -/

/-- The name and the value that an operand gives it, if it does. -/
def assigned (operand : Bytes) : Bytes × Option Bytes :=
  let name := operand.takeWhile (· != 61)
  (name, if name.length < operand.length then some (operand.drop (name.length + 1)) else none)

/-- A value as a script could read it again. -/
def requoted (value : Bytes) : Bytes :=
  39 :: value.flatMap (fun b => if b = 39 then bytesOf "'\"'\"'" else [b]) ++ [39]

/-- Declares variables, giving them a value where one stands in the operand; without operands, writes
those of which `isOne` holds. -/
def declare (command : String) (isOne : Variable → Bool) (change : Variable → Variable) :
    ScriptBuiltin := fun line operands => do
  for operand in operands.filter (· != bytesOf "-p") do
    let (name, value) := assigned operand
    if !isName name then Run.fail line (name ++ bytesOf ": bad variable name")
    if let some value := value then Run.give line name value false
    let v := ((← get).binding? name).getD ⟨name, none, false, false⟩
    modify (·.put (change v))
  if operands.isEmpty || operands = [bytesOf "-p"] then
    for v in ((← get).bindings.filter isOne).mergeSort fun a b => decide (a.name ≤ b.name) do
      let given := (v.value.map fun value => 61 :: requoted value).getD []
      Run.print (bytesOf command ++ [32] ++ v.name ++ given ++ [newline])
  Run.result 0

/-- Declares variables of a function. -/
def declareLocal : ScriptBuiltin := fun line operands => do
  if (← get).frames.isEmpty then Run.fail line (bytesOf "not in a function")
  for operand in operands do
    let (name, value) := assigned operand
    let before := (← get).binding? name
    modify fun s =>
      { s with frames := s.frames.modify 0 ((name, before) :: ·) }
    if let some value := value then Run.give line name value false
  Run.result 0

/-- Forgets variables, or functions. -/
def forget : ScriptBuiltin := fun line operands => do
  match operands with
  | [45, 102] :: names =>
    modify fun s =>
      { s with functions := s.functions.filter fun entry => !names.contains entry.1 }
  | operands =>
    for name in operands.filter (· != bytesOf "-v") do
      if ((← get).binding? name).any Variable.isFixed then
        Run.fail line (name ++ bytesOf ": is read only")
      modify (·.unset name)
  Run.result 0

/-- Drops the first arguments. -/
def shift : ScriptBuiltin := fun line operands => do
  let count ← match operands with
    | [] => pure 1
    | operand :: _ => numberOperand line operand
  if (← get).arguments.length < count then Run.fail line (bytesOf "can't shift that many")
  modify fun s => { s with arguments := s.arguments.drop count }
  Run.result 0

/-- The options that have names of their own. -/
def optionNames : List (String × Char) :=
  [("allexport", 'a'), ("errexit", 'e'), ("noglob", 'f'), ("nounset", 'u'), ("xtrace", 'x'),
    ("verbose", 'v'), ("noexec", 'n'), ("monitor", 'm')]

/-- Sets or clears options. -/
def setOptions (isSet : Bool) (letters : List Char) : Run Unit :=
  modify fun s =>
    let others := s.options.filter (!letters.contains ·)
    { s with options := if isSet then others ++ letters else others }

/-- Sets options and arguments. -/
def configure : ScriptBuiltin := fun _ operands => do
  go operands
  Run.result 0
where
  /-- Takes the operands in order. -/
  go : List Bytes → Run Unit
    | [] => return
    | [45, 45] :: rest => modify ({ · with arguments := rest })
    | [45, 111] :: name :: rest => do
      setOptions true ((optionNames.filter fun entry => bytesOf entry.1 == name).map Prod.snd)
      go rest
    | [43, 111] :: name :: rest => do
      setOptions false ((optionNames.filter fun entry => bytesOf entry.1 == name).map Prod.snd)
      go rest
    | (45 :: b :: letters) :: rest => do
      setOptions true ((b :: letters).map charOf)
      go rest
    | (43 :: b :: letters) :: rest => do
      setOptions false ((b :: letters).map charOf)
      go rest
    | operands => modify ({ · with arguments := operands })

/-! ## Reading and writing -/

/-- Cuts a line into a number of parts, at separators; the last part takes what is left. -/
def cutLine (separators : Bytes) : Nat → Bytes → List Bytes
  | 0, _ => []
  | count + 1, line =>
    let isBlank := fun b : UInt8 => separators.contains b && (isSpacing b || b == newline)
    let line := line.dropWhile isBlank
    if count = 0 then [(line.reverse.dropWhile isBlank).reverse]
    else
      let part := line.takeWhile (!separators.contains ·)
      let behind := (line.drop part.length).dropWhile isBlank
      let behind := if behind.head?.any fun b => separators.contains b && !isBlank b then behind.tail
        else behind
      part :: cutLine separators count behind

/-- A line in which a backslash quotes the byte behind it. -/
def withoutBackslashes : Bytes → Bytes
  | 92 :: b :: rest => b :: withoutBackslashes rest
  | b :: rest => b :: withoutBackslashes rest
  | [] => []

/-- Reads a line of the input into variables. -/
def readVariables : ScriptBuiltin := fun line operands => do
  let (options, names) := (operands.takeWhile (·.head? == some 45),
    operands.dropWhile (·.head? == some 45))
  let names := if names.isEmpty then [bytesOf "REPLY"] else names
  let s ← get
  let (text, isEnded, left) := s.input.readLine
  let text := if options.contains (bytesOf "-r") then text else withoutBackslashes text
  set (s.leave left)
  let parts := cutLine s.separators names.length text
  for (name, part) in names.zip parts do
    if ((← get).binding? name).any Variable.isFixed then
      return ← Run.complain line 2 (name ++ bytesOf ": is read only")
    modify (·.assign name part false)
  Run.result (if isEnded then 0 else 1)

/-- Writes operands, with escapes. -/
def writeOperands : ScriptBuiltin := fun _ operands => do
  let isBare := operands.head? == some (bytesOf "-n")
  let (line, stops) := Escapes.script.apply (joinPieces 32 (if isBare then operands.tail else operands))
  Run.print (if isBare || stops then line else line ++ [newline])
  Run.result 0

/-- What is said about an operand of a format. -/
def scriptFaultMessage : Fault → Bytes
  | .notNumber operand => operand ++ bytesOf ": expected numeric value"
  | .notWhole operand => operand ++ bytesOf ": not completely converted"
  | .outOfRange operand => operand ++ bytesOf ": Numerical result out of range"
  | .noDirective text => text ++ bytesOf ": invalid directive"

/-- Writes operands as a format tells. -/
def writeFormatted : ScriptBuiltin := fun line operands => do
  match if operands.head? = some (bytesOf "--") then operands.tail else operands with
  | [] => Run.complain line 2 (bytesOf "usage: printf format [arg ...]")
  | text :: operands =>
    let filled := format .script text operands
    Run.print filled.written
    Run.result 0
    for fault in filled.faults do
      let status := if fault matches .noDirective _ then 2 else 1
      Run.complain line status (scriptFaultMessage fault)

/-- Tells whether a condition holds. -/
def testCondition (command : String) : ScriptBuiltin := fun line operands => do
  if command = "[" && operands.getLast? != some (bytesOf "]") then
    Run.complain line 2 (bytesOf "missing ]")
  else
    match holds (← get).disk (if command = "[" then operands.dropLast else operands) with
    | .ok truth => Run.result (if truth then 0 else 1)
    | .error message => Run.complain line 2 message

/-- The commands that a script runs itself, by name. -/
def scriptBuiltins : List (String × ScriptBuiltin) :=
  [(":", fun _ _ => Run.result 0), ("true", fun _ _ => Run.result 0),
    ("false", fun _ _ => Run.result 1), ("exit", leaveScript), ("return", leaveFunction),
    ("break", leaveLoop true), ("continue", leaveLoop false), ("kill", kill), ("trap", trap),
    ("cd", changeDirectory), ("pwd", showDirectory), ("export", declare "export" Variable.isExported ({ · with isExported := true })),
    ("readonly", declare "readonly" Variable.isFixed ({ · with isFixed := true })),
    ("local", declareLocal), ("unset", forget),
    ("shift", shift), ("set", configure), ("read", readVariables), ("echo", writeOperands),
    ("printf", writeFormatted), ("test", testCondition "test"), ("[", testCondition "["),
    ("wait", fun _ _ => Run.result 0), ("hash", fun _ _ => Run.result 0),
    ("umask", fun _ operands => do
      if operands.isEmpty then Run.print (bytesOf "0022\n")
      Run.result 0)]

/-- The command of a certain name that a script runs itself. -/
def scriptBuiltin? (name : Bytes) : Option ScriptBuiltin :=
  (scriptBuiltins.find? fun entry => bytesOf entry.1 == name).map Prod.snd

/-- Where the program is that a name stands for: the first file on the search path that can be run, or
else the first that is there. -/
def Script.locate (s : Script) (name : Bytes) : Option Bytes :=
  let base := s.disk.currentDirectory.toOption.getD selfName
  let path := s.value? "PATH"
  let isFile := fun path => s.disk.contains path && !s.disk.canEnter path
  if name.contains slash then some name
  else
    (findProgram (fun path => isFile path && isExecutable s.disk path) name path base).or
      (findProgram isFile name path base)

end CommandShell.Userland
