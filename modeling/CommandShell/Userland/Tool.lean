import CommandShell.Program
import CommandShell.Userland.Condition
import CommandShell.Userland.Format

/-!
# Tools

Small programs that look at their arguments, their environment, their input and the disk, and write.
Here are those that need no more than their operands.

## Main definitions
* `Tool`, with the ways in which one ends: `Process.silent`, `Process.prints`, `Process.complains`.
* `operandTools`
-/

namespace CommandShell

namespace Process

/-- The end of a program that has changed nothing. -/
def ended (p : Process) (code : UInt8) (out err : Bytes) : Completion :=
  ⟨.code code, out, err, p.disk.files, p.input⟩

/-- An exit code and nothing written. -/
def silent (p : Process) (code : UInt8) : Completion :=
  p.ended code [] []

/-- Success, with something written. -/
def prints (p : Process) (out : Bytes) : Completion :=
  p.ended 0 out []

/-- A complaint in the name of the program, and an exit code. -/
def complains (p : Process) (code : UInt8) (message : Bytes) : Completion :=
  p.ended code [] (p.arguments.headD [] ++ Utf8.encode ": ".toList ++ message ++ [newline])

end Process

namespace Userland

/-- A program, given what it is started with and its operands. -/
abbrev Tool := Process → List Bytes → Completion

/-- Joins operands by spaces. -/
def spaced : List Bytes → Bytes :=
  joinPieces 32

/-- A text as it is shown in a complaint. -/
def cited (text : Bytes) : Bytes :=
  39 :: text ++ [39]

/-- What is said about a failure. -/
def described : Failure → Bytes
  | .system e => Utf8.encode e.description
  | failure => Utf8.encode failure.text

/-- The operand is one of the options of `echo`. -/
def isEchoOption : Bytes → Bool
  | 45 :: letters => !letters.isEmpty && letters.all fun b => "neE".toList.contains (charOf b)
  | _ => false

/-- Writes its operands. -/
def echo : Tool := fun p operands =>
  let letters := (operands.takeWhile isEchoOption).flatten.map charOf
  let interprets := (letters.reverse.find? fun c => c == 'e' || c == 'E') == some 'e'
  let line := spaced (operands.dropWhile isEchoOption)
  let (line, stops) := if interprets then Escapes.echo.apply line else (line, false)
  p.prints (if stops || letters.contains 'n' then line else line ++ [newline])

/-- The values of a variable among entries. A name with `=` in it has none. -/
def valuesIn (entries : List Bytes) (name : Bytes) : List Bytes :=
  if name.isEmpty || name.contains 61 then []
  else (entries.filter (name ++ [61]).isPrefixOf).map (·.drop (name.length + 1))

/-- Writes the values of variables, or all of them. -/
def printEnvironment : Tool := fun p operands =>
  let (ending, names) := match operands with
    | option :: names =>
      if option = bytesOf "-0" || option = bytesOf "--null" then ([0], names)
      else if option = bytesOf "--" then ([newline], names)
      else ([newline], operands)
    | [] => ([newline], [])
  if names.isEmpty then p.prints (p.environment.flatMap (· ++ ending))
  else
    let values := names.map (valuesIn p.environment)
    p.ended (if values.all (!·.isEmpty) then 0 else 1) (values.flatten.flatMap (· ++ ending)) []

/-- Writes the working directory. -/
def printDirectory : Tool := fun p _ =>
  match p.disk.currentDirectory with
  | .ok path => p.prints (path ++ [newline])
  | .error cause => p.complains 1 (described cause)

/-- What is said about an operand of a format. -/
def faultMessage : Fault → Bytes
  | .notNumber operand => cited operand ++ bytesOf ": expected a numeric value"
  | .notWhole operand => cited operand ++ bytesOf ": value not completely converted"
  | .outOfRange operand => cited operand ++ bytesOf ": Numerical result out of range"
  | .noDirective text => text ++ bytesOf ": invalid conversion specification"

/-- Complaints, each in the name of the program on a line of its own. -/
def complaints (p : Process) (messages : List Bytes) : Bytes :=
  messages.flatMap fun message =>
    p.arguments.headD [] ++ bytesOf ": " ++ message ++ [newline]

/-- What is said when a program lacks an operand. -/
def missingOperand (p : Process) : Completion :=
  let name := p.arguments.headD []
  p.ended 1 [] (name ++ bytesOf ": missing operand\nTry " ++ cited (name ++ bytesOf " --help") ++
    bytesOf " for more information.\n")

/-- Writes its operands as a format tells. -/
def printFormatted : Tool := fun p operands =>
  match if operands.head? = some (bytesOf "--") then operands.tail else operands with
  | [] => missingOperand p
  | text :: operands =>
    let filled := format .operand text operands
    let excess := match filled.left with
      | first :: _ =>
        if filled.stops then []
        else [bytesOf "warning: ignoring excess arguments, starting with " ++ cited first]
      | [] => []
    p.ended (if filled.faults.isEmpty then 0 else 1) filled.written
      (complaints p (filled.faults.map faultMessage ++ excess))

/-- Tells whether a condition holds. -/
def test : Tool := fun p operands =>
  let operands := if operands.getLast? = some [93] then operands.dropLast else operands
  match holds p.disk operands with
  | .ok truth => p.silent (if truth then 0 else 1)
  | .error message => p.complains 2 message

/-- The last name in a path. -/
def lastName (path : Bytes) : Bytes :=
  match (pieces slash path).filter (!·.isEmpty) |>.getLast? with
  | some name => name
  | none => if path.isEmpty then [] else [slash]

/-- Writes the last name of a path, without a certain end. -/
def baseName : Tool := fun p operands =>
  match operands with
  | [] => missingOperand p
  | path :: rest =>
    let name := lastName path
    let ending := rest.headD []
    let isCut := !ending.isEmpty && name.length != ending.length && ending.isSuffixOf name
    p.prints ((if isCut then name.take (name.length - ending.length) else name) ++ [newline])

/-- A path without its last name. -/
def withoutLastName (path : Bytes) : Bytes :=
  let trim := fun path : Bytes => (path.reverse.dropWhile (· == slash)).reverse
  let above := trim ((trim path).reverse.dropWhile (· != slash)).reverse
  if !above.isEmpty then above else if path.head? = some slash then [slash] else selfName

/-- Writes paths without their last names. -/
def directoryName : Tool := fun p operands =>
  if operands.isEmpty then missingOperand p
  else p.prints (operands.flatMap fun path => withoutLastName path ++ [newline])

/-- The integers from one to another in steps. -/
def steps (first step last : Int) : List Int :=
  if step = 0 then []
  else if 0 < step then
    (List.range (((last - first) / step) + 1).toNat).map fun i : Nat => first + step * (i : Int)
  else (List.range (((first - last) / -step) + 1).toNat).map fun i : Nat => first + step * (i : Int)

/-- Writes integers in order. -/
def sequence : Tool := fun p operands =>
  match operands.map integer? with
  | [some last] => written p 1 1 last
  | [some first, some last] => written p first 1 last
  | [some first, some step, some last] => written p first step last
  | _ => missingOperand p
where
  /-- Writes integers, one on a line. -/
  written (p : Process) (first step last : Int) : Completion :=
    p.prints ((steps first step last).flatMap fun n => Utf8.encode (integer n) ++ [newline])

/-- The tools that need no more than their operands, by name. -/
def operandTools : List (String × Tool) :=
  [("true", fun p _ => p.silent 0), ("false", fun p _ => p.silent 1),
    ("sleep", fun p _ => p.silent 0), ("echo", echo), ("printenv", printEnvironment),
    ("pwd", printDirectory), ("printf", printFormatted), ("test", test), ("[", test),
    ("basename", baseName), ("dirname", directoryName), ("seq", sequence)]

end Userland

end CommandShell
