import CommandShell.Files.Disk
import CommandShell.Userland.Escape

/-!
# Conditions

Conditions about texts, numbers and files, as a list of operands spells them.

## Main definitions
* `holds`: whether a condition holds, or what is wrong with it.
-/

namespace CommandShell.Userland

/-- The node that a path leads to without following a link at its end. -/
def linkAt? (disk : Disk) (path : Bytes) : Option Bytes :=
  let names := Path.names path
  match names.getLast?, disk.files.walk linkLimit (if Path.isAbsolute path then .root else disk.cwd)
      names.dropLast with
  | some name, .ok (.directory p) =>
    match disk.files.node? (p.place ++ [name]) with
    | some (.link target) => if p.isThere then some target else none
    | _ => none
  | _, _ => none

/-- The program of the machine or the file that a path leads to can be run. -/
def isExecutable (disk : Disk) (path : Bytes) : Bool :=
  match disk.locate path with
  | .ok (.file _ (.file _ access)) => access.executable
  | .ok (.file _ (.program _)) => true
  | _ => disk.canEnter path

/-- What holds of one operand, by the letter of the operator. -/
def unary? (disk : Disk) (letter : Char) (word : Bytes) : Option Bool :=
  match letter with
  | 'n' => some !word.isEmpty
  | 'z' => some word.isEmpty
  | 'e' => some (disk.contains word)
  | 'd' => some (disk.directory word).isOk
  | 'f' => some (disk.contains word && !(disk.directory word).isOk)
  | 'r' => some ((disk.read word).isOk || (disk.directory word).isOk)
  | 'w' => some (disk.contains word)
  | 'x' => some (isExecutable disk word)
  | 's' => some ((disk.read word).toOption.any (!·.isEmpty) || (disk.directory word).isOk)
  | 'h' | 'L' => some (linkAt? disk word).isSome
  | 't' => some false
  | _ => none

/-- The number that a text spells, if it spells one. -/
def integer? (word : Bytes) : Option Int :=
  let trimmed := (word.dropWhile isSpacingByte).reverse.dropWhile isSpacingByte |>.reverse
  let digits := if trimmed.head? = some 45 || trimmed.head? = some 43 then trimmed.tail else trimmed
  if digits.isEmpty || !digits.all isDecimal then none
  else some (if trimmed.head? = some 45 then -(numberOf 10 digits) else numberOf 10 digits)
where
  /-- A blank that a number may stand between. -/
  isSpacingByte (b : UInt8) : Bool := b == 32 || (9 ≤ b && b ≤ 13)

/-- How two numbers compare, by the letters of the operator. -/
def compare? (letters : String) (a b : Int) : Option Bool :=
  match letters with
  | "eq" => some (a == b)
  | "ne" => some (a != b)
  | "lt" => some (decide (a < b))
  | "le" => some (decide (a ≤ b))
  | "gt" => some (decide (b < a))
  | "ge" => some (decide (b ≤ a))
  | _ => none

/-- The operators between two numbers. -/
def comparisons : List String := ["eq", "ne", "lt", "le", "gt", "ge"]

/-- What holds of two operands, or what is wrong with them; none if the word between them is no
operator. -/
def binary? (left operator right : Bytes) : Option (Except Bytes Bool) :=
  match operator.map charOf with
  | ['='] | ['=', '='] => some (.ok (left == right))
  | ['!', '='] => some (.ok (left != right))
  | ['<'] => some (.ok (decide (left < right)))
  | ['>'] => some (.ok (decide (right < left)))
  | '-' :: letters =>
    let letters := String.ofList letters
    if comparisons.contains letters then
      match integer? left, integer? right with
      | some a, some b => (compare? letters a b).map .ok
      | none, _ => some (.error (bytesOf "Illegal number: " ++ left))
      | _, none => some (.error (bytesOf "Illegal number: " ++ right))
    else none
  | _ => none

/-- Reads a condition at the start of some operands, with those that are left. -/
def primary (disk : Disk) : Nat → List Bytes → Except Bytes (Bool × List Bytes)
  | 0, _ => .error (bytesOf "too many arguments")
  | _, [] => .ok (false, [])
  | _, [[33]] => .ok (true, [])
  | fuel + 1, [33] :: rest => do
    let (truth, rest) ← primary disk fuel rest
    return (!truth, rest)
  | _, [word] => .ok (!word.isEmpty, [])
  | _ + 1, word :: operand :: rest =>
    match rest with
    | right :: behind =>
      match binary? word operand right with
      | some result => result.map (·, behind)
      | none => alone word operand rest
    | [] => alone word operand rest
where
  /-- A condition of one operand, or of one word. -/
  alone (word operand : Bytes) (rest : List Bytes) : Except Bytes (Bool × List Bytes) :=
    match word.map charOf with
    | ['-', letter] =>
      match unary? disk letter operand with
      | some truth => .ok (truth, rest)
      | none => .error (word ++ bytesOf ": unexpected operator")
    | _ => .ok (!word.isEmpty, operand :: rest)

/-- Reads conditions joined by operators, given what holds so far. -/
def joinedConditions (disk : Disk) : Nat → Bool → List Bytes → Except Bytes Bool
  | _, truth, [] => .ok truth
  | 0, truth, _ => .ok truth
  | fuel + 1, truth, operator :: rest =>
    match operator.map charOf with
    | ['-', 'a'] => do
      let (second, rest) ← primary disk (rest.length + 1) rest
      joinedConditions disk fuel (truth && second) rest
    | ['-', 'o'] => do
      let (second, rest) ← primary disk (rest.length + 1) rest
      let later ← joinedConditions disk fuel second rest
      return truth || later
    | _ => .error (operator ++ bytesOf ": unexpected operator")

/-- Whether the condition that operands spell holds, or what is wrong with it. -/
def holds (disk : Disk) (operands : List Bytes) : Except Bytes Bool := do
  let (truth, rest) ← primary disk (operands.length + 1) operands
  joinedConditions disk operands.length truth rest

end CommandShell.Userland
