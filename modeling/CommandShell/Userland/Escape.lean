import CommandShell.Text.Pieces

/-!
# Escapes

Backslash escapes in what is printed.

## Main definitions
* `Escapes`: which escapes are known.
* `Escapes.apply`: a byte string after its escapes.
-/

namespace CommandShell.Userland

/-- The bytes of a text that is written out here. -/
def bytesOf (s : String) : Bytes :=
  Utf8.encode s.toList

/-- The character that a byte stands for alone. -/
def charOf (b : UInt8) : Char :=
  Char.ofNat b.toNat

/-- A byte that is an octal digit. -/
def isOctal (b : UInt8) : Bool :=
  48 ≤ b && b ≤ 55

/-- A byte that is a decimal digit. -/
def isDecimal (b : UInt8) : Bool :=
  48 ≤ b && b ≤ 57

/-- The number that digits spell in a base. -/
def numberOf (base : Nat) (digits : Bytes) : Nat :=
  digits.foldl (fun n b => n * base + (b.toNat - 48)) 0

/-- The value of a hexadecimal digit. -/
def hexDigit? (b : UInt8) : Option Nat :=
  let c := (charOf b).toLower
  if isDecimal b then some (b.toNat - 48)
  else if 'a' ≤ c && c ≤ 'f' then some (c.toNat - 87)
  else none

/-- The number that hexadecimal digits spell. -/
def hexNumber (digits : Bytes) : Nat :=
  digits.foldl (fun n b => n * 16 + (hexDigit? b).getD 0) 0

/-- Which escapes are known. -/
structure Escapes where
  /-- The bytes that letters stand for. -/
  letters : List (Char × UInt8)
  /-- An octal code may have one more digit behind a zero. -/
  isWide : Bool
  /-- A code may be given in hexadecimal behind an `x`. -/
  hasHexadecimal : Bool

/-- The letters that are known everywhere. -/
def commonLetters : List (Char × UInt8) :=
  [('a', 7), ('b', 8), ('f', 12), ('n', 10), ('r', 13), ('t', 9), ('v', 11), ('\\', 92)]

namespace Escapes

/-- The escapes that scripts know. -/
def script : Escapes := ⟨commonLetters, true, false⟩

/-- The escapes that `echo` knows. -/
def echo : Escapes := ⟨('e', 27) :: commonLetters, true, true⟩

/-- The escapes that `printf` knows in operands. -/
def operand : Escapes := ⟨('e', 27) :: ('"', 34) :: commonLetters, true, true⟩

/-- The same escapes where a code has no more than three digits. -/
def narrow (e : Escapes) : Escapes := { e with isWide := false }

/-- The byte of the code at the start of a text, and the number of bytes that spell it. -/
def code? (e : Escapes) (text : Bytes) : Option (UInt8 × Nat) :=
  match text with
  | [] => none
  | c :: rest =>
    let octal := (text.takeWhile isOctal).take (if e.isWide && c == 48 then 4 else 3)
    let hexadecimal := (rest.take 2).takeWhile fun b => (hexDigit? b).isSome
    if isOctal c then some ((numberOf 8 octal).toUInt8, octal.length)
    else if charOf c = 'x' && e.hasHexadecimal && !hexadecimal.isEmpty then
      some ((hexNumber hexadecimal).toUInt8, hexadecimal.length + 1)
    else (e.letters.lookup (charOf c)).map (·, 1)

/-- A byte string after its escapes, and whether the escape that ends all output stands in it. -/
def apply (e : Escapes) (text : Bytes) : Bytes × Bool :=
  match text with
  | [] => ([], false)
  | 92 :: c :: rest =>
    if charOf c = 'c' then ([], true)
    else
      let (shown, count) := match e.code? (c :: rest) with
        | some (b, count) => ([b], count)
        | none => ([92, c], 1)
      let (later, stops) := e.apply (rest.drop (count - 1))
      (shown ++ later, stops)
  | b :: rest =>
    let (later, stops) := e.apply rest
    (b :: later, stops)
termination_by text.length
decreasing_by all_goals (simp only [List.length_cons, List.length_drop]; omega)

end Escapes

end CommandShell.Userland
