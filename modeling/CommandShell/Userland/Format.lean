import CommandShell.Userland.Escape

/-!
# Formats

Formats with directives that are filled in from operands, and what is wrong with operands that should
be numbers.

## Main definitions
* `spelled`: the number at the start of a text.
* `Directive`, `directives`: the parts of a format.
* `Fault`: what is wrong with an operand.
* `format`: a format filled with operands.
-/

namespace CommandShell.Userland

/-! ## Numbers -/

/-- A blank that may stand before a number. -/
def isNumberBlank (b : UInt8) : Bool :=
  b == 32 || (9 ≤ b && b ≤ 13)

/-- The natural number at the start of a text, with what follows: in decimal, behind a zero in octal,
behind `0x` in hexadecimal. -/
def naturalAt? (text : Bytes) : Option (Nat × Bytes) :=
  let isHex := fun b => (hexDigit? b).isSome
  match text with
  | 48 :: x :: b :: rest =>
    if (x = 120 || x = 88) && isHex b then
      some (hexNumber ((b :: rest).takeWhile isHex), (b :: rest).dropWhile isHex)
    else octal text
  | 48 :: _ => octal text
  | _ =>
    if text.head?.any isDecimal then
      some (numberOf 10 (text.takeWhile isDecimal), text.dropWhile isDecimal)
    else none
where
  /-- A number in octal. -/
  octal (text : Bytes) : Option (Nat × Bytes) :=
    some (numberOf 8 (text.takeWhile isOctal), text.dropWhile isOctal)

/-- The integer at the start of a text, behind blanks and a sign, with what follows. -/
def integerAt? (text : Bytes) : Option (Int × Bytes) :=
  match text.dropWhile isNumberBlank with
  | 45 :: rest => (naturalAt? rest).map fun (n, behind) => (-n, behind)
  | 43 :: rest => (naturalAt? rest).map fun (n, behind) => (n, behind)
  | rest => (naturalAt? rest).map fun (n, behind) => (n, behind)

/-- The integer that a text starts with, or zero. -/
def integerOf (text : Bytes) : Int :=
  ((integerAt? text).map Prod.fst).getD 0

/-- What is wrong with an operand that should be a number. -/
inductive Fault
  | notNumber (operand : Bytes)
  /-- More follows the number. -/
  | notWhole (operand : Bytes)
  | outOfRange (operand : Bytes)
  /-- A directive is none that is known. -/
  | noDirective (text : Bytes)
  deriving DecidableEq

/-- The least and the greatest integer of 64 bits with a sign. -/
def signedLimits : Int × Int := (-9223372036854775808, 9223372036854775807)

/-- The least and the greatest integer that can be read as one without a sign. -/
def unsignedLimits : Int × Int := (-18446744073709551615, 18446744073709551615)

/-- The integer that an operand spells, as far as it lies between limits, and what is wrong with it. A
quote stands for the code of the byte behind it; no operand for zero. -/
def operandInteger (limits : Int × Int) (operand : Bytes) : Int × List Fault :=
  match operand with
  | [] => (0, [])
  | 39 :: b :: _ | 34 :: b :: _ => (b.toNat, [])
  | operand =>
    match integerAt? operand with
    | none => (0, [.notNumber operand])
    | some (n, behind) =>
      if n < limits.1 then (limits.1, [.outOfRange operand])
      else if limits.2 < n then (limits.2, [.outOfRange operand])
      else (n, if behind.isEmpty then [] else [.notWhole operand])

/-! ## The parts of a format -/

/-- A part of a format. -/
inductive Directive
  | literal (content : Bytes)
  /-- An operand, shown in a column. -/
  | operand (flags : Bytes) (width : Nat) (precision : Option Nat) (conversion : Char)
  deriving DecidableEq

theorem length_dropWhile_le (p : UInt8 → Bool) (text : Bytes) :
    (text.dropWhile p).length ≤ text.length :=
  (List.dropWhile_suffix p).length_le

/-- A byte that is a flag of a column: set to the left, filled with zeros, with a sign. -/
def isFlag (b : UInt8) : Bool :=
  ['-', '0', '+', ' ', '#'].contains (charOf b)

/-- The digits behind a point at the start of a text, and what follows them. -/
def precisionOf : Bytes → Option Nat × Bytes
  | 46 :: text => (some (numberOf 10 (text.takeWhile isDecimal)), text.dropWhile isDecimal)
  | text => (none, text)

theorem length_precisionOf_le (text : Bytes) : (precisionOf text).2.length ≤ text.length := by
  unfold precisionOf
  split
  · next rest =>
    have := length_dropWhile_le isDecimal rest
    simp only [List.length_cons]
    omega
  · exact Nat.le_refl _

/-- The parts of a format. -/
def directives (escapes : Escapes) (text : Bytes) : List Directive :=
  match text with
  | [] => []
  | 37 :: 37 :: rest => .literal [37] :: directives escapes rest
  | 37 :: rest =>
    let column := rest.dropWhile isFlag
    let precision := (precisionOf (column.dropWhile isDecimal)).1
    match _h : (precisionOf (column.dropWhile isDecimal)).2 with
    | [] => [.literal text]
    | c :: later =>
      .operand (rest.takeWhile isFlag) (numberOf 10 (column.takeWhile isDecimal)) precision
          (charOf c) ::
        directives escapes later
  | b :: rest =>
    .literal (escapes.apply (b :: rest.takeWhile (· != 37))).1 ::
      directives escapes (rest.dropWhile (· != 37))
termination_by text.length
decreasing_by
  · simp only [List.length_cons]; omega
  · have hlater := congrArg List.length _h
    have hprecision := length_precisionOf_le (column.dropWhile isDecimal)
    have hcolumn := length_dropWhile_le isDecimal column
    have hrest : column.length ≤ rest.length := length_dropWhile_le _ rest
    simp only [List.length_cons] at hlater ⊢
    omega
  · have hrest := length_dropWhile_le (· != 37) rest
    simp only [List.length_cons]
    omega

/-! ## Filling a format -/

/-- A number as digits, at least as many as the precision asks for. -/
def digitsFor (precision : Option Nat) (base n : Nat) : Bytes :=
  (Utf8.encode (Nat.toDigits base n)).leftpad (precision.getD 1) 48

/-- The sign of a number, as flags ask for it. -/
def signFor (flags : Bytes) (n : Int) : Bytes :=
  if n < 0 then [45] else if flags.contains 43 then [43] else if flags.contains 32 then [32] else []

/-- An operand as a conversion shows it. -/
structure Shown where
  /-- A sign or a mark before the rest. -/
  mark : Bytes
  content : Bytes
  /-- All output ends there. -/
  stops : Bool
  faults : List Fault

namespace Shown

/-- A text as it is. -/
def text (content : Bytes) : Shown := ⟨[], content, false, []⟩

/-- An operand read as an integer without a sign and shown in a base, behind a mark. -/
def unsigned (mark : Bytes) (precision : Option Nat) (base : Nat) (operand : Bytes) : Shown :=
  let (n, faults) := operandInteger unsignedLimits operand
  ⟨mark, digitsFor precision base (n % 18446744073709551616).toNat, false, faults⟩

/-- An operand as a conversion shows it, if the conversion is known. -/
def ofOperand? (escapes : Escapes) (flags : Bytes) (precision : Option Nat) (operand : Bytes) :
    Char → Option Shown
  | 'd' | 'i' =>
    let (n, faults) := operandInteger signedLimits operand
    some ⟨signFor flags n, digitsFor precision 10 n.natAbs, false, faults⟩
  | 'u' => some (unsigned [] precision 10 operand)
  | 'o' => some (unsigned (if flags.contains 35 then [48] else []) precision 8 operand)
  | 'x' => some (unsigned (if flags.contains 35 then [48, 120] else []) precision 16 operand)
  | 'X' =>
    let shown := unsigned (if flags.contains 35 then [48, 88] else []) precision 16 operand
    some { shown with content := shown.content.map fun b => if 97 ≤ b then b - 32 else b }
  | 'c' => some (text (operand.take 1))
  | 'b' =>
    let (content, stops) := escapes.apply operand
    some ⟨[], content.take (precision.getD content.length), stops, []⟩
  | 's' => some (text (operand.take (precision.getD operand.length)))
  | _ => none

end Shown

/-- A conversion that shows a number. -/
def isNumeric (conversion : Char) : Bool :=
  ['d', 'i', 'u', 'o', 'x', 'X'].contains conversion

/-- What is shown in a column, with its mark. -/
def inColumn (flags : Bytes) (width : Nat) (zeros : Bool) (mark content : Bytes) : Bytes :=
  let room := width - mark.length - content.length
  if flags.contains 45 then mark ++ content ++ List.replicate room 32
  else if zeros && flags.contains 48 then mark ++ List.replicate room 48 ++ content
  else List.replicate room 32 ++ mark ++ content

/-- A format that has been filled. -/
structure Filled where
  written : Bytes
  /-- The operands that are left. -/
  left : List Bytes
  /-- All output ends there. -/
  stops : Bool
  faults : List Fault

/-- Fills a format once. -/
def fill (escapes : Escapes) : List Directive → List Bytes → Filled
  | [], operands => ⟨[], operands, false, []⟩
  | .literal content :: rest, operands =>
    let later := fill escapes rest operands
    { later with written := content ++ later.written }
  | .operand flags width precision conversion :: rest, operands =>
    match Shown.ofOperand? escapes flags precision (operands.headD []) conversion with
    | none => ⟨[], operands, true, [.noDirective (37 :: Utf8.encode [conversion])]⟩
    | some shown =>
      if shown.stops then ⟨shown.content, [], true, shown.faults⟩
      else
        let zeros := isNumeric conversion && precision.isNone
        let later := fill escapes rest operands.tail
        { later with
          written := inColumn flags width zeros shown.mark shown.content ++ later.written
          faults := shown.faults ++ later.faults }

/-- Fills a format again and again, at most `rounds` times, while operands are left. -/
def fillAll (escapes : Escapes) (parts : List Directive) : Nat → List Bytes → Filled
  | 0, operands => ⟨[], operands, false, []⟩
  | rounds + 1, operands =>
    let first := fill escapes parts operands
    if first.stops || first.left.isEmpty || first.left.length = operands.length then first
    else
      let later := fillAll escapes parts rounds first.left
      { later with
        written := first.written ++ later.written
        faults := first.faults ++ later.faults }

/-- A format filled with operands, with escapes as operands know them. It is used again while operands
are left. -/
def format (escapes : Escapes) (text : Bytes) (operands : List Bytes) : Filled :=
  fillAll escapes (directives escapes.narrow text) (operands.length + 1) operands

end CommandShell.Userland
