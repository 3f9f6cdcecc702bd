import CommandShell.Userland.Script.Word

/-!
# Arithmetic

Expressions over words of 64 bits and variables, with the operators of arithmetic, of comparison, of
bits and of logic, choice and assignment.

## Main definitions
* `Expression`: what an expression is made of.
* `Expression.ofText?`: the expression that a text spells.
* `Expression.value`: its value, and what it assigns.
-/

namespace CommandShell.Userland

/-- What an expression is made of. -/
inductive Expression
  | number (n : Int64)
  | reference (name : Bytes)
  | negation (e : Expression)
  | complement (e : Expression)
  | isZero (e : Expression)
  | binary (operator : String) (left right : Expression)
  | choice (condition yes no : Expression)
  /-- A value given to a variable; with an operator, that of the variable and the expression. -/
  | assign (name : Bytes) (operator : String) (e : Expression)

/-- The symbols of expressions. -/
inductive ExpressionSymbol
  | number (n : Int64)
  | name (name : Bytes)
  | sign (text : String)
  deriving DecidableEq

namespace Expression

/-- The signs of expressions, the longer ones first. -/
def signs : List String :=
  ["<<=", ">>=", "<<", ">>", "<=", ">=", "==", "!=", "&&", "||", "+=", "-=", "*=", "/=", "%=", "&=",
    "|=", "^=", "+", "-", "*", "/", "%", "<", ">", "=", "!", "~", "&", "|", "^", "?", ":", "(", ")"]

/-- The symbols of an expression. Every step takes a byte, so the length of the text is fuel
enough. -/
def symbols? : Nat → Bytes → Option (List ExpressionSymbol)
  | 0, text => if text.isEmpty then some [] else none
  | _ + 1, [] => some []
  | fuel + 1, b :: rest =>
    if isSpacing b || b == newline then symbols? fuel rest
    else if isDecimal b then
      let digits := b :: rest.takeWhile isNameByte
      (symbols? fuel (rest.drop (digits.length - 1))).map
        (.number (Int64.ofInt (integerOf digits)) :: ·)
    else if isNameStart b then
      let name := b :: rest.takeWhile isNameByte
      (symbols? fuel (rest.drop (name.length - 1))).map (.name name :: ·)
    else
      match signs.find? fun sign => (bytesOf sign).isPrefixOf (b :: rest) with
      | some sign => (symbols? fuel (rest.drop (sign.length - 1))).map (.sign sign :: ·)
      | none => none

/-- The binary operators, level by level; those of later levels bind closer. -/
def levels : List (List String) :=
  [["||"], ["&&"], ["|"], ["^"], ["&"], ["==", "!="], ["<", "<=", ">", ">="], ["<<", ">>"],
    ["+", "-"], ["*", "/", "%"]]

/-- The signs that assign. -/
def assignments : List String :=
  ["=", "+=", "-=", "*=", "/=", "%=", "<<=", ">>=", "&=", "|=", "^="]

mutual

/-- Reads an expression, with the symbols that are left. -/
def read : Nat → List ExpressionSymbol → Option (Expression × List ExpressionSymbol)
  | 0, _ => none
  | fuel + 1, symbols =>
    match symbols with
    | .name name :: .sign sign :: rest =>
      if assignments.contains sign then do
        let (e, rest) ← read fuel rest
        return (.assign name (String.ofList sign.toList.dropLast) e, rest)
      else readChoice fuel symbols
    | symbols => readChoice fuel symbols

/-- Reads a choice, or what a choice is made of. -/
def readChoice : Nat → List ExpressionSymbol → Option (Expression × List ExpressionSymbol)
  | 0, _ => none
  | fuel + 1, symbols => do
    let (condition, rest) ← readLevel fuel levels symbols
    match rest with
    | .sign "?" :: rest =>
      let (yes, rest) ← read fuel rest
      match rest with
      | .sign ":" :: rest =>
        let (no, rest) ← readChoice fuel rest
        return (.choice condition yes no, rest)
      | _ => none
    | rest => return (condition, rest)

/-- Reads what stands on a level and behind it. -/
def readLevel : Nat → List (List String) → List ExpressionSymbol →
    Option (Expression × List ExpressionSymbol)
  | 0, _, _ => none
  | fuel + 1, [], symbols => readPrimary fuel symbols
  | fuel + 1, level :: later, symbols => do
    let (first, rest) ← readLevel fuel later symbols
    readJoined fuel level later first rest

/-- Reads what is joined on a level to what has been read. -/
def readJoined : Nat → List String → List (List String) → Expression → List ExpressionSymbol →
    Option (Expression × List ExpressionSymbol)
  | 0, _, _, _, _ => none
  | fuel + 1, level, later, left, symbols =>
    match symbols with
    | .sign sign :: rest =>
      if level.contains sign then do
        let (right, rest) ← readLevel fuel later rest
        readJoined fuel level later (.binary sign left right) rest
      else some (left, symbols)
    | symbols => some (left, symbols)

/-- Reads what no operator parts. -/
def readPrimary : Nat → List ExpressionSymbol → Option (Expression × List ExpressionSymbol)
  | 0, _ => none
  | fuel + 1, symbols => do
    match symbols with
    | .number n :: rest => return (.number n, rest)
    | .name name :: rest => return (.reference name, rest)
    | .sign "-" :: rest =>
      let (e, rest) ← readPrimary fuel rest
      return (.negation e, rest)
    | .sign "+" :: rest => readPrimary fuel rest
    | .sign "!" :: rest =>
      let (e, rest) ← readPrimary fuel rest
      return (.isZero e, rest)
    | .sign "~" :: rest =>
      let (e, rest) ← readPrimary fuel rest
      return (.complement e, rest)
    | .sign "(" :: rest =>
      let (e, rest) ← read fuel rest
      match rest with
      | .sign ")" :: rest => return (e, rest)
      | _ => none
    | _ => none

end

/-- The expression that a text spells; an empty one is zero. Reading goes down at most sixteen steps
for a symbol. -/
def ofText? (text : Bytes) : Option Expression := do
  let symbols ← symbols? text.length text
  if symbols.isEmpty then return .number 0
  match ← read (16 * symbols.length + 16) symbols with
  | (e, []) => return e
  | _ => none

/-- The values that variables have been given, the last one first. -/
abbrev Assigned := List (Bytes × Int64)

/-- The value of two operands; none for a division by zero. -/
def combine? (operator : String) (a b : Int64) : Option Int64 :=
  let truth := fun b : Bool => some (if b then (1 : Int64) else 0)
  match operator with
  | "+" => some (a + b)
  | "-" => some (a - b)
  | "*" => some (a * b)
  | "/" => if b = 0 then none else some (a / b)
  | "%" => if b = 0 then none else some (a % b)
  | "<<" => some (a <<< b)
  | ">>" => some (a >>> b)
  | "&" => some (a &&& b)
  | "|" => some (a ||| b)
  | "^" => some (a ^^^ b)
  | "==" => truth (a == b)
  | "!=" => truth (a != b)
  | "<" => truth (decide (a < b))
  | "<=" => truth (decide (a ≤ b))
  | ">" => truth (decide (b < a))
  | ">=" => truth (decide (b ≤ a))
  | _ => some b

/-- The value of an expression, where `lookup` tells the values of variables; none for a division by
zero. An operand that does not count is not evaluated. -/
def value (lookup : Bytes → Int64) : Expression → Assigned → Option (Int64 × Assigned)
  | .number n, given => some (n, given)
  | .reference name, given => some ((given.lookup name).getD (lookup name), given)
  | .negation e, given => (e.value lookup given).map fun (n, given) => (-n, given)
  | .complement e, given => (e.value lookup given).map fun (n, given) => (~~~n, given)
  | .isZero e, given =>
    (e.value lookup given).map fun (n, given) => (if n = 0 then 1 else 0, given)
  | .choice condition yes no, given => do
    let (n, given) ← condition.value lookup given
    if n = 0 then no.value lookup given else yes.value lookup given
  | .binary operator left right, given => do
    let (a, given) ← left.value lookup given
    if operator = "&&" && a = 0 then return (0, given)
    if operator = "||" && a != 0 then return (1, given)
    let (b, given) ← right.value lookup given
    if operator = "&&" || operator = "||" then return (if b = 0 then 0 else 1, given)
    return (← combine? operator a b, given)
  | .assign name operator e, given => do
    let (b, given) ← e.value lookup given
    let n ← combine? operator ((given.lookup name).getD (lookup name)) b
    return (n, (name, n) :: given)

end Expression

end CommandShell.Userland
