import CommandShell.Program
import CommandShell.Userland.Format

/-!
# Words of scripts

A word is a row of fragments: bytes as they stand, quoted stretches, and references to parameters, to
the output of commands and to the value of expressions.

## Main definitions
* `Form`, `Fragment`, `Word`
* `readWord`: the word at the start of a text.
* `readDocument`: a text that is read as if it stood between double quotes.
-/

namespace CommandShell.Userland

/-- How the value of a parameter is used. -/
inductive Form
  | value
  | length
  /-- The operand takes its place if it is unset, or also if it is empty. -/
  | orElse (alsoEmpty : Bool)
  /-- So it does, and the parameter takes it for its value. -/
  | orAssign (alsoEmpty : Bool)
  /-- The script ends if it is unset, or also if it is empty. -/
  | orRefuse (alsoEmpty : Bool)
  /-- The operand stands for it unless it is unset, or empty. -/
  | ifSet (alsoEmpty : Bool)
  /-- The shortest or the longest start that matches the operand is left out. -/
  | withoutStart (isLongest : Bool)
  | withoutEnd (isLongest : Bool)
  deriving DecidableEq

/-- A part of a word. -/
inductive Fragment
  | plain (b : UInt8)
  | quoted (content : Bytes)
  | parameter (name : Bytes) (form : Form) (operand : Bytes) (isQuoted : Bool)
  /-- The output of a script. -/
  | output (script : Bytes) (isQuoted : Bool)
  /-- The value of an expression. -/
  | arithmetic (expression : Bytes) (isQuoted : Bool)
  /-- A quote or a reference that is not closed, with what is said about it. -/
  | unclosed (complaint : String)
  /-- A reference that is closed and means nothing. -/
  | meaningless
  deriving DecidableEq

/-- A word of a script. -/
abbrev Word := List Fragment

/-- A byte that ends a word that is not quoted. -/
def endsWord (b : UInt8) : Bool :=
  isSpacing b || b == newline || [';', '&', '|', '<', '>', '(', ')'].contains (charOf b)

/-- A byte that can begin a name. -/
def isNameStart (b : UInt8) : Bool :=
  (charOf b).isAlpha || charOf b == '_'

/-- A byte that can stand in a name. -/
def isNameByte (b : UInt8) : Bool :=
  isNameStart b || isDecimal b

/-- A text that can name a variable. -/
def isName (text : Bytes) : Bool :=
  text.head?.any isNameStart && text.all isNameByte

/-- The name of the parameter at the start of a text: that of a variable, a digit or a sign. -/
def parameterName : Bytes → Bytes
  | [] => []
  | b :: rest =>
    if isNameStart b then b :: rest.takeWhile isNameByte
    else if isDecimal b || ['@', '*', '#', '?', '$', '!', '-'].contains (charOf b) then [b]
    else []

/-- The number of bytes before a double quote that is not escaped. -/
def lengthInQuotes? : Bytes → Option Nat
  | [] => none
  | 92 :: _ :: rest => (lengthInQuotes? rest).map (· + 2)
  | b :: rest => if charOf b = '"' then some 0 else (lengthInQuotes? rest).map (· + 1)

/-- The number of bytes before the sign that closes `depth` nested openings, quotes passed over. Every
step takes a byte, so the length of the text is fuel enough. -/
def lengthEnclosed? (opening closing : Char) (hasSingleQuotes : Bool) :
    Nat → Nat → Bytes → Option Nat
  | 0, _, _ | _, _, [] => none
  | fuel + 1, depth, b :: rest =>
    let behind := fun (count depth : Nat) =>
      (lengthEnclosed? opening closing hasSingleQuotes fuel depth (rest.drop count)).map
        (· + count + 1)
    if charOf b = '\\' then behind 1 depth
    else if charOf b = '\'' && hasSingleQuotes then
      behind ((rest.takeWhile (· != b)).length + 1) depth
    else if charOf b = '"' then (lengthInQuotes? rest).bind fun count => behind (count + 1) depth
    else if charOf b = closing then if depth ≤ 1 then some 0 else behind 0 (depth - 1)
    else behind 0 (if charOf b = opening then depth + 1 else depth)

/-- What is enclosed, given with the text behind the opening sign, and the text behind the closing
one. -/
def enclosed? (opening closing : Char) (hasSingleQuotes : Bool) (text : Bytes) :
    Option (Bytes × Bytes) :=
  (lengthEnclosed? opening closing hasSingleQuotes text.length 1 text).map fun count =>
    (text.take count, text.drop (count + 1))

/-- The form that the text behind the name of a parameter asks for, with its operand. -/
def form? : Bytes → Option (Form × Bytes)
  | [] => some (.value, [])
  | b :: rest =>
    let (alsoEmpty, sign, operand) := match charOf b, rest with
      | ':', sign :: operand => (true, charOf sign, operand)
      | c, operand => (false, c, operand)
    let isLongest := operand.head? == some b
    let pattern := if isLongest then operand.tail else operand
    match sign with
    | '-' => some (.orElse alsoEmpty, operand)
    | '=' => some (.orAssign alsoEmpty, operand)
    | '?' => some (.orRefuse alsoEmpty, operand)
    | '+' => some (.ifSet alsoEmpty, operand)
    | '#' => if alsoEmpty then none else some (.withoutStart isLongest, pattern)
    | '%' => if alsoEmpty then none else some (.withoutEnd isLongest, pattern)
    | _ => none

/-- The reference between braces. -/
def braced (isQuoted : Bool) (inside : Bytes) : Fragment :=
  let lengthOf := inside.head? == some 35 && 1 < inside.length
  let inside := if lengthOf then inside.tail else inside
  let digits := inside.takeWhile isDecimal
  let name := if digits.isEmpty then parameterName inside else digits
  match name, form? (inside.drop name.length) with
  | [], _ | _, none => .meaningless
  | name, some (form, operand) => .parameter name (if lengthOf then .length else form) operand isQuoted

/-- The text between two backquotes, behind the first of which it begins, and the text behind the
second. -/
def backquoted? : Bytes → Option (Bytes × Bytes)
  | [] => none
  | 96 :: rest => some ([], rest)
  | 92 :: b :: rest =>
    (backquoted? rest).map fun (inside, behind) =>
      (if [36, 92, 96].contains b then b :: inside else 92 :: b :: inside, behind)
  | b :: rest => (backquoted? rest).map fun (inside, behind) => (b :: inside, behind)

/-- What is said about a quote that is not closed. -/
def unclosedQuote : String := "Unterminated quoted string"

/-- The reference behind a `$`, with the text that follows it. -/
def reference? (isQuoted : Bool) : Bytes → Option (Fragment × Bytes)
  | [] => none
  | b :: rest =>
    match charOf b with
    | '\x7b' =>
      match enclosed? '\x7b' '\x7d' (!isQuoted) rest with
      | some (inside, behind) => some (braced isQuoted inside, behind)
      | none => some (.unclosed (if isQuoted then unclosedQuote else "Missing '\x7d'"), [])
    | '(' =>
      match enclosed? '(' ')' true rest with
      | some (inside, behind) =>
        if inside.head? = some 40 && inside.getLast? = some 41 then
          some (.arithmetic inside.tail.dropLast isQuoted, behind)
        else some (.output inside isQuoted, behind)
      | none =>
        let complaint := if rest.head? = some 40 then "Missing '))'"
          else "end of file unexpected (expecting \")\")"
        some (.unclosed complaint, [])
    | _ =>
      let name := parameterName (b :: rest)
      if name.isEmpty then none
      else some (.parameter name .value [] isQuoted, (b :: rest).drop name.length)

/-- A byte that a backslash quotes between double quotes. -/
def isQuotable (b : UInt8) : Bool :=
  ['$', '"', '\\', Char.ofNat 96].contains (charOf b)

/-- A reference at the start of a text that begins with `$` or a backquote, with the text behind it. -/
def referenceAt? (isQuoted : Bool) (b : UInt8) (rest : Bytes) : Option (Fragment × Bytes) :=
  if charOf b = '$' then reference? isQuoted rest
  else if b = 96 then
    match backquoted? rest with
    | some (inside, behind) => some (.output inside isQuoted, behind)
    | none => some (.unclosed "EOF in backquote substitution", [])
  else none

/-- Reads a word, from inside double quotes or from outside, with the text behind it. Every step takes
a byte, so the length of the text is fuel enough. -/
def readWord : Nat → Bool → Bytes → Word × Bytes
  | 0, _, text => ([], text)
  | _ + 1, inQuotes, [] => (if inQuotes then [.unclosed unclosedQuote] else [], [])
  | fuel + 1, inQuotes, b :: rest =>
    let behind := fun (fragment : Fragment) (text : Bytes) =>
      let (word, left) := readWord fuel inQuotes text
      (fragment :: word, left)
    if charOf b = '\\' then
      match rest with
      | [] => behind (.quoted [b]) []
      | c :: later =>
        if c = newline then readWord fuel inQuotes later
        else behind (.quoted (if inQuotes && !isQuotable c then [b, c] else [c])) later
    else if charOf b = '"' then
      if !inQuotes && rest.head? = some b then behind (.quoted []) rest.tail
      else readWord fuel (!inQuotes) rest
    else if charOf b = '\'' && !inQuotes then
      if rest.contains b then
        behind (.quoted (rest.takeWhile (· != b))) (rest.dropWhile (· != b)).tail
      else ([.unclosed unclosedQuote], [])
    else match referenceAt? inQuotes b rest with
      | some (fragment, later) => behind fragment later
      | none =>
        if inQuotes then behind (.quoted [b]) rest
        else if endsWord b then ([], b :: rest)
        else if charOf b = '$' then behind (.quoted [b]) rest
        else behind (.plain b) rest

/-- Reads a text in which references stand for what they refer to and a backslash quotes as it does
between double quotes. Every step takes a byte, so the length of the text is fuel enough. -/
def readDocument : Nat → Bytes → Word
  | 0, _ | _, [] => []
  | fuel + 1, b :: rest =>
    if charOf b = '\\' then
      match rest with
      | [] => [.quoted [b]]
      | c :: later =>
        if c = newline then readDocument fuel later
        else
          .quoted (if isQuotable c && charOf c != '"' then [c] else [b, c]) ::
            readDocument fuel later
    else match referenceAt? true b rest with
      | some (fragment, later) => fragment :: readDocument fuel later
      | none => .quoted [b] :: readDocument fuel rest

end CommandShell.Userland
