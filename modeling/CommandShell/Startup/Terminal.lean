import CommandShell.Session.Input
import CommandShell.Text.Typed

/-!
# Typing at a terminal

A terminal gathers what is typed into lines and hands a line over when it is ended. Until then the user
can take back its last byte, its last word or all of it. A carriage return ends a line as a newline
does; the end-of-input key hands over what there is of the line, and ends the input where that is
nothing. Behind the key for a literal byte every byte stands for itself.

The editor behind a terminal that cannot move its cursor only takes backspaces, and refuses a line that
is no text.

## Main definitions
* `Terminal`, `Terminal.type`: the line in the making, and what a typed byte does to it.
* `Terminal.input`: what can be read from a terminal at which some bytes have been typed.
* `Terminal.editor`: what is meant by a line of it.
-/

namespace CommandShell

/-- A terminal at which a user types. -/
structure Terminal where
  /-- The line in the making, the last byte first. -/
  line : Bytes
  /-- What has been handed over, the last piece first. -/
  handed : List Bytes
  /-- The next byte stands for itself. -/
  isLiteral : Bool

namespace Terminal

/-- A terminal at which nothing has been typed. -/
def new : Terminal := ⟨[], [], false⟩

/-- The number of bytes that a line may have before it is ended; the rest of it is lost. -/
def lineLimit : Nat := 4095

/-- A byte that belongs to a word: a digit, a letter of Latin-1 or an underscore. -/
def isWordByte (b : UInt8) : Bool :=
  (48 ≤ b && b ≤ 57) || (65 ≤ b && b ≤ 90) || (97 ≤ b && b ≤ 122) || b == 95 ||
    (192 ≤ b && b != 215 && b != 247)

/-- One more byte in the line. -/
def add (t : Terminal) (b : UInt8) : Terminal :=
  { t with line := if t.line.length < lineLimit then b :: t.line else t.line, isLiteral := false }

/-- Hands a piece over, and begins a new line. -/
def hand (t : Terminal) (piece : Bytes) : Terminal :=
  { t with line := [], handed := piece :: t.handed }

/-- Types a byte. -/
def type (t : Terminal) (b : UInt8) : Terminal :=
  if t.isLiteral then t.add b
  else if b = 10 || b = 13 then t.hand (newline :: t.line).reverse
  else if b = 4 then t.hand t.line.reverse
  else if b = 127 then { t with line := t.line.tail }
  else if b = 21 then { t with line := [] }
  else if b = 23 then { t with line := (t.line.dropWhile (!isWordByte ·)).dropWhile isWordByte }
  else if b = 22 then { t with isLiteral := true }
  else if [17, 18, 19].contains b then t
  else t.add b

/-- What can be read from a terminal at which some bytes have been typed, and then the end-of-input
key. -/
def input (typed : Bytes) : Input :=
  let t := typed.foldl type new
  ⟨((if t.line.isEmpty then t else t.hand t.line.reverse).handed).reverse⟩

/-- A line as a user ends it: a carriage return before the newline is not part of the line. -/
def withoutReturn (line : Bytes) : Bytes :=
  if line.getLast? = some 13 then line.dropLast else line

/-- What is meant by a line: the text of it, without what has been taken back. -/
def editor : Editor := fun line isEnded =>
  match Utf8.decode? (if isEnded then withoutReturn line else line) with
  | some text => .ok (takeBack text)
  | none => .error (.lineUnread .notText)

end Terminal

end CommandShell
