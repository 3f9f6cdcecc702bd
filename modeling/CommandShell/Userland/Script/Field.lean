import CommandShell.Userland.Pattern
import CommandShell.Userland.Script.State

/-!
# Fields

The pieces that a word expands to make up fields. What is quoted stays whole; what a reference brought
in is cut at separators.

## Main definitions
* `Piece`, `fieldsOf`: pieces as fields.
* `joined`: pieces where no fields are made.
* `Script.spread`: fields, with the paths that match them in the places of patterns.
-/

namespace CommandShell.Userland

/-- A part of what words expand to. -/
inductive Piece
  | fixed (content : Bytes) (isLiteral : Bool)
  /-- What can be cut. -/
  | loose (content : Bytes)
  /-- The end of a field. -/
  | boundary

/-- Fields in the making. -/
structure Fields where
  /-- The fields that are complete, the last one first. -/
  closed : List Marked
  /-- The field that has begun. -/
  current : Option Marked
  /-- A blank has ended the last field, and a separator that follows ends none. -/
  isCut : Bool

namespace Fields

/-- No fields. -/
def none : Fields := ⟨[], .none, false⟩

/-- Bytes put behind the field that has begun. -/
def add (f : Fields) (content : Marked) : Fields :=
  { f with current := some (f.current.getD [] ++ content), isCut := false }

/-- The field that has begun is complete. -/
def cut (f : Fields) : Fields :=
  match f.current with
  | .none => f
  | some content => ⟨content :: f.closed, .none, true⟩

/-- A separator that is no blank ends a field, which may be empty. -/
def cutHard (f : Fields) : Fields :=
  if f.isCut then { f with isCut := false }
  else ⟨f.current.getD [] :: f.closed, .none, false⟩

/-- One more byte that can be cut. -/
def addLoose (separators : Bytes) (f : Fields) (b : UInt8) : Fields :=
  if separators.contains b then
    if isSpacing b || b == newline then f.cut else f.cutHard
  else f.add [⟨b, false⟩]

/-- One more piece. -/
def addPiece (separators : Bytes) (f : Fields) : Piece → Fields
  | .fixed content isLiteral => f.add (Marked.ofBytes isLiteral content)
  | .loose content => content.foldl (addLoose separators) f
  | .boundary => { f.cut with isCut := false }

/-- All fields, in order. -/
def toList (f : Fields) : List Marked :=
  f.cut.closed.reverse

end Fields

/-- The fields that the pieces of a word make up. -/
def fieldsOf (separators : Bytes) (pieces : List Piece) : List Marked :=
  (pieces.foldl (Fields.addPiece separators) .none).toList

/-- What the pieces of a word make up where no fields are made. -/
def joined (pieces : List Piece) : Marked :=
  pieces.flatMap fun
    | .fixed content isLiteral => Marked.ofBytes isLiteral content
    | .loose content => Marked.ofBytes false content
    | .boundary => [⟨32, true⟩]

/-- A field, or the paths that match it if it is a pattern and there are any. -/
def Script.spread (s : Script) (field : Marked) : List Bytes :=
  if isPattern field && !s.options.contains 'f' then
    match s.disk.expansions field with
    | [] => [field.bytes]
    | paths => paths
  else [field.bytes]

end CommandShell.Userland
