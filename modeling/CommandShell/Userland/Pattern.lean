import CommandShell.Files.Disk
import CommandShell.Userland.Escape

/-!
# Patterns

A pattern is made from marked bytes, of which the literal ones stand for themselves. A `*` stands for
any bytes, a `?` for one, and brackets for one of a set. As a path a pattern stands for the files whose
names match it, name by name.

## Main definitions
* `Mark`, `Marked`
* `Glyph`, `glyphs`, `matchesAll`: a pattern, and the texts that match it.
* `Disk.expansions`: the paths that match a pattern.
-/

namespace CommandShell.Userland

/-- A byte of a word, which is literal if it was quoted. -/
structure Mark where
  byte : UInt8
  isLiteral : Bool
  deriving DecidableEq

/-- A word whose bytes are marked. -/
abbrev Marked := List Mark

namespace Marked

/-- Bytes that are all literal, or all not. -/
def ofBytes (isLiteral : Bool) (content : Bytes) : Marked :=
  content.map fun b => ⟨b, isLiteral⟩

/-- The bytes without their marks. -/
def bytes (word : Marked) : Bytes :=
  word.map Mark.byte

end Marked

/-- The mark of a byte that has its special meaning. -/
def Mark.isSpecial (m : Mark) (c : Char) : Bool :=
  !m.isLiteral && charOf m.byte == c

/-- A part of a pattern. -/
inductive Glyph
  | byte (b : UInt8)
  | one
  | many
  /-- One byte in some ranges, or outside them. -/
  | set (isInside : Bool) (ranges : List (UInt8 × UInt8))
  deriving DecidableEq

/-- The ranges between brackets. -/
def rangesOf : Bytes → List (UInt8 × UInt8)
  | a :: 45 :: b :: rest => (a, b) :: rangesOf rest
  | a :: rest => (a, a) :: rangesOf rest
  | [] => []

/-- What stands between brackets, behind the opening one, and what follows the closing one. -/
def bracketed? (word : Marked) : Option (Glyph × Marked) :=
  let isOutside := word.head?.any fun m => m.isSpecial '!' || m.isSpecial '^'
  let inside := if isOutside then word.tail else word
  let first := inside.take 1
  let more := (inside.drop 1).takeWhile (!·.isSpecial ']')
  match (inside.drop 1).dropWhile (!·.isSpecial ']') with
  | [] => none
  | _ :: rest => some (.set (!isOutside) (rangesOf (Marked.bytes (first ++ more))), rest)

/-- The parts of a pattern. Every step takes a byte, so the length of the word is fuel enough. -/
def glyphsFrom : Nat → Marked → List Glyph
  | 0, _ | _, [] => []
  | fuel + 1, m :: rest =>
    if m.isSpecial '*' then .many :: glyphsFrom fuel rest
    else if m.isSpecial '?' then .one :: glyphsFrom fuel rest
    else match if m.isSpecial '[' then bracketed? rest else none with
      | some (glyph, behind) => glyph :: glyphsFrom fuel behind
      | none => .byte m.byte :: glyphsFrom fuel rest

/-- The parts of a pattern. -/
def glyphs (word : Marked) : List Glyph :=
  glyphsFrom word.length word

/-- The whole text matches a pattern. -/
def matchesAll : List Glyph → Bytes → Bool
  | [], text => text.isEmpty
  | .many :: rest, text =>
    (List.range (text.length + 1)).any fun n => matchesAll rest (text.drop n)
  | .one :: rest, text => !text.isEmpty && matchesAll rest text.tail
  | .byte b :: rest, text => text.head? == some b && matchesAll rest text.tail
  | .set isInside ranges :: rest, text =>
    match text with
    | [] => false
    | b :: text =>
      (ranges.any fun range => range.1 ≤ b && b ≤ range.2) == isInside && matchesAll rest text

/-- The word holds a byte with a special meaning. -/
def isPattern (word : Marked) : Bool :=
  word.any fun m => m.isSpecial '*' || m.isSpecial '?' || m.isSpecial '['

end Userland

namespace Files

/-- The names in a directory, in the order of their bytes. -/
def namesIn (files : Files) (location : Location) : List Name :=
  let below := files.nodes.filterMap fun entry =>
    match entry.1.getLast? with
    | some name => if entry.1.dropLast = location then some name else none
    | none => none
  below.mergeSort fun a b => decide (a ≤ b)

end Files

namespace Disk
open Userland

/-- The names in the directory that a path stands for. -/
def namesAt (disk : Disk) (path : Bytes) : List Name :=
  match disk.directory (if path.isEmpty then selfName else path) with
  | .ok p => if p.isThere then disk.files.namesIn p.place else []
  | .error _ => []

/-- The names in a directory that match a pattern. A leading point is matched by a point only. -/
def matching (disk : Disk) (directory : Bytes) (pattern : Marked) : List Name :=
  (disk.namesAt directory).filter fun name =>
    (name.head? != some 46 || pattern.head?.any (·.byte == 46)) &&
      matchesAll (glyphs pattern) name

/-- The paths below a directory that match a pattern, of which the names are given. -/
def expansionsFrom (disk : Disk) (before : Bytes) : List Marked → List Bytes
  | [] => [before]
  | name :: rest =>
    let lead := fun path : Bytes => if rest.isEmpty then path else path ++ [slash]
    if isPattern name then
      ((disk.matching before name).map fun found => lead (before ++ found)).flatMap fun path =>
        if rest.isEmpty || disk.canEnter path then disk.expansionsFrom path rest else []
    else
      let path := lead (before ++ name.bytes)
      if disk.contains path || name.isEmpty then disk.expansionsFrom path rest else []

/-- The paths that match a pattern. -/
def expansions (disk : Disk) (pattern : Marked) : List Bytes :=
  disk.expansionsFrom [] (splitNames pattern)
where
  /-- The names in a marked path. -/
  splitNames : Marked → List Marked
    | [] => [[]]
    | m :: rest =>
      if m.byte = slash then [] :: splitNames rest
      else match splitNames rest with
        | [] => [[m]]
        | name :: later => (m :: name) :: later

end Disk

end CommandShell
