import CommandShell.FatalError
import CommandShell.Input
import CommandShell.Text.Utf8

/-!
# Line sources

A source yields lines up to the end of its input, or up to a failure. Redirected input and script files
are read as they are, with U+FFFD for what is no text in them. A dialogue with a user shows a prompt
before each line; what the user means by a line is up to the editor, which is a parameter.

## Main definitions
* `Editor`: what a user means by a line.
* `Manner`, `Manner.line`: how lines are asked for and understood.
* `LineSource`: lines that are there from the start, in one of the manners.
* `LineSource.ofStream`: redirected input.
* `LineSource.ofUser`: a dialogue.
-/

namespace CommandShell

/-- What a user means by the bytes of a line, which are ended by a newline or not: a text, or nothing
that can be understood. -/
abbrev Editor := Bytes → Bool → Except FatalError Text

/-- How the interpreter gets its lines. -/
inductive Manner
  | batch
  /-- From a user, who is shown a prompt before each line and types it in an editor. -/
  | dialogue (prompt : Text) (editor : Editor)

namespace Manner

/-- The lines come from a user. -/
def isInteractive : Manner → Bool
  | batch => false
  | dialogue _ _ => true

/-- What is shown before each line is read. -/
def prompt : Manner → Text
  | batch => []
  | dialogue prompt _ => prompt

/-- A line that has been read, which was ended by a newline or not. -/
def line : Manner → Bytes → Bool → Except FatalError Text
  | batch, line, _ => .ok (Utf8.decodeLossy line)
  | dialogue _ editor, line, isEnded => editor line isEnded

end Manner

/-- Where the interpreter reads its lines from. -/
structure LineSource where
  /-- The lines that can be read. -/
  lines : List Text
  /-- What happens behind them, other than that the input ends. -/
  failure : Option FatalError
  manner : Manner

/-- The lines that a user has typed, each ended by a newline except perhaps the last, up to one that the
editor does not understand. -/
def typedLines (editor : Editor) : List Bytes → Bool → List Text × Option FatalError
  | [], _ => ([], none)
  | line :: rest, isEnded =>
    match editor line (isEnded || !rest.isEmpty) with
    | .error e => ([], some e)
    | .ok text =>
      let (later, failure) := typedLines editor rest isEnded
      (text :: later, failure)

namespace LineSource

/-- Redirected input. -/
def ofStream (data : Bytes) : LineSource :=
  ⟨CommandShell.lines data, none, .batch⟩

/-- A source that cannot be read at all. -/
def unreadable (cause : Failure) : LineSource :=
  ⟨[], some (.failed cause), .batch⟩

/-- A dialogue in which a user has typed some bytes. -/
def ofUser (prompt : Text) (editor : Editor) (typed : Bytes) : LineSource :=
  let (lines, failure) := typedLines editor (lineBytes typed) (typed.getLast? == some newline)
  ⟨lines, failure, .dialogue prompt editor⟩

end LineSource

end CommandShell
