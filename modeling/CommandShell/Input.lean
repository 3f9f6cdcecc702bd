import CommandShell.Text.Pieces

/-!
# Input

What can be read from a stream. It lies there in pieces: one read yields bytes of the first piece only.
Redirected input is one piece. A terminal hands over one line at a time; an empty piece is an end of
input typed at it, behind which more may follow.

## Main definitions
* `Input`, with `read`, `readAll` and `readLine`: what is read, and what is left.
* `Input.fill`: block after block read until there is enough.
-/

namespace CommandShell

/-- What is left of an input. -/
structure Input where
  pieces : List Bytes
  deriving DecidableEq

namespace Input

/-- An input that has ended. -/
def empty : Input := ⟨[]⟩

/-- Redirected input. -/
def ofBytes (data : Bytes) : Input :=
  ⟨if data.isEmpty then [] else [data]⟩

/-- Reads at most `limit` bytes; it reads nothing at an end of the input. -/
def read (limit : Nat) : Input → Bytes × Input
  | ⟨[]⟩ => ([], empty)
  | ⟨piece :: rest⟩ =>
    (piece.take limit, ⟨if piece.length ≤ limit then rest else piece.drop limit :: rest⟩)

/-- Reads up to the next end of the input. -/
def readAll (input : Input) : Bytes × Input :=
  ((input.pieces.takeWhile (!·.isEmpty)).flatten,
    ⟨(input.pieces.dropWhile (!·.isEmpty)).tail⟩)

/-- Reads byte by byte up to a newline, which is not part of the line, or to an end of the input. -/
def readLine (input : Input) : Bytes × Bool × Input :=
  go input.pieces
where
  /-- Reads a line from pieces. -/
  go : List Bytes → Bytes × Bool × Input
    | [] => ([], false, empty)
    | piece :: rest =>
      if piece.isEmpty then ([], false, ⟨rest⟩)
      else if piece.contains newline then
        let left := (piece.dropWhile (· != newline)).tail
        (piece.takeWhile (· != newline), true, ⟨if left.isEmpty then rest else left :: rest⟩)
      else
        let (line, isEnded, left) := go rest
        (piece ++ line, isEnded, left)

/-- The bytes and ends that are left. -/
def size (input : Input) : Nat :=
  input.pieces.length + input.pieces.flatten.length

/-- What is read is no longer there. -/
theorem size_read (limit : Nat) (input : Input) :
    (input.read limit).2.size + (input.read limit).1.length ≤ input.size := by
  match input with
  | ⟨[]⟩ => simp [read, size, empty]
  | ⟨piece :: rest⟩ =>
    simp only [read, size]
    split <;> simp <;> omega

/-- The number of bytes that are read at once. -/
def blockSize : Nat := 8192

/-- Reads blocks behind what has been read, until that is enough or the input ends. -/
def fill (isEnough : Bytes → Bool) (before : Bytes) (input : Input) : Bytes × Input :=
  if isEnough before then (before, input)
  else if _h : (input.read blockSize).1 = [] then (before, (input.read blockSize).2)
  else fill isEnough (before ++ (input.read blockSize).1) (input.read blockSize).2
termination_by input.size
decreasing_by
  have hsize := size_read blockSize input
  have hread := List.length_pos_iff.2 _h
  omega

end Input

end CommandShell
