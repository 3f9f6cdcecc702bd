import CommandShell.Text.Utf8

/-!
# Pieces between separators

## Main definitions
* `pieces`: a list cut at every separator; `n` separators give `n + 1` pieces, which may be empty.
* `lineBytes`, `lines`: the lines of a byte string. The last newline ends a line and begins none.
-/

namespace CommandShell

/-- The pieces of a list between separators. -/
def pieces {α : Type} [DecidableEq α] (separator : α) : List α → List (List α)
  | [] => [[]]
  | x :: rest =>
    if x = separator then [] :: pieces separator rest
    else match pieces separator rest with
      | [] => [[x]]
      | piece :: later => (x :: piece) :: later

/-- The pieces joined again, with the separator between them. -/
def joinPieces {α : Type} (separator : α) : List (List α) → List α
  | [] => []
  | [piece] => piece
  | piece :: next :: later => piece ++ separator :: joinPieces separator (next :: later)

theorem joinPieces_cons {α : Type} (separator : α) (piece : List α) {later : List (List α)}
    (h : later ≠ []) :
    joinPieces separator (piece :: later) = piece ++ separator :: joinPieces separator later := by
  cases later with
  | nil => exact absurd rfl h
  | cons next later => rfl

section Pieces
variable {α : Type} [DecidableEq α] (separator : α)

theorem pieces_ne_nil (xs : List α) : pieces separator xs ≠ [] := by
  cases xs with
  | nil => simp [pieces]
  | cons x rest =>
    rw [pieces]
    split
    · simp
    · split <;> simp

@[simp] theorem pieces_nil : pieces separator ([] : List α) = [[]] := rfl

@[simp] theorem pieces_cons_separator (xs : List α) :
    pieces separator (separator :: xs) = [] :: pieces separator xs := by
  simp [pieces]

/-- There is one piece more than there are separators. -/
theorem length_pieces (xs : List α) : (pieces separator xs).length = xs.count separator + 1 := by
  induction xs with
  | nil => rfl
  | cons x rest ih =>
    by_cases h : x = separator
    · simp [h, ih]
    · have hne : pieces separator rest ≠ [] := pieces_ne_nil separator rest
      rw [pieces, if_neg h, List.count_cons_of_ne h]
      split
      · contradiction
      · next piece later heq => rw [← ih, heq]; rfl

/-- Nothing is lost: the pieces with the separators between them are the list. -/
theorem joinPieces_pieces (xs : List α) : joinPieces separator (pieces separator xs) = xs := by
  induction xs with
  | nil => rfl
  | cons x rest ih =>
    by_cases h : x = separator
    · subst h
      have hne : pieces x rest ≠ [] := pieces_ne_nil x rest
      rw [pieces_cons_separator]
      match hp : pieces x rest with
      | [] => contradiction
      | piece :: later => rw [hp] at ih; simp [joinPieces, ih]
    · have hne : pieces separator rest ≠ [] := pieces_ne_nil separator rest
      rw [pieces, if_neg h]
      match hp : pieces separator rest with
      | [] => contradiction
      | [piece] => rw [hp] at ih; simpa [joinPieces] using ih
      | piece :: next :: later => rw [hp] at ih; simpa [joinPieces] using ih

end Pieces

/-- The byte that ends a line. -/
def newline : UInt8 := 10

/-- The lines of a byte string, without the newlines that end them. -/
def lineBytes (data : Bytes) : List Bytes :=
  let all := pieces newline data
  if all.getLast? = some [] then all.dropLast else all

/-- The lines of a byte string as text. -/
def lines (data : Bytes) : List Text :=
  (lineBytes data).map Utf8.decodeLossy

@[simp] theorem lines_nil : lines [] = [] := rfl

end CommandShell
