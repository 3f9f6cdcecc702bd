import CommandShell.Line.Token

/-!
# Expansion of references

`$$`, `$?` and `$NAME` in a line stand for values. They are replaced from left to right, and the text
that a reference brings in is read again from its start, so a value may hold references of its own.
A line may replace at most `substitutionLimit` references; what follows is then left as it is.

## Main definitions
* `Reference`, `Reference.read`: what follows a `$`.
* `expand`: a line with its references replaced.
-/

namespace CommandShell

/-- What a `$` with the text behind it refers to. -/
inductive Reference
  /-- `$$` -/
  | processId
  /-- `$?` -/
  | lastStatus
  /-- `$NAME` -/
  | variable (name : Text)
  deriving DecidableEq

namespace Reference

/-- A character that can stand in the name of a variable. -/
def isNameChar (c : Char) : Bool :=
  c != '$' && c != ' '

/-- Reads the reference behind a `$`, with the text that follows it. A `$` before a space or at the
end of the line refers to nothing. A name runs up to the next `$`, space or end of the line. -/
def read : Text → Option (Reference × Text)
  | [] => none
  | c :: rest =>
    if c = ' ' then none
    else if c = '$' then some (.processId, rest)
    else if c = '?' then some (.lastStatus, rest)
    else some (.variable ((c :: rest).takeWhile isNameChar), (c :: rest).dropWhile isNameChar)

end Reference

/-- The number of references that one line may replace. -/
def substitutionLimit : Nat := 1024

/-- Replaces at most `budget` references in a text, where `value` tells what each stands for. -/
def expandWith (value : Reference → Text) (budget : Nat) (text : Text) : Text :=
  match text with
  | [] => []
  | c :: rest =>
    if c = '$' then
      match Reference.read rest with
      | none => '$' :: expandWith value budget rest
      | some (reference, tail) =>
        match budget with
        | 0 => '$' :: rest
        | budget + 1 => expandWith value budget (value reference ++ tail)
    else c :: expandWith value budget rest
termination_by (budget, text.length)

/-- A line with its references replaced. -/
def expand (value : Reference → Text) (line : Text) : Text :=
  expandWith value substitutionLimit line

@[simp] theorem expandWith_nil (value : Reference → Text) (budget : Nat) :
    expandWith value budget [] = [] := by
  simp [expandWith]

theorem expandWith_cons_of_ne (value : Reference → Text) (budget : Nat) {c : Char} (h : c ≠ '$')
    (rest : Text) : expandWith value budget (c :: rest) = c :: expandWith value budget rest := by
  rw [expandWith]; simp [h]

/-- A text without `$` is its own expansion. -/
theorem expandWith_of_not_mem (value : Reference → Text) (budget : Nat) {text : Text}
    (h : '$' ∉ text) : expandWith value budget text = text := by
  induction text with
  | nil => simp
  | cons c rest ih =>
    have hc : c ≠ '$' := fun hc => h (by simp [hc])
    rw [expandWith_cons_of_ne value budget hc, ih fun hr => h (by simp [hr])]

/-- A line without `$` is not changed. -/
theorem expand_of_not_mem (value : Reference → Text) {line : Text} (h : '$' ∉ line) :
    expand value line = line :=
  expandWith_of_not_mem value substitutionLimit h

end CommandShell
