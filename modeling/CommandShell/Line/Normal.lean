import CommandShell.Line.Quote

/-!
# Normal lines

Before a line is cut into tokens its comment is dropped and its operators are set apart by spaces.
An operator is a run of the characters `;`, `&` and `|` outside quotes; it is set apart when it holds
more than one character or is a `;`, while a single `&` or `|` stays part of its word. A comment
starts at an unquoted `#` that is the first character or follows a space.

## Main definitions
* `isOperatorChar`
* `normalize`: the normal form of a line.
-/

namespace CommandShell

/-- A character that operators are made of. -/
def isOperatorChar (c : Char) : Bool :=
  c == ';' || c == '&' || c == '|'

/-- Where the scan of a line stands. -/
inductive Mark
  /-- Outside quotes and operators; `fresh` at the start of the line and after a space. -/
  | plain (fresh : Bool)
  /-- Inside the quote that the character `opener` opened. -/
  | quoted (opener : Char)
  /-- Inside an operator run, which is set `apart` or not. -/
  | operators (apart : Bool)

namespace Mark

/-- Where the scan stands after a character `c` outside quotes that is no operator character. -/
def after (c : Char) : Mark :=
  if isQuote c then .quoted c else .plain (c == ' ')

end Mark

/-- The space that sets something apart, where one is wanted. -/
def gap (wanted : Bool) : Text :=
  if wanted then [' '] else []

@[simp] theorem gap_true : gap true = [' '] := rfl

@[simp] theorem gap_false : gap false = [] := rfl

/-- Whether an operator run that starts with `c` before `rest` is set apart: it is a `;`, or another
operator character follows. -/
def isApart (c : Char) (rest : Text) : Bool :=
  c == ';' || rest.head?.any isOperatorChar

/-- The normal form of the rest of a line, from a given place in it. -/
def normalizeFrom : Mark → Text → Text
  | _, [] => []
  | .quoted q, c :: rest =>
    c :: normalizeFrom (if c = q then .plain false else .quoted q) rest
  | .plain fresh, c :: rest =>
    if c = '#' ∧ fresh then []
    else if isOperatorChar c then
      gap (isApart c rest && !fresh) ++ c :: normalizeFrom (.operators (isApart c rest)) rest
    else c :: normalizeFrom (.after c) rest
  | .operators apart, c :: rest =>
    if isOperatorChar c then c :: normalizeFrom (.operators apart) rest
    else gap (apart && c != ' ') ++ c :: normalizeFrom (.after c) rest

/-- A line without its comment and with its operators set apart by spaces. -/
def normalize (line : Text) : Text :=
  normalizeFrom (.plain true) line

@[simp] theorem normalize_nil : normalize [] = [] := rfl

end CommandShell
