import CommandShell.Text

/-!
# Quotes

A quote is opened by a single or a double quote character that stands in no quote, and closed by the
next character like it, or by the end of the text. Every scan of a line carries the character that
opened the quote it stands in, if it stands in one, and moves on by `quoteAfter`.

## Main definitions
* `isQuote`: the two quote characters.
* `quoteAfter`: the open quote after one more character.
* `endQuote`: the open quote at the end of a text.
* `unquote`, `stripQuotes`: a text without the quotes that delimit parts of it, or without any.
-/

namespace CommandShell

/-- A character that opens a quote. -/
def isQuote (c : Char) : Bool :=
  c == '\'' || c == '"'

/-- The open quote after the character `c`. -/
def quoteAfter : Option Char → Char → Option Char
  | some q, c => if c = q then none else some q
  | none, c => if isQuote c then some c else none

/-- The open quote at the end of a text. -/
def endQuote (text : Text) : Option Char :=
  text.foldl quoteAfter none

/-- Drops the characters that open or close a quote, from inside the quote `quote` on. -/
def unquoteFrom : Option Char → Text → Text
  | _, [] => []
  | quote, c :: rest =>
    if quoteAfter quote c = quote then c :: unquoteFrom quote rest
    else unquoteFrom (quoteAfter quote c) rest

/-- A text without the characters that open or close its quotes. A quote character inside a quote of
the other kind stays. -/
def unquote (text : Text) : Text :=
  unquoteFrom none text

/-- A text without any quote character. -/
def stripQuotes (text : Text) : Text :=
  text.filter (!isQuote ·)

theorem quoteAfter_none {c : Char} (h : isQuote c = false) : quoteAfter none c = none := by
  simp [quoteAfter, h]

theorem quoteAfter_open {c : Char} (h : isQuote c) : quoteAfter none c = some c := by
  simp [quoteAfter, h]

@[simp] theorem quoteAfter_close (q : Char) : quoteAfter (some q) q = none := by
  simp [quoteAfter]

theorem quoteAfter_inside {q c : Char} (h : c ≠ q) : quoteAfter (some q) c = some q := by
  simp [quoteAfter, h]

@[simp] theorem stripQuotes_append (xs ys : Text) :
    stripQuotes (xs ++ ys) = stripQuotes xs ++ stripQuotes ys := by
  simp [stripQuotes]

/-- A text without quote characters is its own unquoted form. -/
theorem unquote_of_all_plain {text : Text} (h : ∀ c ∈ text, isQuote c = false) :
    unquote text = text := by
  induction text with
  | nil => rfl
  | cons c rest ih =>
    have hc : quoteAfter none c = none := quoteAfter_none (h c (by simp))
    have hrest : unquoteFrom none rest = rest := ih fun d hd => h d (by simp [hd])
    simp [unquote, unquoteFrom, hc, hrest]

end CommandShell
