import CommandShell.Line.Normal

/-!
# Tokens

A normal line is cut into tokens at its unquoted spaces. Tokens keep their quotes, so that a quoted
operator is never taken for one; a word is a token without them.

## Main definitions
* `splitAt`: the pieces of a text between unquoted separators.
* `tokens`: the tokens of a line.
* `Token.isOperator`: the tokens that begin with an operator character.
* `Token.word`: what a token stands for on a command line.
-/

namespace CommandShell

/-- A piece of a line, with its quotes. -/
abbrev Token := Text

/-- The pieces of the rest of a text, after the reversed beginning of a piece. -/
def splitFrom (separator : Char) : Option Char → Text → Text → List Text
  | _, piece, [] => if piece.isEmpty then [] else [piece.reverse]
  | quote, piece, c :: rest =>
    if quote = none ∧ c = separator then
      if piece.isEmpty then splitFrom separator none [] rest
      else piece.reverse :: splitFrom separator none [] rest
    else splitFrom separator (quoteAfter quote c) (c :: piece) rest

/-- The non-empty pieces of a text between unquoted separators. -/
def splitAt (separator : Char) (text : Text) : List Text :=
  splitFrom separator none [] text

/-- The tokens of a line. -/
def tokens (line : Text) : List Token :=
  splitAt ' ' (normalize line)

namespace Token

/-- The token begins with an operator character. -/
def isOperator (token : Token) : Bool :=
  token.head?.any isOperatorChar

/-- The token without the quotes that delimit parts of it. -/
def word (token : Token) : Text :=
  unquote token

end Token

@[simp] theorem tokens_nil : tokens [] = [] := rfl

end CommandShell
