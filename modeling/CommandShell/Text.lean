/-!
# Texts and byte strings

Lines, tokens and words are lists of characters, so that every scan is a recursion on its input.
What passes through files, environment entries and streams is a list of bytes.

## Main definitions
* `Text`, `Bytes`
* `natural`, `integer`: numbers in decimal.
-/

namespace CommandShell

/-- The characters of a line, a token or a word. -/
abbrev Text := List Char

/-- The bytes of a file, an environment entry or a stream. -/
abbrev Bytes := List UInt8

/-- A natural number in decimal, without leading zeros. -/
def natural (n : Nat) : Text :=
  Nat.toDigits 10 n

/-- An integer in decimal, with `-` before a negative one. -/
def integer (n : Int) : Text :=
  if n < 0 then '-' :: natural n.natAbs else natural n.natAbs

/-- There are only digits in a number. -/
theorem not_mem_natural {c : Char} (h : c.isDigit = false) (n : Nat) : c ∉ natural n := by
  intro hc
  have hdigit := Nat.isDigit_of_mem_toDigits (by decide) (by decide) hc
  exact Bool.false_ne_true (h.symm.trans hdigit)

theorem integer_ofNat (n : Nat) : integer n = natural n := by
  simp [integer, Int.not_lt.mpr (Int.natCast_nonneg n)]

end CommandShell
