import CommandShell.Text

/-!
# Ranges of characters

A property of characters is given by the ranges of code points that have it.

## Main definitions
* `Ranges`, `Ranges.contains`
-/

namespace CommandShell

/-- The first and the last code point of each of some ranges. -/
abbrev Ranges := List (Nat × Nat)

/-- A character lies in one of the ranges. -/
def Ranges.contains (ranges : Ranges) (c : Char) : Bool :=
  ranges.any fun range => range.1 ≤ c.toNat && c.toNat ≤ range.2

end CommandShell
