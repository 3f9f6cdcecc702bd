import CommandShell.Session

/-!
# Leaving

The status to leave with is a decimal number, with an optional `+` before it, of at most `statusBound`.
It is read into a word of 64 bits and refused as soon as it passes the bound, so the word cannot
overflow.

## Main definitions
* `readStatus`, `parseStatus?`
* `leave`
-/

namespace CommandShell.Builtin

/-- The command word. -/
def leaveName : Text := "exit".toList

/-- The greatest status that can be left with. -/
def statusBound : UInt64 := 2147483647

/-- Reads decimal digits behind a number that has been read. -/
def readStatus : UInt64 → Text → Option UInt64
  | value, [] => some value
  | value, c :: rest =>
    if c.isDigit then
      let next := value * 10 + (c.toNat - '0'.toNat).toUInt64
      if next > statusBound then none else readStatus next rest
    else none

/-- The digits of an operand, behind a `+` if there is one. -/
def statusDigits : Text → Text
  | '+' :: digits => digits
  | digits => digits

/-- The status that an operand spells. -/
def parseStatus? (operand : Text) : Option Status :=
  match statusDigits operand with
  | [] => none
  | digits => (readStatus 0 digits).map fun value => value.toNat.toInt32

/-- Leaves with the last status, or with the one that the first operand spells. -/
def leave : List Text → Action Flow
  | [] => return .terminate
  | operand :: _ =>
    match parseStatus? operand with
    | some status => return .exit status
    | none => throw (.illegalNumber operand)

end CommandShell.Builtin
