import CommandShell.Text

/-!
# Statuses and flow

A command ends with a status, and tells the interpreter whether to go on.

## Main definitions
* `Status`
* `Flow`
-/

namespace CommandShell

/-- The outcome of a command as a number; zero is success. -/
abbrev Status := Int32

namespace Status

/-- The decimal form of a status. -/
def text (status : Status) : Text :=
  integer status.toInt

end Status

/-- What a command asks the interpreter to do next. -/
inductive Flow
  /-- Go on; the command ended with this status. -/
  | status (status : Status)
  /-- Read no more input, and leave with the last status. -/
  | terminate
  /-- Read no more input, and leave with this status. -/
  | exit (status : Status)
  deriving DecidableEq

end CommandShell
