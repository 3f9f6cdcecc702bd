import CommandShell.CommandError

/-!
# Diagnostics

The line by which the interpreter reports an error: under which name it runs, the number of the
command, and what went wrong.

## Main definitions
* `Diagnostic`, `Diagnostic.render`
-/

namespace CommandShell

/-- The report of an error. -/
structure Diagnostic where
  /-- The name under which the interpreter runs. -/
  program : Text
  /-- The number of the command that failed. -/
  counter : UInt64
  error : CommandError
  deriving DecidableEq

namespace Diagnostic

/-- The line that reports the error. -/
def render (d : Diagnostic) : Text :=
  d.program ++ ": ".toList ++ natural d.counter.toNat ++ ": ".toList ++ d.error.message ++ ['\n']

end Diagnostic

end CommandShell
