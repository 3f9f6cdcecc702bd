import CommandShell.Failure
import CommandShell.Text.Utf8

/-!
# Fatal errors

The failures that stop the interpreter itself, where a command error stops a single command.

## Main definitions
* `FatalError`, `FatalError.message`
-/

namespace CommandShell

/-- Why the interpreter stopped. -/
inductive FatalError
  /-- No line could be read from the user. -/
  | lineUnread (cause : Failure)
  /-- Reading the input or writing the output failed. -/
  | failed (cause : Failure)
  | unknownOption (option : Text)
  | configUnread (path : Bytes) (cause : Failure)
  | scriptNotOpened (path : Bytes)
  deriving DecidableEq

namespace FatalError

/-- What is said about the error. -/
def message : FatalError → Text
  | lineUnread cause => "Readline error: ".toList ++ cause.text
  | failed cause => "IO error: ".toList ++ cause.text
  | unknownOption option => "Flag error: unknown option ".toList ++ option
  | configUnread path cause =>
    "Config error: Failed to read ".toList ++ Utf8.decodeLossy path ++ ": ".toList ++ cause.text
  | scriptNotOpened path => "Can't open ".toList ++ Utf8.decodeLossy path

end FatalError

end CommandShell
