import CommandShell.Text

/-!
# Failures of input and output

Why the system, a file or a stream refused an operation, and how that is said.

## Main definitions
* `SystemError`: the errors of the operating system, with number and description.
* `Failure`: all causes.
* `Failure.text`
-/

namespace CommandShell

/-- An error of the operating system. -/
inductive SystemError
  | noSuchFile
  | argumentsTooLong
  | notExecutable
  | permissionDenied
  | notDirectory
  | isDirectory
  | nameTooLong
  | tooManyLinks
  deriving DecidableEq

namespace SystemError

/-- The number of an error. -/
def number : SystemError → Nat
  | noSuchFile => 2
  | argumentsTooLong => 7
  | notExecutable => 8
  | permissionDenied => 13
  | notDirectory => 20
  | isDirectory => 21
  | nameTooLong => 36
  | tooManyLinks => 40

/-- What an error means. -/
def description : SystemError → Text
  | noSuchFile => "No such file or directory".toList
  | argumentsTooLong => "Argument list too long".toList
  | notExecutable => "Exec format error".toList
  | permissionDenied => "Permission denied".toList
  | notDirectory => "Not a directory".toList
  | isDirectory => "Is a directory".toList
  | nameTooLong => "File name too long".toList
  | tooManyLinks => "Too many levels of symbolic links".toList

end SystemError

/-- Why something could not be read, written or started. -/
inductive Failure
  /-- The system refused. -/
  | system (error : SystemError)
  /-- A program's path, arguments or environment hold a NUL byte. -/
  | nulByte
  /-- The path of a file holds a NUL byte. -/
  | nulInPath
  /-- What should be a text is not UTF-8. -/
  | notText
  /-- A stream takes no more. -/
  | full
  /-- A stream cannot be flushed. -/
  | flushRefused
  /-- Any other cause, in its own words. -/
  | other (cause : Text)
  deriving DecidableEq

namespace Failure

/-- How a failure is put into words. -/
def text : Failure → Text
  | system error =>
    error.description ++ " (os error ".toList ++ natural error.number ++ ")".toList
  | nulByte => "nul byte found in provided data".toList
  | nulInPath => "file name contained an unexpected NUL byte".toList
  | notText => "stream did not contain valid UTF-8".toList
  | full => "sink full".toList
  | flushRefused => "flush refused".toList
  | other cause => cause

end Failure

end CommandShell
