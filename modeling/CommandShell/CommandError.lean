import CommandShell.Failure
import CommandShell.Flow

/-!
# Command errors

The ways in which a single command fails. Each has one wording and one status.

## Main definitions
* `CommandError`, `CommandError.message`, `CommandError.status`
-/

namespace CommandShell

/-- Why a command failed. -/
inductive CommandError
  /-- `command` was not given what it needs to change a variable. -/
  | environment (command : Text)
  | aliasNotFound (name : Text)
  | illegalNumber (operand : Text)
  /-- An option that `cd` does not have, cut to its first letter. -/
  | illegalOption (option : Text)
  | cannotEnter (directory : Text)
  | homeUnset
  /-- An operator that is out of place. -/
  | unexpectedToken (token : Text)
  | permissionDenied (command : Text)
  | notFound (command : Text)
  /-- Reading, writing or starting failed while `command` ran. -/
  | failed (command : Text) (cause : Failure)
  deriving DecidableEq

namespace CommandError

/-- The error of an option of `cd`: only the dash and the first letter are told. -/
def ofOption (operand : Text) : CommandError :=
  illegalOption (operand.take 2)

/-- What is said about the error. -/
def message : CommandError → Text
  | environment command => command ++ ": Unable to add/remove from environment".toList
  | aliasNotFound name => "alias: ".toList ++ name ++ " not found".toList
  | illegalNumber operand => "exit: Illegal number: ".toList ++ operand
  | illegalOption option => "cd: Illegal option ".toList ++ option
  | cannotEnter directory => "cd: can't cd to ".toList ++ directory
  | homeUnset => "cd: HOME not set".toList
  | unexpectedToken token => "Syntax error: \"".toList ++ token ++ "\" unexpected".toList
  | permissionDenied command => command ++ ": Permission denied".toList
  | notFound command => command ++ ": not found".toList
  | failed command cause => command ++ ": ".toList ++ cause.text

/-- The status that the command ends with. -/
def status : CommandError → Status
  | environment _ | failed _ _ => -1
  | aliasNotFound _ => 1
  | illegalNumber _ | illegalOption _ | cannotEnter _ | homeUnset | unexpectedToken _ => 2
  | permissionDenied _ => 126
  | notFound _ => 127

/-- No error ends with success. -/
theorem status_ne_zero (e : CommandError) : e.status ≠ 0 := by
  cases e <;> simp [status]

end CommandError

end CommandShell
