import CommandShell.Session

/-!
# Changing the working directory

## Main definitions
* `destination`: the directory that the operands ask for.
* `changeDirectory`
-/

namespace CommandShell.Builtin

/-- The command word. -/
def directoryName : Text := "cd".toList

/-- The variable that holds the user's own directory. -/
def homeVariable : Text := "HOME".toList

/-- The variable that holds the working directory. -/
def currentVariable : Text := "PWD".toList

/-- The variable that holds the working directory before the last change. -/
def previousVariable : Text := "OLDPWD".toList

/-- The operand that goes back and shows where. -/
def backOperand : Text := "-".toList

/-- The operand that goes back. -/
def quietBackOperand : Text := "--".toList

/-- A value that is there and not empty. -/
def nonEmpty (value : Option Bytes) : Option Bytes :=
  value.filter (!·.isEmpty)

/-- The path that the operands ask for; going back without a previous directory asks for none. Only
the first operand counts, and it must be a directory that the user may search. -/
def destination (operands : List Text) (s : Session) : Except CommandError (Option Bytes) :=
  match operands with
  | [] =>
    match nonEmpty (s.env.get? homeVariable) with
    | some home => .ok (some home)
    | none => .error .homeUnset
  | operand :: _ =>
    if operand = backOperand ∨ operand = quietBackOperand then
      .ok (nonEmpty (s.env.get? previousVariable))
    else if operand.head? = some '-' then .error (.ofOption operand)
    else if s.disk.canEnter (Utf8.encode operand) then .ok (some (Utf8.encode operand))
    else .error (.cannotEnter operand)

/-- The disk seen from a destination. -/
def go (disk : Disk) : Option Bytes → Except CommandError Disk
  | none => .ok disk
  | some path => (disk.enter path).mapError fun _ => .cannotEnter (Utf8.decodeLossy path)

/-- The path of the working directory, for the command. -/
def workingPath (disk : Disk) : Except CommandError Bytes :=
  disk.currentDirectory.mapError (.failed directoryName)

/-- Gives a variable a directory. -/
def setDirectory (name : Text) (path : Bytes) : Action Unit := do
  match (← get).env.set name path with
  | .ok env => modify ({ · with env })
  | .error _ => throw (.environment directoryName)

/-- Goes to another directory, and keeps the two variables in step with it. -/
def changeDirectory (operands : List Text) : Action Flow := do
  let previous ← liftExcept (workingPath (← get).disk)
  let target ← liftExcept (destination operands (← get))
  let disk ← liftExcept (go (← get).disk target)
  modify ({ · with disk })
  let current ← liftExcept (workingPath disk)
  setDirectory previousVariable previous
  setDirectory currentVariable current
  if operands.head? = some backOperand then
    writeOut directoryName
      ((Utf8.stretches (Utf8.units current)).map Chunk.text ++ [.text ['\n']])
  return .status 0

end CommandShell.Builtin
