import CommandShell.Session

/-!
# Defining and showing aliases

Without operands every alias is shown. An operand with a `=` defines an alias, any other operand names
one to show. The operands are taken in order; a name that is not there is reported and does not stop
the others.

## Main definitions
* `definition?`: the name and the value that an operand defines.
* `defineAliases`
-/

namespace CommandShell.Builtin

/-- The command word. -/
def definitionsName : Text := "alias".toList

/-- The name and the value that an operand defines: what stands before and behind its first `=`. -/
def definition? (operand : Text) : Option (Text × Text) :=
  match operand.dropWhile (· != '=') with
  | [] => none
  | _ :: value => some (operand.takeWhile (· != '='), value)

/-- The pieces of the line that shows an alias. -/
def aliasLine (name value : Text) : List Chunk :=
  [.text name, .text "='".toList, .text value, .text "'\n".toList]

/-- Shows an alias. -/
def showAlias (name value : Text) : Action Unit :=
  writeOut definitionsName (aliasLine name value)

/-- Takes one operand. The status becomes that of the error if a name is not there. -/
def takeOperand (status : Status) (operand : Text) : Action Status := do
  match definition? operand with
  | some (name, value) =>
    modify fun s => { s with aliases := s.aliases.add name (stripQuotes value) }
    return status
  | none =>
    match (← get).aliases.get? operand with
    | some value =>
      showAlias operand value
      return status
    | none =>
      modify (·.report (.aliasNotFound operand))
      return (CommandError.aliasNotFound operand).status

/-- Defines and shows aliases. -/
def defineAliases (operands : List Text) : Action Flow := do
  if operands.isEmpty then
    (← get).aliases.toList.forM fun entry => showAlias entry.1 entry.2
    return .status 0
  else
    return .status (← operands.foldlM takeOperand 0)

end CommandShell.Builtin
