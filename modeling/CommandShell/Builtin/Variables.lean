import CommandShell.Session

/-!
# Listing, setting and removing variables

## Main definitions
* `listVariables`, `setVariable`, `unsetVariable`
-/

namespace CommandShell.Builtin

/-- The command word that lists the variables. -/
def listName : Text := "env".toList

/-- The command word that sets a variable. -/
def setName : Text := "setenv".toList

/-- The command word that removes a variable. -/
def unsetName : Text := "unsetenv".toList

/-- Lists all variables; operands have no meaning. -/
def listVariables : Action Flow := do
  writeOut listName ((← get).env.listing.map .bytes)
  return .status 0

/-- Gives the variable named by the first operand the second as its value. -/
def setVariable : List Text → Action Flow
  | name :: value :: _ => do
    match (← get).env.set name (Utf8.encode value) with
    | .ok env =>
      modify ({ · with env })
      return .status 0
    | .error _ => throw (.environment setName)
  | _ => throw (.environment setName)

/-- Removes the variable named by the first operand, if it is there. -/
def unsetVariable : List Text → Action Flow
  | name :: _ => do
    modify fun s => { s with env := s.env.unset name }
    return .status 0
  | [] => throw (.environment unsetName)

end CommandShell.Builtin
