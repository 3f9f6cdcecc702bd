import CommandShell.Builtin.Help

/-!
# Builtin commands

The commands that the interpreter runs itself, found by their exact command word.

## Main definitions
* `Builtin`, `Builtin.name`, `Builtin.ofName?`
* `Builtin.run`
-/

namespace CommandShell

/-- A command that the interpreter runs itself. -/
inductive Builtin
  | defining
  | entering
  | listing
  | leaving
  | helping
  | setting
  | unsetting
  deriving DecidableEq

namespace Builtin

/-- The builtin commands, by name. -/
def all : List Builtin :=
  [defining, entering, listing, leaving, helping, setting, unsetting]

/-- The command word of a builtin. -/
def name : Builtin → Text
  | defining => definitionsName
  | entering => directoryName
  | listing => listName
  | leaving => leaveName
  | helping => helpName
  | setting => setName
  | unsetting => unsetName

/-- The builtin with a command word. -/
def ofName? (word : Text) : Option Builtin :=
  all.find? fun builtin => builtin.name == word

/-- What a builtin does with its operands. -/
def run : Builtin → List Text → Action Flow
  | defining => defineAliases
  | entering => changeDirectory
  | listing => fun _ => listVariables
  | leaving => leave
  | helping => help
  | setting => setVariable
  | unsetting => unsetVariable

theorem mem_all (builtin : Builtin) : builtin ∈ all := by
  cases builtin <;> simp [all]

/-- Every builtin is found by its command word. -/
theorem ofName?_name (builtin : Builtin) : ofName? builtin.name = some builtin := by
  cases builtin <;> decide

end Builtin

end CommandShell
