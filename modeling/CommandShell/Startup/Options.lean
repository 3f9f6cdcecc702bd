import CommandShell.FatalError

/-!
# Command line options

The arguments of the interpreter are switches, then the name of a script. What stands behind the
script's name is ignored.

## Main definitions
* `Switch`, with `name`, `short`, `long` and `meaning`.
* `Options`, `Options.read`
* `Options.usage`: the text that explains them.
-/

namespace CommandShell

/-- A switch of the interpreter. -/
inductive Switch
  | debug
  | help
  | norc
  | version
  deriving DecidableEq

namespace Switch

/-- The switches, in the order of their long forms. -/
def all : List Switch := [debug, help, norc, version]

/-- The name of a switch. -/
def name : Switch → Text
  | debug => "debug".toList
  | help => "help".toList
  | norc => "norc".toList
  | version => "version".toList

/-- The argument of one letter that sets a switch: the first letter of its name. -/
def short (switch : Switch) : Text :=
  '-' :: switch.name.take 1

/-- The longer argument that sets a switch. -/
def long (switch : Switch) : Text :=
  "--".toList ++ switch.name

/-- What a switch does. -/
def meaning : Switch → Text
  | debug => "Enable debug logging on stderr".toList
  | help => "Print this help message".toList
  | norc => "Do not read ~/.huskrc in interactive mode".toList
  | version => "Show version information".toList

/-- The switch that an argument sets. -/
def ofArgument? (argument : Text) : Option Switch :=
  all.find? fun switch => argument == switch.short || argument == switch.long

/-- The width of the column of long forms. -/
def longWidth : Nat := 15

/-- The line that explains a switch. -/
def usageLine (switch : Switch) : Text :=
  "  ".toList ++ switch.short ++ ", ".toList ++ switch.long.rightpad longWidth ' ' ++
    ' ' :: switch.meaning ++ ['\n']

theorem mem_all (switch : Switch) : switch ∈ all := by
  cases switch <;> simp [all]

/-- Both forms set the switch. -/
theorem ofArgument?_forms (switch : Switch) :
    ofArgument? switch.short = some switch ∧ ofArgument? switch.long = some switch := by
  cases switch <;> decide

end Switch

/-- What the arguments ask for. -/
structure Options where
  /-- The switches that are set. -/
  switches : List Switch
  script : Option Text
  deriving DecidableEq

namespace Options

/-- Nothing is asked for. -/
def none : Options := ⟨[], .none⟩

/-- A switch is set. -/
def isSet (options : Options) (switch : Switch) : Bool :=
  options.switches.contains switch

/-- Reads arguments on top of others, up to the first that does not begin with a dash, or to one that
is not known. -/
def readOnto (options : Options) : List Text → Options × Option FatalError
  | [] => (options, .none)
  | argument :: rest =>
    if argument.head? != some '-' then ({ options with script := argument }, .none)
    else match Switch.ofArgument? argument with
      | .none => (options, some (.unknownOption argument))
      | some switch => readOnto { options with switches := switch :: options.switches } rest

/-- What the arguments ask for, and the error in them if there is one. -/
def read (arguments : List Text) : Options × Option FatalError :=
  readOnto none arguments

/-- The text that explains the arguments. -/
def usage : Text :=
  "Usage: husk [OPTIONS] [SCRIPT]\n\nOptions:\n".toList ++ Switch.all.flatMap Switch.usageLine

end Options

end CommandShell
