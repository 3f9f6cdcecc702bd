import CommandShell.Builtin.Definitions
import CommandShell.Builtin.Directory
import CommandShell.Builtin.Leave
import CommandShell.Builtin.Variables

/-!
# Help

Without an operand the builtin commands are listed; an operand names the command to be told about. A
text is written at once.

## Main definitions
* `summary`, `topic?`: the texts.
* `help`
-/

namespace CommandShell.Builtin

/-- The command word. -/
def helpName : Text := "help".toList

/-- The list of the builtin commands. -/
def summary : String :=
  "husk builtin commands\n" ++
  "Type 'help' to see this list.\n" ++
  "Type 'help name' to find out more about the builtin 'name'.\n" ++
  "\n" ++
  "  alias   \talias [NAME[='VALUE'] ...]\n" ++
  "  cd      \tcd [DIRECTORY]\n" ++
  "  exit    \texit [STATUS]\n" ++
  "  env     \tenv\n" ++
  "  setenv  \tsetenv [VARIABLE] [VALUE]\n" ++
  "  unsetenv\tunsetenv [VARIABLE]\n" ++
  "  help    \thelp [BUILTIN]\n"

/-- About defining and showing aliases. -/
def definitionsTopic : String :=
  "alias: alias [NAME[='VALUE'] ...]\n" ++
  "\tManage aliases.\n" ++
  "\n" ++
  "\talias: print every alias, one per line, as NAME='VALUE'.\n" ++
  "\talias NAME [NAME2 ...]: print the named aliases as NAME='VALUE'.\n" ++
  "\talias NAME='VALUE' [...]: define an alias for each NAME. An existing\n" ++
  "\tNAME has its value replaced.\n"

/-- About changing the working directory. -/
def directoryTopic : String :=
  "cd: cd [DIRECTORY]\n" ++
  "\tChange the working directory to DIRECTORY.\n" ++
  "\n" ++
  "\tWithout an argument, change to $HOME. With '-', change to $OLDPWD\n" ++
  "\tand print the new directory.\n" ++
  "\n" ++
  "\tPWD and OLDPWD are updated after every successful change.\n"

/-- About leaving. -/
def leaveTopic : String :=
  "exit: exit [STATUS]\n" ++
  "\tLeave the shell.\n" ++
  "\n" ++
  "\tSTATUS is the integer the shell exits with. Without an argument the\n" ++
  "\tstatus of the last command is used.\n"

/-- About listing the variables. -/
def listTopic : String :=
  "env: env\n" ++
  "\tPrint the current environment.\n"

/-- About setting a variable. -/
def setTopic : String :=
  "setenv: setenv [VARIABLE] [VALUE]\n" ++
  "\tCreate an environment variable, or change the value of an existing one.\n" ++
  "\n" ++
  "\tOn failure, print a message to standard error.\n"

/-- About removing a variable. -/
def unsetTopic : String :=
  "unsetenv: unsetenv [VARIABLE]\n" ++
  "\tRemove an environment variable.\n" ++
  "\n" ++
  "\tOn failure, print a message to standard error.\n"

/-- About the help itself. -/
def helpTopic : String :=
  "help: help [BUILTIN]\n" ++
  "\tWithout an argument, list the builtin commands.\n" ++
  "\tWith BUILTIN, describe that command.\n"

/-- The text about a builtin command. -/
def topic? (name : Text) : Option String :=
  [(definitionsName, definitionsTopic), (directoryName, directoryTopic), (leaveName, leaveTopic),
    (listName, listTopic), (setName, setTopic), (unsetName, unsetTopic),
    (helpName, helpTopic)].lookup name

/-- The pieces of the line that says that there is nothing about a name. -/
def noTopic (program name : Text) : List Chunk :=
  [.text program, .text ": help: no help topics match '".toList, .text name, .text "'\n".toList]

/-- Writes the list of commands, or the text about the first operand. -/
def help : List Text → Action Flow
  | [] => do
    writeOut helpName [.text summary.toList]
    return .status 0
  | name :: _ => do
    match topic? name with
    | some text => writeOut helpName [.text text.toList]
    | none => writeErr helpName (noTopic (← get).program name)
    return .status 0

end CommandShell.Builtin
