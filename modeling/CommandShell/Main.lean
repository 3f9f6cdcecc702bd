import CommandShell.Startup.Launch
import CommandShell.Userland

/-!
# The command line

The interpreter as a program: it is launched on the small machine, with the script and the user's own
file copied onto its disk, and what it leaves is written to the two output streams.
-/

namespace CommandShell.Main

/-- The variables that are handed to the interpreter, in order. -/
def handedNames : List String :=
  ["HOME", "LANG", "LOGNAME", "OLDPWD", "PATH", "PWD", "SHELL", "TERM", "USER"]

/-- Reads what is left of a stream. -/
partial def readAll (stream : IO.FS.Stream) (done : Bytes) : IO Bytes := do
  let data ← stream.read 65536
  if data.isEmpty then return done else readAll stream (done ++ data.toList)

/-- Writes bytes to a stream. -/
def writeAll (stream : IO.FS.Stream) (data : Bytes) : IO Unit := do
  stream.write ⟨data.toArray⟩
  stream.flush

/-- The entries of the variables that are set. -/
def environment : IO (List Bytes) :=
  handedNames.filterMapM fun name => do
    let value ← IO.getEnv name
    return value.map fun value => Utf8.encode (name ++ "=" ++ value).toList

/-- The disk with a file copied onto it, if that can be read. -/
def copyFile (disk : Disk) (path : Bytes) : IO Disk := do
  match (Utf8.decode? path).map String.ofList with
  | none => return disk
  | some name =>
    try
      let content ← IO.FS.readBinFile name
      return disk.makeFile path content.toList none
    catch _ => return disk

end CommandShell.Main

open CommandShell in
/-- Runs the interpreter. -/
def main (arguments : List String) : IO UInt32 := do
  let environment ← Main.environment
  let script := (Options.read (arguments.map String.toList)).1.script.map Utf8.encode
  let rcFile := RcFile.pathIn (RcFile.homeDirectory (RcFile.handedHome environment))
  let disk ← (script.toList ++ [rcFile]).foldlM Main.copyFile ⟨Userland.files, .root⟩
  let stdin ← IO.getStdin
  let outcome := launch Userland.machine
    { program := Utf8.encode "husk".toList
      arguments := arguments.map fun argument => Utf8.encode argument.toList
      environment
      pid := 1
      disk
      input := ← Main.readAll stdin []
      isTerminal := ← stdin.isTty }
  Main.writeAll (← IO.getStdout) outcome.out
  Main.writeAll (← IO.getStderr) outcome.err
  return outcome.code.toUInt32
