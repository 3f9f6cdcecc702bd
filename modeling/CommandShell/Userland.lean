import CommandShell.Userland.Script.Start
import CommandShell.Userland.Tool.Launch
import CommandShell.Userland.Tool.Tree

/-!
# A small machine

A machine to run the interpreter on: the usual directories, a few tools, and a program that runs
scripts.

## Main definitions
* `Userland.files`: what is on its disk.
* `Userland.machine`: what its programs do.
-/

namespace CommandShell.Userland

/-- A location, given by its path. -/
def locationOf (path : String) : Location :=
  Path.names (bytesOf path)

/-- The directories of the machine. -/
def directories : List String :=
  ["/boot", "/dev", "/etc", "/home", "/media", "/mnt", "/opt", "/proc", "/root", "/run", "/srv",
    "/sys", "/tmp", "/usr", "/usr/bin", "/usr/lib", "/usr/local", "/usr/local/bin",
    "/usr/local/sbin", "/usr/sbin", "/usr/share", "/var", "/var/tmp"]

/-- The links of the machine, each with its target. -/
def links : List (String × String) :=
  [("/bin", "usr/bin"), ("/sbin", "usr/sbin"), ("/lib", "usr/lib")]

/-- The files of the machine, each with its content. -/
def texts : List (String × String) :=
  [("/dev/null", ""), ("/etc/passwd", "root:x:0:0:root:/root:/bin/sh\n")]

/-- The names of the program that runs scripts. -/
def scriptRunners : List String := ["sh", "dash"]

/-- The tools that do not start programs, by name. -/
def tools : List (String × Tool) :=
  operandTools ++ readingTools ++ treeTools

/-- Programs that are there and end at once with a failure. -/
def idlePrograms : List String :=
  ["arch", "awk", "base32", "base64", "bash", "chgrp", "chown", "cksum", "cmp", "comm", "csplit",
    "date", "dd", "df", "diff", "dir", "dircolors", "du", "egrep", "expand", "expr", "factor",
    "fgrep", "find", "fmt", "fold", "getent", "grep", "groups", "gzip", "hostid", "hostname", "id",
    "install", "join", "kill", "link", "login", "logname", "md5sum", "mkfifo", "mknod",
    "mktemp", "more", "mount", "nice", "nl", "nproc", "numfmt", "od", "paste", "perl", "pinky",
    "pr", "ptx", "realpath", "sed", "sha1sum", "sha256sum", "shred", "shuf", "split", "stat",
    "stdbuf", "stty", "sum", "sync", "tar", "tsort", "tty", "uname", "unexpand", "unlink", "users",
    "vdir", "which", "who", "whoami", "xargs", "yes"]

/-- What is on the disk of the machine. -/
def files : Files :=
  let made := directories.foldl (fun f path => f.put (locationOf path) (.directory true)) .empty
  let linked := links.foldl
    (fun f entry => f.put (locationOf entry.1) (.link (bytesOf entry.2))) made
  let written := texts.foldl
    (fun f entry => f.put (locationOf entry.1) (.file (bytesOf entry.2) .plain)) linked
  let programs := scriptRunners ++ tools.map Prod.fst ++ launchingTools.map Prod.fst ++ idlePrograms
  programs.foldl
    (fun f name => f.put (locationOf "/usr/bin" ++ [bytesOf name]) (.program name.toList)) written

/-- What programs do that may start one another so deep. -/
def machineOfDepth : Nat → Machine
  | 0 => fun p => p.silent 126
  | depth + 1 => fun p =>
    let start := machineOfDepth depth
    let name := String.ofList p.program
    if scriptRunners.contains name then runScripts start p
    else match tools.lookup name, launchingTools.lookup name with
      | some tool, _ => tool p p.arguments.tail
      | none, some launcher => launcher start p p.arguments.tail
      | none, none => p.silent 1

/-- How deep programs may start one another. -/
def depthLimit : Nat := 100

/-- What the programs of the machine do. -/
def machine : Machine :=
  machineOfDepth depthLimit

end CommandShell.Userland
