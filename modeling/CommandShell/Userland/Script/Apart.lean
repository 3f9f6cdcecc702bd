import CommandShell.Userland.Script.State

/-!
# Parts of a script that are apart from it

A part of a script that is apart has variables, traps and a directory of its own, and leaves what it has
written, what it has read and the files behind.

## Main definitions
* `Script.ending`, `atEnd`: how a script ends.
* `inSubshell`, `outputOf`, `fedWith`: parts that are apart.
* `tested`, `checkStatus`: where a failure ends a script.
-/

namespace CommandShell.Userland

/-- How a script ends that has come to a stop, or to its last command. -/
def Script.ending (s : Script) : Option Stop → Ending
  | some (.exit code) => .code code
  | some (.ended ending) => ending
  | _ => .code s.status

/-- A script whose end runs what it has set for it, unless it has ended without being asked. -/
def atEnd (evaluate : Bytes → Run Unit) (body : Run Unit) : Run (Option Stop) := do
  let stop ← Run.outcome body
  match stop, (← get).traps.lookup 0 with
  | some (.ended _), _ | _, none => return stop
  | _, some text =>
    let status := codeOf ((← get).ending stop)
    modify fun s => { s with traps := s.traps.filter fun entry => entry.1 != 0, status }
    match ← Run.outcome (evaluate text) with
    | none => return some (.exit status)
    | stop => return stop

/-- Runs something whose variables and directory are its own. -/
def inSubshell (evaluate : Bytes → Run Unit) (body : Run Unit) : Run Unit := do
  let s ← get
  set { s with traps := s.traps.filter (·.2.isEmpty) }
  let stop ← atEnd evaluate body
  let apart ← get
  set { s with
    sinks := apart.sinks
    sources := apart.sources
    disk := s.disk.adopt apart.disk.files
    status := codeOf (apart.ending stop) }

/-- What something writes that is apart from the script. -/
def outputOf (evaluate : Bytes → Run Unit) (body : Run Unit) : Run Bytes := do
  let s ← get
  let number := s.sinks.length
  set ({ s with sinks := s.sinks ++ [[]] }.lead 1 (some (.sink number)))
  inSubshell evaluate body
  let written := (← get).sinks[number]?.getD []
  modify fun t => { t with sinks := t.sinks.take number, channels := s.channels }
  return written

/-- Something that reads given bytes and is apart from the script. -/
def fedWith (evaluate : Bytes → Run Unit) (data : Bytes) (body : Run Unit) : Run Unit := do
  let s ← get
  set (s.feed 0 data)
  inSubshell evaluate body
  modify fun t => { t with sources := t.sources.take s.sources.length, channels := s.channels }

/-- Runs something whose status is looked at. -/
def tested (body : Run Unit) : Run Unit := do
  let s ← get
  set { s with isTested := true }
  Run.andThen body ({ · with isTested := s.isTested })

/-- Ends the script if it is to end with the first status that tells a failure. -/
def checkStatus : Run Unit := do
  let s ← get
  if s.status != 0 && !s.isTested && s.options.contains 'e' then throw (.exit s.status)

end CommandShell.Userland
