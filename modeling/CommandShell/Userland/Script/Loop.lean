import CommandShell.Userland.Script.State

/-!
# Loops of scripts

## Main definitions
* `rounds`: a body run while a condition holds.
* `eachOf`: a body run once for each value.
* `inLoop`: something that counts as a loop which can be left.
-/

namespace CommandShell.Userland

/-- Runs a body round after round while a condition holds, at most so often. The status is that of the
last round. -/
def rounds (condition : Run Bool) (body : Run Unit) : Nat → UInt8 → Run Unit
  | 0, last => Run.result last
  | count + 1, last => do
    if ← condition then
      match ← Run.outcome body with
      | none | some (.loop false 1) => rounds condition body count (← get).status
      | some (.loop true 1) => return
      | some (.loop isLeft depth) => throw (.loop isLeft (depth - 1))
      | some stop => throw stop
    else Run.result last

/-- Runs something that is a loop. -/
def inLoop (body : Run Unit) : Run Unit := do
  let loops := (← get).loops
  modify ({ · with loops := loops + 1 })
  Run.andThen body ({ · with loops })

/-- The number of rounds after which a loop ends in any case. -/
def roundLimit : Nat := 1000000

/-- Runs a body once for each value. -/
def eachOf (body : Bytes → Run Unit) : List Bytes → Run Unit
  | [] => return
  | value :: rest => do
    match ← Run.outcome (body value) with
    | none | some (.loop false 1) => eachOf body rest
    | some (.loop true 1) => return
    | some (.loop isLeft depth) => throw (.loop isLeft (depth - 1))
    | some stop => throw stop

end CommandShell.Userland
