import CommandShell.Session.Dispatch

/-!
# Lines

A line is expanded, cut into tokens and checked, and then run as a chain. The aliases of a segment are
replaced just before it runs. If that brings in connectors, the segment is checked again and run as a
chain of its own, in which no alias is replaced any more.

## Main definitions
* `runResolved`: a segment run after its aliases have been replaced.
* `executeLine`: a line run.
-/

namespace CommandShell

namespace Session

/-- Reports a command line that cannot be run because a token is out of place. -/
def refuse (s : Session) (token : Token) : Flow × Session :=
  s.settle (.error (.unexpectedToken token))

/-- The tokens of a line whose references have been replaced. -/
def tokensOf (s : Session) (line : Text) : List Token :=
  tokens (expand s.value line)

end Session

/-- Runs tokens as a chain, unless one of them is out of place. -/
def runChecked (run : Runner Session) : Runner Session := fun tokens s =>
  match unexpected? tokens with
  | some token => s.refuse token
  | none => runChain run tokens s

/-- Runs a segment after its aliases have been replaced. -/
def runResolved (machine : Machine) : Runner Session
  | [], s => (.status s.lastStatus, s)
  | segment, s =>
    let resolved := s.aliases.resolve segment
    if resolved.any fun token => token.connector?.isSome then
      runChecked (dispatch machine) resolved s
    else dispatch machine resolved s

/-- Runs a line. An empty line takes a number, a line without tokens takes none. -/
def executeLine (machine : Machine) (line : Text) (s : Session) : Flow × Session :=
  if line.isEmpty then (.status s.lastStatus, s.advance)
  else if (s.tokensOf line).isEmpty then (.status s.lastStatus, s)
  else runChecked (runResolved machine) (s.tokensOf line) s

end CommandShell
