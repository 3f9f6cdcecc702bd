import CommandShell.Diagnostic
import CommandShell.Text.Utf8

/-!
# Output streams

The interpreter writes to streams of which it knows nothing. A stream may take a part of what is written
and refuse the rest, for any reason that lies in what it has been given before, and may refuse to be
flushed at any time. What it has been given is kept in a log, in which diagnostics stand as such, so that
it can be told later which command reported what.

## Main definitions
* `Chunk`: what is written at once.
* `Use`: what a stream has been given.
* `Stream`, with `write`, `writeAll`, `flush`, `report`, `receive` and `contents`.
-/

namespace CommandShell

/-- What is written to a stream at once. -/
inductive Chunk
  | bytes (data : Bytes)
  | diagnostic (d : Diagnostic)
  deriving DecidableEq

namespace Chunk

/-- A text to be written. -/
def text (text : Text) : Chunk :=
  bytes (Utf8.encode text)

/-- The bytes that are written. -/
def contents : Chunk → Bytes
  | bytes data => data
  | diagnostic d => Utf8.encode d.render

end Chunk

/-- What a stream has been given at once, and how much of it the stream has taken. -/
inductive Use
  /-- The interpreter has written a chunk, and the stream has taken the first bytes of it. -/
  | write (chunk : Chunk) (taken : Nat)
  /-- Another program has written. -/
  | receive (data : Bytes)
  deriving DecidableEq

namespace Use

/-- The bytes that the stream has taken. -/
def contents : Use → Bytes
  | write chunk taken => chunk.contents.take taken
  | receive data => data

end Use

/-- An output stream. -/
structure Stream where
  /-- What it has been given, in order. -/
  log : List Use
  /-- How many bytes it takes of some that are written behind a log. -/
  takes : List Use → Bytes → Nat
  /-- Whether it can be flushed the next time, and each time after that. -/
  flushes : Nat → Bool

namespace Stream

/-- A stream that takes everything, with nothing in it. -/
def new : Stream where
  log := []
  takes _ data := data.length
  flushes _ := true

/-- All that the stream has taken. -/
def contents (s : Stream) : Bytes :=
  s.log.flatMap Use.contents

/-- Writes a chunk, which fails if the stream does not take it to its end. An empty chunk is not
written. -/
def write (s : Stream) (chunk : Chunk) : Except Failure Unit × Stream :=
  if chunk.contents.isEmpty then (.ok (), s)
  else
    let taken := min (s.takes s.log chunk.contents) chunk.contents.length
    (if taken = chunk.contents.length then .ok () else .error .full,
      { s with log := s.log ++ [.write chunk taken] })

/-- Writes chunks in order, up to the first that is not taken to its end. -/
def writeAll (s : Stream) : List Chunk → Except Failure Unit × Stream
  | [] => (.ok (), s)
  | chunk :: rest =>
    match s.write chunk with
    | (.ok (), s) => writeAll s rest
    | refused => refused

/-- Has what was written handed on. -/
def flush (s : Stream) : Except Failure Unit × Stream :=
  (if s.flushes 0 then .ok () else .error .flushRefused,
    { s with flushes := fun later => s.flushes (later + 1) })

/-- Writes a diagnostic and has it handed on, as far as the stream allows. -/
def report (s : Stream) (d : Diagnostic) : Stream :=
  match s.write (.diagnostic d) with
  | (.ok (), s) => s.flush.2
  | (.error _, s) => s

/-- Takes what another program writes. -/
def receive (s : Stream) (data : Bytes) : Stream :=
  if data.isEmpty then s else { s with log := s.log ++ [.receive data] }

end Stream

end CommandShell
