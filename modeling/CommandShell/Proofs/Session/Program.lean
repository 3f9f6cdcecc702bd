import CommandShell.Proofs.Session.Action
import CommandShell.Session.Dispatch

/-!
# Starting programs

A program is looked for, both streams are flushed, and what was found is started. The streams are all
that flushing changes, so what is started does not depend on it.

## Main results
* `Session.exists_flush`: what flushing changes.
* `run_runProgram`: what a program comes to.
-/

namespace CommandShell

namespace Session

/-- To flush changes the two streams alone. -/
theorem exists_flush (s : Session) : ∃ out err, s.flush.2 = { s with out, err } := by
  rw [flush]
  generalize s.out.flush = outcome
  obtain ⟨_ | _, out⟩ := outcome
  · exact ⟨out, s.err, rfl⟩
  · exact ⟨out, s.err.flush.2, rfl⟩

end Session

/-- **What a program comes to**: it is found, both streams are flushed, and it is started. -/
theorem run_runProgram (machine : Machine) (name : Text) (words : List Text) (s : Session) :
    (runProgram machine name words).run s =
      match s.programPath? name with
      | none => (.error (.notFound name), s)
      | some path =>
        match s.flush with
        | (.error cause, t) => (.error (.failed name cause), t)
        | (.ok (), t) =>
          match spawn machine s.disk s.env s.input path words with
          | .ok done => (.ok done.ending.status, t.adopt done)
          | .error refusal => (.error (refusal.commandError name), t) := by
  obtain ⟨out, err, hflush⟩ := s.exists_flush
  simp only [runProgram, run_bind, run_get]
  cases s.programPath? name with
  | none => rfl
  | some path =>
      have hset : ∀ t : Session, (set t : Action PUnit).run s = (.ok ⟨⟩, t) := fun _ => rfl
      simp only [run_bind, run_get, run_liftExcept, hset]
      generalize s.flush = outcome at hflush
      obtain ⟨result, t⟩ := outcome
      obtain rfl : t = { s with out, err } := hflush
      cases result with
      | error cause => rfl
      | ok done =>
          have hflushed : (Except.ok done).mapError (CommandError.failed name) = .ok done := rfl
          simp only [hflushed]
          cases spawn machine s.disk s.env s.input path words <;> rfl

end CommandShell
