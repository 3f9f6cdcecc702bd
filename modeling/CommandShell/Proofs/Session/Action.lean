import CommandShell.Proofs.Stream
import CommandShell.Session

/-!
# Running actions

An action behind another starts from the session that the first one leaves, unless that fails. To write is
to write to the one stream, and fails as the stream does; to flush changes the two streams alone.

## Main results
* `run_bind`, `run_bind_of_ok`: one action behind another.
* `run_writeOut`, `run_writeErr`: what is left of writing.
* `Session.flush_of_out`: what is left of flushing.
-/

namespace CommandShell

/-! ## Single actions -/

section

variable {α β : Type} (s : Session)

@[simp] theorem run_pure (a : α) : (pure a : Action α).run s = (.ok a, s) := rfl

@[simp] theorem run_throw (e : CommandError) : (throw e : Action α).run s = (.error e, s) := rfl

@[simp] theorem run_get : (get : Action Session).run s = (.ok s, s) := rfl

@[simp] theorem run_modify (f : Session → Session) :
    (modify f : Action PUnit).run s = (.ok ⟨⟩, f s) := rfl

@[simp] theorem run_liftExcept (result : Except CommandError α) :
    (liftExcept result : Action α).run s = (result, s) := by
  cases result <;> rfl

/-- What follows an action starts from the session that the action leaves, unless that fails. -/
theorem run_bind (action : Action α) (next : α → Action β) :
    (action >>= next).run s =
      match action.run s with
      | (.ok a, t) => (next a).run t
      | (.error e, t) => (.error e, t) := by
  have hrun : (action >>= next).run s = ExceptT.bindCont next (action.run s).1 (action.run s).2 := rfl
  rw [hrun]
  generalize action.run s = outcome
  obtain ⟨result, t⟩ := outcome
  cases result <;> rfl

theorem run_bind_of_ok {action : Action α} {a : α} {s t : Session} (h : action.run s = (.ok a, t))
    (next : α → Action β) : (action >>= next).run s = (next a).run t := by
  rw [run_bind, h]

end

/-! ## Writing -/

/-- **Writing changes the stream alone**, and fails as the stream does. -/
theorem run_writeOut (command : Text) (chunks : List Chunk) (s : Session) :
    (writeOut command chunks).run s =
      ((s.out.writeAll chunks).1.mapError (.failed command),
        { s with out := (s.out.writeAll chunks).2 }) := by
  simp only [writeOut, run_bind, run_get]
  generalize s.out.writeAll chunks = outcome
  obtain ⟨result, out⟩ := outcome
  cases result <;> rfl

theorem run_writeErr (command : Text) (chunks : List Chunk) (s : Session) :
    (writeErr command chunks).run s =
      ((s.err.writeAll chunks).1.mapError (.failed command),
        { s with err := (s.err.writeAll chunks).2 }) := by
  simp only [writeErr, run_bind, run_get]
  generalize s.err.writeAll chunks = outcome
  obtain ⟨result, err⟩ := outcome
  cases result <;> rfl

theorem writeOut_of_writeAll {chunks : List Chunk} {s : Session}
    (h : (s.out.writeAll chunks).1 = .ok ()) (command : Text) :
    (writeOut command chunks).run s = (.ok (), { s with out := (s.out.writeAll chunks).2 }) := by
  rw [run_writeOut, h]
  rfl

/-! ## Flushing -/

namespace Session

/-- Where the output stream can be flushed, the diagnostic stream is flushed behind it. -/
theorem flush_of_out {s : Session} (h : s.out.flush.1 = .ok ()) :
    s.flush = (s.err.flush.1, { s with out := s.out.flush.2, err := s.err.flush.2 }) := by
  rw [flush]
  generalize s.out.flush = outcome at h
  obtain ⟨result, out⟩ := outcome
  obtain rfl := h
  rfl

/-- Where the output stream cannot be flushed, nothing else is done. -/
theorem flush_of_out_error {s : Session} {cause : Failure} (h : s.out.flush.1 = .error cause) :
    s.flush = (.error cause, { s with out := s.out.flush.2 }) := by
  rw [flush]
  generalize s.out.flush = outcome at h
  obtain ⟨result, out⟩ := outcome
  obtain rfl := h
  rfl

end Session

end CommandShell
