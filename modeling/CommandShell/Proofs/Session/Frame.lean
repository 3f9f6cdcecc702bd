import CommandShell.Proofs.Session.Program
import CommandShell.Proofs.Session.Record

/-!
# What commands do to a session

A command is put together from a few steps: it sets variables, goes to another directory, writes, flushes,
and takes over what a program has left. What holds of each of these steps, and of steps behind one
another, holds of every command, whether it succeeds or fails; only the command that defines aliases takes
more.

In particular the aliases are left as they are by every other command, since none of the steps changes
them. Commands and lines have a few steps more at their end: to report, to keep a status, to take a number.
What holds of these too, holds of every line.

## Main definitions
* `IsFrame`: a relation between the sessions before and after each step.
* `IsLineFrame`: a relation that holds of the last steps too.
* `LeadsAlong`: an action that leads along a relation.

## Main results
* `IsFrame.runCommand`: commands lead along every frame.
* `IsFrame.defineAliases`: so does the command that defines aliases, if defining and reporting do.
* `aliases_dispatch`: only the builtin that defines aliases changes them.
* `IsLineFrame.executeLine`: lines lead along every frame for them.
-/

namespace CommandShell

/-- The action leads from a session only to sessions that stand to it in the relation, also where it
fails. -/
def LeadsAlong {α : Type} (R : Session → Session → Prop) (action : Action α) : Prop :=
  ∀ s, R s (action.run s).2

/-- The relation holds of the sessions before and after each step that a command is made of, other than
those on aliases, and of several steps together. -/
structure IsFrame (machine : Machine) (R : Session → Session → Prop) : Prop where
  refl : ∀ s, R s s
  trans : ∀ {s t u}, R s t → R t u → R s u
  env : ∀ s env, R s { s with env }
  disk : ∀ s disk, R s { s with disk }
  out : ∀ s data, R s { s with out := (s.out.write (.bytes data)).2 }
  err : ∀ s data, R s { s with err := (s.err.write (.bytes data)).2 }
  flush : ∀ s : Session, R s s.flush.2
  adopt : ∀ s path words done,
    spawn machine s.disk s.env s.input path words = .ok done → R s (s.adopt done)

namespace IsFrame

variable {machine : Machine} {R : Session → Session → Prop} (h : IsFrame machine R)
  {α β : Type} {action : Action α} {next : α → Action β}

include h

/-! ## Compound actions -/

theorem pure (a : α) : LeadsAlong R (Pure.pure a : Action α) := h.refl

theorem throw (e : CommandError) : LeadsAlong R (throw e : Action α) := h.refl

theorem get : LeadsAlong R (get : Action Session) := h.refl

theorem liftExcept (result : Except CommandError α) : LeadsAlong R (liftExcept result : Action α) := by
  intro s
  cases result <;> exact h.refl s

/-- One action behind another, from a session on. -/
theorem bind_at {s : Session} (haction : R s (action.run s).2) (hnext : ∀ a, LeadsAlong R (next a)) :
    R s ((action >>= next).run s).2 := by
  rw [run_bind]
  generalize action.run s = outcome at haction ⊢
  obtain ⟨result, s'⟩ := outcome
  cases result with
  | ok a => exact h.trans haction (hnext a s')
  | error e => exact haction

theorem bind (haction : LeadsAlong R action) (hnext : ∀ a, LeadsAlong R (next a)) :
    LeadsAlong R (action >>= next) :=
  fun s => h.bind_at (haction s) hnext

omit h in
/-- What follows a look at the session may use that it has not changed since. -/
theorem get_bind {next : Session → Action β} (hnext : ∀ s, R s ((next s).run s).2) :
    LeadsAlong R (MonadState.get >>= next) := hnext

theorem forM {γ : Type} {f : γ → Action PUnit} (hf : ∀ a, LeadsAlong R (f a)) (xs : List γ) :
    LeadsAlong R (xs.forM f) := by
  induction xs with
  | nil => exact h.pure _
  | cons a xs ih => exact h.bind (hf a) fun _ => ih

theorem foldlM {γ : Type} {f : β → γ → Action β} {xs : List γ}
    (hf : ∀ b, ∀ a ∈ xs, LeadsAlong R (f b a)) (b : β) : LeadsAlong R (xs.foldlM f b) := by
  induction xs generalizing b with
  | nil => exact h.pure b
  | cons a xs ih =>
      exact h.bind (hf b a (List.mem_cons_self ..)) fun b =>
        ih (fun b a ha => hf b a (List.mem_cons_of_mem _ ha)) b

/-! ## Writing -/

theorem writeAll_out {chunks : List Chunk} (hchunks : ∀ chunk ∈ chunks, ∃ data, chunk = .bytes data)
    (s : Session) : R s { s with out := (s.out.writeAll chunks).2 } := by
  induction chunks generalizing s with
  | nil => exact h.refl s
  | cons chunk rest ih =>
      obtain ⟨data, rfl⟩ := hchunks chunk (List.mem_cons_self ..)
      have hstep := h.out s data
      rw [Stream.writeAll]
      generalize s.out.write (.bytes data) = outcome at hstep
      obtain ⟨result, out⟩ := outcome
      cases result with
      | ok done =>
          exact h.trans hstep (ih (fun other hother => hchunks other (List.mem_cons_of_mem _ hother))
            { s with out })
      | error cause => exact hstep

theorem writeAll_err {chunks : List Chunk} (hchunks : ∀ chunk ∈ chunks, ∃ data, chunk = .bytes data)
    (s : Session) : R s { s with err := (s.err.writeAll chunks).2 } := by
  induction chunks generalizing s with
  | nil => exact h.refl s
  | cons chunk rest ih =>
      obtain ⟨data, rfl⟩ := hchunks chunk (List.mem_cons_self ..)
      have hstep := h.err s data
      rw [Stream.writeAll]
      generalize s.err.write (.bytes data) = outcome at hstep
      obtain ⟨result, err⟩ := outcome
      cases result with
      | ok done =>
          exact h.trans hstep (ih (fun other hother => hchunks other (List.mem_cons_of_mem _ hother))
            { s with err })
      | error cause => exact hstep

theorem writeOut (command : Text) {chunks : List Chunk}
    (hchunks : ∀ chunk ∈ chunks, ∃ data, chunk = .bytes data) :
    LeadsAlong R (writeOut command chunks) := by
  refine get_bind fun s => ?_
  refine h.bind_at (h.writeAll_out hchunks s) fun _ => ?_
  split
  · exact h.pure ()
  · exact h.throw _

theorem writeErr (command : Text) {chunks : List Chunk}
    (hchunks : ∀ chunk ∈ chunks, ∃ data, chunk = .bytes data) :
    LeadsAlong R (writeErr command chunks) := by
  refine get_bind fun s => ?_
  refine h.bind_at (h.writeAll_err hchunks s) fun _ => ?_
  split
  · exact h.pure ()
  · exact h.throw _

/-! ## Builtins and programs -/

section

open Builtin

theorem setDirectory (name : Text) (path : Bytes) : LeadsAlong R (setDirectory name path) := by
  refine h.bind h.get fun s => ?_
  split
  · exact fun s => h.env s _
  · exact h.throw _

theorem changeDirectory (operands : List Text) : LeadsAlong R (changeDirectory operands) := by
  refine h.bind h.get fun s => h.bind (h.liftExcept _) fun previous => ?_
  refine h.bind h.get fun s => h.bind (h.liftExcept _) fun target => ?_
  refine h.bind h.get fun s => h.bind (h.liftExcept _) fun disk => ?_
  refine h.bind (fun s => h.disk s _) fun _ => h.bind (h.liftExcept _) fun current => ?_
  refine h.bind (h.setDirectory _ _) fun _ => h.bind (h.setDirectory _ _) fun _ => ?_
  split
  · refine h.bind (h.writeOut _ fun chunk hchunk => ?_) fun _ => h.pure _
    rcases List.mem_append.mp hchunk with hchunk | hchunk
    · obtain ⟨text, -, rfl⟩ := List.mem_map.mp hchunk
      exact ⟨_, rfl⟩
    · exact ⟨_, List.mem_singleton.mp hchunk⟩
  · exact h.pure _

theorem listVariables : LeadsAlong R listVariables := by
  refine h.bind h.get fun s => h.bind (h.writeOut _ fun chunk hchunk => ?_) fun _ => h.pure _
  obtain ⟨data, -, rfl⟩ := List.mem_map.mp hchunk
  exact ⟨data, rfl⟩

theorem leave (operands : List Text) : LeadsAlong R (leave operands) := by
  cases operands with
  | nil => exact h.pure _
  | cons operand rest =>
      rw [Builtin.leave]
      cases parseStatus? operand with
      | some status => exact h.pure _
      | none => exact h.throw _

theorem help (operands : List Text) : LeadsAlong R (help operands) := by
  have htext : ∀ text : Text, ∀ chunk ∈ [Chunk.text text], ∃ data, chunk = .bytes data :=
    fun text chunk hchunk => ⟨_, List.mem_singleton.mp hchunk⟩
  cases operands with
  | nil => exact h.bind (h.writeOut _ (htext _)) fun _ => h.pure _
  | cons name rest =>
      rw [Builtin.help]
      cases topic? name with
      | some text => exact h.bind (h.writeOut _ (htext _)) fun _ => h.pure _
      | none =>
          refine h.bind h.get fun s => h.bind (h.writeErr _ fun chunk hchunk => ?_) fun _ => h.pure _
          simp only [noTopic, List.mem_cons, List.not_mem_nil, or_false] at hchunk
          rcases hchunk with rfl | rfl | rfl | rfl <;> exact ⟨_, rfl⟩

theorem setVariable (operands : List Text) : LeadsAlong R (setVariable operands) := by
  unfold Builtin.setVariable
  split
  · refine h.bind h.get fun s => ?_
    split
    · exact h.bind (fun s => h.env s _) fun _ => h.pure _
    · exact h.throw _
  · exact h.throw _

theorem unsetVariable (operands : List Text) : LeadsAlong R (unsetVariable operands) := by
  cases operands with
  | nil => exact h.throw _
  | cons name rest => exact h.bind (fun s => h.env s _) fun _ => h.pure _

theorem runProgram (name : Text) (words : List Text) :
    LeadsAlong R (runProgram machine name words) := by
  intro s
  rw [run_runProgram]
  cases s.programPath? name with
  | none => exact h.refl s
  | some path =>
      obtain ⟨out, err, hafter⟩ := s.exists_flush
      have hflush := h.flush s
      simp only
      generalize s.flush = outcome at hafter hflush
      obtain ⟨result, t⟩ := outcome
      obtain rfl : t = { s with out, err } := hafter
      cases result with
      | error cause => exact hflush
      | ok done =>
          cases hspawn : spawn machine s.disk s.env s.input path words with
          | ok done => exact h.trans hflush (h.adopt { s with out, err } path words done hspawn)
          | error refusal => exact hflush

/-- The command that defines aliases, if each definition among its operands does. -/
theorem defineAliases {operands : List Text}
    (haliases : ∀ operand ∈ operands, ∀ name value, definition? operand = some (name, value) →
      ∀ s : Session, R s { s with aliases := s.aliases.add name (stripQuotes value) })
    (hreport : ∀ s e, R s (s.report e)) : LeadsAlong R (defineAliases operands) := by
  have hshow : ∀ name value, LeadsAlong R (showAlias name value) := by
    intro name value
    refine h.writeOut _ fun chunk hchunk => ?_
    simp only [aliasLine, List.mem_cons, List.not_mem_nil, or_false] at hchunk
    rcases hchunk with rfl | rfl | rfl | rfl <;> exact ⟨_, rfl⟩
  have htake : ∀ status, ∀ operand ∈ operands, LeadsAlong R (takeOperand status operand) := by
    intro status operand hoperand
    rw [takeOperand]
    split
    · rename_i name value hdefinition
      exact h.bind (haliases operand hoperand name value hdefinition) fun _ => h.pure _
    · refine h.bind h.get fun s => ?_
      split
      · exact h.bind (hshow _ _) fun _ => h.pure _
      · exact h.bind (fun s => hreport s _) fun _ => h.pure _
  rw [Builtin.defineAliases]
  split
  · exact h.bind h.get fun s => h.bind (h.forM (fun entry => hshow _ _) _) fun _ => h.pure _
  · exact h.bind (h.foldlM htake _) fun _ => h.pure _

/-- **Commands lead along every frame**, if the one that defines aliases does. -/
theorem runCommand {name : Text} {operands : List Text}
    (hdefining : name = definitionsName → LeadsAlong R (Builtin.defineAliases operands)) :
    LeadsAlong R (runCommand machine name operands) := by
  unfold CommandShell.runCommand
  split
  · rename_i builtin hbuiltin
    have hfound : builtin.name = name := by
      simpa using List.find?_some hbuiltin
    cases builtin with
    | defining => exact hdefining hfound.symm
    | entering => exact h.changeDirectory operands
    | listing => exact h.listVariables
    | leaving => exact h.leave operands
    | helping => exact h.help operands
    | setting => exact h.setVariable operands
    | unsetting => exact h.unsetVariable operands
  · exact h.bind (h.runProgram name _) fun _ => h.pure _

end

end IsFrame

/-! ## Segments and lines -/

/-- A relation that holds of every step of a line. -/
structure IsLineFrame (machine : Machine) (R : Session → Session → Prop) : Prop
    extends IsFrame machine R where
  aliases : ∀ s aliases, R s { s with aliases }
  report : ∀ s e, R s (s.report e)
  lastStatus : ∀ s lastStatus, R s { s with lastStatus }
  advance : ∀ s : Session, R s s.advance

section

variable {machine : Machine} {R : Session → Session → Prop}

section

variable (h : IsFrame machine R) (hreport : ∀ s e, R s (s.report e))
  (hstatus : ∀ s lastStatus, R s { s with lastStatus })

include h hreport hstatus

theorem IsFrame.settle (s : Session) (result : Except CommandError Flow) :
    R s (s.settle result).2 := by
  rcases result with e | status | _ | code
  · exact h.trans (hreport s e) (hstatus _ e.status)
  · exact hstatus s status
  · exact h.refl s
  · exact h.refl s

/-- A command that is run, reported and counted. -/
theorem IsFrame.dispatch (hadvance : ∀ s : Session, R s s.advance) {segment : List Token}
    (hdefining : segment.head?.map Token.word = some Builtin.definitionsName →
      LeadsAlong R (Builtin.defineAliases (segment.tail.map Token.word))) (s : Session) :
    R s (dispatch machine segment s).2 := by
  cases segment with
  | nil => exact h.refl s
  | cons token rest =>
      have hrun : R s ((CommandShell.runCommand machine token.word (rest.map Token.word)).run s).2 :=
        h.runCommand (fun hname => hdefining (by simp [hname])) s
      exact h.trans hrun (h.trans (h.settle hreport hstatus _ _) (hadvance _))

end

/-- No step that a command is made of, other than those on aliases, changes them. -/
theorem isFrame_aliases (machine : Machine) : IsFrame machine fun s t => t.aliases = s.aliases where
  refl _ := rfl
  trans hst htu := htu.trans hst
  env _ _ := rfl
  disk _ _ := rfl
  out _ _ := rfl
  err _ _ := rfl
  flush s := by
    obtain ⟨out, err, hflush⟩ := s.exists_flush
    rw [hflush]
  adopt _ _ _ _ _ := rfl

/-- **A segment whose command does not define aliases leaves them as they are.** -/
theorem aliases_dispatch (machine : Machine) {segment : List Token}
    (h : segment.head?.map Token.word ≠ some Builtin.definitionsName) (s : Session) :
    (dispatch machine segment s).2.aliases = s.aliases :=
  (isFrame_aliases machine).dispatch (fun _ _ => rfl) (fun _ _ => rfl) (fun _ => rfl)
    (fun heq => absurd heq h) s

/-- **Lines lead along every frame for them.** -/
theorem IsLineFrame.executeLine (h : IsLineFrame machine R) (line : Text) (s : Session) :
    R s (executeLine machine line s).2 := by
  have hdefining : ∀ operands, LeadsAlong R (Builtin.defineAliases operands) := fun _ =>
    h.defineAliases (fun _ _ _ _ _ s => h.aliases s _) h.report
  refine executeLine_induction (P := R s) (fun segment t ht => h.trans ht ?_)
    (fun token t ht => h.trans ht (h.trans (h.report t _) (h.lastStatus _ _)))
    (fun t ht => h.trans ht (h.advance t)) line (h.refl s)
  exact h.dispatch h.report h.lastStatus h.advance (fun _ => hdefining _) t

end

end CommandShell
