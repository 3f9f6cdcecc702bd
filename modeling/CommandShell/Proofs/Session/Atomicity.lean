import CommandShell.Builtin
import CommandShell.Proofs.Session.Directory

/-!
# Builtins that refuse

An error of a builtin either tells that reading or writing failed on the way, or refuses what was asked
for. A builtin refuses before it has changed anything: each begins with what may refuse, and all that
comes later can only fail. So the session is as before, and of two variables that are set together neither
is set alone.

## Main definitions
* `CommandError.IsFailure`: errors of reading, writing or starting.
* `OnlyFails`: an action that refuses nothing.
* `IsAtomic`: an action that changes nothing where it refuses.

## Main results
* `isAtomic_run`: every builtin is atomic.
* `changeDirectory_error_ne_environment`, `env_changeDirectory`: the two variables of the working
  directory are set both or not at all, and setting them never fails.
* `refused_builtin_changes_nothing`: both of it.
-/

namespace CommandShell

open Builtin

/-- The error tells that reading, writing or starting failed, and refuses nothing. -/
def CommandError.IsFailure (e : CommandError) : Prop :=
  ∃ command cause, e = .failed command cause

/-- No error of the action is one that refuses. -/
def OnlyFails {α : Type} (action : Action α) : Prop :=
  ∀ s e, (action.run s).1 = .error e → e.IsFailure

/-- Where the action refuses, the session is as before. -/
def IsAtomic {α : Type} (action : Action α) : Prop :=
  ∀ s e, (action.run s).1 = .error e → e.IsFailure ∨ (action.run s).2 = s

/-! ## Actions that refuse nothing -/

namespace OnlyFails

variable {α β : Type}

theorem pure (a : α) : OnlyFails (Pure.pure a : Action α) :=
  fun _ _ herror => nomatch herror

theorem get : OnlyFails (get : Action Session) :=
  fun _ _ herror => nomatch herror

theorem modify (f : Session → Session) : OnlyFails (modify f : Action PUnit) :=
  fun _ _ herror => nomatch herror

theorem failed (command : Text) (cause : Failure) :
    OnlyFails (throw (.failed command cause) : Action α) := by
  intro s e herror
  obtain rfl := Except.error.inj herror
  exact ⟨command, cause, rfl⟩

theorem bind {action : Action α} {next : α → Action β} (h : OnlyFails action)
    (hnext : ∀ a, OnlyFails (next a)) : OnlyFails (action >>= next) := by
  intro s e herror
  have haction := h s
  rw [run_bind] at herror
  generalize action.run s = outcome at haction herror
  obtain ⟨result, s'⟩ := outcome
  cases result with
  | ok a => exact hnext a s' e herror
  | error e' =>
      obtain rfl := Except.error.inj herror
      exact haction e' rfl

theorem forM {f : α → Action PUnit} (h : ∀ a, OnlyFails (f a)) (xs : List α) :
    OnlyFails (xs.forM f) := by
  induction xs with
  | nil => exact pure _
  | cons a xs ih => exact bind (h a) fun _ => ih

theorem foldlM {f : β → α → Action β} (h : ∀ b a, OnlyFails (f b a)) (xs : List α) (b : β) :
    OnlyFails (xs.foldlM f b) := by
  induction xs generalizing b with
  | nil => exact pure b
  | cons a xs ih => exact bind (h b a) ih

theorem writeOut (command : Text) (chunks : List Chunk) : OnlyFails (writeOut command chunks) := by
  refine bind get fun s => bind (modify _) fun _ => ?_
  split
  · exact pure _
  · exact failed command _

theorem writeErr (command : Text) (chunks : List Chunk) : OnlyFails (writeErr command chunks) := by
  refine bind get fun s => bind (modify _) fun _ => ?_
  split
  · exact pure _
  · exact failed command _

/-- To define and show aliases refuses nothing: a name that is not there is reported, and is no error of
the command. -/
theorem defineAliases (operands : List Text) : OnlyFails (defineAliases operands) := by
  have htake : ∀ status operand, OnlyFails (takeOperand status operand) := by
    intro status operand
    rw [takeOperand]
    split
    · exact bind (modify _) fun _ => pure _
    · refine bind get fun s => ?_
      split
      · exact bind (writeOut _ _) fun _ => pure _
      · exact bind (modify _) fun _ => pure _
  rw [Builtin.defineAliases]
  split
  · exact bind get fun s => bind (forM (fun entry => writeOut _ _) _) fun _ => pure _
  · exact bind (foldlM htake _ _) fun _ => pure _

theorem listVariables : OnlyFails listVariables :=
  bind get fun _ => bind (writeOut _ _) fun _ => pure _

theorem help (operands : List Text) : OnlyFails (help operands) := by
  cases operands with
  | nil => exact bind (writeOut _ _) fun _ => pure _
  | cons name rest =>
      rw [Builtin.help]
      cases topic? name with
      | some text => exact bind (writeOut _ _) fun _ => pure _
      | none => exact bind get fun _ => bind (writeErr _ _) fun _ => pure _

end OnlyFails

/-! ## Actions that refuse before they change anything -/

theorem OnlyFails.isAtomic {α : Type} {action : Action α} (h : OnlyFails action) : IsAtomic action :=
  fun s e herror => .inl (h s e herror)

namespace IsAtomic

theorem throw {α : Type} (e : CommandError) : IsAtomic (throw e : Action α) :=
  fun _ _ _ => .inr rfl

/-- To look at the session changes nothing. -/
theorem get_bind {α : Type} {next : Session → Action α} (h : ∀ s, IsAtomic (next s)) :
    IsAtomic (get >>= next) :=
  fun s => h s s

theorem leave (operands : List Text) : IsAtomic (leave operands) := by
  cases operands with
  | nil => exact (OnlyFails.pure _).isAtomic
  | cons operand rest =>
      rw [Builtin.leave]
      cases parseStatus? operand with
      | some status => exact (OnlyFails.pure _).isAtomic
      | none => exact throw _

theorem setVariable (operands : List Text) : IsAtomic (setVariable operands) := by
  unfold Builtin.setVariable
  split
  · refine get_bind fun s => ?_
    split
    · exact (OnlyFails.bind (.modify _) fun _ => .pure _).isAtomic
    · exact throw _
  · exact throw _

theorem unsetVariable (operands : List Text) : IsAtomic (unsetVariable operands) := by
  cases operands with
  | nil => exact throw _
  | cons name rest => exact (OnlyFails.bind (.modify _) fun _ => .pure _).isAtomic

/-- The working directory is changed only when nothing can refuse any more. -/
theorem changeDirectory (operands : List Text) : IsAtomic (changeDirectory operands) := by
  intro s e herror
  obtain ⟨refusal, hrun, -⟩ | ⟨disk, out, result, hrun, hresult, -⟩ := changeDirectory_cases operands s
  · exact .inr (by rw [hrun])
  · rw [hrun] at herror
    obtain rfl : result = .error e := herror
    obtain hstatus | ⟨cause, hcause⟩ := hresult
    · cases hstatus
    · exact .inl ⟨directoryName, cause, Except.error.inj hcause⟩

end IsAtomic

/-- **Every builtin is atomic.** -/
theorem isAtomic_run (builtin : Builtin) (operands : List Text) : IsAtomic (builtin.run operands) := by
  cases builtin with
  | defining => exact (OnlyFails.defineAliases operands).isAtomic
  | entering => exact .changeDirectory operands
  | listing => exact OnlyFails.listVariables.isAtomic
  | leaving => exact .leave operands
  | helping => exact (OnlyFails.help operands).isAtomic
  | setting => exact .setVariable operands
  | unsetting => exact .unsetVariable operands

/-! ## The two variables of the working directory -/

/-- What keeps a call from any directory is not the environment. -/
theorem arrival_ne_environment (operands : List Text) (s : Session) (command : Text) :
    arrival operands s ≠ .error (.environment command) := by
  intro herror
  rcases arrival_eq_error_iff.mp herror with htarget | ⟨target, -, hgo⟩
  · unfold destination at htarget
    split at htarget
    · split at htarget <;> cases htarget
    split at htarget
    · cases htarget
    split at htarget
    · cases htarget
    split at htarget <;> cases htarget
  · cases target with
    | none => cases hgo
    | some path =>
        rw [go] at hgo
        generalize s.disk.enter path = entered at hgo
        cases entered <;> cases hgo

/-- **The variables of the working directory can always be set.** -/
theorem changeDirectory_error_ne_environment (operands : List Text) (s : Session) (command : Text) :
    ((changeDirectory operands).run s).1 ≠ .error (.environment command) := by
  intro herror
  obtain ⟨refusal, hrun, hrefusal⟩ | ⟨disk, out, result, hrun, hresult, -⟩ :=
    changeDirectory_cases operands s
  · rw [hrun] at herror
    obtain rfl := Except.error.inj herror
    obtain hgone | harrival := hrefusal
    · cases hgone
    · exact arrival_ne_environment operands s command harrival
  · rw [hrun] at herror
    obtain rfl : result = .error (.environment command) := herror
    obtain hstatus | ⟨cause, hcause⟩ := hresult
    · cases hstatus
    · cases hcause

/-- **The two variables are set together**, the one for the directory before the change first. -/
theorem env_changeDirectory (operands : List Text) (s : Session) :
    let t := ((changeDirectory operands).run s).2
    t.env = s.env ∨ ∃ previous current env,
      s.disk.currentDirectory = .ok previous ∧ t.disk.currentDirectory = .ok current ∧
      s.env.set previousVariable previous = .ok env ∧ env.set currentVariable current = .ok t.env := by
  intro t
  obtain ⟨e, hrun, -⟩ | ⟨disk, out, result, hrun, -, hthere, harrival⟩ := changeDirectory_cases operands s
  · have ht : t = s := congrArg Prod.snd hrun
    exact .inl (by rw [ht])
  · have ht : t = { s.moved disk with out } := congrArg Prod.snd hrun
    rw [ht]
    refine .inr ⟨s.disk.cwd.place.path, disk.cwd.place.path, _, ?_, ?_, rfl, rfl⟩
    · exact Disk.currentDirectory_eq_ok_iff.mpr ⟨hthere, rfl⟩
    · exact Disk.currentDirectory_eq_ok_iff.mpr ⟨isThere_of_arrival hthere harrival, rfl⟩

/-- **A builtin that refuses changes nothing**, whatever its operands. The command that changes the working
directory never refuses for the environment: of its two variables it sets both or none. -/
theorem refused_builtin_changes_nothing (operands : List Text) (s : Session) :
    (∀ builtin e t, (Builtin.run builtin operands).run s = (.error e, t) → ¬ e.IsFailure → t = s) ∧
      ∀ result t, (changeDirectory operands).run s = (result, t) →
        (∀ command, result ≠ .error (.environment command)) ∧
        (t.env = s.env ∨ ∃ previous current env,
          s.disk.currentDirectory = .ok previous ∧ t.disk.currentDirectory = .ok current ∧
          s.env.set previousVariable previous = .ok env ∧
          env.set currentVariable current = .ok t.env) := by
  constructor
  · intro builtin e t hrun hrefuses
    have hatomic := isAtomic_run builtin operands s e
    rw [hrun] at hatomic
    exact (hatomic rfl).resolve_left hrefuses
  · intro result t hrun
    have herror := changeDirectory_error_ne_environment operands s
    have henv := env_changeDirectory operands s
    rw [hrun] at herror henv
    exact ⟨herror, henv⟩

/-- To set a variable without a value. -/
theorem refused_builtin_changes_nothing_of_setting :
    let s := Session.new "husk".toList 1 .empty ⟨.empty, .root⟩
    let outcome := (Builtin.run .setting [['A']]).run s
    outcome.1 = .error (.environment setName) ∧ outcome.2 = s := by
  intro s outcome
  obtain ⟨hatomic, -⟩ := refused_builtin_changes_nothing [['A']] s
  refine ⟨rfl, hatomic .setting (.environment setName) outcome.2 rfl ?_⟩
  rintro ⟨command, cause, hfailure⟩
  cases hfailure

end CommandShell
