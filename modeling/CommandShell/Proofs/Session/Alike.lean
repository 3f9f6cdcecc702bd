import CommandShell.Proofs.Session.Program
import CommandShell.Proofs.Session.Record

/-!
# Sessions that report in different ways

A session reports on its diagnostic stream, under the number of the next command. What a line does hardly
depends on either: help on an unknown name is written to that stream and fails as it does, and the stream
is flushed before a program starts, which then writes to it. Nothing else reads the stream, and nothing
reads the number. So sessions that differ in nothing but their reports go the same way side by side.

How the reports may differ is a parameter here: any relation that holds on if both sessions report the
same error or take a number.

## Main definitions
* `Reporting`: the stream and the number.
* `Alike`: sessions that differ only in how they report.
* `IsKeptByReports`, `IsKept`: relations that hold on.
* `EndsAlike`: what comes of two runs is the same, but for the reports.
* `SideBySide`: an action that ends alike wherever it begins alike.

## Main results
* `sideBySide_run`, `runProgram_endsAlike`: builtins and programs.
* `dispatch_endsAlike`: commands.
* `executeLine_endsAlike`: a line ends alike if each of its commands does.
-/

namespace CommandShell

/-- How a session reports. -/
structure Reporting where
  err : Stream
  /-- The number of the next command. -/
  counter : UInt64

namespace Reporting

/-- After an error has been reported. -/
def report (r : Reporting) (program : Text) (e : CommandError) : Reporting :=
  { r with err := r.err.report ⟨program, r.counter, e⟩ }

/-- After the stream has been flushed. -/
def flush (r : Reporting) : Reporting :=
  { r with err := r.err.flush.2 }

/-- After a command has taken its number. -/
def advance (r : Reporting) : Reporting :=
  { r with counter := r.counter + 1 }

end Reporting

namespace Session

/-- How the session reports. -/
def reporting (s : Session) : Reporting :=
  ⟨s.err, s.counter⟩

/-- The same session, but that it reports in this way. -/
def reportingBy (s : Session) (r : Reporting) : Session :=
  { s with err := r.err, counter := r.counter }

end Session

/-- The sessions differ only in how they report, and there they stand in the relation. -/
def Alike (E : Reporting → Reporting → Prop) (s t : Session) : Prop :=
  ∃ r, t = s.reportingBy r ∧ E s.reporting r

/-- The relation holds on when both report the same error, and when both take a number. -/
structure IsKeptByReports (E : Reporting → Reporting → Prop) : Prop where
  report : ∀ {r r'}, E r r' → ∀ program e, E (r.report program e) (r'.report program e)
  advance : ∀ {r r'}, E r r' → E r.advance r'.advance

/-- The relation holds on whatever is done with the diagnostic stream, and this comes out the same. -/
structure IsKept (E : Reporting → Reporting → Prop) : Prop extends IsKeptByReports E where
  write : ∀ {r r'}, E r r' → ∀ data, (r'.err.write (.bytes data)).1 = (r.err.write (.bytes data)).1 ∧
    E { r with err := (r.err.write (.bytes data)).2 } { r' with err := (r'.err.write (.bytes data)).2 }
  receive : ∀ {r r'}, E r r' → ∀ data,
    E { r with err := r.err.receive data } { r' with err := r'.err.receive data }
  flush : ∀ {r r'}, E r r' → r'.err.flush.1 = r.err.flush.1 ∧ E r.flush r'.flush

/-- The outcomes are the same, and the states behind them stand in the relation. -/
def EndsAlike {α σ τ : Type} (R : σ → τ → Prop) (outcome : α × σ) (outcome' : α × τ) : Prop :=
  outcome'.1 = outcome.1 ∧ R outcome.2 outcome'.2

/-- Where the action begins alike, it ends alike. -/
def SideBySide {α : Type} (E : Reporting → Reporting → Prop) (action : Action α) : Prop :=
  ∀ s t, Alike E s t → EndsAlike (Alike E) (action.run s) (action.run t)

/-! ## Actions -/

namespace SideBySide

variable {E : Reporting → Reporting → Prop} {α β : Type} {action : Action α} {next : α → Action β}

theorem pure (a : α) : SideBySide E (Pure.pure a : Action α) := fun _ _ h => ⟨rfl, h⟩

theorem throw (e : CommandError) : SideBySide E (throw e : Action α) := fun _ _ h => ⟨rfl, h⟩

theorem liftExcept (result : Except CommandError α) : SideBySide E (liftExcept result : Action α) := by
  intro s t h
  rw [run_liftExcept, run_liftExcept]
  exact ⟨rfl, h⟩

/-- One action behind another, from two sessions on. -/
theorem bind_at {s t : Session} (haction : EndsAlike (Alike E) (action.run s) (action.run t))
    (hnext : ∀ a, SideBySide E (next a)) :
    EndsAlike (Alike E) ((action >>= next).run s) ((action >>= next).run t) := by
  rw [run_bind, run_bind]
  generalize action.run s = outcome at haction ⊢
  generalize action.run t = outcome' at haction ⊢
  obtain ⟨result, s'⟩ := outcome
  obtain ⟨result', t'⟩ := outcome'
  obtain ⟨rfl, hafter⟩ : result' = result ∧ Alike E s' t' := haction
  cases result' with
  | ok a => exact hnext a s' t' hafter
  | error e => exact ⟨rfl, hafter⟩

theorem bind (haction : SideBySide E action) (hnext : ∀ a, SideBySide E (next a)) :
    SideBySide E (action >>= next) :=
  fun s t h => bind_at (haction s t h) hnext

/-- What follows a look at the session must not depend on how it reports. -/
theorem get_bind {next : Session → Action β} (hnext : ∀ s, SideBySide E (next s))
    (hsame : ∀ s r, next (s.reportingBy r) = next s) : SideBySide E (get >>= next) := by
  rintro s t ⟨r, rfl, hr⟩
  have hrun : ∀ u, (get >>= next : Action β).run u = (next u).run u := fun u => run_bind u _ _
  rw [hrun, hrun, hsame]
  exact hnext s s _ ⟨r, rfl, hr⟩

theorem report (hE : IsKeptByReports E) (e : CommandError) :
    SideBySide E (modify (·.report e) : Action PUnit) := by
  rintro s t ⟨r, rfl, hr⟩
  exact ⟨rfl, _, rfl, hE.report hr s.program e⟩

theorem modify {f : Session → Session} (hsame : ∀ s r, f (s.reportingBy r) = (f s).reportingBy r)
    (hkeeps : ∀ s, (f s).reporting = s.reporting) : SideBySide E (modify f : Action PUnit) := by
  rintro s t ⟨r, rfl, hr⟩
  rw [run_modify, run_modify]
  exact ⟨rfl, r, hsame s r, by rwa [hkeeps]⟩

theorem forM {γ : Type} {f : γ → Action PUnit} (hf : ∀ a, SideBySide E (f a)) (xs : List γ) :
    SideBySide E (xs.forM f) := by
  induction xs with
  | nil => exact pure _
  | cons a xs ih => exact bind (hf a) fun _ => ih

theorem foldlM {γ : Type} {f : β → γ → Action β} (hf : ∀ b a, SideBySide E (f b a)) (xs : List γ)
    (b : β) : SideBySide E (xs.foldlM f b) := by
  induction xs generalizing b with
  | nil => exact pure b
  | cons a xs ih => exact bind (hf b a) ih

theorem writeOut (command : Text) (chunks : List Chunk) :
    SideBySide E (writeOut command chunks) := by
  rintro s t ⟨r, rfl, hr⟩
  rw [run_writeOut, run_writeOut]
  exact ⟨rfl, r, rfl, hr⟩

end SideBySide

/-! ## Builtins -/

section

variable {E : Reporting → Reporting → Prop}

/-- Bytes that both write come out the same. -/
theorem IsKept.writeAll (hE : IsKept E) {chunks : List Chunk}
    (hchunks : ∀ chunk ∈ chunks, ∃ data, chunk = .bytes data) {r r' : Reporting} (h : E r r') :
    (r'.err.writeAll chunks).1 = (r.err.writeAll chunks).1 ∧
      E { r with err := (r.err.writeAll chunks).2 } { r' with err := (r'.err.writeAll chunks).2 } := by
  induction chunks generalizing r r' with
  | nil => exact ⟨rfl, h⟩
  | cons chunk rest ih =>
      obtain ⟨⟨data, rfl⟩, hrest⟩ := List.forall_mem_cons.mp hchunks
      obtain ⟨hresult, hafter⟩ := hE.write h data
      rw [Stream.writeAll, Stream.writeAll]
      generalize r.err.write (.bytes data) = outcome at hresult hafter ⊢
      generalize r'.err.write (.bytes data) = outcome' at hresult hafter ⊢
      obtain ⟨result, err⟩ := outcome
      obtain ⟨result', err'⟩ := outcome'
      obtain rfl : result' = result := hresult
      cases result' with
      | ok done => exact ih hrest hafter
      | error cause => exact ⟨rfl, hafter⟩

open Builtin

namespace SideBySide

theorem writeErr (hE : IsKept E) (command : Text) {chunks : List Chunk}
    (hchunks : ∀ chunk ∈ chunks, ∃ data, chunk = .bytes data) :
    SideBySide E (writeErr command chunks) := by
  rintro s t ⟨r, rfl, hr⟩
  obtain ⟨hresult, hafter⟩ := hE.writeAll hchunks hr
  rw [run_writeErr, run_writeErr]
  exact ⟨congrArg (Except.mapError _) hresult, _, rfl, hafter⟩

theorem defineAliases (hE : IsKeptByReports E) (operands : List Text) :
    SideBySide E (defineAliases operands) := by
  have hshow : ∀ name value, SideBySide E (showAlias name value) := fun _ _ => writeOut _ _
  have htake : ∀ status operand, SideBySide E (takeOperand status operand) := by
    intro status operand
    rw [takeOperand]
    split
    · exact bind (modify (fun _ _ => rfl) fun _ => rfl) fun _ => pure _
    · refine get_bind (fun s => ?_) fun _ _ => rfl
      split
      · exact bind (hshow _ _) fun _ => pure _
      · exact bind (report hE _) fun _ => pure _
  rw [Builtin.defineAliases]
  split
  · exact get_bind (fun s => bind (forM (fun _ => hshow _ _) _) fun _ => pure _) fun _ _ => rfl
  · exact bind (foldlM htake _ _) fun _ => pure _

theorem setDirectory (name : Text) (path : Bytes) : SideBySide E (setDirectory name path) := by
  refine get_bind (fun s => ?_) fun _ _ => rfl
  split
  · exact modify (fun _ _ => rfl) fun _ => rfl
  · exact throw _

theorem changeDirectory (operands : List Text) : SideBySide E (changeDirectory operands) := by
  refine get_bind (fun s => bind (liftExcept _) fun previous => ?_) fun _ _ => rfl
  refine get_bind (fun s => bind (liftExcept _) fun target => ?_) fun _ _ => rfl
  refine get_bind (fun s => bind (liftExcept _) fun disk => ?_) fun _ _ => rfl
  refine bind (modify (fun _ _ => rfl) fun _ => rfl) fun _ => bind (liftExcept _) fun current => ?_
  refine bind (setDirectory _ _) fun _ => bind (setDirectory _ _) fun _ => ?_
  split
  · exact bind (writeOut _ _) fun _ => pure _
  · exact pure _

theorem listVariables : SideBySide E listVariables :=
  get_bind (fun _ => bind (writeOut _ _) fun _ => pure _) fun _ _ => rfl

theorem leave (operands : List Text) : SideBySide E (leave operands) := by
  cases operands with
  | nil => exact pure _
  | cons operand rest =>
      rw [Builtin.leave]
      cases parseStatus? operand with
      | some status => exact pure _
      | none => exact throw _

/-- Help on an unknown name is written to the diagnostic stream. -/
theorem help (hE : IsKept E) (operands : List Text) : SideBySide E (help operands) := by
  cases operands with
  | nil => exact bind (writeOut _ _) fun _ => pure _
  | cons name rest =>
      rw [Builtin.help]
      cases topic? name with
      | some text => exact bind (writeOut _ _) fun _ => pure _
      | none =>
          refine get_bind (fun s => bind (writeErr hE _ fun chunk hchunk => ?_) fun _ => pure _)
            fun _ _ => rfl
          simp only [noTopic, List.mem_cons, List.not_mem_nil, or_false] at hchunk
          rcases hchunk with rfl | rfl | rfl | rfl <;> exact ⟨_, rfl⟩

theorem setVariable (operands : List Text) : SideBySide E (setVariable operands) := by
  unfold Builtin.setVariable
  split
  · refine get_bind (fun s => ?_) fun _ _ => rfl
    split
    · exact bind (modify (fun _ _ => rfl) fun _ => rfl) fun _ => pure _
    · exact throw _
  · exact throw _

theorem unsetVariable (operands : List Text) : SideBySide E (unsetVariable operands) := by
  cases operands with
  | nil => exact throw _
  | cons name rest => exact bind (modify (fun _ _ => rfl) fun _ => rfl) fun _ => pure _

end SideBySide

/-- **Builtins end alike**, but help only where writing to the diagnostic stream does. -/
theorem sideBySide_run (hE : IsKeptByReports E) {builtin : Builtin}
    (hhelp : builtin = .helping → IsKept E) (operands : List Text) :
    SideBySide E (builtin.run operands) := by
  cases builtin with
  | defining => exact .defineAliases hE operands
  | entering => exact .changeDirectory operands
  | listing => exact .listVariables
  | leaving => exact .leave operands
  | helping => exact .help (hhelp rfl) operands
  | setting => exact .setVariable operands
  | unsetting => exact .unsetVariable operands

end

/-! ## Programs and commands -/

section

variable {E : Reporting → Reporting → Prop} {machine : Machine} {s t : Session}

/-- Both streams are flushed alike if the diagnostic stream is, where it comes to that. -/
theorem flush_endsAlike {r : Reporting} (h : E s.reporting r)
    (herr : s.out.flush.1 = .ok () →
      r.err.flush.1 = s.err.flush.1 ∧ E s.reporting.flush r.flush) :
    EndsAlike (Alike E) s.flush (s.reportingBy r).flush := by
  have hout : (s.reportingBy r).out = s.out := rfl
  cases hflush : s.out.flush.1 with
  | error cause =>
      rw [Session.flush_of_out_error hflush, Session.flush_of_out_error (hout ▸ hflush)]
      exact ⟨rfl, r, rfl, h⟩
  | ok done =>
      obtain ⟨hresult, hafter⟩ := herr hflush
      rw [Session.flush_of_out hflush, Session.flush_of_out (hout ▸ hflush)]
      exact ⟨hresult, r.flush, rfl, hafter⟩

/-- A program ends alike if it is not found, or if flushing comes out the same and what it leaves is taken
over alike. -/
theorem runProgram_endsAlike (h : Alike E s t) {name : Text} {words : List Text}
    (hflush : ∀ path, s.programPath? name = some path → EndsAlike (Alike E) s.flush t.flush)
    (hadopt : ∀ path done, s.programPath? name = some path → s.flush.1 = .ok () →
      spawn machine s.disk s.env s.input path words = .ok done →
      Alike E (s.flush.2.adopt done) (t.flush.2.adopt done)) :
    EndsAlike (Alike E) ((runProgram machine name words).run s)
      ((runProgram machine name words).run t) := by
  obtain ⟨r, rfl, hr⟩ := id h
  have hpath : (s.reportingBy r).programPath? name = s.programPath? name := rfl
  have hspawn : ∀ path, spawn machine (s.reportingBy r).disk (s.reportingBy r).env
    (s.reportingBy r).input path words = spawn machine s.disk s.env s.input path words := fun _ => rfl
  rw [run_runProgram, run_runProgram, hpath]
  cases hfound : s.programPath? name with
  | none => exact ⟨rfl, h⟩
  | some path =>
      have hflushed := hflush path hfound
      have hadopted := fun done => hadopt path done hfound
      simp only [hspawn]
      generalize s.flush = outcome at hflushed hadopted ⊢
      generalize (s.reportingBy r).flush = outcome' at hflushed hadopted ⊢
      obtain ⟨result, s'⟩ := outcome
      obtain ⟨result', t'⟩ := outcome'
      obtain ⟨rfl, hafter⟩ : result' = result ∧ Alike E s' t' := hflushed
      cases result' with
      | error cause => exact ⟨rfl, hafter⟩
      | ok done =>
          cases hstart : spawn machine s.disk s.env s.input path words with
          | ok done => exact ⟨rfl, hadopted done rfl hstart⟩
          | error refusal => exact ⟨rfl, hafter⟩

/-- Where everything that is done with the diagnostic stream comes out the same, so do programs. -/
theorem IsKept.sideBySide_runProgram (hE : IsKept E) (machine : Machine) (name : Text)
    (words : List Text) : SideBySide E (runProgram machine name words) := by
  rintro s t ⟨r, rfl, hr⟩
  have hflush := flush_endsAlike hr fun _ => hE.flush hr
  refine runProgram_endsAlike ⟨r, rfl, hr⟩ (fun _ _ => hflush) fun path done _ _ _ => ?_
  obtain ⟨-, r', hafter, hr'⟩ := hflush
  rw [hafter]
  exact ⟨_, rfl, hE.receive hr' done.err⟩

/-- Commands other than help end alike if programs do. -/
theorem runCommand_endsAlike (hE : IsKeptByReports E) (h : Alike E s t) {name : Text}
    {operands : List Text} (hhelp : name = Builtin.helpName → IsKept E)
    (hprogram : Builtin.ofName? name = none →
      EndsAlike (Alike E) ((runProgram machine name (name :: operands)).run s)
        ((runProgram machine name (name :: operands)).run t)) :
    EndsAlike (Alike E) ((runCommand machine name operands).run s)
      ((runCommand machine name operands).run t) := by
  unfold runCommand
  split
  · rename_i builtin hbuiltin
    have hfound : builtin.name = name := by simpa using List.find?_some hbuiltin
    refine sideBySide_run hE (fun hhelping => hhelp ?_) operands s t h
    rw [← hfound, hhelping, Builtin.name]
  · rename_i hnone
    exact SideBySide.bind_at (hprogram hnone) fun _ => .pure _

theorem settle_endsAlike (hE : IsKeptByReports E) (h : Alike E s t)
    (result : Except CommandError Flow) : EndsAlike (Alike E) (s.settle result) (t.settle result) := by
  obtain ⟨r, rfl, hr⟩ := h
  rcases result with e | status | _ | code
  · exact ⟨rfl, _, rfl, hE.report hr s.program e⟩
  · exact ⟨rfl, r, rfl, hr⟩
  · exact ⟨rfl, r, rfl, hr⟩
  · exact ⟨rfl, r, rfl, hr⟩

theorem Alike.advance (hE : IsKeptByReports E) (h : Alike E s t) : Alike E s.advance t.advance := by
  obtain ⟨r, rfl, hr⟩ := h
  exact ⟨r.advance, rfl, hE.advance hr⟩

/-- **A command that runs alike is reported and counted alike.** -/
theorem dispatch_endsAlike (hE : IsKeptByReports E) {token : Token} {rest : List Token}
    (h : EndsAlike (Alike E) ((runCommand machine token.word (rest.map Token.word)).run s)
      ((runCommand machine token.word (rest.map Token.word)).run t)) :
    EndsAlike (Alike E) (dispatch machine (token :: rest) s) (dispatch machine (token :: rest) t) := by
  rw [dispatch_cons, dispatch_cons, commandOutcome, commandOutcome]
  generalize (runCommand machine token.word (rest.map Token.word)).run s = outcome at h ⊢
  generalize (runCommand machine token.word (rest.map Token.word)).run t = outcome' at h ⊢
  obtain ⟨result, s'⟩ := outcome
  obtain ⟨result', t'⟩ := outcome'
  obtain ⟨rfl, hafter⟩ : result' = result ∧ Alike E s' t' := h
  obtain ⟨hflow, hsettled⟩ := settle_endsAlike hE hafter result'
  exact ⟨hflow, hsettled.advance hE⟩

/-- Where everything that is done with the diagnostic stream comes out the same, so do commands. -/
theorem IsKept.dispatch_endsAlike (hE : IsKept E) (h : Alike E s t) (tokens : List Token) :
    EndsAlike (Alike E) (dispatch machine tokens s) (dispatch machine tokens t) := by
  cases tokens with
  | nil =>
      obtain ⟨r, rfl, hr⟩ := h
      exact ⟨rfl, r, rfl, hr⟩
  | cons token rest =>
      refine CommandShell.dispatch_endsAlike hE.toIsKeptByReports ?_
      exact runCommand_endsAlike hE.toIsKeptByReports h (fun _ => hE) fun _ =>
        hE.sideBySide_runProgram machine _ _ s t h

end

/-! ## Chains -/

section

variable {σ τ : Type} {P : σ → Prop} {R : σ → τ → Prop}

/-- What comes behind an outcome that does not ask to leave. -/
private def behind {σ : Type} (outcome : Flow × σ) (next : Status → σ → Flow × σ) : Flow × σ :=
  match outcome with
  | (.status status, s) => next status s
  | stop => stop

private theorem behind_endsAlike {start : σ} {outcome : Flow × σ} {outcome' : τ → Flow × τ}
    (next : Status → σ → Flow × σ) (next' : Status → τ → Flow × τ)
    (hfirst : P outcome.2 → P start ∧ ∀ t, R start t → EndsAlike R outcome (outcome' t))
    (hnext : ∀ status s, P (next status s).2 →
      P s ∧ ∀ t, R s t → EndsAlike R (next status s) (next' status t))
    (hend : P (behind outcome next).2) :
    P start ∧ ∀ t, R start t → EndsAlike R (behind outcome next) (behind (outcome' t) next') := by
  obtain ⟨flow, s⟩ := outcome
  have hafter : P s := by
    cases flow with
    | status status => exact (hnext status s hend).1
    | terminate | exit code => exact hend
  obtain ⟨hstart, hruns⟩ := hfirst hafter
  refine ⟨hstart, fun t ht => ?_⟩
  have hends := hruns t ht
  generalize outcome' t = ended at hends ⊢
  obtain ⟨flow', t'⟩ := ended
  obtain ⟨rfl, ht'⟩ : flow' = flow ∧ R s t' := hends
  cases flow' with
  | status status => exact (hnext status s hend).2 t' ht'
  | terminate | exit code => exact ⟨rfl, ht'⟩

variable {run : Runner σ} {run' : Runner τ}
  (h : ∀ segment s, P (run segment s).2 → P s ∧ ∀ t, R s t →
    EndsAlike R (run segment s) (run' segment t))

include h

private theorem runRest_endsAlike {rest : List (Connector × List Token)} {status : Status}
    {skipping : Bool} {s : σ} (hend : P (runRest run rest status skipping s).2) :
    P s ∧ ∀ t, R s t → EndsAlike R (runRest run rest status skipping s)
      (runRest run' rest status skipping t) := by
  induction rest generalizing status skipping s with
  | nil => exact ⟨hend, fun t ht => ⟨rfl, ht⟩⟩
  | cons entry rest ih =>
      obtain ⟨connector, segment⟩ := entry
      simp only [runRest] at hend ⊢
      split at hend
      · rename_i hadmits
        simp only [if_pos hadmits]
        exact behind_endsAlike (fun status => runRest run rest status false)
          (fun status => runRest run' rest status false) (h segment s) (fun _ _ => ih) hend
      · rename_i hadmits
        simp only [if_neg hadmits]
        exact ih hend

/-- **Chains end alike if their segments do**, up to an end that is good only where the start is. -/
theorem runChain_endsAlike {tokens : List Token} {s : σ} (hend : P (runChain run tokens s).2) :
    P s ∧ ∀ t, R s t → EndsAlike R (runChain run tokens s) (runChain run' tokens t) :=
  behind_endsAlike (fun status => runRest run (Chain.ofTokens tokens).rest status false)
    (fun status => runRest run' (Chain.ofTokens tokens).rest status false)
    (h (Chain.ofTokens tokens).first s) (fun _ _ => runRest_endsAlike h) hend

end

/-! ## Lines -/

/-- The command ends alike from any session that is like the one from which it ran. -/
def Event.EndsAlike (machine : Machine) (E : Reporting → Reporting → Prop) : Event → Prop
  | command tokens before _ => ∀ t, Alike E before t →
      CommandShell.EndsAlike (Alike E) (dispatch machine tokens before) (dispatch machine tokens t)
  | refusal _ _ => True

section

variable {machine : Machine} {E : Reporting → Reporting → Prop} (hE : IsKeptByReports E)

/-- The runner does the same as the one that keeps a record, if each command in the record ends alike. -/
def FollowsAlike (machine : Machine) (E : Reporting → Reporting → Prop) (recorded : Runner Recorded)
    (run : Runner Session) : Prop :=
  ∀ segment r, (∀ event ∈ (recorded segment r).2.events, event.EndsAlike machine E) →
    (∀ event ∈ r.events, event.EndsAlike machine E) ∧ ∀ t, Alike E r.session t →
      EndsAlike (fun r => Alike E r.session) (recorded segment r) (run segment t)

theorem followsAlike_dispatch (machine : Machine) (E : Reporting → Reporting → Prop) :
    FollowsAlike machine E (dispatchRecorded machine) (dispatch machine) := by
  intro segment r hevents
  cases segment with
  | nil =>
      refine ⟨hevents, ?_⟩
      rintro t ⟨r', rfl, hr'⟩
      exact ⟨rfl, r', rfl, hr'⟩
  | cons token rest =>
      rw [dispatchRecorded_of_ne_nil (List.cons_ne_nil _ _), Recorded.events_note] at hevents
      refine ⟨fun event hevent => hevents event (List.mem_append_left _ hevent), ?_⟩
      exact hevents _ (List.mem_append_right _ (List.mem_singleton.mpr rfl))

include hE

theorem FollowsAlike.runChecked {recorded : Runner Recorded} {run : Runner Session}
    (h : FollowsAlike machine E recorded run) :
    FollowsAlike machine E (runCheckedRecorded recorded) (runChecked run) := by
  intro tokens r hevents
  cases htokens : unexpected? tokens with
  | some token =>
      rw [runCheckedRecorded_of_some htokens, Recorded.events_note] at hevents
      refine ⟨fun event hevent => hevents event (List.mem_append_left _ hevent), fun t ht => ?_⟩
      rw [runCheckedRecorded_of_some htokens, CommandShell.runChecked, htokens]
      exact settle_endsAlike hE ht _
  | none =>
      rw [runCheckedRecorded_of_none htokens] at hevents ⊢
      obtain ⟨hbefore, hruns⟩ := runChain_endsAlike
        (P := fun r : Recorded => ∀ event ∈ r.events, event.EndsAlike machine E) h hevents
      refine ⟨hbefore, fun t ht => ?_⟩
      rw [CommandShell.runChecked, htokens]
      exact hruns t ht

theorem followsAlike_runResolved :
    FollowsAlike machine E (runResolvedRecorded machine) (runResolved machine) := by
  intro segment r hevents
  cases segment with
  | nil =>
      refine ⟨hevents, ?_⟩
      rintro t ⟨r', rfl, hr'⟩
      exact ⟨rfl, r', rfl, hr'⟩
  | cons token rest =>
      -- Both look up the same aliases.
      have hrun : ∀ r', runResolved machine (token :: rest) (r.session.reportingBy r') =
          if (r.session.aliases.resolve (token :: rest)).any fun token => token.connector?.isSome then
            runChecked (dispatch machine) (r.session.aliases.resolve (token :: rest))
              (r.session.reportingBy r')
          else dispatch machine (r.session.aliases.resolve (token :: rest)) (r.session.reportingBy r') :=
        fun _ => rfl
      simp only [runResolvedRecorded] at hevents ⊢
      split at hevents
      · rename_i hany
        obtain ⟨hbefore, hruns⟩ := (followsAlike_dispatch machine E).runChecked hE _ r hevents
        refine ⟨hbefore, ?_⟩
        rintro t ⟨r', rfl, hr'⟩
        rw [hrun, if_pos hany, if_pos hany]
        exact hruns _ ⟨r', rfl, hr'⟩
      · rename_i hany
        obtain ⟨hbefore, hruns⟩ := followsAlike_dispatch machine E _ r hevents
        refine ⟨hbefore, ?_⟩
        rintro t ⟨r', rfl, hr'⟩
        rw [hrun, if_neg hany, if_neg hany]
        exact hruns _ ⟨r', rfl, hr'⟩

/-- **A line ends alike if each of its commands does.** -/
theorem executeLine_endsAlike {line : Text} {s t : Session} (h : Alike E s t)
    (hevents : ∀ event ∈ (executeLineRecorded machine line ⟨s, []⟩).2.events,
      event.EndsAlike machine E) :
    EndsAlike (Alike E) (executeLine machine line s) (executeLine machine line t) := by
  rw [← executeLineRecorded_eq machine line ⟨s, []⟩]
  obtain ⟨r, rfl, hr⟩ := id h
  have htokens : (s.reportingBy r).tokensOf line = s.tokensOf line := rfl
  rw [executeLineRecorded] at hevents ⊢
  rw [executeLine, htokens]
  split at hevents
  · rename_i hline
    rw [if_pos hline, if_pos hline]
    exact ⟨rfl, h.advance hE⟩
  split at hevents
  · rename_i hline hnone
    rw [if_neg hline, if_pos hnone, if_neg hline, if_pos hnone]
    exact ⟨rfl, h⟩
  · rename_i hline hnone
    rw [if_neg hline, if_neg hnone, if_neg hline, if_neg hnone]
    exact ((followsAlike_runResolved hE).runChecked hE _ _ hevents).2 _ h

end

/-- Where everything that is done with the diagnostic stream comes out the same, so do lines. -/
theorem IsKept.executeLine_endsAlike {machine : Machine} {E : Reporting → Reporting → Prop}
    (hE : IsKept E) {s t : Session} (h : Alike E s t) (line : Text) :
    EndsAlike (Alike E) (executeLine machine line s) (executeLine machine line t) := by
  refine CommandShell.executeLine_endsAlike hE.toIsKeptByReports h fun event _ => ?_
  cases event with
  | command tokens before _ => exact fun u hu => hE.dispatch_endsAlike hu tokens
  | refusal _ _ => trivial

end CommandShell
