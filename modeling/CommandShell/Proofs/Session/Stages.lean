import CommandShell.Proofs.Chain.Log
import Mathlib.Logic.Relation

/-!
# The stages of a line

While a line is executed, chains are run inside one another: a segment into which aliases bring
connectors is a chain of its own, which runs before the chain goes on in which it stands. Here the
execution is told step by step, with the chains that are being run and the commands that have run so far.
A step looks no alias up in a chain that came in by one.

Nothing in the steps says that they end. That they lead to what the execution of the line gives is shown
for a chain inside any others, from the chains that only run commands upwards.

## Main definitions
* `Chain.Frame`, `Stage`: the chains that are being run, and where the execution has come.
* `Stage.Step`, `Stage.Reaches`: one step, and any number of them.
* `Stage.ofLine`: where the execution of a line begins.

## Main results
* `Stage.Step.unique`: no stage has two next ones.
* `reaches_executeLine`: where the steps of a line lead.
-/

namespace CommandShell

/-- A chain that is being run: what is left of it behind the segment in hand. -/
structure Chain.Frame where
  /-- The aliases in its segments are replaced. -/
  looksUp : Bool
  rest : List (Connector × List Token)
  /-- A condition has failed since the last `;`. -/
  skipping : Bool

/-- What is in hand. -/
inductive Stage.Task
  /-- A segment is to be run. -/
  | segment (tokens : List Token)
  /-- A segment or a chain has ended. -/
  | flow (flow : Flow)

/-- Where the execution of a line has come. -/
structure Stage where
  task : Stage.Task
  /-- The chains that are being run, the innermost first. -/
  frames : List Chain.Frame
  session : Session
  /-- The commands that have run, in order. -/
  commands : List (List Token)

namespace Stage

open Chain (Frame)

/-- The chain that a token list spells, begun inside others. -/
def ofChain (looksUp : Bool) (chain : Chain) (frames : List Frame) (s : Session)
    (commands : List (List Token)) : Stage :=
  ⟨.segment chain.first, ⟨looksUp, chain.rest, false⟩ :: frames, s, commands⟩

/-- The aliases of the session are looked up in the next step. -/
def LooksUp (stage : Stage) : Prop :=
  ∃ tokens frame frames, tokens ≠ [] ∧ stage.task = .segment tokens ∧
    stage.frames = frame :: frames ∧ frame.looksUp = true

variable (machine : Machine)

/-- One step of an execution. -/
inductive Step : Stage → Stage → Prop
  /-- A segment without tokens does nothing. -/
  | idle {frames s commands} :
      Step ⟨.segment [], frames, s, commands⟩ ⟨.flow (.status s.lastStatus), frames, s, commands⟩
  /-- In a chain in which nothing is looked up a segment is a command. -/
  | command {tokens frame frames s commands flow t} : tokens ≠ [] → frame.looksUp = false →
      dispatch machine tokens s = (flow, t) →
      Step ⟨.segment tokens, frame :: frames, s, commands⟩
        ⟨.flow flow, frame :: frames, t, commands ++ [tokens]⟩
  /-- A segment into which aliases bring no connectors is a command. -/
  | resolved {tokens found frame frames s commands flow t} : tokens ≠ [] → frame.looksUp = true →
      s.aliases.resolve tokens = found → (found.any fun token => token.connector?.isSome) = false →
      dispatch machine found s = (flow, t) →
      Step ⟨.segment tokens, frame :: frames, s, commands⟩
        ⟨.flow flow, frame :: frames, t, commands ++ [found]⟩
  /-- A segment into which they bring an operator out of place is refused. -/
  | refused {tokens found frame frames s commands token} : tokens ≠ [] → frame.looksUp = true →
      s.aliases.resolve tokens = found → (found.any fun token => token.connector?.isSome) = true →
      unexpected? found = some token →
      Step ⟨.segment tokens, frame :: frames, s, commands⟩
        ⟨.flow (s.refuse token).1, frame :: frames, (s.refuse token).2, commands⟩
  /-- A segment into which they bring connectors is a chain, in which nothing is looked up. -/
  | entered {tokens found frame frames s commands} : tokens ≠ [] → frame.looksUp = true →
      s.aliases.resolve tokens = found → (found.any fun token => token.connector?.isSome) = true →
      unexpected? found = none →
      Step ⟨.segment tokens, frame :: frames, s, commands⟩
        (ofChain false (.ofTokens found) (frame :: frames) s commands)
  /-- The next segment is run if its connector admits it. -/
  | next {looksUp connector segment rest skipping frames s commands status} :
      connector = .sequence ∨ (skipping = false ∧ connector.admits status) →
      Step ⟨.flow (.status status), ⟨looksUp, (connector, segment) :: rest, skipping⟩ :: frames, s,
          commands⟩
        ⟨.segment segment, ⟨looksUp, rest, false⟩ :: frames, s, commands⟩
  | skipped {looksUp connector segment rest skipping frames s commands status} :
      ¬ (connector = .sequence ∨ (skipping = false ∧ connector.admits status)) →
      Step ⟨.flow (.status status), ⟨looksUp, (connector, segment) :: rest, skipping⟩ :: frames, s,
          commands⟩
        ⟨.flow (.status status), ⟨looksUp, rest, true⟩ :: frames, s, commands⟩
  /-- A chain without segments left has ended. -/
  | ended {looksUp skipping frames s commands status} :
      Step ⟨.flow (.status status), ⟨looksUp, [], skipping⟩ :: frames, s, commands⟩
        ⟨.flow (.status status), frames, s, commands⟩
  /-- A segment that asks to leave ends the chain. -/
  | left {flow frame frames s commands} : flow.stops →
      Step ⟨.flow flow, frame :: frames, s, commands⟩ ⟨.flow flow, frames, s, commands⟩

/-- Any number of steps. -/
abbrev Reaches : Stage → Stage → Prop :=
  Relation.ReflTransGen (Step machine)

variable {machine}

/-- **No stage has two next ones.** -/
theorem Step.unique {stage one other : Stage} (h : Step machine stage one)
    (h' : Step machine stage other) : one = other := by
  cases h <;> cases h' <;> simp_all [Flow.stops, -List.any_eq_true, -List.any_eq_false]

/-- Behind the last stage there is none. -/
theorem not_step_of_frames_nil {flow : Flow} {s : Session} {commands : List (List Token)}
    (other : Stage) : ¬ Step machine ⟨.flow flow, [], s, commands⟩ other := nofun

/-- From every stage that is reached the steps lead to the last one. -/
theorem Reaches.reaches_last {start stage last : Stage} (hlast : Reaches machine start last)
    (hend : ∀ other, ¬ Step machine last other) (h : Reaches machine start stage) :
    Reaches machine stage last := by
  induction h with
  | refl => exact hlast
  | tail _ hstep ih =>
      rcases Relation.ReflTransGen.cases_head ih with rfl | ⟨other, hother, hrest⟩
      · exact absurd hstep (hend _)
      · rwa [hstep.unique hother]

/-! ## Where the steps lead -/

/-- Whatever has run before, the steps lead from the task inside the chains to the outcome, inside those
that are left then. -/
def Leads (machine : Machine) (task : Task) (frames : List Frame) (s : Session)
    (outcome : Flow × Session) (left : List Frame) : Prop :=
  ∀ commands, ∃ commands',
    Reaches machine ⟨task, frames, s, commands⟩ ⟨.flow outcome.1, left, outcome.2, commands'⟩

section

variable {task task' : Task} {frames frames' left : List Frame} {s t : Session}
  {outcome : Flow × Session}

/-- One step more in front. -/
theorem Leads.head
    (hstep : ∀ commands, ∃ commands',
      Step machine ⟨task, frames, s, commands⟩ ⟨task', frames', t, commands'⟩)
    (h : Leads machine task' frames' t outcome left) : Leads machine task frames s outcome left := by
  intro commands
  obtain ⟨commands', hfirst⟩ := hstep commands
  obtain ⟨commands'', hrest⟩ := h commands'
  exact ⟨commands'', hrest.head hfirst⟩

/-- What has been reached, and then the steps from there. -/
theorem Leads.trans (h : Leads machine task frames s outcome frames')
    (h' : Leads machine (.flow outcome.1) frames' outcome.2 outcome' left) :
    Leads machine task frames s outcome' left := by
  intro commands
  obtain ⟨commands', hfirst⟩ := h commands
  obtain ⟨commands'', hrest⟩ := h' commands'
  exact ⟨commands'', hfirst.trans hrest⟩

theorem Leads.refl (flow : Flow) : Leads machine (.flow flow) frames s (flow, s) frames :=
  fun commands => ⟨commands, .refl⟩

variable {looksUp : Bool} {run : Runner Session}
  (hrun : ∀ tokens rest frames s, Leads machine (.segment tokens) (⟨looksUp, rest, false⟩ :: frames) s
    (run tokens s) (⟨looksUp, rest, false⟩ :: frames))

include hrun

/-- The segments that are left of a chain. -/
private theorem leads_runRest (rest : List (Connector × List Token)) (status : Status)
    (skipping : Bool) (frames : List Frame) (s : Session) :
    Leads machine (.flow (.status status)) (⟨looksUp, rest, skipping⟩ :: frames) s
      (runRest run rest status skipping s) frames := by
  induction rest generalizing status skipping s with
  | nil => exact .head (fun commands => ⟨commands, .ended⟩) (.refl _)
  | cons entry rest ih =>
      obtain ⟨connector, segment⟩ := entry
      rw [runRest]
      split
      · rename_i hadmits
        refine .head (fun commands => ⟨commands, .next hadmits⟩) ?_
        have hsegment := hrun segment rest frames s
        generalize run segment s = outcome at hsegment ⊢
        obtain ⟨flow, t⟩ := outcome
        cases flow with
        | status status => exact hsegment.trans (ih status false t)
        | terminate | exit code =>
            exact hsegment.trans (.head (fun commands => ⟨commands, .left rfl⟩) (.refl _))
      · rename_i hadmits
        exact .head (fun commands => ⟨commands, .skipped hadmits⟩) (ih status true s)

/-- **Inside any other chains, a chain is run to the outcome that its run has.** -/
theorem leads_runChain (tokens : List Token) (frames : List Frame) (s : Session) :
    Leads machine (.segment (Chain.ofTokens tokens).first)
      (⟨looksUp, (Chain.ofTokens tokens).rest, false⟩ :: frames) s (runChain run tokens s) frames := by
  have hfirst := hrun (Chain.ofTokens tokens).first (Chain.ofTokens tokens).rest frames s
  rw [runChain]
  generalize run (Chain.ofTokens tokens).first s = outcome at hfirst ⊢
  obtain ⟨flow, t⟩ := outcome
  cases flow with
  | status status => exact hfirst.trans (leads_runRest hrun _ status false frames t)
  | terminate | exit code =>
      exact hfirst.trans (.head (fun commands => ⟨commands, .left rfl⟩) (.refl _))

end

/-- A segment of a chain in which nothing is looked up. -/
theorem leads_dispatch (tokens : List Token) (rest : List (Connector × List Token))
    (frames : List Frame) (s : Session) :
    Leads machine (.segment tokens) (⟨false, rest, false⟩ :: frames) s (dispatch machine tokens s)
      (⟨false, rest, false⟩ :: frames) := by
  by_cases hne : tokens = []
  · subst hne
    exact .head (fun commands => ⟨commands, .idle⟩) (.refl _)
  · exact .head (fun commands => ⟨commands ++ [tokens], .command hne rfl rfl⟩) (.refl _)

/-- A segment of a chain in which aliases are looked up. -/
theorem leads_runResolved (tokens : List Token) (rest : List (Connector × List Token))
    (frames : List Frame) (s : Session) :
    Leads machine (.segment tokens) (⟨true, rest, false⟩ :: frames) s (runResolved machine tokens s)
      (⟨true, rest, false⟩ :: frames) := by
  cases tokens with
  | nil => exact .head (fun commands => ⟨commands, .idle⟩) (.refl _)
  | cons token later =>
      have hne := List.cons_ne_nil token later
      simp only [runResolved]
      split
      · rename_i hconnector
        rw [runChecked]
        split
        · rename_i hunexpected
          exact .head (fun commands => ⟨commands, .refused hne rfl rfl hconnector hunexpected⟩)
            (.refl _)
        · rename_i hvalid
          exact .head (fun commands => ⟨commands, .entered hne rfl rfl hconnector hvalid⟩)
            (leads_runChain leads_dispatch _ _ s)
      · rename_i hconnector
        exact .head (fun commands =>
          ⟨commands ++ [_], .resolved hne rfl rfl (Bool.eq_false_iff.mpr hconnector) rfl⟩) (.refl _)

/-! ## Lines -/

/-- Where the execution of a line begins. An empty line, a line without tokens and one that is refused
have ended there. -/
def ofLine (line : Text) (s : Session) : Stage :=
  if line.isEmpty then ⟨.flow (.status s.lastStatus), [], s.advance, []⟩
  else if (s.tokensOf line).isEmpty then ⟨.flow (.status s.lastStatus), [], s, []⟩
  else match unexpected? (s.tokensOf line) with
    | some token => ⟨.flow (s.refuse token).1, [], (s.refuse token).2, []⟩
    | none => ofChain true (.ofTokens (s.tokensOf line)) [] s []

/-- A line begins with its chain, or it has ended, with the aliases that it found. -/
theorem ofLine_cases (line : Text) (s : Session) :
    (∃ flow t, t.aliases = s.aliases ∧ ofLine line s = ⟨.flow flow, [], t, []⟩) ∨
      ofLine line s = ofChain true (.ofTokens (s.tokensOf line)) [] s [] := by
  unfold ofLine
  split
  · exact .inl ⟨_, s.advance, rfl, rfl⟩
  split
  · exact .inl ⟨_, s, rfl, rfl⟩
  split
  · exact .inl ⟨_, (s.refuse _).2, rfl, rfl⟩
  · exact .inr rfl

/-- **The steps of a line lead to what its execution gives.** -/
theorem reaches_executeLine (machine : Machine) (line : Text) (s : Session) :
    ∃ commands, Reaches machine (ofLine line s)
      ⟨.flow (executeLine machine line s).1, [], (executeLine machine line s).2, commands⟩ := by
  by_cases hline : line.isEmpty = true
  · rw [ofLine, executeLine, if_pos hline, if_pos hline]
    exact ⟨[], .refl⟩
  by_cases htokens : (s.tokensOf line).isEmpty = true
  · rw [ofLine, executeLine, if_neg hline, if_neg hline, if_pos htokens, if_pos htokens]
    exact ⟨[], .refl⟩
  rw [ofLine, executeLine, if_neg hline, if_neg hline, if_neg htokens, if_neg htokens, runChecked]
  cases hunexpected : unexpected? (s.tokensOf line) with
  | some token => exact ⟨[], .refl⟩
  | none => exact leads_runChain leads_runResolved (s.tokensOf line) [] s []

end Stage

end CommandShell
