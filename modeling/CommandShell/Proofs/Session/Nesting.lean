import CommandShell.Proofs.Aliases.Store
import CommandShell.Proofs.Session.Frame
import CommandShell.Proofs.Session.Stages
import Mathlib.Algebra.Ring.Nat
import Mathlib.Data.Prod.Lex

/-!
# How far a line can go

The execution of a line ends whatever aliases there are, and however much they bring in: a step either
looks a segment up for the last time, or takes something off what is in hand. Chains that aliases bring
in are not looked up, so none begins inside another one. The commands of a line are no more than its
tokens and what aliases can put in the place of its segments, since a segment brings in a bounded number
of words once and each command uses up a word.

The values that are looked up need not be there when the line begins: a command of the line may define
them. They count too.

## Main definitions
* `Stage.rank`: what is left to do, which every step lessens.
* `Stage.IsShallow`: chains stand inside each other at most once.
* `Stage.bound`: how many commands can still run.
* `Defines`: what a command makes an alias stand for.

## Main results
* `Stage.wellFounded_step`: no execution goes on for ever.
* `Stage.Step.isShallow`: no chain begins inside one that came in by an alias.
* `Stage.Step.bound_le`: a step that runs a command takes from the bound.
* `executeLine_ends`: the execution of a line ends, in chains that are nested once, within a number of
  commands.
-/

namespace CommandShell

namespace Stage

open Chain (Frame)

variable {machine : Machine} {stage other : Stage}

/-! ## Every execution ends -/

/-- The number of segments that may still be looked up. -/
def lookups (stage : Stage) : Nat :=
  (match stage.task, stage.frames with
    | .segment _, frame :: _ => if frame.looksUp then 1 else 0
    | _, _ => 0) +
  (stage.frames.map fun frame => if frame.looksUp then frame.rest.length else 0).sum

/-- The number of steps that are left if nothing is looked up any more, or more. -/
def work (stage : Stage) : Nat :=
  (match stage.task with
    | .segment _ => 1
    | .flow _ => 0) +
  (stage.frames.map fun frame => 2 * frame.rest.length + 1).sum

/-- What is left to do. -/
def rank (stage : Stage) : Nat ×ₗ Nat :=
  toLex (stage.lookups, stage.work)

/-- No segment is looked up twice. -/
theorem Step.lookups_lt (h : Step machine stage other) (hlooksUp : stage.LooksUp) :
    other.lookups < stage.lookups := by
  obtain ⟨tokens, frame, frames, hne, htask, hframes, hframe⟩ := hlooksUp
  cases h <;> simp_all [lookups, ofChain]

/-- A chain that comes in by an alias adds no segment that is looked up. -/
theorem Step.lookups_le (h : Step machine stage other) : other.lookups ≤ stage.lookups := by
  cases h with
  | @next looksUp => cases looksUp <;> simp [lookups]; omega
  | @skipped looksUp => cases looksUp <;> simp [lookups]
  | entered hne hframe => simp [lookups, ofChain, hframe]
  | _ => simp_all [lookups]

/-- A step that looks nothing up takes something off what is in hand. -/
theorem Step.work_lt (h : Step machine stage other) (hlooksUp : ¬ stage.LooksUp) :
    other.work < stage.work := by
  cases h with
  | next hadmits => simp [work]; omega
  | entered hne hframe => exact absurd ⟨_, _, _, hne, rfl, rfl, hframe⟩ hlooksUp
  | _ => simp [work]

/-- **Every step lessens what is left to do.** -/
theorem Step.rank_lt (h : Step machine stage other) : other.rank < stage.rank := by
  rw [rank, rank, Prod.Lex.toLex_lt_toLex]
  by_cases hlooksUp : stage.LooksUp
  · exact .inl (h.lookups_lt hlooksUp)
  · have hwork := h.work_lt hlooksUp
    rcases Nat.lt_or_eq_of_le h.lookups_le with hlt | heq
    · exact .inl hlt
    · exact .inr ⟨heq, hwork⟩

/-- **No execution goes on for ever**, whatever the stage is in which it begins. -/
theorem wellFounded_step (machine : Machine) :
    WellFounded fun later earlier => Step machine earlier later :=
  Subrelation.wf (fun hstep => Step.rank_lt hstep) (InvImage.wf rank wellFounded_lt)

/-! ## Chains inside one another -/

/-- Chains stand inside each other at most once, and nothing is looked up in the inner one. -/
structure IsShallow (stage : Stage) : Prop where
  length_le : stage.frames.length ≤ 2
  looksUp_eq : ∀ frame ∈ stage.frames.dropLast, frame.looksUp = false

/-- **No chain begins inside one that came in by an alias.** -/
theorem Step.isShallow (h : Step machine stage other) (hshallow : stage.IsShallow) :
    other.IsShallow := by
  obtain ⟨hlength, hinner⟩ := hshallow
  cases h with
  | idle | command | resolved | refused => exact ⟨hlength, hinner⟩
  | @entered tokens found frame frames s commands hne hframe =>
      cases frames with
      | nil => exact ⟨Nat.le_refl 2, by simp [ofChain]⟩
      | cons outer frames =>
          have hnone := hinner frame (by simp)
          simp [hframe] at hnone
  | @next looksUp connector segment rest skipping frames
  | @skipped looksUp connector segment rest skipping frames =>
      refine ⟨hlength, ?_⟩
      cases frames <;> simp_all
  | @ended looksUp skipping frames | @left flow frame frames =>
      refine ⟨Nat.le_of_succ_le hlength, ?_⟩
      cases frames with
      | nil => simp
      | cons outer frames => exact fun inner hmem => hinner inner (List.mem_cons_of_mem _ hmem)

/-! ## Commands -/

/-- How many commands a segment can lead to: its own tokens, and what the aliases in it bring in, if
their values hold at most `m` tokens. -/
def segmentBound (m : Nat) (looksUp : Bool) (segment : List Token) : Nat :=
  segment.length + if looksUp && !segment.isEmpty then resolutionLimit * m else 0

/-- How many commands can still run. -/
def bound (m : Nat) (stage : Stage) : Nat :=
  (match stage.task, stage.frames with
    | .segment tokens, frame :: _ => segmentBound m frame.looksUp tokens
    | _, _ => 0) +
  (stage.frames.map fun frame =>
    (frame.rest.map fun entry => segmentBound m frame.looksUp entry.2).sum).sum

/-- Where nothing is looked up, the segments of a chain lead to no more commands than it has tokens. -/
theorem sum_segmentBound_of_not_looksUp (m : Nat) (tokens : List Token) :
    ((plan tokens).map fun entry => segmentBound m false entry.2).sum ≤ tokens.length := by
  have hlength : ((plan tokens).map fun entry => segmentBound m false entry.2).sum =
      ((plan tokens).flatMap Prod.snd).length := by
    simp [segmentBound, List.length_flatMap]
  rw [hlength, flatMap_plan]
  exact List.length_filter_le _ _

/-- **A step that runs a command takes from the bound**, and no step adds to it, if the values that are
looked up hold at most `m` tokens. -/
theorem Step.bound_le {m : Nat} (h : Step machine stage other)
    (hvalues : stage.LooksUp → ∀ name value,
      stage.session.aliases.get? name = some value → (tokens value).length ≤ m) :
    other.commands.length + other.bound m ≤ stage.commands.length + stage.bound m := by
  cases h with
  | idle => simp [bound]
  | command hne hframe =>
      have := List.length_pos_of_ne_nil hne
      simp only [bound, segmentBound, List.length_append, List.length_singleton]
      omega
  | resolved hne hframe =>
      have := List.length_pos_of_ne_nil hne
      simp only [bound, segmentBound, List.length_append, List.length_singleton]
      omega
  | refused hne hframe => simp [bound]
  | @entered segment found frame frames s commands hne hframe hresolve =>
      have hresolved := Aliases.length_resolve_le (hvalues ⟨_, _, _, hne, rfl, rfl, hframe⟩) segment
      have hlimit : resolutionLimit * (m - 1) ≤ resolutionLimit * m :=
        Nat.mul_le_mul_left _ (Nat.sub_le m 1)
      have hfound := sum_segmentBound_of_not_looksUp m found
      rw [plan_eq_ofTokens, List.map_cons, List.sum_cons] at hfound
      have hsegment : segmentBound m frame.looksUp segment = segment.length + resolutionLimit * m := by
        simp [segmentBound, hframe, hne]
      simp only [hresolve] at hresolved
      simp only at hfound
      simp only [bound, ofChain, List.map_cons, List.sum_cons]
      omega
  | next hadmits =>
      simp only [bound, List.map_cons, List.sum_cons]
      omega
  | skipped hadmits => simp [bound]
  | ended => simp [bound]
  | left hstops => simp [bound]

/-- What has run and can still run is no more than what could run at first. -/
theorem Reaches.bound_le {m : Nat} {start : Stage} (h : Reaches machine start stage)
    (hvalues : ∀ stage, Reaches machine start stage → stage.LooksUp → ∀ name value,
      stage.session.aliases.get? name = some value → (tokens value).length ≤ m) :
    stage.commands.length + stage.bound m ≤ start.commands.length + start.bound m := by
  induction h with
  | refl => exact Nat.le_refl _
  | tail hreach hstep ih => exact Nat.le_trans (hstep.bound_le (hvalues _ hreach)) ih

/-- The number of segments of a token list that hold a token. -/
def segmentCount (tokens : List Token) : Nat :=
  (plan tokens).countP fun entry => !entry.2.isEmpty

/-- What is looked up adds the same to every segment that holds a token. -/
theorem sum_segmentBound_of_looksUp (m : Nat) (entries : List (Connector × List Token)) :
    (entries.map fun entry => segmentBound m true entry.2).sum =
      (entries.map fun entry => segmentBound m false entry.2).sum +
        resolutionLimit * (entries.countP fun entry => !entry.2.isEmpty) * m := by
  induction entries with
  | nil => simp
  | cons entry rest ih =>
      simp only [List.map_cons, List.sum_cons, List.countP_cons, ih]
      cases hempty : entry.2.isEmpty with
      | true =>
          simp only [segmentBound, hempty]
          simp
          omega
      | false =>
          simp only [segmentBound, hempty, Nat.mul_add, Nat.add_mul]
          simp
          omega

/-- How many commands can run in a line. -/
theorem bound_ofLine_le (m : Nat) (line : Text) (s : Session) :
    (ofLine line s).commands.length + (ofLine line s).bound m ≤
      (s.tokensOf line).length + resolutionLimit * segmentCount (s.tokensOf line) * m := by
  have htokens : ((plan (s.tokensOf line)).map fun entry => segmentBound m true entry.2).sum ≤
      (s.tokensOf line).length + resolutionLimit * segmentCount (s.tokensOf line) * m := by
    rw [sum_segmentBound_of_looksUp]
    exact Nat.add_le_add_right (sum_segmentBound_of_not_looksUp m _) _
  rw [plan_eq_ofTokens, List.map_cons, List.sum_cons] at htokens
  rcases ofLine_cases line s with ⟨flow, t, -, hended⟩ | hchain
  · simp [hended, bound]
  · simpa [hchain, bound, ofChain] using htokens

end Stage

/-! ## Values that a line defines -/

/-- The command is one that defines aliases, and makes one of them stand for the value. -/
def Defines (command : List Token) (value : Text) : Prop :=
  command.head?.map Token.word = some Builtin.definitionsName ∧
    ∃ operand ∈ command.tail.map Token.word, ∃ name written,
      Builtin.definition? operand = some (name, written) ∧ stripQuotes written = value

/-- A value that is found behind a command was found before, or the command defines it. -/
theorem get?_of_get?_dispatch {machine : Machine} {command : List Token} {s t : Session} {flow : Flow}
    (hdispatch : dispatch machine command s = (flow, t)) {name value : Text}
    (h : t.aliases.get? name = some value) :
    s.aliases.get? name = some value ∨ Defines command value := by
  -- Of the steps of a command only those that define an alias change what is found.
  let R : Session → Session → Prop := fun s t => ∀ name value, t.aliases.get? name = some value →
    s.aliases.get? name = some value ∨ Defines command value
  have hframe : IsFrame machine R :=
    { refl := fun _ _ _ => .inl
      trans := fun hst htu name value hvalue => (htu name value hvalue).elim (hst name value) .inr
      env := fun _ _ _ _ => .inl
      disk := fun _ _ _ _ => .inl
      out := fun _ _ _ _ => .inl
      err := fun _ _ _ _ => .inl
      flush := fun s name value hvalue => by
        obtain ⟨out, err, hflush⟩ := s.exists_flush
        rw [hflush] at hvalue
        exact .inl hvalue
      adopt := fun _ _ _ _ _ _ _ => .inl }
  have hstep : R s (dispatch machine command s).2 :=
    hframe.dispatch (fun _ _ _ _ => .inl) (fun _ _ _ _ => .inl) (fun _ _ _ => .inl)
      (fun hhead => hframe.defineAliases ?_ fun _ _ _ _ => .inl) s
  · rw [hdispatch] at hstep
    exact hstep name value h
  intro operand hoperand name written hdefinition s other found hfound
  rcases Aliases.eq_or_get?_of_get?_add hfound with rfl | hbefore
  · exact .inr ⟨hhead, operand, hoperand, name, written, hdefinition, rfl⟩
  · exact .inl hbefore

namespace Stage

variable {machine : Machine} {stage other start : Stage}

/-- A step adds to the commands, and what is found behind it was found before or has been defined by
one of them. -/
theorem Step.get? (h : Step machine stage other) :
    stage.commands <+: other.commands ∧ ∀ name value, other.session.aliases.get? name = some value →
      stage.session.aliases.get? name = some value ∨
        ∃ command ∈ other.commands, Defines command value := by
  cases h with
  | command hne hframe | resolved hne hframe =>
      refine ⟨List.prefix_append _ _, fun name value hvalue => ?_⟩
      refine (get?_of_get?_dispatch ‹_› hvalue).imp_right fun hdefines => ⟨_, ?_, hdefines⟩
      exact List.mem_append_right _ (List.mem_singleton.mpr rfl)
  | _ => exact ⟨List.prefix_rfl, fun _ _ => .inl⟩

theorem Reaches.get? (h : Reaches machine start stage) :
    start.commands <+: stage.commands ∧ ∀ name value, stage.session.aliases.get? name = some value →
      start.session.aliases.get? name = some value ∨
        ∃ command ∈ stage.commands, Defines command value := by
  induction h with
  | refl => exact ⟨List.prefix_rfl, fun _ _ => .inl⟩
  | tail hreach hstep ih =>
      obtain ⟨hbefore, hvalues⟩ := ih
      obtain ⟨hgrown, hstepped⟩ := hstep.get?
      refine ⟨hbefore.trans hgrown, fun name value hvalue => ?_⟩
      rcases hstepped name value hvalue with hvalue | hdefined
      · exact (hvalues name value hvalue).imp_right fun ⟨command, hcommand, hdefines⟩ =>
          ⟨command, hgrown.mem hcommand, hdefines⟩
      · exact .inr hdefined

/-- The aliases with which a line begins are those of the session. -/
theorem aliases_ofLine (line : Text) (s : Session) :
    (ofLine line s).session.aliases = s.aliases := by
  rcases ofLine_cases line s with ⟨flow, t, haliases, hended⟩ | hchain
  · rw [hended]
    exact haliases
  · rw [hchain]
    rfl

theorem isShallow_ofLine (line : Text) (s : Session) : (ofLine line s).IsShallow := by
  rcases ofLine_cases line s with ⟨flow, t, -, hended⟩ | hchain
  · rw [hended]
    exact ⟨by simp, by simp⟩
  · rw [hchain]
    exact ⟨by simp [ofChain], by simp [ofChain]⟩

end Stage

open Stage in
/-- **The execution of a line ends, whatever aliases there are.** No sequence of steps goes on for ever.
The steps of a line lead to what its execution gives, from every stage on the way. A chain that aliases
bring in stands in the chain of the line and in no other one, and nothing is looked up in it.

If the values of the aliases that are there on the way hold at most `m` tokens, then `t` tokens in `n`
segments run at most `t + 64 * n * m` commands. These values are those that are there at first, and what
the commands of the line define. -/
theorem executeLine_ends (machine : Machine) (line : Text) (s : Session) :
    (WellFounded fun later earlier => Step machine earlier later) ∧
    ∃ commands,
      let last : Stage :=
        ⟨.flow (executeLine machine line s).1, [], (executeLine machine line s).2, commands⟩
      (∀ other, ¬ Step machine last other) ∧
      (∀ stage, Reaches machine (ofLine line s) stage →
        Reaches machine stage last ∧ stage.IsShallow ∧
        ∀ name value, stage.session.aliases.get? name = some value →
          s.aliases.get? name = some value ∨ ∃ command ∈ commands, Defines command value) ∧
      ∀ m, (∀ stage, Reaches machine (ofLine line s) stage →
          ∀ name value, stage.session.aliases.get? name = some value → (tokens value).length ≤ m) →
        commands.length ≤
          (s.tokensOf line).length + 64 * segmentCount (s.tokensOf line) * m := by
  obtain ⟨commands, hlast⟩ := reaches_executeLine machine line s
  have hreaches : ∀ stage, Reaches machine (ofLine line s) stage → Reaches machine stage _ :=
    fun stage => Reaches.reaches_last hlast not_step_of_frames_nil
  refine ⟨wellFounded_step machine, commands, not_step_of_frames_nil, fun stage hstage => ?_, ?_⟩
  · refine ⟨hreaches stage hstage, ?_, fun name value hvalue => ?_⟩
    · induction hstage with
      | refl => exact isShallow_ofLine line s
      | tail _ hstep ih => exact hstep.isShallow ih
    · have hgrown := (Reaches.get? (hreaches stage hstage)).1
      rw [← aliases_ofLine line s]
      exact ((Reaches.get? hstage).2 name value hvalue).imp_right fun ⟨command, hcommand, hdefines⟩ =>
        ⟨command, hgrown.mem hcommand, hdefines⟩
  · intro m hvalues
    have hbound := Reaches.bound_le hlast fun stage hstage _ => hvalues stage hstage
    have hline := bound_ofLine_le m line s
    simp only [resolutionLimit] at hline
    simp only at hbound
    omega

/-! ## A line that defines what it looks up -/

section

open Stage

/-- The command that lists an empty environment writes nothing. -/
private theorem dispatch_env {s : Session} (h : s.env = .empty) :
    dispatch Machine.idle ["env".toList] s =
      (.status 0, { s with lastStatus := 0, counter := s.counter + 1 }) := by
  obtain ⟨program, pid, env, aliases, lastStatus, counter, out, err, disk, input⟩ := s
  obtain rfl : env = .empty := h
  rfl

/-- In a chain in which nothing is looked up, that command runs and the next segment is in hand. -/
private theorem reaches_env {s : Session} (h : s.env = .empty) (segment : List Token)
    (rest : List (Connector × List Token)) (frames : List Chain.Frame) (commands : List (List Token)) :
    ∃ t : Session, t.env = .empty ∧ Reaches Machine.idle
      ⟨.segment ["env".toList], ⟨false, (.sequence, segment) :: rest, false⟩ :: frames, s, commands⟩
      ⟨.segment segment, ⟨false, rest, false⟩ :: frames, t, commands ++ [["env".toList]]⟩ :=
  ⟨{ s with lastStatus := 0, counter := s.counter + 1 }, h,
    .head (.command (by decide) rfl (dispatch_env h)) (.single (.next (.inl rfl)))⟩

/-- The line defines an alias of four commands and runs it: five commands in all. -/
private theorem reaches_defining_line :
    let s := Session.new "husk".toList 1 .empty ⟨.empty, .root⟩
    let line := "alias a='env;env;env;env';a".toList
    let definition := ["alias".toList, "a='env;env;env;env'".toList]
    s.tokensOf line = definition ++ [[';'], ['a']] ∧
      ∃ t, Reaches Machine.idle (ofLine line s)
        ⟨.flow (.status 0), [], t, definition :: List.replicate 4 ["env".toList]⟩ := by
  intro s line definition
  let call := ["env".toList]
  have htokens : s.tokensOf line = definition ++ [[';'], ['a']] := by
    rw [Session.tokensOf, expand_of_not_mem s.value (by decide)]
    decide
  refine ⟨htokens, ?_⟩
  let value := "env;env;env;env".toList
  let words := ["env".toList, [';'], "env".toList, [';'], "env".toList, [';'], "env".toList]
  let defined : Session := { s with
    aliases := s.aliases.add ['a'] (stripQuotes value)
    lastStatus := 0
    counter := s.counter + 1 }
  have hdefinition : Builtin.definition? (Token.word "a='env;env;env;env'".toList) =
      some (['a'], value) := by decide
  have hstart : ofLine line s = ofChain true ⟨definition, [(.sequence, [['a']])]⟩ [] s [] := by
    have hchain : Chain.ofTokens (definition ++ [[';'], ['a']]) =
        ⟨definition, [(.sequence, [['a']])]⟩ := by decide
    rw [ofLine, htokens, hchain]
    rfl
  have hdefine : Step Machine.idle (ofChain true ⟨definition, [(.sequence, [['a']])]⟩ [] s [])
      ⟨.flow (.status 0), [⟨true, [(.sequence, [['a']])], false⟩], defined, [definition]⟩ :=
    .resolved (by decide) rfl (Aliases.resolve_of_definer rfl) (by decide)
      (dispatch_definition Machine.idle hdefinition s)
  have hresolve : defined.aliases.resolve [['a']] = words := by
    have hstrip : stripQuotes value = value := by decide
    have hwords : tokens value = words := by decide
    have hget : ∀ word, defined.aliases.get? word = if word = ['a'] then some value else none := by
      rw [← hstrip]
      exact Aliases.get?_add_empty ['a'] (stripQuotes value)
    have hstays : ∀ word ∈ words ++ [], word ≠ ['a'] := by decide
    rw [← List.append_nil words]
    refine Aliases.resolve_cons_of_replacement (by decide) ?_ fun word hword => ?_
    · rw [Aliases.replacement?, hget, if_pos rfl, Option.map_some, hwords]
    · rw [hget, if_neg (hstays word hword)]
  have henter : Step Machine.idle ⟨.segment [['a']], [⟨true, [], false⟩], defined, [definition]⟩
      (ofChain false (.ofTokens words) [⟨true, [], false⟩] defined [definition]) :=
    .entered (by decide) rfl hresolve (by decide) (by decide)
  have hchain : Chain.ofTokens words =
      ⟨call, [(.sequence, call), (.sequence, call), (.sequence, call)]⟩ := by decide
  rw [hchain] at henter
  obtain ⟨s₁, h₁, hfirst⟩ := reaches_env (s := defined) rfl call [(.sequence, call), (.sequence, call)]
    [⟨true, [], false⟩] [definition]
  obtain ⟨s₂, h₂, hsecond⟩ := reaches_env h₁ call [(.sequence, call)] [⟨true, [], false⟩]
    [definition, call]
  obtain ⟨s₃, h₃, hthird⟩ := reaches_env h₂ call [] [⟨true, [], false⟩] [definition, call, call]
  let t : Session := { s₃ with lastStatus := 0, counter := s₃.counter + 1 }
  have hlast : Reaches Machine.idle
      ⟨.segment call, [⟨false, [], false⟩, ⟨true, [], false⟩], s₃, [definition, call, call, call]⟩
      ⟨.flow (.status 0), [], t, [definition, call, call, call, call]⟩ :=
    .head (.command (by decide) rfl (dispatch_env h₃)) (.head .ended (.single .ended))
  rw [hstart]
  exact ⟨t, .head hdefine (.head (.next (.inl rfl))
    (.head henter (hfirst.trans (hsecond.trans (hthird.trans hlast)))))⟩

/-- The line ends after five commands, which is within the bound that its own definition gives. -/
theorem executeLine_ends_of_definition :
    let s := Session.new "husk".toList 1 .empty ⟨.empty, .root⟩
    let line := "alias a='env;env;env;env';a".toList
    let definition := ["alias".toList, "a='env;env;env;env'".toList]
    (s.tokensOf line).length = 4 ∧ segmentCount (s.tokensOf line) = 2 ∧
    (∀ stage, Reaches Machine.idle (ofLine line s) stage → ∀ name value,
      stage.session.aliases.get? name = some value → (tokens value).length ≤ 7) ∧
    ∃ commands, commands = definition :: List.replicate 4 ["env".toList] ∧
      (∃ last, Reaches Machine.idle (ofLine line s) last ∧ last.commands = commands) ∧
      commands.length ≤ 4 + 64 * 2 * 7 := by
  intro s line definition
  obtain ⟨htokens, t, hreaches⟩ := reaches_defining_line
  obtain ⟨-, commands, -, hstages, hbound⟩ := executeLine_ends Machine.idle line s
  have hcommands : commands = definition :: List.replicate 4 ["env".toList] := by
    rcases Relation.ReflTransGen.cases_head (hstages _ hreaches).1 with heq | ⟨other, hstep, -⟩
    · exact (congrArg Stage.commands heq).symm
    · exact absurd hstep (not_step_of_frames_nil other)
  have hdefined : ∀ command ∈ commands, ∀ value, Defines command value → (tokens value).length ≤ 7 := by
    intro command hcommand value ⟨hhead, operand, hoperand, name, written, hdefinition, hvalue⟩
    rw [hcommands] at hcommand
    rcases List.mem_cons.mp hcommand with rfl | hcommand
    · have hwritten : Builtin.definition? (Token.word "a='env;env;env;env'".toList) =
          some (['a'], "env;env;env;env".toList) := by decide
      obtain rfl : operand = Token.word "a='env;env;env;env'".toList := List.mem_singleton.mp hoperand
      rw [hwritten] at hdefinition
      obtain ⟨-, rfl⟩ := Prod.mk.inj (Option.some.inj hdefinition)
      subst hvalue
      decide
    · obtain rfl := List.eq_of_mem_replicate hcommand
      exact absurd hhead (by decide)
  -- There are no aliases at first, so what is there later has been defined.
  have hvalues : ∀ stage, Reaches Machine.idle (ofLine line s) stage → ∀ name value,
      stage.session.aliases.get? name = some value → (tokens value).length ≤ 7 := by
    intro stage hstage name value hvalue
    rcases (hstages stage hstage).2.2 name value hvalue with hfirst | ⟨command, hcommand, hdefines⟩
    · have hnone : s.aliases.get? name = none := Aliases.get?_empty name
      exact absurd (hnone.symm.trans hfirst) (Option.some_ne_none value).symm
    · exact hdefined command hcommand value hdefines
  have hlength : (s.tokensOf line).length = 4 := by rw [htokens]; rfl
  have hcount : segmentCount (s.tokensOf line) = 2 := by rw [htokens]; decide
  refine ⟨hlength, hcount, hvalues, commands, hcommands, ⟨_, hreaches, hcommands.symm⟩, ?_⟩
  have hfive := hbound 7 hvalues
  rwa [hlength, hcount] at hfive

/-- The values that are there when a line begins do not bound its commands: with none at all, a line of
four tokens in two segments runs five. -/
theorem commands_exceed_first_values :
    let s := Session.new "husk".toList 1 .empty ⟨.empty, .root⟩
    let line := "alias a='env;env;env;env';a".toList
    (s.tokensOf line).length = 4 ∧ (plan (s.tokensOf line)).length = 2 ∧
      (∀ name value, s.aliases.get? name = some value → (tokens value).length ≤ 0) ∧
      ∃ last, Reaches Machine.idle (ofLine line s) last ∧ (∀ other, ¬ Step Machine.idle last other) ∧
        ¬ last.commands.length ≤ 4 + 64 * 2 * 0 := by
  intro s line
  obtain ⟨htokens, t, hreaches⟩ := reaches_defining_line
  refine ⟨by rw [htokens]; rfl, by rw [htokens]; decide, fun name value hvalue => ?_, _, hreaches,
    not_step_of_frames_nil, by simp⟩
  have hnone : s.aliases.get? name = none := Aliases.get?_empty name
  exact absurd (hnone.symm.trans hvalue) (Option.some_ne_none value).symm

end

end CommandShell
