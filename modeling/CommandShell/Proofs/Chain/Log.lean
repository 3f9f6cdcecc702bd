import CommandShell.Proofs.Chain.Plan
import CommandShell.Session.Execute
import Mathlib.Data.List.ReduceOption
import Mathlib.Data.Nat.Init
import Mathlib.Logic.ExistsUnique

/-!
# What a run of a chain does, segment by segment

A log tells of each segment of a plan whether it ran, and with what outcome. `Follows` says by places
alone which log belongs to a plan: a segment that opens a part runs; any other runs exactly if the one
before it ran and ended with a status that the connector between them admits; each runs in the state
that the last one before it has left; and nothing is told any more behind a segment that asks to leave.
The log knows nothing of the order in which `runChain` computes.

The main theorem says that every plan has one log, and that `runChain` ends as its log ends, whatever
the segments do.

## Main definitions
* `Log`, `stateAt`: outcomes in the order of the plan.
* `IsDue`, `Follows`: the log of a plan.
* `idling`: segments of any behaviour, of which the empty one does nothing.

## Main results
* `existsUnique_follows`: a plan has exactly one log.
* `getLast?_of_follows`: a run ends as the log ends.
* `skipped_of_follows`: behind a skipped segment the rest of its part is skipped.
* `runChain_follows_plan`: one log and its end for every chain, and the segments of a session as such a
  chain.
-/

namespace CommandShell

/-- The flow asks to leave. -/
def Flow.stops : Flow → Bool
  | .status _ => false
  | .terminate | .exit _ => true

variable {σ : Type}

/-- What is told of the segments of a plan, in its order: the flow and the state in which a segment
ended, or nothing if it was skipped. -/
abbrev Log (σ : Type) := List (Option (Flow × σ))

namespace Log

/-- The state that a segment leaves: a skipped one leaves the state as it is. -/
def left (start : σ) : Option (Flow × σ) → σ
  | some (_, s) => s
  | none => start

/-- The state that the first `i` segments leave, from the state before all of them. -/
def stateAt (log : Log σ) (start : σ) (i : Nat) : σ :=
  (log.take i).foldl left start

@[simp] theorem stateAt_zero (log : Log σ) (start : σ) : log.stateAt start 0 = start := rfl

@[simp] theorem stateAt_cons (entry : Option (Flow × σ)) (log : Log σ) (start : σ) (i : Nat) :
    stateAt (entry :: log) start (i + 1) = stateAt log (left start entry) i := rfl

end Log

/-- The segment behind a connector is to run, after what is told of the segment before it. -/
def IsDue (connector : Connector) (before : Option (Flow × σ)) : Prop :=
  connector = .sequence ∨
    ∃ status s, before = some (.status status, s) ∧ connector.admits status = true

/-- The log belongs to the plan, from a state `start` on and behind a segment of which `before` is
told. -/
structure Follows (run : Runner σ) (before : Option (Flow × σ)) (start : σ)
    (plan : List (Connector × List Token)) (log : Log σ) : Prop where
  length_le : log.length ≤ plan.length
  /-- A segment has run exactly if it was due after the segment before it. -/
  ran_iff : ∀ (i : Nat) connector segment (entry : Option (Flow × σ)),
    plan[i]? = some (connector, segment) → log[i]? = some entry →
      (entry.isSome ↔ IsDue connector (before :: log)[i]?.join)
  /-- A segment has run in the state that those before it had left. -/
  ran_as : ∀ (i : Nat) connector segment outcome,
    plan[i]? = some (connector, segment) → log[i]? = some (some outcome) →
      run segment (log.stateAt start i) = outcome
  /-- Behind a segment that asks to leave nothing is told. -/
  goes_on : ∀ (i : Nat) flow s, i + 1 < log.length → log[i]? = some (some (flow, s)) →
    flow.stops = false
  /-- All segments are told of, unless one asks to leave. -/
  ends : log.length < plan.length → ∃ flow s, log.getLast? = some (some (flow, s)) ∧ flow.stops

/-! ## Logs by their first entry -/

section

variable {run : Runner σ} {before : Option (Flow × σ)} {start : σ}

theorem follows_nil {log : Log σ} : Follows run before start [] log ↔ log = [] := by
  constructor
  · intro h
    have := h.length_le
    exact List.eq_nil_of_length_eq_zero (by simpa using this)
  · rintro rfl
    constructor <;> simp

theorem not_follows_cons_nil {entry : Connector × List Token}
    {plan : List (Connector × List Token)} : ¬ Follows run before start (entry :: plan) [] := by
  intro h
  obtain ⟨flow, s, hlast, -⟩ := h.ends (by simp)
  simp at hlast

/-- What is told of a segment asks to leave. -/
def leaves (entry : Option (Flow × σ)) : Prop :=
  ∃ outcome, entry = some outcome ∧ outcome.1.stops = true

variable {connector : Connector} {segment : List Token} {plan : List (Connector × List Token)}
  {entry : Option (Flow × σ)} {log : Log σ}

/-- Behind a first segment that asks to leave nothing is told. -/
theorem Follows.eq_nil_of_leaves
    (h : Follows run before start ((connector, segment) :: plan) (entry :: log))
    (hleaves : leaves entry) : log = [] := by
  obtain ⟨⟨flow, s⟩, rfl, hstops⟩ := hleaves
  by_contra hne
  have hlength : 0 + 1 < (some (flow, s) :: log).length := by
    have := List.length_pos_iff.mpr hne
    simpa using this
  have hgoes := h.goes_on 0 flow s hlength rfl
  simp [hgoes] at hstops

/-- Behind a first segment that goes on, the rest of the log is the log of the rest of the plan. -/
theorem Follows.tail (h : Follows run before start ((connector, segment) :: plan) (entry :: log))
    (hleaves : ¬ leaves entry) : Follows run entry (Log.left start entry) plan log := by
  refine ⟨?_, ?_, ?_, ?_, ?_⟩
  · simpa using h.length_le
  · intro i c seg e hplan hlog
    simpa using h.ran_iff (i + 1) c seg e (by simpa using hplan) (by simpa using hlog)
  · intro i c seg outcome hplan hlog
    have hran := h.ran_as (i + 1) c seg outcome (by simpa using hplan) (by simpa using hlog)
    simpa using hran
  · intro i flow s hlength hlog
    exact h.goes_on (i + 1) flow s (by simpa using hlength) (by simpa using hlog)
  · intro hlength
    obtain ⟨flow, s, hlast, hstops⟩ := h.ends (by simpa using hlength)
    rw [List.getLast?_cons] at hlast
    cases hlog : log.getLast? with
    | none =>
        -- The entry itself would be the last one, and would ask to leave.
        rw [hlog] at hlast
        exact absurd ⟨(flow, s), by simpa using hlast, hstops⟩ hleaves
    | some last =>
        rw [hlog] at hlast
        exact ⟨flow, s, by simpa using hlast, hstops⟩

/-- A segment that asks to leave has a log of its own. -/
theorem follows_singleton_of_leaves (hleaves : leaves entry)
    (hdue : entry.isSome ↔ IsDue connector before)
    (hran : ∀ outcome, entry = some outcome → run segment start = outcome) :
    Follows run before start ((connector, segment) :: plan) [entry] := by
  obtain ⟨⟨flow, s⟩, rfl, hstops⟩ := hleaves
  refine ⟨by simp, ?_, ?_, by simp, fun _ => ⟨flow, s, rfl, hstops⟩⟩
  · intro i c seg e hplan hlog
    obtain ⟨rfl, rfl⟩ : i = 0 ∧ e = some (flow, s) := by cases i <;> simp_all
    obtain ⟨rfl, rfl⟩ : c = connector ∧ seg = segment := by simp_all
    simpa using hdue
  · intro i c seg outcome hplan hlog
    obtain ⟨rfl, rfl⟩ : i = 0 ∧ outcome = (flow, s) := by cases i <;> simp_all
    obtain ⟨rfl, rfl⟩ : c = connector ∧ seg = segment := by simp_all
    simpa using hran _ rfl

/-- A log goes on behind a segment that does not ask to leave. -/
theorem Follows.cons (h : Follows run entry (Log.left start entry) plan log)
    (hleaves : ¬ leaves entry) (hdue : entry.isSome ↔ IsDue connector before)
    (hran : ∀ outcome, entry = some outcome → run segment start = outcome) :
    Follows run before start ((connector, segment) :: plan) (entry :: log) := by
  refine ⟨?_, ?_, ?_, ?_, ?_⟩
  · simpa using h.length_le
  · intro i c seg e hplan hlog
    cases i with
    | zero =>
        obtain ⟨⟨rfl, rfl⟩, rfl⟩ : (connector = c ∧ segment = seg) ∧ entry = e := by simp_all
        simpa using hdue
    | succ i => simpa using h.ran_iff i c seg e (by simpa using hplan) (by simpa using hlog)
  · intro i c seg outcome hplan hlog
    cases i with
    | zero =>
        obtain ⟨⟨rfl, rfl⟩, rfl⟩ : (connector = c ∧ segment = seg) ∧ entry = some outcome := by
          simp_all
        simpa using hran _ rfl
    | succ i =>
        rw [Log.stateAt_cons]
        exact h.ran_as i c seg outcome (by simpa using hplan) (by simpa using hlog)
  · intro i flow s hlength hlog
    cases i with
    | zero =>
        obtain rfl : entry = some (flow, s) := by simpa using hlog
        simpa [leaves] using hleaves
    | succ i => exact h.goes_on i flow s (by simpa using hlength) (by simpa using hlog)
  · intro hlength
    obtain ⟨flow, s, hlast, hstops⟩ := h.ends (by simpa using hlength)
    exact ⟨flow, s, by simp [List.getLast?_cons, hlast], hstops⟩

/-- **The first entry of a log.** It tells whether the segment was due, and what it did; the rest of
the log is the log of the rest of the plan, or nothing if the segment asks to leave. -/
theorem follows_cons :
    Follows run before start ((connector, segment) :: plan) (entry :: log) ↔
      (entry.isSome ↔ IsDue connector before) ∧
      (∀ outcome, entry = some outcome → run segment start = outcome) ∧
      (leaves entry → log = []) ∧
      (¬ leaves entry → Follows run entry (Log.left start entry) plan log) := by
  constructor
  · intro h
    refine ⟨?_, ?_, h.eq_nil_of_leaves, h.tail⟩
    · simpa using h.ran_iff 0 connector segment entry
    · intro outcome hentry
      simpa using h.ran_as 0 connector segment outcome rfl (by simp [hentry])
  · rintro ⟨hdue, hran, hstop, hrest⟩
    by_cases hleaves : leaves entry
    · obtain rfl := hstop hleaves
      exact follows_singleton_of_leaves hleaves hdue hran
    · exact (hrest hleaves).cons hleaves hdue hran

end

/-! ## The log of a plan -/

/-- What is told of the first segment is settled by what was told before and by what the segment
does. -/
private theorem exists_entry (run : Runner σ) (before : Option (Flow × σ)) (start : σ)
    (connector : Connector) (segment : List Token) :
    ∃ entry : Option (Flow × σ), (entry.isSome ↔ IsDue connector before) ∧
      ∀ outcome, entry = some outcome → run segment start = outcome := by
  by_cases hdue : IsDue connector before
  · exact ⟨some (run segment start), by simp [hdue], fun _ h => Option.some.inj h⟩
  · exact ⟨none, by simp [hdue], fun _ h => nomatch h⟩

private theorem entry_unique {run : Runner σ} {before : Option (Flow × σ)} {start : σ}
    {connector : Connector} {segment : List Token} {e e' : Option (Flow × σ)}
    (hdue : e.isSome ↔ IsDue connector before)
    (hran : ∀ outcome, e = some outcome → run segment start = outcome)
    (hdue' : e'.isSome ↔ IsDue connector before)
    (hran' : ∀ outcome, e' = some outcome → run segment start = outcome) : e' = e := by
  cases e with
  | none =>
      have hnone : ¬ e'.isSome := by rw [hdue', ← hdue]; simp
      simpa using hnone
  | some outcome =>
      have hsome : e'.isSome := by rw [hdue', ← hdue]; rfl
      obtain ⟨outcome', rfl⟩ := Option.isSome_iff_exists.mp hsome
      rw [← hran outcome rfl, ← hran' outcome' rfl]

/-- **A plan has exactly one log**, whatever its segments do. -/
theorem existsUnique_follows (run : Runner σ) (before : Option (Flow × σ)) (start : σ)
    (plan : List (Connector × List Token)) : ∃! log, Follows run before start plan log := by
  induction plan generalizing before start with
  | nil => exact ⟨[], follows_nil.mpr rfl, fun _ h => follows_nil.mp h⟩
  | cons item plan ih =>
      obtain ⟨connector, segment⟩ := item
      obtain ⟨entry, hdue, hran⟩ := exists_entry run before start connector segment
      obtain ⟨rest, hrest, hunique⟩ := ih entry (Log.left start entry)
      by_cases hleaves : leaves entry
      · refine ⟨[entry], follows_cons.mpr ⟨hdue, hran, fun _ => rfl, fun h => absurd hleaves h⟩, ?_⟩
        rintro (_ | ⟨entry', log⟩) h
        · exact absurd h not_follows_cons_nil
        · obtain ⟨hdue', hran', hstop, -⟩ := follows_cons.mp h
          obtain rfl := entry_unique hdue hran hdue' hran'
          rw [hstop hleaves]
      · refine ⟨entry :: rest,
          follows_cons.mpr ⟨hdue, hran, fun h => absurd h hleaves, fun _ => hrest⟩, ?_⟩
        rintro (_ | ⟨entry', log⟩) h
        · exact absurd h not_follows_cons_nil
        · obtain ⟨hdue', hran', -, hlog⟩ := follows_cons.mp h
          obtain rfl := entry_unique hdue hran hdue' hran'
          rw [hunique log (hlog hleaves)]

/-- The segments behind the first one end as their log does, if the run knows of the segment before
them what the log does. -/
private theorem runRest_of_follows {run : Runner σ} {plan : List (Connector × List Token)}
    {before : Option (Flow × σ)} {start : σ} {log : Log σ} (h : Follows run before start plan log)
    {status : Status} {skipping : Bool}
    (hbefore : ∀ connector, IsDue connector before ↔
      connector = .sequence ∨ (skipping = false ∧ connector.admits status)) :
    runRest run plan status skipping start = log.reduceOption.getLastD (.status status, start) := by
  induction plan generalizing before start log status skipping with
  | nil => rw [follows_nil.mp h]; rfl
  | cons item plan ih =>
      obtain ⟨connector, segment⟩ := item
      cases log with
      | nil => exact absurd h not_follows_cons_nil
      | cons entry log =>
          obtain ⟨hdue, hran, hstop, hrest⟩ := follows_cons.mp h
          rw [hbefore connector] at hdue
          cases entry with
          | none =>
              have hskip : ¬ (connector = .sequence ∨ (skipping = false ∧ connector.admits status)) :=
                hdue.not.mp (by simp)
              have hnot : ¬ leaves (none : Option (Flow × σ)) := by simp [leaves]
              rw [runRest, if_neg hskip, List.reduceOption_cons_of_none]
              exact ih (hrest hnot) (by simp [IsDue])
          | some outcome =>
              obtain ⟨flow, s⟩ := outcome
              rw [runRest, if_pos (hdue.mp rfl), hran _ rfl, List.reduceOption_cons_of_some]
              cases flow with
              | status status =>
                  have hnot : ¬ leaves (some (Flow.status status, s)) := by simp [leaves, Flow.stops]
                  rw [List.getLastD_cons]
                  exact ih (hrest hnot) (by simp [IsDue])
              | terminate => rw [hstop ⟨_, rfl, rfl⟩]; rfl
              | exit code => rw [hstop ⟨_, rfl, rfl⟩]; rfl

/-- **A run ends as its log does**: with the flow and the state of the last segment that ran. -/
theorem getLast?_of_follows {run : Runner σ} {tokens : List Token} {start : σ} {log : Log σ}
    (h : Follows run none start (plan tokens) log) :
    log.reduceOption.getLast? = some (runChain run tokens start) := by
  rw [plan_eq_ofTokens] at h
  cases log with
  | nil => exact absurd h not_follows_cons_nil
  | cons entry log =>
      obtain ⟨hdue, hran, hstop, hrest⟩ := follows_cons.mp h
      obtain ⟨⟨flow, s⟩, rfl⟩ := Option.isSome_iff_exists.mp (hdue.mpr (.inl rfl))
      rw [runChain, hran _ rfl, List.reduceOption_cons_of_some, List.getLast?_cons,
        ← List.getLastD_eq_getLast?]
      cases flow with
      | status status =>
          have hnot : ¬ leaves (some (Flow.status status, s)) := by simp [leaves, Flow.stops]
          exact congrArg some (runRest_of_follows (hrest hnot) (by simp [IsDue])).symm
      | terminate => rw [hstop ⟨_, rfl, rfl⟩]; rfl
      | exit code => rw [hstop ⟨_, rfl, rfl⟩]; rfl

/-- **Behind a skipped segment the rest of its part is skipped.** -/
theorem skipped_of_follows {run : Runner σ} {before : Option (Flow × σ)} {start : σ}
    {plan : List (Connector × List Token)} {log : Log σ} (h : Follows run before start plan log)
    {i j : Nat} (hi : log[i]? = some none) (hij : i ≤ j) (hj : j < log.length)
    (hpart : ∀ k, i < k → k ≤ j → ∀ segment, plan[k]? ≠ some (.sequence, segment)) :
    log[j]? = some none := by
  induction j, hij using Nat.le_induction with
  | base => exact hi
  | succ j hij ih =>
      have hskipped := ih (by omega) fun k hk hkj => hpart k hk (by omega)
      have hplan : j + 1 < plan.length := by have := h.length_le; omega
      have hran := h.ran_iff (j + 1) plan[j + 1].1 plan[j + 1].2 log[j + 1]
        (List.getElem?_eq_getElem hplan) (List.getElem?_eq_getElem hj)
      have hconnector : plan[j + 1].1 ≠ .sequence := fun heq =>
        hpart (j + 1) (by omega) (Nat.le_refl _) plan[j + 1].2
          (by rw [List.getElem?_eq_getElem hplan, ← heq])
      have hnot : ¬ log[j + 1].isSome := by
        rw [hran]
        simp [IsDue, hskipped, hconnector]
      rw [List.getElem?_eq_getElem hj]
      simpa using hnot

/-! ## The chains of a session -/

/-- Segments of any behaviour, of which the empty one does nothing and ends with the last status. -/
def idling (lastStatus : σ → Status) (behaviour : Runner σ) : Runner σ
  | [], s => (.status (lastStatus s), s)
  | segment, s => behaviour segment s

theorem idling_runResolved (machine : Machine) :
    idling Session.lastStatus (runResolved machine) = runResolved machine := by
  funext segment s
  cases segment <;> rfl

theorem idling_dispatch (machine : Machine) :
    idling Session.lastStatus (dispatch machine) = dispatch machine := by
  funext segment s
  cases segment <;> rfl

/-- A segment into which aliases bring connectors is run as a chain of its own. -/
theorem runResolved_of_connector (machine : Machine) {segment : List Token} (hne : segment ≠ [])
    {s : Session} (hconnector : ∃ token ∈ s.aliases.resolve segment, token.connector?.isSome) :
    runResolved machine segment s =
      runChecked (dispatch machine) (s.aliases.resolve segment) s := by
  cases segment with
  | nil => exact absurd rfl hne
  | cons token rest => simp only [runResolved, List.any_eq_true, hconnector, if_true]

/-- **A chain runs as its plan says.** For every behaviour of the segments the plan has one log, and
the run ends as that log ends; behind a skipped segment the rest of its part is skipped. Only the last
segment can be empty, as it is behind a connector that ends the list. The segments of a session are of
this kind, and one into which aliases bring connectors has the outcome of a chain of its own, whose
segments run as they are. -/
theorem runChain_follows_plan (lastStatus : σ → Status) (behaviour : Runner σ)
    {tokens : List Token} (h : unexpected? tokens = none) (start : σ) :
    (∃! log, Follows (idling lastStatus behaviour) none start (plan tokens) log) ∧
    (∀ log, Follows (idling lastStatus behaviour) none start (plan tokens) log →
      log.reduceOption.getLast? = some (runChain (idling lastStatus behaviour) tokens start) ∧
      ∀ i j, log[i]? = some none → i ≤ j → j < log.length →
        (∀ k, i < k → k ≤ j → ∀ segment, (plan tokens)[k]? ≠ some (.sequence, segment)) →
        log[j]? = some none) ∧
    (∀ (i : Nat) connector, (plan tokens)[i]? = some (connector, []) →
      i + 1 = (plan tokens).length) ∧
    (∀ token connector, tokens.getLast? = some token → token.connector? = some connector →
      ∃ link, (plan tokens).getLast? = some (link, [])) ∧
    (∀ machine, idling Session.lastStatus (runResolved machine) = runResolved machine ∧
      idling Session.lastStatus (dispatch machine) = dispatch machine) ∧
    ∀ machine segment (s : Session), segment ≠ [] →
      (∃ token ∈ s.aliases.resolve segment, token.connector?.isSome) →
      unexpected? (s.aliases.resolve segment) = none →
      ∀ log, Follows (dispatch machine) none s (plan (s.aliases.resolve segment)) log →
        log.reduceOption.getLast? = some (runResolved machine segment s) := by
  refine ⟨existsUnique_follows _ _ _ _, ?_, ?_, ?_, ?_, ?_⟩
  · intro log hlog
    exact ⟨getLast?_of_follows hlog, fun i j hi hij hj hpart =>
      skipped_of_follows hlog hi hij hj hpart⟩
  · intro i connector hi
    exact getElem?_plan_nil h hi
  · intro token connector hlast hconnector
    exact getLast?_plan_of_connector hlast hconnector
  · intro machine
    exact ⟨idling_runResolved machine, idling_dispatch machine⟩
  · intro machine segment s hne hconnector hvalid log hlog
    rw [runResolved_of_connector machine hne hconnector, runChecked, hvalid]
    exact getLast?_of_follows hlog

/-- In `a && b || c ; d`, where `a` fails and every segment notes that it ran, the log ends behind `a`
and `d`. -/
theorem runChain_follows_plan_of_failure :
    let tokens : List Token := [['a'], ['&', '&'], ['b'], ['|', '|'], ['c'], [';'], ['d']]
    let note : Runner (List (List Token)) := fun segment ran =>
      (.status (if segment = [['a']] then 1 else 0), ran ++ [segment])
    let run := idling (fun _ => 0) note
    unexpected? tokens = none ∧ (∃! log, Follows run none [] (plan tokens) log) ∧
      ∀ log, Follows run none [] (plan tokens) log →
        log.reduceOption.getLast? = some (.status 0, [[['a']], [['d']]]) := by
  intro tokens note run
  have hvalid : unexpected? tokens = none := by decide
  have hend : runChain run tokens [] = (.status 0, [[['a']], [['d']]]) := by decide
  obtain ⟨hlog, houtcome, -⟩ := runChain_follows_plan (fun _ => 0) note hvalid []
  exact ⟨hvalid, hlog, fun log h => by rw [(houtcome log h).1, hend]⟩

end CommandShell
