import CommandShell.Proofs.Aliases.Replacement
import CommandShell.Proofs.Chain.Plan
import CommandShell.Session.Execute

/-!
# The record of a line

While a line runs, a record is kept of its commands and of the token lists that were refused. Nothing
reads the record, so a recorded run does to the session what the run does.

## Main definitions
* `Machine.idle`: a machine for examples.
* `Event`: a command or a refusal.
* `Recorded`: a session with its record.
* `dispatchRecorded`, `runCheckedRecorded`, `runResolvedRecorded`, `executeLineRecorded`: the runs
  that keep the record.
* `commandOutcome`: what comes of one command.

## Main results
* `executeLineRecorded_eq`: the record does not change what a line does.
* `executeLineRecorded_of_no_connector`, `executeLine_of_no_connector`: a line that is one command.
* `executeLineRecorded_induction`, `executeLine_induction`: what holds after every line.
-/

namespace CommandShell

/-- A machine whose programs do nothing. -/
def Machine.idle : Machine := fun process =>
  ⟨.code 0, [], [], process.disk.files, process.input⟩

/-- What happens while a line runs. -/
inductive Event
  /-- The tokens were run as one command. -/
  | command (tokens : List Token) (before : Session) (outcome : Flow × Session)
  /-- A token list was refused because the token is out of place in it. -/
  | refusal (token : Token) (before : Session)

/-- The session at the time of an event. -/
def Event.before : Event → Session
  | command _ before _ => before
  | refusal _ before => before

/-- A session with the events in it, the first one first. -/
structure Recorded where
  session : Session
  events : List Event

namespace Recorded

/-- One more event, which led to an outcome. -/
def note (r : Recorded) (event : Event) (outcome : Flow × Session) : Flow × Recorded :=
  (outcome.1, ⟨outcome.2, r.events ++ [event]⟩)

/-- What a recorded run does to the session. -/
def plain (outcome : Flow × Recorded) : Flow × Session :=
  Prod.map id session outcome

@[simp] theorem plain_note (r : Recorded) (event : Event) (outcome : Flow × Session) :
    plain (r.note event outcome) = outcome := rfl

@[simp] theorem events_note (r : Recorded) (event : Event) (outcome : Flow × Session) :
    (r.note event outcome).2.events = r.events ++ [event] := rfl

/-- What holds of all events still does, if it holds of one more. -/
theorem forall_mem_note {P : Event → Prop} {r : Recorded} (h : ∀ event ∈ r.events, P event)
    {event : Event} (hevent : P event) (outcome : Flow × Session) :
    ∀ other ∈ (r.note event outcome).2.events, P other := by
  intro other hother
  rcases List.mem_append.mp hother with hother | hother
  · exact h other hother
  · obtain rfl := List.mem_singleton.mp hother
    exact hevent

end Recorded

open Recorded

/-- `dispatch`, with a record of the command. -/
def dispatchRecorded (machine : Machine) : Runner Recorded
  | [], r => (.status r.session.lastStatus, r)
  | token :: rest, r =>
    let outcome := dispatch machine (token :: rest) r.session
    r.note (.command (token :: rest) r.session outcome) outcome

/-- `runChecked`, with a record of the refusal if there is one. -/
def runCheckedRecorded (run : Runner Recorded) : Runner Recorded := fun tokens r =>
  match unexpected? tokens with
  | some token => r.note (.refusal token r.session) (r.session.refuse token)
  | none => runChain run tokens r

/-- `runResolved`, with a record. -/
def runResolvedRecorded (machine : Machine) : Runner Recorded
  | [], r => (.status r.session.lastStatus, r)
  | segment, r =>
    let resolved := r.session.aliases.resolve segment
    if resolved.any fun token => token.connector?.isSome then
      runCheckedRecorded (dispatchRecorded machine) resolved r
    else dispatchRecorded machine resolved r

/-- `executeLine`, with a record. -/
def executeLineRecorded (machine : Machine) (line : Text) (r : Recorded) : Flow × Recorded :=
  if line.isEmpty then (.status r.session.lastStatus, { r with session := r.session.advance })
  else if (r.session.tokensOf line).isEmpty then (.status r.session.lastStatus, r)
  else runCheckedRecorded (runResolvedRecorded machine) (r.session.tokensOf line) r

/-- What comes of a command that is run, reported and counted. -/
def commandOutcome (machine : Machine) (name : Text) (operands : List Text) (s : Session) :
    Flow × Session :=
  let (result, s) := (runCommand machine name operands).run s
  let (flow, s) := s.settle result
  (flow, s.advance)

/-- The tokens of a command without their quotes are its name and its operands. -/
theorem dispatch_cons (machine : Machine) (token : Token) (rest : List Token) (s : Session) :
    dispatch machine (token :: rest) s =
      commandOutcome machine token.word (rest.map Token.word) s := rfl

/-- The command that defines one alias succeeds, and changes nothing but the aliases. -/
theorem dispatch_definition (machine : Machine) {operand : Token} {name value : Text}
    (h : Builtin.definition? operand.word = some (name, value)) (s : Session) :
    dispatch machine [Aliases.definer, operand] s =
      (.status 0, { s with
        aliases := s.aliases.add name (stripQuotes value)
        lastStatus := 0
        counter := s.counter + 1 }) := by
  have hword : Token.word Aliases.definer = Builtin.definitionsName := by decide
  have hname : Builtin.ofName? Builtin.definitionsName = some .defining := Builtin.ofName?_name .defining
  have hoperand : Builtin.takeOperand 0 operand.word = (do
      modify fun s : Session => { s with aliases := s.aliases.add name (stripQuotes value) }
      return 0) := by
    rw [Builtin.takeOperand, h]
  rw [dispatch_cons, hword, commandOutcome, runCommand, hname]
  simp only [List.map_cons, List.map_nil, Builtin.run, Builtin.defineAliases, List.foldlM_cons,
    List.foldlM_nil, hoperand]
  rfl

/-! ## The record changes nothing -/

section

variable (machine : Machine)

theorem dispatchRecorded_eq (tokens : List Token) (r : Recorded) :
    plain (dispatchRecorded machine tokens r) = dispatch machine tokens r.session := by
  cases tokens <;> rfl

theorem runCheckedRecorded_eq {recorded : Runner Recorded} {run : Runner Session}
    (h : ∀ tokens r, plain (recorded tokens r) = run tokens r.session) (tokens : List Token)
    (r : Recorded) :
    plain (runCheckedRecorded recorded tokens r) = runChecked run tokens r.session := by
  rw [runCheckedRecorded, runChecked]
  cases unexpected? tokens with
  | some token => rfl
  | none => exact runChain_map h tokens r

theorem runResolvedRecorded_eq (segment : List Token) (r : Recorded) :
    plain (runResolvedRecorded machine segment r) = runResolved machine segment r.session := by
  cases segment with
  | nil => rfl
  | cons token rest =>
      simp only [runResolvedRecorded, runResolved]
      split
      · exact runCheckedRecorded_eq (dispatchRecorded_eq machine) _ r
      · exact dispatchRecorded_eq machine _ r

/-- **The record does not change what a line does.** -/
theorem executeLineRecorded_eq (line : Text) (r : Recorded) :
    plain (executeLineRecorded machine line r) = executeLine machine line r.session := by
  rw [executeLineRecorded, executeLine]
  split
  · rfl
  split
  · rfl
  · exact runCheckedRecorded_eq (runResolvedRecorded_eq machine) _ r

/-- A line with tokens is not empty, and runs as they do. -/
theorem executeLineRecorded_of_ne_nil {line : Text} {r : Recorded}
    (h : r.session.tokensOf line ≠ []) :
    executeLineRecorded machine line r =
      runCheckedRecorded (runResolvedRecorded machine) (r.session.tokensOf line) r := by
  have hline : line ≠ [] := by
    rintro rfl
    exact h (by simp [Session.tokensOf, expand])
  rw [executeLineRecorded, if_neg (by simpa using hline), if_neg (by simpa using h)]

end

/-! ## The record of one segment -/

section

variable {machine : Machine} {segment : List Token} {r : Recorded}

theorem dispatchRecorded_of_ne_nil (h : segment ≠ []) :
    dispatchRecorded machine segment r =
      r.note (.command segment r.session (dispatch machine segment r.session))
        (dispatch machine segment r.session) := by
  cases segment with
  | nil => exact absurd rfl h
  | cons token rest => rfl

theorem runCheckedRecorded_of_some {run : Runner Recorded} {token : Token}
    (h : unexpected? segment = some token) :
    runCheckedRecorded run segment r =
      r.note (.refusal token r.session) (r.session.refuse token) := by
  rw [runCheckedRecorded, h]

theorem runCheckedRecorded_of_none {run : Runner Recorded} (h : unexpected? segment = none) :
    runCheckedRecorded run segment r = runChain run segment r := by
  rw [runCheckedRecorded, h]

/-- A segment into which aliases bring connectors is checked again. -/
theorem runResolvedRecorded_of_connector (hne : segment ≠ [])
    (h : ∃ token ∈ r.session.aliases.resolve segment, token.connector?.isSome) :
    runResolvedRecorded machine segment r =
      runCheckedRecorded (dispatchRecorded machine) (r.session.aliases.resolve segment) r := by
  cases segment with
  | nil => exact absurd rfl hne
  | cons token rest => simp only [runResolvedRecorded, List.any_eq_true, h, if_true]

/-- A segment into which aliases bring no connectors is run as one command. -/
theorem runResolvedRecorded_of_no_connector (hne : segment ≠ [])
    (h : ¬ ∃ token ∈ r.session.aliases.resolve segment, token.connector?.isSome) :
    runResolvedRecorded machine segment r =
      dispatchRecorded machine (r.session.aliases.resolve segment) r := by
  cases segment with
  | nil => exact absurd rfl hne
  | cons token rest => simp only [runResolvedRecorded, List.any_eq_true, h, if_false]

/-- A segment that aliases turn into a list in which nothing is out of place is a chain of commands. -/
theorem runResolvedRecorded_of_valid (hne : segment ≠ [])
    (h : unexpected? (r.session.aliases.resolve segment) = none) :
    runResolvedRecorded machine segment r =
      runChain (dispatchRecorded machine) (r.session.aliases.resolve segment) r := by
  by_cases hconnector : ∃ token ∈ r.session.aliases.resolve segment, token.connector?.isSome
  · rw [runResolvedRecorded_of_connector hne hconnector, runCheckedRecorded_of_none h]
  · have hnone : ∀ token ∈ r.session.aliases.resolve segment, token.connector? = none := by
      intro token htoken
      exact Option.not_isSome_iff_eq_none.mp fun hsome => hconnector ⟨token, htoken, hsome⟩
    rw [runResolvedRecorded_of_no_connector hne hconnector, runChain_of_no_connector hnone]

/-- A segment that aliases turn into one command. -/
theorem runResolved_of_no_connector {s : Session} {resolved : List Token} (hne : segment ≠ [])
    (hresolve : s.aliases.resolve segment = resolved)
    (h : ∀ token ∈ resolved, token.connector? = none) :
    runResolved machine segment s = dispatch machine resolved s := by
  subst hresolve
  have hnone : ¬ ∃ token ∈ s.aliases.resolve segment, token.connector?.isSome := by
    rintro ⟨token, htoken, hsome⟩
    simp [h token htoken] at hsome
  have hrun : runResolvedRecorded machine segment ⟨s, []⟩ = _ :=
    runResolvedRecorded_of_no_connector (r := ⟨s, []⟩) hne hnone
  have hplain := congrArg plain hrun
  rwa [runResolvedRecorded_eq, dispatchRecorded_eq] at hplain

/-- A line that defines or shows aliases is one command. -/
theorem executeLine_of_definer {line : Text} {s : Session} {operands : List Token}
    (hline : s.tokensOf line = Aliases.definer :: operands)
    (hoperands : ∀ operand ∈ operands, operand.isOperator = false) :
    executeLine machine line s = dispatch machine (Aliases.definer :: operands) s := by
  have hwords : ∀ token ∈ Aliases.definer :: operands, token.isOperator = false :=
    List.forall_mem_cons.mpr ⟨rfl, hoperands⟩
  have hconnector : ∀ token ∈ Aliases.definer :: operands, token.connector? = none :=
    fun token htoken => connector?_of_isOperator_eq_false (hwords token htoken)
  have hempty : line.isEmpty = false := by
    cases line with
    | nil => simp [Session.tokensOf, expand] at hline
    | cons c rest => rfl
  have hstay : s.aliases.resolve (Aliases.definer :: operands) = Aliases.definer :: operands :=
    Aliases.resolve_of_definer rfl
  rw [executeLine, hempty, hline, List.isEmpty_cons, if_neg Bool.false_ne_true,
    if_neg Bool.false_ne_true, runChecked, unexpected?_of_all_words hwords]
  exact (runChain_of_no_connector hconnector _ s).trans
    (runResolved_of_no_connector (List.cons_ne_nil _ _) hstay hconnector)

section

variable (hconnector : ∀ word ∈ segment, word.connector? = none)
  (haliases : ∀ word ∈ segment, r.session.aliases.get? word = none)

include hconnector haliases

/-- A segment without connectors and aliases is one command. -/
theorem runResolvedRecorded_of_all_none (hne : segment ≠ []) :
    runResolvedRecorded machine segment r = dispatchRecorded machine segment r := by
  have hresolve := Aliases.resolve_of_all_none haliases
  have hnone : ¬ ∃ word ∈ r.session.aliases.resolve segment, word.connector?.isSome := by
    rw [hresolve]
    rintro ⟨word, hword, hsome⟩
    simp [hconnector word hword] at hsome
  rw [runResolvedRecorded_of_no_connector hne hnone, hresolve]

/-- **A line without connectors and aliases is one command**, if no token is out of place in it. -/
theorem executeLineRecorded_of_no_connector {line : Text} (hline : r.session.tokensOf line = segment)
    (hne : segment ≠ []) (hvalid : unexpected? segment = none) :
    executeLineRecorded machine line r =
      r.note (.command segment r.session (dispatch machine segment r.session))
        (dispatch machine segment r.session) := by
  subst hline
  rw [executeLineRecorded_of_ne_nil machine hne, runCheckedRecorded_of_none hvalid,
    runChain_of_no_connector hconnector, runResolvedRecorded_of_all_none hconnector haliases hne,
    dispatchRecorded_of_ne_nil hne]

theorem executeLine_of_no_connector {line : Text} (hline : r.session.tokensOf line = segment)
    (hne : segment ≠ []) (hvalid : unexpected? segment = none) :
    executeLine machine line r.session = dispatch machine segment r.session := by
  rw [← executeLineRecorded_eq machine line r,
    executeLineRecorded_of_no_connector hconnector haliases hline hne hvalid, Recorded.plain_note]

end

end

/-! ## What holds of every record -/

section

variable {machine : Machine} {P : Recorded → Prop} {Q : Flow × Recorded → Prop}
  (hcommand : ∀ tokens r, tokens ≠ [] → P r →
    Q (r.note (.command tokens r.session (dispatch machine tokens r.session))
      (dispatch machine tokens r.session)))
  (hrefusal : ∀ token r, P r → Q (r.note (.refusal token r.session) (r.session.refuse token)))
  (hidle : ∀ r, P r → Q (.status r.session.lastStatus, r))
  (hnext : ∀ status r, Q (.status status, r) → P r)

include hcommand hidle in
theorem dispatchRecorded_induction (segment : List Token) {r : Recorded} (h : P r) :
    Q (dispatchRecorded machine segment r) := by
  cases segment with
  | nil => exact hidle r h
  | cons token rest => exact hcommand _ r (List.cons_ne_nil _ _) h

include hrefusal hnext in
theorem runCheckedRecorded_induction {run : Runner Recorded}
    (hrun : ∀ segment r, P r → Q (run segment r)) (tokens : List Token) {r : Recorded} (h : P r) :
    Q (runCheckedRecorded run tokens r) := by
  cases htokens : unexpected? tokens with
  | some token =>
      rw [runCheckedRecorded_of_some htokens]
      exact hrefusal token r h
  | none =>
      rw [runCheckedRecorded_of_none htokens]
      exact runChain_induction (fun entry _ r hr => hrun entry.2 r hr) hnext h

include hcommand hrefusal hidle hnext

theorem runResolvedRecorded_induction (segment : List Token) {r : Recorded} (h : P r) :
    Q (runResolvedRecorded machine segment r) := by
  have hdispatch : ∀ segment r, P r → Q (dispatchRecorded machine segment r) := fun segment _ hr =>
    dispatchRecorded_induction hcommand hidle segment hr
  cases segment with
  | nil => exact hidle r h
  | cons token rest =>
      simp only [runResolvedRecorded]
      split
      · exact runCheckedRecorded_induction hrefusal hnext hdispatch _ h
      · exact hdispatch _ r h

/-- **What every command and every refusal leads to, a line leads to**, if it lets the next one start
from what the one before asks. An empty line is none of them. -/
theorem executeLineRecorded_induction {line : Text} (hline : line ≠ []) {r : Recorded} (h : P r) :
    Q (executeLineRecorded machine line r) := by
  rw [executeLineRecorded, if_neg (by simpa using hline)]
  split
  · exact hidle r h
  · exact runCheckedRecorded_induction hrefusal hnext
      (fun segment _ hr => runResolvedRecorded_induction hcommand hrefusal hidle hnext segment hr) _ h

end

/-- What every command, every refusal and every empty line keeps, a line keeps. -/
theorem executeLine_induction {machine : Machine} {P : Session → Prop}
    (hcommand : ∀ segment s, P s → P (dispatch machine segment s).2)
    (hrefusal : ∀ token s, P s → P (s.refuse token).2) (hempty : ∀ s, P s → P s.advance)
    (line : Text) {s : Session} (h : P s) : P (executeLine machine line s).2 := by
  rw [← executeLineRecorded_eq machine line ⟨s, []⟩]
  by_cases hline : line = []
  · subst hline
    exact hempty s h
  · exact executeLineRecorded_induction (P := fun r => P r.session)
      (Q := fun outcome => P outcome.2.session) (fun segment r _ => hcommand segment r.session)
      (fun token r => hrefusal token r.session) (fun _ hr => hr) (fun _ _ hr => hr) hline h

end CommandShell
