import CommandShell.Proofs.Aliases.Replacement
import CommandShell.Proofs.Session.Record
import Mathlib.Tactic.ByContra

/-!
# What is checked before it runs

The tokens of a line are checked before anything of it runs. The tokens into which the aliases of a
segment turn it are checked only if one of them is a connector, and the check asks for more than that
connectors stand where they may: a list may not open with a lone `&` or `|` either. So there are lists
that are refused when they are typed and run as a command when an alias brings them in: those in which
a token is out of place and none is a connector.

## Main definitions
* `HasConnector`: the condition under which what aliases bring in is checked.
* `Recorded.refused`: what a refusal leaves behind.
* `Event.IsChecked`: what is so of every command that runs.

## Main results
* `runResolvedRecorded_of_refused`, `runResolvedRecorded_of_passed`: segments in which a token is out
  of place.
* `isChecked_executeLineRecorded`: the commands of a line.
* `refused_iff_hasConnector`: when what aliases bring in is checked.
-/

namespace CommandShell

open Recorded

/-- One of the tokens is a connector. -/
def HasConnector (tokens : List Token) : Prop :=
  ∃ token ∈ tokens, token.connector?.isSome

instance (tokens : List Token) : Decidable (HasConnector tokens) :=
  inferInstanceAs (Decidable (∃ token ∈ tokens, _))

/-- The session and its record after a token has been refused: the error is reported, its status is
the last one, and nothing has run. -/
def Recorded.refused (r : Recorded) (token : Token) : Recorded where
  session := { r.session.report (.unexpectedToken token) with lastStatus := 2 }
  events := r.events ++ [.refusal token r.session]

/-- The tokens of a command had been checked, or they came out of a segment that had been, and no
connector is among them. -/
def Event.IsChecked : Event → Prop
  | command tokens before _ => tokens ≠ [] ∧ (unexpected? tokens = none ∨
      ¬ HasConnector tokens ∧
        ∃ segment, unexpected? segment = none ∧ before.aliases.resolve segment = tokens)
  | refusal _ _ => True

/-- All that is in the record is checked. -/
def Recorded.IsChecked (r : Recorded) : Prop :=
  ∀ event ∈ r.events, event.IsChecked

/-! ## Segments -/

section

variable {machine : Machine} {segment : List Token} {token : Token} {r : Recorded}

theorem ne_nil_of_unexpected? (h : unexpected? segment = some token) : segment ≠ [] := by
  rintro rfl
  simp [unexpected?] at h

/-- An empty segment has no aliases to be replaced. -/
theorem ne_nil_of_resolve {aliases : Aliases} (h : aliases.resolve segment ≠ []) :
    segment ≠ [] := by
  rintro rfl
  exact h (Aliases.resolve_of_all_none (by simp))

theorem note_refusal :
    r.note (.refusal token r.session) (r.session.refuse token) = (.status 2, r.refused token) := rfl

/-- A segment in which a token is out of place is refused if a connector has been brought in. -/
theorem runResolvedRecorded_of_refused
    (h : unexpected? (r.session.aliases.resolve segment) = some token)
    (hconnector : HasConnector (r.session.aliases.resolve segment)) :
    runResolvedRecorded machine segment r = (.status 2, r.refused token) := by
  have hne := ne_nil_of_resolve (ne_nil_of_unexpected? h)
  rw [runResolvedRecorded_of_connector hne hconnector, runCheckedRecorded_of_some h, note_refusal]

/-- Such a segment runs as a command if no connector has been brought in. -/
theorem runResolvedRecorded_of_passed
    (h : unexpected? (r.session.aliases.resolve segment) = some token)
    (hconnector : ¬ HasConnector (r.session.aliases.resolve segment)) :
    runResolvedRecorded machine segment r =
      r.note (.command (r.session.aliases.resolve segment) r.session
          (dispatch machine (r.session.aliases.resolve segment) r.session))
        (dispatch machine (r.session.aliases.resolve segment) r.session) := by
  have hresolved := ne_nil_of_unexpected? h
  rw [runResolvedRecorded_of_no_connector (ne_nil_of_resolve hresolved) hconnector,
    dispatchRecorded_of_ne_nil hresolved]

/-- **A segment in which a token is out of place is refused exactly if it holds a connector.** -/
theorem runResolvedRecorded_eq_refused_iff
    (h : unexpected? (r.session.aliases.resolve segment) = some token) :
    runResolvedRecorded machine segment r = (.status 2, r.refused token) ↔
      HasConnector (r.session.aliases.resolve segment) := by
  refine ⟨?_, runResolvedRecorded_of_refused h⟩
  intro hrefused
  by_contra hconnector
  -- The record would end in a refusal and in a command.
  rw [runResolvedRecorded_of_passed h hconnector] at hrefused
  have hevents := congrArg (fun outcome => outcome.2.events) hrefused
  rw [events_note, Recorded.refused, List.append_cancel_left_eq] at hevents
  simp at hevents

end

/-! ## Records -/

section

variable {machine : Machine} {r : Recorded}

theorem Recorded.IsChecked.note (h : r.IsChecked) {event : Event} (hevent : event.IsChecked)
    (outcome : Flow × Session) : (r.note event outcome).2.IsChecked :=
  Recorded.forall_mem_note h hevent outcome

/-- One command adds itself to the record. -/
theorem isChecked_dispatchRecorded {tokens : List Token} (h : r.IsChecked)
    (htokens : unexpected? tokens = none ∨ ¬ HasConnector tokens ∧
      ∃ segment, unexpected? segment = none ∧ r.session.aliases.resolve segment = tokens) :
    (dispatchRecorded machine tokens r).2.IsChecked := by
  cases tokens with
  | nil => exact h
  | cons token rest =>
      refine h.note ?_ _
      exact ⟨List.cons_ne_nil token rest, htokens⟩

/-- The segments of a checked list are checked, and so is what they run. -/
theorem isChecked_runCheckedRecorded {run : Runner Recorded}
    (hrun : ∀ segment, unexpected? segment = none → ∀ r, Recorded.IsChecked r →
      (run segment r).2.IsChecked) (tokens : List Token) (h : r.IsChecked) :
    (runCheckedRecorded run tokens r).2.IsChecked := by
  cases htokens : unexpected? tokens with
  | some token =>
      rw [runCheckedRecorded_of_some htokens]
      refine h.note ?_ _
      trivial
  | none =>
      rw [runCheckedRecorded_of_none htokens]
      refine runChain_induction (P := Recorded.IsChecked) (Q := fun outcome => outcome.2.IsChecked)
        ?_ (fun _ _ hnext => hnext) h
      intro entry hentry r hr
      exact hrun entry.2 (unexpected?_of_mem_plan htokens hentry) r hr

theorem isChecked_runResolvedRecorded {segment : List Token} (hsegment : unexpected? segment = none)
    (h : r.IsChecked) : (runResolvedRecorded machine segment r).2.IsChecked := by
  by_cases hne : segment = []
  · subst hne
    exact h
  by_cases hconnector : HasConnector (r.session.aliases.resolve segment)
  · rw [runResolvedRecorded_of_connector hne hconnector]
    exact isChecked_runCheckedRecorded
      (fun tokens htokens r hr => isChecked_dispatchRecorded hr (.inl htokens)) _ h
  · rw [runResolvedRecorded_of_no_connector hne hconnector]
    exact isChecked_dispatchRecorded h (.inr ⟨hconnector, segment, hsegment, rfl⟩)

/-- **Every command of a line is checked**, unless aliases without connectors made it. -/
theorem isChecked_executeLineRecorded (machine : Machine) (line : Text) (h : r.IsChecked) :
    (executeLineRecorded machine line r).2.IsChecked := by
  rw [executeLineRecorded]
  split
  · exact h
  split
  · exact h
  · exact isChecked_runCheckedRecorded
      (fun segment hsegment r hr => isChecked_runResolvedRecorded hsegment hr) _ h

end

/-! ## When what aliases bring in is checked -/

/-- **What aliases bring in is refused exactly if a token is out of place and one is a connector.** A
refusal runs nothing, reports the error and ends with 2; without a connector the segment runs as a
command. So every command of a line had been checked, or holds no connector and came out of a segment
that had been. -/
theorem refused_iff_hasConnector (machine : Machine) (r : Recorded) :
    (∀ segment token, unexpected? (r.session.aliases.resolve segment) = some token →
      (runResolvedRecorded machine segment r = (.status 2, r.refused token) ↔
        HasConnector (r.session.aliases.resolve segment)) ∧
      (¬ HasConnector (r.session.aliases.resolve segment) →
        (runResolvedRecorded machine segment r).2.events = r.events ++
          [.command (r.session.aliases.resolve segment) r.session
            (dispatch machine (r.session.aliases.resolve segment) r.session)])) ∧
    (∀ segment, plain (runResolvedRecorded machine segment r) =
      runResolved machine segment r.session) ∧
    ∀ line, plain (executeLineRecorded machine line r) = executeLine machine line r.session ∧
      (r.IsChecked → (executeLineRecorded machine line r).2.IsChecked) := by
  refine ⟨?_, ?_, ?_⟩
  · intro segment token h
    refine ⟨runResolvedRecorded_eq_refused_iff h, ?_⟩
    intro hconnector
    rw [runResolvedRecorded_of_passed h hconnector, events_note]
  · intro segment
    exact runResolvedRecorded_eq machine segment r
  · intro line
    exact ⟨executeLineRecorded_eq machine line r, isChecked_executeLineRecorded machine line⟩

/-- A session in which one alias has been defined. -/
def Session.ofAlias (name value : Text) : Session :=
  { Session.new "husk".toList 1 .empty ⟨.empty, .root⟩ with aliases := Aliases.empty.add name value }

theorem get?_ofAlias (name value word : Text) :
    (Session.ofAlias name value).aliases.get? word = if word = name then some value else none :=
  Aliases.get?_add_empty name value word

theorem resolve_ofAlias {name value : Text} (hname : name ≠ Aliases.definer)
    (h : ∀ token ∈ tokens value, token ≠ name) :
    (Session.ofAlias name value).aliases.resolve [name] = tokens value := by
  have hstay : ∀ word ∈ tokens value ++ [], (Session.ofAlias name value).aliases.get? word = none := by
    intro word hword
    rw [get?_ofAlias, if_neg (h word (by simpa using hword))]
  have hresolve := Aliases.resolve_cons_of_replacement hname
    (by rw [Aliases.replacement?, get?_ofAlias, if_pos rfl]; rfl) hstay
  rw [List.append_nil] at hresolve
  exact hresolve

/-- With `a` for `x;;y`, the segment `a` is refused, since `;;` is a connector and stands nowhere. -/
theorem refused_iff_hasConnector_of_doubled :
    let r : Recorded := ⟨Session.ofAlias ['a'] "x;;y".toList, []⟩
    unexpected? (r.session.aliases.resolve [['a']]) = some [';', ';'] ∧
      runResolvedRecorded Machine.idle [['a']] r = (.status 2, r.refused [';', ';']) := by
  intro r
  have hresolve : r.session.aliases.resolve [['a']] = [['x'], [';', ';'], ['y']] :=
    resolve_ofAlias (by decide) (by decide)
  have h : unexpected? (r.session.aliases.resolve [['a']]) = some [';', ';'] := by
    rw [hresolve]; decide
  have hconnector : HasConnector (r.session.aliases.resolve [['a']]) := by
    rw [hresolve]; decide
  obtain ⟨hrefused, -, -⟩ := refused_iff_hasConnector Machine.idle r
  exact ⟨h, (hrefused _ _ h).1.mpr hconnector⟩

/-- With `a` for `& x`, the segment `a` runs as the command `&`, which is not found, although `& x` is
refused when it is typed. -/
theorem command_of_lone_operator :
    let r : Recorded := ⟨Session.ofAlias ['a'] "& x".toList, []⟩
    let typed : List Token := [['&'], ['x']]
    r.session.aliases.resolve [['a']] = typed ∧ unexpected? typed = some ['&'] ∧
      (runResolvedRecorded Machine.idle [['a']] r).1 = .status 127 ∧
      (runResolvedRecorded Machine.idle [['a']] r).2.events =
        [.command typed r.session (dispatch Machine.idle typed r.session)] ∧
      runResolvedRecorded Machine.idle [['a']] r ≠ (.status 2, r.refused ['&']) := by
  intro r typed
  have hresolve : r.session.aliases.resolve [['a']] = typed :=
    resolve_ofAlias (by decide) (by decide)
  have h : unexpected? (r.session.aliases.resolve [['a']]) = some ['&'] := by
    rw [hresolve]; decide
  have hconnector : ¬ HasConnector (r.session.aliases.resolve [['a']]) := by
    rw [hresolve]; decide
  have hrun : runResolvedRecorded Machine.idle [['a']] r =
      r.note (.command typed r.session (dispatch Machine.idle typed r.session))
        (dispatch Machine.idle typed r.session) := by
    rw [runResolvedRecorded_of_passed h hconnector, hresolve]
  have hstatus : (dispatch Machine.idle typed r.session).1 = .status 127 := rfl
  have hflow : (runResolvedRecorded Machine.idle [['a']] r).1 = .status 127 := by
    rw [hrun]; exact hstatus
  refine ⟨hresolve, by decide, hflow, by rw [hrun]; rfl, ?_⟩
  intro hrefused
  rw [hrefused] at hflow
  exact absurd hflow (by decide)

end CommandShell
