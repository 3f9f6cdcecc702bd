import CommandShell.Proofs.Line.Semicolon
import CommandShell.Proofs.Session.Checking

/-!
# What separates commands

Every command of a line is made of tokens that were typed, or that aliases brought in while the line ran.
A connector is never among them. So a `;` that stands outside quotes in a line that is not refused
separates two commands, unless it belongs to a run of operator characters that is no connector: a run
that begins with a `&` and a `|`. Such a run is a word of a command like any other.

## Main definitions
* `CameIn`: the tokens that aliases bring in while a line runs.
* `Recorded.IsMadeOf`: what the commands of a record are made of.

## Main results
* `isMadeOf_executeLineRecorded`: the commands of a line.
* `semicolon_in_word_iff_isMixed`: where a `;` outside quotes goes.
-/

namespace CommandShell

open Recorded

/-- The token belongs to an alias that is defined at the time of one of the events. -/
def CameIn (events : List Event) (token : Token) : Prop :=
  ∃ event ∈ events, ∃ name value, event.before.aliases.get? name = some value ∧ token ∈ tokens value

/-- The tokens of the commands are no connectors, and each was typed or came in with an alias. -/
def Recorded.IsMadeOf (typed : List Token) (r : Recorded) : Prop :=
  ∀ segment before outcome, .command segment before outcome ∈ r.events → ∀ token ∈ segment,
    token.connector? = none ∧ (token ∈ typed ∨ CameIn r.events token)

/-! ## What commands are made of -/

section

variable {typed segment : List Token} {r : Recorded} {machine : Machine}

theorem CameIn.append {events : List Event} {token : Token} (h : CameIn events token)
    (later : List Event) : CameIn (events ++ later) token := by
  obtain ⟨event, hevent, hcame⟩ := h
  exact ⟨event, List.mem_append_left later hevent, hcame⟩

/-- One more event leaves the commands before it as they are. -/
theorem Recorded.IsMadeOf.note (h : r.IsMadeOf typed) {event : Event} (outcome : Flow × Session)
    (hevent : ∀ segment before outcome', event = .command segment before outcome' →
      ∀ token ∈ segment, token.connector? = none ∧
        (token ∈ typed ∨ CameIn (r.events ++ [event]) token)) :
    (r.note event outcome).2.IsMadeOf typed := by
  intro segment before outcome' hmem token htoken
  rw [events_note] at hmem ⊢
  rcases List.mem_append.mp hmem with hmem | hmem
  · obtain ⟨hconnector, hmade⟩ := h segment before outcome' hmem token htoken
    exact ⟨hconnector, hmade.imp_right fun hcame => hcame.append [event]⟩
  · exact hevent segment before outcome' (List.mem_singleton.mp hmem).symm token htoken

/-- The aliases of the session `start` have been there at an event, or are there still. -/
def Recorded.HasSeen (start : Session) (r : Recorded) : Prop :=
  r.session = start ∨ ∃ event ∈ r.events, event.before = start

/-- One command, the tokens of which were typed or belong to aliases that have been seen. -/
theorem isMadeOf_dispatchRecorded {start : Session} (h : r.IsMadeOf typed) (hseen : r.HasSeen start)
    (hsegment : ∀ token ∈ segment, token.connector? = none ∧ (token ∈ typed ∨
      ∃ name value, start.aliases.get? name = some value ∧ token ∈ tokens value)) :
    (dispatchRecorded machine segment r).2.IsMadeOf typed ∧
      (dispatchRecorded machine segment r).2.HasSeen start := by
  by_cases hne : segment = []
  · subst hne
    exact ⟨h, hseen⟩
  rw [dispatchRecorded_of_ne_nil hne]
  generalize hevent : Event.command segment r.session (dispatch machine segment r.session) = event
  have hlast : ∃ other ∈ r.events ++ [event], other.before = start := by
    rcases hseen with rfl | ⟨other, hother, hbefore⟩
    · exact ⟨event, by simp, by rw [← hevent, Event.before]⟩
    · exact ⟨other, List.mem_append_left _ hother, hbefore⟩
  refine ⟨h.note _ ?_, .inr hlast⟩
  intro segment' before outcome' heq token htoken
  rw [← hevent] at heq
  obtain ⟨rfl, -, -⟩ := Event.command.inj heq
  obtain ⟨hconnector, hmade⟩ := hsegment token htoken
  refine ⟨hconnector, hmade.imp_right ?_⟩
  rintro ⟨name, value, hvalue, hmem⟩
  obtain ⟨other, hother, hbefore⟩ := hlast
  exact ⟨other, hother, name, value, by rwa [hbefore], hmem⟩

/-- A list that is checked is made of its segments, or runs nothing. -/
theorem isMadeOf_runCheckedRecorded {run : Runner Recorded} {P : Recorded → Prop} {tokens : List Token}
    (hrun : ∀ segment, (∀ token ∈ segment, token ∈ tokens ∧ token.connector? = none) →
      ∀ r, r.IsMadeOf typed → P r → (run segment r).2.IsMadeOf typed ∧ P (run segment r).2)
    (h : r.IsMadeOf typed) (hr : P r) : (runCheckedRecorded run tokens r).2.IsMadeOf typed := by
  cases htokens : unexpected? tokens with
  | some token =>
      rw [runCheckedRecorded_of_some htokens]
      exact h.note _ fun _ _ _ heq => nomatch heq
  | none =>
      rw [runCheckedRecorded_of_none htokens]
      refine (runChain_induction (P := fun r => Recorded.IsMadeOf typed r ∧ P r)
        (Q := fun outcome => Recorded.IsMadeOf typed outcome.2 ∧ P outcome.2)
        ?_ (fun _ _ hnext => hnext) ⟨h, hr⟩).1
      intro entry hentry r hr
      exact hrun entry.2 (fun _ htoken => exists_mem_plan_iff.mp ⟨entry, hentry, htoken⟩) r hr.1 hr.2

theorem isMadeOf_runResolvedRecorded (h : r.IsMadeOf typed)
    (hsegment : ∀ token ∈ segment, token ∈ typed) :
    (runResolvedRecorded machine segment r).2.IsMadeOf typed := by
  by_cases hne : segment = []
  · subst hne
    exact h
  have hresolved : ∀ token ∈ r.session.aliases.resolve segment, token ∈ typed ∨
      ∃ name value, r.session.aliases.get? name = some value ∧ token ∈ tokens value := fun _ htoken =>
    (Aliases.mem_or_mem_tokens_of_mem_resolve htoken).imp_left (hsegment _)
  by_cases hconnector : HasConnector (r.session.aliases.resolve segment)
  · rw [runResolvedRecorded_of_connector hne hconnector]
    refine isMadeOf_runCheckedRecorded (P := Recorded.HasSeen r.session) ?_ h (.inl rfl)
    intro segment' hsegment' r' hr' hseen
    refine isMadeOf_dispatchRecorded hr' hseen fun token htoken => ?_
    obtain ⟨hmem, hnone⟩ := hsegment' token htoken
    exact ⟨hnone, hresolved token hmem⟩
  · rw [runResolvedRecorded_of_no_connector hne hconnector]
    refine (isMadeOf_dispatchRecorded h (.inl rfl) fun token htoken => ⟨?_, hresolved token htoken⟩).1
    by_contra hsome
    exact hconnector ⟨token, htoken, Option.isSome_iff_ne_none.mpr hsome⟩

/-- **The commands of a line are made of its tokens and of those that aliases bring in.** -/
theorem isMadeOf_executeLineRecorded (machine : Machine) (line : Text) (s : Session) :
    (executeLineRecorded machine line ⟨s, []⟩).2.IsMadeOf (s.tokensOf line) := by
  have hempty : ∀ s : Session, Recorded.IsMadeOf (s.tokensOf line) ⟨s, []⟩ := by
    intro s segment before outcome hmem
    simp at hmem
  rw [executeLineRecorded]
  split
  · intro segment before outcome hmem
    simp at hmem
  split
  · exact hempty s
  · refine isMadeOf_runCheckedRecorded (P := fun _ => True) ?_ (hempty s) trivial
    intro segment hsegment r hr _
    exact ⟨isMadeOf_runResolvedRecorded hr fun token htoken => (hsegment token htoken).1, trivial⟩

end

/-! ## Where a semicolon outside quotes goes -/

/-- In a list in which nothing is out of place, a token with a semicolon outside quotes is a connector or
mixed, and not both. -/
theorem isSome_connector?_iff {text : Text} (h : unexpected? (tokens text) = none) {m : Nat}
    (hsemicolon : HoldsSemicolon text m) :
    ∃ token, (tokens text)[m]? = some token ∧ (token.connector?.isSome ↔ ¬ token.isMixed) := by
  obtain ⟨token, htoken, hmem, hrun⟩ := exists_run_of_holdsSemicolon hsemicolon
  refine ⟨token, htoken, ?_⟩
  constructor
  · intro hsome hmixed
    simp [connector?_of_isMixed hmixed] at hsome
  · intro hmixed
    have hoperator : token.isOperator := by
      cases token with
      | nil => simp at hmem
      | cons c rest => simpa [Token.isOperator] using hrun c (List.mem_cons_self ..)
    have hdoubled := isDoubled_eq_false_of_unexpected? h (List.mem_of_getElem? htoken) hoperator
    rcases connector_or_doubled_or_mixed hrun hmem with hsome | hsome | hsome
    · exact hsome
    · simp [hdoubled] at hsome
    · exact absurd hsome hmixed

/-- **A semicolon outside quotes separates commands, unless its run begins with a `&` and a `|`.** A line
in which a token is out of place runs nothing. In any other line each such semicolon before the comment
lies in a token, and the token is a connector, or it is mixed and a word of a segment. So of the words of
a command, those that no alias brought in hold such a semicolon only if they are mixed. -/
theorem semicolon_in_word_iff_isMixed (machine : Machine) (line : Text) (s : Session) :
    let text := expand s.value line
    let run := executeLineRecorded machine line ⟨s, []⟩
    (∀ token, unexpected? (tokens text) = some token →
      run = (.status 2, Recorded.refused ⟨s, []⟩ token)) ∧
    (unexpected? (tokens text) = none →
      (∀ i < (kept text).length, IsSemicolonAt text i → ∃ m, Holds text m i) ∧
      (∀ m, HoldsSemicolon text m → ∃ token, (tokens text)[m]? = some token ∧
        (token.connector?.isSome ↔ ¬ token.isMixed) ∧
        ((∃ entry ∈ plan (tokens text), token ∈ entry.2) ↔ token.isMixed)) ∧
      ∀ segment before outcome, .command segment before outcome ∈ run.2.events →
        ∀ word ∈ segment, CameIn run.2.events word ∨ word ∈ tokens text ∧
          ∀ m, (tokens text)[m]? = some word → HoldsSemicolon text m → word.isMixed) := by
  intro text run
  refine ⟨?_, fun h => ⟨?_, ?_, ?_⟩⟩
  · intro token htoken
    have hne : s.tokensOf line ≠ [] := ne_nil_of_unexpected? htoken
    have hrun : run = runCheckedRecorded (runResolvedRecorded machine) (s.tokensOf line) ⟨s, []⟩ :=
      executeLineRecorded_of_ne_nil machine hne
    exact hrun.trans ((runCheckedRecorded_of_some htoken).trans note_refusal)
  · intro i hkept hsemicolon
    exact exists_holds_of_isSemicolonAt hkept hsemicolon
  · intro m hsemicolon
    obtain ⟨token, htoken, hiff⟩ := isSome_connector?_iff h hsemicolon
    have hnone : token.connector? = none ↔ token.isMixed := by
      rw [← Option.not_isSome_iff_eq_none, hiff, not_not]
    refine ⟨token, htoken, hiff, ?_⟩
    rw [exists_mem_plan_iff, hnone]
    exact and_iff_right (List.mem_of_getElem? htoken)
  · intro segment before outcome hmem word hword
    obtain ⟨hconnector, hmade⟩ :=
      isMadeOf_executeLineRecorded machine line s segment before outcome hmem word hword
    refine hmade.symm.imp_right fun htyped => ⟨htyped, ?_⟩
    intro m hm hsemicolon
    obtain ⟨token, htoken, hiff⟩ := isSome_connector?_iff h hsemicolon
    obtain rfl : token = word := Option.some.inj (htoken.symm.trans hm)
    by_contra hmixed
    have hsome := hiff.mpr hmixed
    simp [hconnector] at hsome

/-- In `a &&; b` the `;` belongs to the connector `&&;`. -/
theorem semicolon_in_word_iff_isMixed_of_connector :
    let s := Session.new "husk".toList 1 .empty ⟨.empty, .root⟩
    let line := "a &&; b".toList
    let text := expand s.value line
    unexpected? (tokens text) = none ∧ HoldsSemicolon text 1 ∧ ∃ token, (tokens text)[1]? = some token ∧
      (token.connector?.isSome ↔ ¬ token.isMixed) := by
  intro s line text
  have hdollar : '$' ∉ line := by decide
  have htext : text = line := expand_of_not_mem s.value hdollar
  have htokens : tokens line = [['a'], "&&;".toList, ['b']] := by decide
  have hvalid : unexpected? (tokens text) = none := by
    rw [htext, htokens]; decide
  have hholds : HoldsSemicolon line 1 := ⟨4, ⟨3, by decide, by decide⟩, by decide, by decide⟩
  rw [← htext] at hholds
  obtain ⟨-, hplaces⟩ := semicolon_in_word_iff_isMixed Machine.idle line s
  obtain ⟨token, htoken, hiff, -⟩ := (hplaces hvalid).2.1 1 hholds
  exact ⟨hvalid, hholds, token, htoken, hiff⟩

/-- The line `setenv A &|;` is not refused, its `;` is in no connector, and it runs as one command with
the operand `&|;`. -/
theorem word_of_mixed_run :
    let s := Session.new "husk".toList 1 .empty ⟨.empty, .root⟩
    let line := "setenv A &|;".toList
    let segment := ["setenv".toList, ['A'], "&|;".toList]
    tokens (expand s.value line) = segment ∧ HoldsSemicolon (expand s.value line) 2 ∧
      unexpected? segment = none ∧ Token.connector? "&|;".toList = none ∧
      (executeLineRecorded Machine.idle line ⟨s, []⟩).2.events =
        [.command segment s (dispatch Machine.idle segment s)] := by
  intro s line segment
  have hdollar : '$' ∉ line := by decide
  have hexpand : expand s.value line = line := expand_of_not_mem s.value hdollar
  have htokens : tokens line = segment := by decide
  have hholds : HoldsSemicolon line 2 := ⟨11, ⟨9, by decide, by decide⟩, by decide, by decide⟩
  have hvalid : unexpected? segment = none := by decide
  have hconnector : ∀ word ∈ segment, Token.connector? word = none := by decide
  have haliases : ∀ word ∈ segment, s.aliases.get? word = none := fun word _ =>
    Aliases.get?_empty word
  have hline : s.tokensOf line = segment := by
    rw [Session.tokensOf, hexpand, htokens]
  rw [hexpand]
  refine ⟨htokens, hholds, hvalid, hconnector _ (by simp [segment]), ?_⟩
  rw [executeLineRecorded_of_no_connector (r := ⟨s, []⟩) hconnector haliases hline (by simp [segment])
    hvalid]
  rfl

end CommandShell
