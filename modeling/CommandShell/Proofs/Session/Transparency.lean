import CommandShell.Proofs.Line.Joining
import CommandShell.Proofs.Session.Checking
import CommandShell.Proofs.Session.Frame

/-!
# Aliases written out

A line that opens with an alias runs like the line in which the value of the alias stands in its place.
The two lines take different ways. Of the value that is written out, each segment looks its words up when
it comes to run; the segments that an alias brings in run as they are. The difference shows only where a
command of the value defines an alias for a word of a later one.

## Main definitions
* `IsRunnable`: a value that could be a line, and go on.
* `Event.IsSettled`: a command that looking up its words would not change.
* `Recorded.IsSteady`: the aliases have not changed, and all commands were settled.

## Main results
* `isSettled_runChain`: commands that define no aliases are settled if they were so at the start.
* `executeLine_alias_written_out`: when the two lines run alike.
-/

namespace CommandShell

open Recorded

/-- The value of an alias could be a line, and a line can go on behind it. -/
structure IsRunnable (value : Text) : Prop where
  isComplete : IsComplete value
  dollar_not_mem : '$' ∉ value
  tokens_ne_nil : tokens value ≠ []
  unexpected?_eq_none : unexpected? (tokens value) = none

/-- The command defines or shows aliases, or none of its tokens was an alias when it came to run. -/
def Event.IsSettled : Event → Prop
  | command tokens before _ =>
    tokens.head? = some Aliases.definer ∨ ∀ token ∈ tokens, before.aliases.get? token = none
  | refusal _ _ => True

/-- The aliases are those of the session `start` still, and all commands were settled. -/
structure Recorded.IsSteady (start : Session) (r : Recorded) : Prop where
  aliases_eq : r.session.aliases = start.aliases
  isSettled : ∀ event ∈ r.events, event.IsSettled

section

variable {machine : Machine} {s : Session} {r : Recorded} {segment tokens : List Token}

/-! ## Settled commands -/

/-- Looking up the words of a settled command changes nothing. -/
theorem runResolvedRecorded_of_settled (hconnector : ∀ token ∈ segment, token.connector? = none)
    (h : ∀ event ∈ (dispatchRecorded machine segment r).2.events, event.IsSettled) :
    (∀ event ∈ r.events, event.IsSettled) ∧
      dispatchRecorded machine segment r = runResolvedRecorded machine segment r := by
  by_cases hne : segment = []
  · subst hne
    exact ⟨h, rfl⟩
  rw [dispatchRecorded_of_ne_nil hne, events_note] at h
  have hsettled := h _ (List.mem_append_right _ (List.mem_singleton.mpr rfl))
  have hresolve : r.session.aliases.resolve segment = segment :=
    hsettled.elim Aliases.resolve_of_definer Aliases.resolve_of_all_none
  have hnone : ¬ ∃ token ∈ r.session.aliases.resolve segment, token.connector?.isSome := by
    rw [hresolve]
    rintro ⟨token, htoken, hsome⟩
    simp [hconnector token htoken] at hsome
  refine ⟨fun event hevent => h event (List.mem_append_left _ hevent), ?_⟩
  rw [runResolvedRecorded_of_no_connector hne hnone, hresolve]

/-- A command that defines no aliases leaves them as they are for the next one. -/
theorem isSteady_dispatchRecorded (h : r.IsSteady s)
    (hname : segment.head?.map Token.word ≠ some Builtin.definitionsName)
    (hnone : ∀ token ∈ segment, s.aliases.get? token = none) :
    (dispatchRecorded machine segment r).2.IsSteady s := by
  by_cases hne : segment = []
  · rw [hne]
    exact h
  rw [dispatchRecorded_of_ne_nil hne]
  refine ⟨(aliases_dispatch machine hname r.session).trans h.aliases_eq, ?_⟩
  have hfree : ∀ token ∈ segment, r.session.aliases.get? token = none := by
    rwa [h.aliases_eq]
  refine forall_mem_note h.isSettled ?_ _
  exact Or.inr hfree

/-- **Commands that define no aliases are settled if they were so at the start.** -/
theorem isSettled_runChain
    (hplan : ∀ entry ∈ plan tokens, entry.2.head?.map Token.word ≠ some Builtin.definitionsName)
    (hnone : ∀ token ∈ tokens, s.aliases.get? token = none) :
    ∀ event ∈ (runChain (dispatchRecorded machine) tokens ⟨s, []⟩).2.events, event.IsSettled := by
  have hstart : Recorded.IsSteady s ⟨s, []⟩ := ⟨rfl, by simp⟩
  suffices h : (runChain (dispatchRecorded machine) tokens ⟨s, []⟩).2.IsSteady s from h.isSettled
  refine runChain_induction (P := Recorded.IsSteady s) (Q := fun outcome => outcome.2.IsSteady s) ?_
    (fun _ _ hnext => hnext) hstart
  intro entry hentry r hr
  refine isSteady_dispatchRecorded hr (hplan entry hentry) fun token htoken => ?_
  exact hnone token (exists_mem_plan_iff.mp ⟨entry, hentry, htoken⟩).1

end

/-! ## Lines with an alias and with its value -/

section

variable {machine : Machine} {s : Session} {name value : Text} {words : List Text}

theorem tokensOf_joined {text : Text} (h : IsComplete text) (hdollar : '$' ∉ text)
    (hwords : ∀ word ∈ words, IsPlainWord word) (s : Session) :
    s.tokensOf (joined text words) = tokens text ++ words.filter (· ≠ []) := by
  rw [Session.tokensOf, expand_of_not_mem _ (dollar_not_mem_joined hwords hdollar),
    tokens_joined hwords h]

theorem isOperator_of_mem_filter (hwords : ∀ word ∈ words, IsPlainWord word) {word : Token}
    (hword : word ∈ words.filter (· ≠ [])) : word.isOperator = false :=
  (hwords word (List.mem_filter.mp hword).1).isOperator_eq

/-- The line with the alias runs the segments of its value as they are. -/
theorem executeLineRecorded_joined_name (hname : IsPlainWord name) (hne : name ≠ [])
    (hdefiner : name ≠ Aliases.definer) (hvalue : IsRunnable value)
    (hwords : ∀ word ∈ words, IsPlainWord word) (hget : s.aliases.get? name = some value)
    (hnone : ∀ word ∈ tokens value ++ words.filter (· ≠ []), s.aliases.get? word = none) :
    executeLineRecorded machine (joined name words) ⟨s, []⟩ =
      runChain (dispatchRecorded machine) (tokens value ++ words.filter (· ≠ [])) ⟨s, []⟩ := by
  have htokens : s.tokensOf (joined name words) = name :: words.filter (· ≠ []) := by
    rw [tokensOf_joined hname.isComplete hname.dollar_not_mem hwords, hname.tokens_eq]
    simp [hne]
  have hplain : ∀ token ∈ name :: words.filter (· ≠ []), Token.isOperator token = false := by
    intro token htoken
    rcases List.mem_cons.mp htoken with rfl | htoken
    · exact hname.isOperator_eq
    · exact isOperator_of_mem_filter hwords htoken
  have hresolve : s.aliases.resolve (name :: words.filter (· ≠ [])) =
      tokens value ++ words.filter (· ≠ []) :=
    Aliases.resolve_cons_of_replacement hdefiner (by rw [Aliases.replacement?, hget]; rfl) hnone
  have hvalid : unexpected? (s.aliases.resolve (name :: words.filter (· ≠ []))) = none := by
    rw [hresolve]
    exact unexpected?_append_words (fun _ => isOperator_of_mem_filter hwords) hvalue.unexpected?_eq_none
  have hcons : name :: words.filter (· ≠ []) ≠ [] := List.cons_ne_nil _ _
  have hne : s.tokensOf (joined name words) ≠ [] := by rwa [htokens]
  have hline := executeLineRecorded_of_ne_nil machine (r := ⟨s, []⟩) hne
  rw [htokens, runCheckedRecorded_of_none (unexpected?_of_all_words hplain),
    runChain_of_all_words hplain] at hline
  rw [hline, runResolvedRecorded_of_valid (r := ⟨s, []⟩) hcons hvalid, hresolve]

/-- The line with the value looks up the words of each of its segments. -/
theorem executeLineRecorded_joined_value (hvalue : IsRunnable value)
    (hwords : ∀ word ∈ words, IsPlainWord word) :
    executeLineRecorded machine (joined value words) ⟨s, []⟩ =
      runChain (runResolvedRecorded machine) (tokens value ++ words.filter (· ≠ [])) ⟨s, []⟩ := by
  have htokens := tokensOf_joined hvalue.isComplete hvalue.dollar_not_mem hwords s
  have hne : tokens value ++ words.filter (· ≠ []) ≠ [] :=
    List.append_ne_nil_of_left_ne_nil hvalue.tokens_ne_nil _
  rw [executeLineRecorded_of_ne_nil machine (by rwa [htokens]), htokens, runCheckedRecorded_of_none
    (unexpected?_append_words (fun _ => isOperator_of_mem_filter hwords) hvalue.unexpected?_eq_none)]

theorem executeLine_joined_name (machine : Machine) (hname : IsPlainWord name) (hne : name ≠ [])
    (hdefiner : name ≠ Aliases.definer) (hvalue : IsRunnable value)
    (hwords : ∀ word ∈ words, IsPlainWord word) (hget : s.aliases.get? name = some value)
    (hnone : ∀ word ∈ tokens value ++ words.filter (· ≠ []), s.aliases.get? word = none) :
    executeLine machine (joined name words) s =
      runChain (dispatch machine) (tokens value ++ words.filter (· ≠ [])) s := by
  rw [← executeLineRecorded_eq machine _ ⟨s, []⟩,
    executeLineRecorded_joined_name hname hne hdefiner hvalue hwords hget hnone]
  exact runChain_map (dispatchRecorded_eq machine) _ _

theorem executeLine_joined_value (machine : Machine) (hvalue : IsRunnable value)
    (hwords : ∀ word ∈ words, IsPlainWord word) (s : Session) :
    executeLine machine (joined value words) s =
      runChain (runResolved machine) (tokens value ++ words.filter (· ≠ [])) s := by
  rw [← executeLineRecorded_eq machine _ ⟨s, []⟩, executeLineRecorded_joined_value hvalue hwords]
  exact runChain_map (runResolvedRecorded_eq machine) _ _

/-- **A line with an alias runs like the line with its value**, command by command, if no word of the
two is an alias, neither at the start nor when its segment comes to run. The latter is so if no segment
of the value defines aliases. -/
theorem executeLine_alias_written_out (machine : Machine) (hname : IsPlainWord name) (hne : name ≠ [])
    (hdefiner : name ≠ Aliases.definer) (hvalue : IsRunnable value)
    (hwords : ∀ word ∈ words, IsPlainWord word) (hget : s.aliases.get? name = some value)
    (hnone : ∀ word ∈ tokens value ++ words, s.aliases.get? word = none) :
    let short := executeLineRecorded machine (joined name words) ⟨s, []⟩
    let long := executeLineRecorded machine (joined value words) ⟨s, []⟩
    ((∀ event ∈ short.2.events, event.IsSettled) → short = long ∧
      executeLine machine (joined name words) s = executeLine machine (joined value words) s) ∧
    ((∀ entry ∈ plan (s.tokensOf (joined value words)),
        entry.2.head?.map Token.word ≠ some Builtin.definitionsName) →
      ∀ event ∈ short.2.events, event.IsSettled) := by
  intro short long
  have hnone' : ∀ word ∈ tokens value ++ words.filter (· ≠ []), s.aliases.get? word = none :=
    fun word hword => hnone word ((List.filter_sublist.append_left _).subset hword)
  have hshort : short = runChain (dispatchRecorded machine)
      (tokens value ++ words.filter (· ≠ [])) ⟨s, []⟩ :=
    executeLineRecorded_joined_name hname hne hdefiner hvalue hwords hget hnone'
  have hlong : long = runChain (runResolvedRecorded machine)
      (tokens value ++ words.filter (· ≠ [])) ⟨s, []⟩ :=
    executeLineRecorded_joined_value hvalue hwords
  refine ⟨fun hsettled => ?_, fun hplan => ?_⟩
  · have heq : short = long := by
      rw [hshort] at hsettled ⊢
      rw [hlong]
      refine runChain_congr (P := fun r => ∀ event ∈ r.events, event.IsSettled) ?_ hsettled
      intro entry hentry r hevents
      refine runResolvedRecorded_of_settled (fun token htoken => ?_) hevents
      exact (exists_mem_plan_iff.mp ⟨entry, hentry, htoken⟩).2
    refine ⟨heq, ?_⟩
    have hplain := congrArg plain heq
    rwa [executeLineRecorded_eq, executeLineRecorded_eq] at hplain
  · rw [hshort]
    rw [tokensOf_joined hvalue.isComplete hvalue.dollar_not_mem hwords] at hplan
    exact isSettled_runChain hplan hnone'

end

/-- With `a` for `b x;c`, the line `a y` runs like `b x;c y`. -/
theorem executeLine_alias_written_out_of_chain :
    let s := Session.ofAlias ['a'] "b x;c".toList
    joined ['a'] [['y']] = "a y".toList ∧ joined "b x;c".toList [['y']] = "b x;c y".toList ∧
      executeLine Machine.idle (joined ['a'] [['y']]) s =
        executeLine Machine.idle (joined "b x;c".toList [['y']]) s := by
  intro s
  have hname : IsPlainWord ['a'] := by decide
  have hwords : ∀ word ∈ [['y']], IsPlainWord word := by decide
  have htokens : tokens "b x;c".toList = [['b'], ['x'], [';'], ['c']] := by decide
  have hsharp : '#' ∉ "b x;c".toList := by decide
  have hcomplete : IsComplete "b x;c".toList := ⟨by decide, fun _ h => hsharp (List.mem_of_getElem? h.1)⟩
  have hvalue : IsRunnable "b x;c".toList :=
    ⟨hcomplete, by decide, by rw [htokens]; decide, by rw [htokens]; decide⟩
  have hnone : ∀ word ∈ tokens "b x;c".toList ++ [['y']], s.aliases.get? word = none := by
    intro word hword
    rw [htokens] at hword
    have hne : ∀ word ∈ [['b'], ['x'], [';'], ['c']] ++ [['y']], word ≠ ['a'] := by decide
    rw [get?_ofAlias, if_neg (hne word hword)]
  have hplan : ∀ entry ∈ plan (s.tokensOf (joined "b x;c".toList [['y']])),
      entry.2.head?.map Token.word ≠ some Builtin.definitionsName := by
    rw [tokensOf_joined hvalue.isComplete hvalue.dollar_not_mem hwords, htokens]
    decide
  obtain ⟨hsame, hsettled⟩ := executeLine_alias_written_out Machine.idle hname (by decide) (by decide)
    hvalue hwords (by rw [get?_ofAlias]; rfl) hnone
  exact ⟨by decide, by decide, (hsame (hsettled hplan)).2⟩

/-- With `a` for `alias b=setenv;b`, the line `a X 1` does not find `b`, whereas the line
`alias b=setenv;b X 1` sets `X`. -/
theorem nested_definition_is_not_looked_up :
    let value := "alias b=setenv;b".toList
    let s := Session.ofAlias ['a'] value
    let words := [['X'], ['1']]
    joined ['a'] words = "a X 1".toList ∧ joined value words = "alias b=setenv;b X 1".toList ∧
      unexpected? (tokens value) = none ∧
      (∀ word ∈ tokens value ++ words, s.aliases.get? word = none) ∧
      (executeLine Machine.idle (joined ['a'] words) s).1 = .status 127 ∧
      (executeLine Machine.idle (joined value words) s).1 = .status 0 := by
  intro value s words
  have hname : IsPlainWord ['a'] := by decide
  have hwords : ∀ word ∈ words, IsPlainWord word := by decide
  have htokens : tokens value = ["alias".toList, "b=setenv".toList, [';'], ['b']] := by decide
  have hsharp : '#' ∉ value := by decide
  have hcomplete : IsComplete value := ⟨by decide, fun _ h => hsharp (List.mem_of_getElem? h.1)⟩
  have hvalue : IsRunnable value :=
    ⟨hcomplete, by decide, by rw [htokens]; decide, by rw [htokens]; decide⟩
  have hnone : ∀ word ∈ tokens value ++ words, s.aliases.get? word = none := by
    intro word hword
    rw [htokens] at hword
    have hne : ∀ word ∈ ["alias".toList, "b=setenv".toList, [';'], ['b']] ++ [['X'], ['1']],
        word ≠ ['a'] := by decide
    rw [get?_ofAlias, if_neg (hne word hword)]
  have hget' : s.aliases.get? ['a'] = some value := by rw [get?_ofAlias]; rfl
  have hnone' : ∀ word ∈ tokens value ++ words.filter (· ≠ []), s.aliases.get? word = none :=
    fun word hword => hnone word ((List.filter_sublist.append_left _).subset hword)
  -- After the first command `b` is an alias.
  let defined : Session :=
    { s with aliases := s.aliases.add ['b'] "setenv".toList, lastStatus := 0, counter := s.counter + 1 }
  have hdefinition : Builtin.definition? (Token.word "b=setenv".toList) =
      some (['b'], "setenv".toList) := by decide
  have hplain : stripQuotes "setenv".toList = "setenv".toList := by decide
  have hdefine : dispatch Machine.idle [Aliases.definer, "b=setenv".toList] s =
      (.status 0, defined) := by
    rw [dispatch_definition Machine.idle hdefinition, hplain]
  have hchain : Chain.ofTokens (tokens value ++ words.filter (· ≠ [])) =
      ⟨[Aliases.definer, "b=setenv".toList], [(.sequence, [['b'], ['X'], ['1']])]⟩ := by
    rw [htokens]; decide
  refine ⟨by decide, by decide, hvalue.unexpected?_eq_none, hnone, ?_, ?_⟩
  · rw [executeLine_joined_name Machine.idle hname (by decide) (by decide) hvalue hwords hget' hnone',
      runChain_of_two hchain hdefine]
    rfl
  · have hfirst : runResolved Machine.idle [Aliases.definer, "b=setenv".toList] s =
        (.status 0, defined) := by
      rw [runResolved_of_no_connector (by decide) (Aliases.resolve_of_definer rfl) (by decide), hdefine]
    have hsetenv : tokens "setenv".toList = ["setenv".toList] := by decide
    have hresolve : defined.aliases.resolve [['b'], ['X'], ['1']] =
        tokens "setenv".toList ++ [['X'], ['1']] :=
      Aliases.resolve_add_add (by decide) (by decide) (by rw [hsetenv]; decide)
    rw [hsetenv] at hresolve
    rw [executeLine_joined_value Machine.idle hvalue hwords, runChain_of_two hchain hfirst,
      runResolved_of_no_connector (by decide) hresolve (by decide)]
    rfl

end CommandShell
