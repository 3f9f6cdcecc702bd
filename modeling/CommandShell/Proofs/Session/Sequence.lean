import CommandShell.Proofs.Session.Transparency

/-!
# Lines behind one another

Two lines with a `;` between them do what the first and then the second does. The `;` ends the last
token of the first line, whatever stands there, so both are cut into tokens as before; it may follow the
one and come before the other; and behind it a chain starts afresh. The second line finds all that the
first has left, its aliases too, since aliases are looked up only when a segment comes to run.

## Main definitions
* `followedBy`: what comes behind an outcome.
* `inSequence`: two lines with a `;` between them.

## Main results
* `runChain_append_sequence`: chains behind one another.
* `unexpected?_append_connector`: when a connector can stand between two lists.
* `executeLine_inSequence`: lines behind one another.
-/

namespace CommandShell

open Recorded

/-- What comes next happens in the state that the outcome leaves, unless the outcome asks to leave. -/
def followedBy {σ : Type} (outcome : Flow × σ) (next : σ → Flow × σ) : Flow × σ :=
  match outcome with
  | (.status _, s) => next s
  | stop => stop

/-- A line with another one behind it, and a `;` between the two. -/
def inSequence (first second : Text) : Text :=
  first ++ " ; ".toList ++ second

/-! ## Chains behind one another -/

section

variable {token : Token} {connector : Connector}

/-- A connector between two lists ends the last segment of the one and opens the first of the other. -/
theorem ofTokens_append_connector (h : token.connector? = some connector) (before later : List Token) :
    Chain.ofTokens (before ++ token :: later) =
      ⟨(Chain.ofTokens before).first, (Chain.ofTokens before).rest ++
        (connector, (Chain.ofTokens later).first) :: (Chain.ofTokens later).rest⟩ := by
  induction before with
  | nil => rw [List.nil_append, ofTokens_cons_connector h]; rfl
  | cons first before ih =>
      rw [List.cons_append]
      cases hfirst : first.connector? with
      | none => rw [ofTokens_cons_word hfirst, ofTokens_cons_word hfirst, ih]
      | some joint =>
          rw [ofTokens_cons_connector hfirst, ofTokens_cons_connector hfirst, ih, List.cons_append]

variable {σ : Type} {run : Runner σ}

private theorem runRest_append_sequence (rest later : List (Connector × List Token))
    (segment : List Token) (status : Status) (skipping : Bool) (s : σ) :
    runRest run (rest ++ (.sequence, segment) :: later) status skipping s =
      followedBy (runRest run rest status skipping s) fun s =>
        match run segment s with
        | (.status status, s) => runRest run later status false s
        | stop => stop := by
  induction rest generalizing status skipping s with
  | nil =>
      rcases hrun : run segment s with ⟨flow, s'⟩
      cases flow <;> simp [runRest, followedBy, hrun]
  | cons entry rest ih =>
      obtain ⟨joint, first⟩ := entry
      rw [List.cons_append, runRest, runRest]
      split
      · obtain ⟨flow, s'⟩ := run first s
        cases flow with
        | status status => exact ih status false s'
        | terminate | exit code => rfl
      · exact ih status true s

/-- **A chain behind a `;` runs in the state that the chain before it leaves.** -/
theorem runChain_append_sequence (h : token.connector? = some .sequence) (before later : List Token)
    (s : σ) :
    runChain run (before ++ token :: later) s =
      followedBy (runChain run before s) (runChain run later) := by
  rw [runChain, runChain, ofTokens_append_connector h]
  obtain ⟨flow, s'⟩ := run (Chain.ofTokens before).first s
  cases flow with
  | status status => exact runRest_append_sequence _ _ _ status false s'
  | terminate | exit code => rfl

/-! ## Lists with a connector between them -/

private theorem append_connector (hoperator : token.isOperator) (hdoubled : token.isDoubled = false)
    {later : List Token} (hlater : unexpected? later = none) (before : List Token)
    (hlast : ∀ last ∈ before.getLast?, last.isOperator = false) :
    (unexpectedAfter? before = none → unexpectedAfter? (before ++ token :: later) = none) ∧
      (before ≠ [] → unexpected? before = none → unexpected? (before ++ token :: later) = none) := by
  induction before with
  | nil =>
      refine ⟨fun _ => ?_, fun hne => absurd rfl hne⟩
      exact (unexpectedAfter?_cons_operator_eq_none hoperator later).mpr ⟨hdoubled, hlater⟩
  | cons first rest ih =>
      have hrest : ∀ last ∈ rest.getLast?, last.isOperator = false := by
        intro last hmem
        refine hlast last ?_
        rw [Option.mem_def, List.getLast?_cons, Option.mem_def.mp hmem]
        rfl
      obtain ⟨ihafter, ihstart⟩ := ih hrest
      rw [List.cons_append, unexpected?_cons_eq_none, unexpected?_cons_eq_none]
      refine ⟨?_, fun _ => And.imp_right ihafter⟩
      cases hfirst : first.isOperator with
      | false =>
          rw [unexpectedAfter?_cons_word hfirst, unexpectedAfter?_cons_word hfirst]
          exact ihafter
      | true =>
          rw [unexpectedAfter?_cons_operator_eq_none hfirst,
            unexpectedAfter?_cons_operator_eq_none hfirst]
          -- An operator is not the last token, so more of the list follows it.
          have hne : rest ≠ [] := by
            rintro rfl
            simp [hlast first rfl] at hfirst
          exact And.imp_right (ihstart hne)

/-- **A connector can stand between two lists in which nothing is out of place** if the first one ends
in a word. -/
theorem unexpected?_append_connector (hoperator : token.isOperator)
    (hdoubled : token.isDoubled = false) {before later : List Token} (hne : before ≠ [])
    (hlast : ∀ last ∈ before.getLast?, last.isOperator = false)
    (hbefore : unexpected? before = none) (hlater : unexpected? later = none) :
    unexpected? (before ++ token :: later) = none :=
  (append_connector hoperator hdoubled hlater before hlast).2 hne hbefore

end

/-! ## Lines behind one another -/

/-- What is recorded does not change what comes behind an outcome. -/
theorem plain_followedBy {next : Recorded → Flow × Recorded} {next' : Session → Flow × Session}
    (h : ∀ r, plain (next r) = next' r.session) (outcome : Flow × Recorded) :
    plain (followedBy outcome next) = followedBy (plain outcome) next' := by
  obtain ⟨flow, r⟩ := outcome
  cases flow with
  | status status => exact h r
  | terminate | exit code => rfl

section

variable {line first second : Text}

/-- A line without references in which nothing is out of place runs as its tokens do. -/
theorem executeLineRecorded_of_passes (machine : Machine) (hdollar : '$' ∉ line)
    (hne : tokens line ≠ []) (h : unexpected? (tokens line) = none) (r : Recorded) :
    executeLineRecorded machine line r =
      runChain (runResolvedRecorded machine) (tokens line) r := by
  have htokens : r.session.tokensOf line = tokens line := by
    rw [Session.tokensOf, expand_of_not_mem _ hdollar]
  rw [executeLineRecorded_of_ne_nil machine (by rwa [htokens]), htokens, runCheckedRecorded_of_none h]

/-- The tokens of two lines with a `;` between them. -/
theorem tokens_inSequence (h : IsComplete first) (second : Text) :
    tokens (inSequence first second) = tokens first ++ [';'] :: tokens second := by
  have hsemicolon : IsComplete [';'] := by
    refine ⟨rfl, fun i hcomment => ?_⟩
    have hsharp := List.mem_of_getElem? hcomment.1
    simp at hsharp
  have hsplit : inSequence first second = first ++ ' ' :: ([';'] ++ ' ' :: second) := by
    simp [inSequence]
  have hsingle : tokens [';'] = [[';']] := by decide
  rw [hsplit, tokens_append_space h, tokens_append_space hsemicolon, hsingle,
    List.singleton_append]

section

variable (hfirst : IsRunnable first)
  (hlast : ∀ token ∈ (tokens first).getLast?, token.isOperator = false)
  (hdollar : '$' ∉ second) (hne : tokens second ≠ [])
  (hsecond : unexpected? (tokens second) = none)

include hfirst hlast hdollar hne hsecond

/-- The commands of two lines with a `;` between them are those of the first and then those of the
second. -/
theorem executeLineRecorded_inSequence (machine : Machine) (r : Recorded) :
    executeLineRecorded machine (inSequence first second) r =
      followedBy (executeLineRecorded machine first r) (executeLineRecorded machine second) := by
  have htokens := tokens_inSequence hfirst.isComplete second
  have hline : '$' ∉ inSequence first second := by
    simp [inSequence, hfirst.dollar_not_mem, hdollar]
  have hvalid : unexpected? (tokens (inSequence first second)) = none := by
    rw [htokens]
    exact unexpected?_append_connector rfl rfl hfirst.tokens_ne_nil hlast
      hfirst.unexpected?_eq_none hsecond
  have hsecond' : executeLineRecorded machine second =
      runChain (runResolvedRecorded machine) (tokens second) :=
    funext (executeLineRecorded_of_passes machine hdollar hne hsecond)
  rw [executeLineRecorded_of_passes machine hline (by rw [htokens]; simp) hvalid, htokens,
    runChain_append_sequence rfl, hsecond', executeLineRecorded_of_passes machine
      hfirst.dollar_not_mem hfirst.tokens_ne_nil hfirst.unexpected?_eq_none]

omit hdollar hne hsecond in
/-- A line that defines an alias changes nothing but the aliases. -/
theorem executeLine_definition (machine : Machine) {operand : Token} {name value : Text}
    (htokens : tokens first = [Aliases.definer, operand])
    (hdefinition : Builtin.definition? operand.word = some (name, value)) (s : Session) :
    executeLine machine first s = (.status 0, { s with
      aliases := s.aliases.add name (stripQuotes value)
      lastStatus := 0
      counter := s.counter + 1 }) := by
  have hoperand : operand.isOperator = false := hlast operand (by rw [htokens]; rfl)
  have hline : s.tokensOf first = [Aliases.definer, operand] := by
    rw [Session.tokensOf, expand_of_not_mem _ hfirst.dollar_not_mem, htokens]
  rw [executeLine_of_definer hline (by simpa using hoperand),
    dispatch_definition machine hdefinition]

end

/-- **Two lines with a `;` between them run one behind the other**, command by command, and the second
not at all if the first asks to leave. So an alias that the first defines is there for the second. -/
theorem executeLine_inSequence (machine : Machine) (hfirst : IsRunnable first)
    (hlast : ∀ token ∈ (tokens first).getLast?, token.isOperator = false) (hdollar : '$' ∉ second)
    (hne : tokens second ≠ []) (hsecond : unexpected? (tokens second) = none) (s : Session) :
    executeLineRecorded machine (inSequence first second) ⟨s, []⟩ =
      followedBy (executeLineRecorded machine first ⟨s, []⟩) (executeLineRecorded machine second) ∧
    executeLine machine (inSequence first second) s =
      followedBy (executeLine machine first s) (executeLine machine second) ∧
    ∀ operand name value, tokens first = [Aliases.definer, operand] →
      Builtin.definition? operand.word = some (name, value) →
      executeLine machine (inSequence first second) s = executeLine machine second { s with
        aliases := s.aliases.add name (stripQuotes value)
        lastStatus := 0
        counter := s.counter + 1 } := by
  have hrecorded :=
    executeLineRecorded_inSequence hfirst hlast hdollar hne hsecond machine ⟨s, []⟩
  have hplain : executeLine machine (inSequence first second) s =
      followedBy (executeLine machine first s) (executeLine machine second) := by
    rw [← executeLineRecorded_eq machine _ ⟨s, []⟩, hrecorded,
      plain_followedBy (executeLineRecorded_eq machine second), executeLineRecorded_eq]
  refine ⟨hrecorded, hplain, ?_⟩
  intro operand name value htokens hdefinition
  rw [hplain, executeLine_definition hfirst hlast machine htokens hdefinition]
  rfl

end

/-- In `alias a=setenv ; a X 1` the second command finds the alias, and sets `X`. -/
theorem executeLine_inSequence_of_definition :
    let s := Session.new "husk".toList 1 .empty ⟨.empty, .root⟩
    let first := "alias a=setenv".toList
    let second := "a X 1".toList
    inSequence first second = "alias a=setenv ; a X 1".toList ∧
      (executeLine Machine.idle (inSequence first second) s).1 = .status 0 ∧
      (executeLine Machine.idle (inSequence first second) s).2.env.get? ['X'] = some [49] := by
  intro s first second
  have hfirst : tokens first = [Aliases.definer, "a=setenv".toList] := by decide
  have hsecond : tokens second = [['a'], ['X'], ['1']] := by decide
  have hsharp : '#' ∉ first := by decide
  have hcomplete : IsComplete first := ⟨by decide, fun _ h => hsharp (List.mem_of_getElem? h.1)⟩
  have hrunnable : IsRunnable first :=
    ⟨hcomplete, by decide, by rw [hfirst]; decide, by rw [hfirst]; decide⟩
  have hvalid : unexpected? (tokens second) = none := by rw [hsecond]; decide
  have hne : tokens second ≠ [] := by rw [hsecond]; decide
  obtain ⟨-, -, hdefinition⟩ := executeLine_inSequence Machine.idle hrunnable
    (by rw [hfirst]; decide) (by decide) hne hvalid s
  have hrun := hdefinition _ ['a'] "setenv".toList hfirst (by decide)
  -- The session in which the second command comes to run.
  set defined : Session := { s with
    aliases := s.aliases.add ['a'] (stripQuotes "setenv".toList)
    lastStatus := 0
    counter := s.counter + 1 }
  have hget : ∀ word, defined.aliases.get? word =
      if word = ['a'] then some "setenv".toList else none := fun word =>
    Aliases.get?_add_empty ['a'] (stripQuotes "setenv".toList) word
  have hsetenv : tokens "setenv".toList = ["setenv".toList] := by decide
  have hresolve : defined.aliases.resolve [['a'], ['X'], ['1']] =
      ["setenv".toList] ++ [['X'], ['1']] := by
    refine Aliases.resolve_cons_of_replacement (by decide) ?_ fun word hword => ?_
    · rw [Aliases.replacement?, hget, if_pos rfl, Option.map_some, hsetenv]
    · have hother : ∀ word ∈ ["setenv".toList] ++ [['X'], ['1']], word ≠ ['a'] := by decide
      rw [hget, if_neg (hother word hword)]
  have hline := executeLineRecorded_of_passes Machine.idle (by decide) hne hvalid ⟨defined, []⟩
  have hplain := congrArg plain hline
  rw [executeLineRecorded_eq, hsecond, runChain_of_no_connector (by decide), runResolvedRecorded_eq,
    runResolved_of_no_connector (by decide) hresolve (by decide)] at hplain
  rw [hrun, hplain]
  exact ⟨by decide, rfl, rfl⟩

end CommandShell
