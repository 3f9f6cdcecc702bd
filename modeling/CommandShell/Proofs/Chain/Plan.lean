import CommandShell.Chain

/-!
# Plans of chains

A token list is cut at every `;` into parts, and each part at every `&&` and `||` into segments. The
plan of the list keeps with each segment the connector that it stands behind; the first segment of a
part stands behind a `;`, also where the part opens the list. The list is read here in two steps, each
of them a plain split, and the plan that comes of it is the chain that the list spells.

The order in which a list is checked is told here by one equation: behind an operator the check starts
afresh. So every segment of a list in which nothing is out of place is such a list itself.

## Main definitions
* `parts`, `segments`, `junctions`: the two cuts.
* `plan`: the segments of a token list, each behind its connector.

## Main results
* `plan_eq_ofTokens`: the plan is the chain.
* `flatMap_plan`: its segments hold the tokens that are no connectors.
* `unexpected?_of_mem_plan`: nothing is out of place in a segment of a list where nothing is.
* `getElem?_plan_nil`: only the last segment of such a list can be empty.
* `runChain_map`, `runChain_congr`, `runChain_induction`: what a chain inherits from its segments.
-/

namespace CommandShell

namespace Token

/-- The token separates two parts. -/
def isSequence (token : Token) : Bool :=
  token.connector? == some .sequence

/-- The token joins two segments of one part. -/
def isJunction (token : Token) : Bool :=
  token.connector? == some .and || token.connector? == some .or

end Token

/-- The parts of a token list. -/
def parts (tokens : List Token) : List (List Token) :=
  tokens.splitOnP Token.isSequence

/-- The segments of a part. -/
def segments (part : List Token) : List (List Token) :=
  part.splitOnP Token.isJunction

/-- The connectors of a part, which stand between its segments. -/
def junctions (part : List Token) : List Connector :=
  part.filterMap Token.connector?

/-- The segments of a part, each with the connector that it stands behind. -/
def partPlan (part : List Token) : List (Connector × List Token) :=
  (.sequence :: junctions part).zip (segments part)

/-- The segments of a token list, each with the connector that it stands behind. -/
def plan (tokens : List Token) : List (Connector × List Token) :=
  (parts tokens).flatMap partPlan

/-! ## The plan of a list by its first token -/

@[simp] theorem partPlan_nil : partPlan [] = [(.sequence, [])] := rfl

/-- The first segment of a part stands behind a `;`. -/
theorem exists_partPlan_eq_cons (part : List Token) :
    ∃ segment rest, partPlan part = (.sequence, segment) :: rest := by
  obtain ⟨segment, rest, h⟩ := List.exists_cons_of_ne_nil
    (List.splitOnP_ne_nil Token.isJunction part)
  exact ⟨segment, (junctions part).zip rest, by simp [partPlan, segments, h]⟩

theorem partPlan_cons_word {token : Token} (h : token.connector? = none)
    {part segment : List Token} {rest : List (Connector × List Token)}
    (hpart : partPlan part = (.sequence, segment) :: rest) :
    partPlan (token :: part) = (.sequence, token :: segment) :: rest := by
  obtain ⟨first, later, hsplit⟩ := List.exists_cons_of_ne_nil
    (List.splitOnP_ne_nil Token.isJunction part)
  simp only [partPlan, segments, hsplit, List.zip_cons_cons, List.cons.injEq, Prod.mk.injEq,
    true_and] at hpart
  obtain ⟨rfl, rfl⟩ := hpart
  simp [partPlan, segments, junctions, List.splitOnP_cons_eq_if_modifyHead, Token.isJunction, h,
    hsplit]

theorem partPlan_cons_junction {token : Token} {connector : Connector}
    (h : token.connector? = some connector) (hne : connector ≠ .sequence)
    {part segment : List Token} {rest : List (Connector × List Token)}
    (hpart : partPlan part = (.sequence, segment) :: rest) :
    partPlan (token :: part) = (.sequence, []) :: (connector, segment) :: rest := by
  have hjunction : token.isJunction := by
    cases connector <;> simp_all [Token.isJunction]
  obtain ⟨first, later, hsplit⟩ := List.exists_cons_of_ne_nil
    (List.splitOnP_ne_nil Token.isJunction part)
  simp only [partPlan, segments, hsplit, List.zip_cons_cons, List.cons.injEq, Prod.mk.injEq,
    true_and] at hpart
  obtain ⟨rfl, rfl⟩ := hpart
  simp [partPlan, segments, junctions, List.splitOnP_cons_eq_if_modifyHead, hjunction, h, hsplit]

theorem plan_cons_sequence {token : Token} (h : token.connector? = some .sequence)
    (later : List Token) : plan (token :: later) = (.sequence, []) :: plan later := by
  have hsequence : token.isSequence := by simp [Token.isSequence, h]
  simp [plan, parts, List.splitOnP_cons_eq_if_modifyHead, hsequence]

/-- A token that is no `;` belongs to the part that follows it. -/
theorem exists_plan_cons {token : Token} (h : token.connector? ≠ some .sequence)
    (later : List Token) :
    ∃ part others, plan later = partPlan part ++ others ∧
      plan (token :: later) = partPlan (token :: part) ++ others := by
  have hsequence : token.isSequence = false := by simp [Token.isSequence, h]
  obtain ⟨part, others, hsplit⟩ := List.exists_cons_of_ne_nil
    (List.splitOnP_ne_nil Token.isSequence later)
  refine ⟨part, others.flatMap partPlan, ?_, ?_⟩
  · simp [plan, parts, hsplit]
  · simp [plan, parts, List.splitOnP_cons_eq_if_modifyHead, hsequence, hsplit]

/-- **The plan of a list is the chain that the list spells**, with its first segment behind a `;`. -/
theorem plan_eq_ofTokens (tokens : List Token) :
    plan tokens = (.sequence, (Chain.ofTokens tokens).first) :: (Chain.ofTokens tokens).rest := by
  induction tokens with
  | nil => simp [plan, parts]
  | cons token later ih =>
      by_cases hsequence : token.connector? = some .sequence
      · rw [plan_cons_sequence hsequence, ofTokens_cons_connector hsequence, ih]
      obtain ⟨part, others, hlater, hplan⟩ := exists_plan_cons hsequence later
      obtain ⟨segment, rest, hpart⟩ := exists_partPlan_eq_cons part
      rw [hlater, hpart, List.cons_append, List.cons.injEq, Prod.mk.injEq] at ih
      obtain ⟨⟨-, hfirst⟩, hrest⟩ := ih
      rw [hplan]
      cases hconnector : token.connector? with
      | none =>
          rw [partPlan_cons_word hconnector hpart, ofTokens_cons_word hconnector, hfirst,
            List.cons_append, hrest]
      | some connector =>
          have hne : connector ≠ .sequence := fun h => hsequence (by rw [hconnector, h])
          rw [partPlan_cons_junction hconnector hne hpart, ofTokens_cons_connector hconnector,
            hfirst, List.cons_append, List.cons_append, hrest]

/-- **The segments of a list hold its tokens that are no connectors**, in their order. -/
theorem flatMap_plan (tokens : List Token) :
    (plan tokens).flatMap Prod.snd = tokens.filter fun token => token.connector?.isNone := by
  rw [plan_eq_ofTokens, List.flatMap_cons]
  induction tokens with
  | nil => rfl
  | cons token later ih =>
      cases hconnector : token.connector? with
      | some connector =>
          rw [ofTokens_cons_connector hconnector, List.flatMap_cons, List.nil_append, ih]
          simp [hconnector]
      | none =>
          rw [ofTokens_cons_word hconnector, List.cons_append, ih]
          simp [hconnector]

theorem exists_mem_plan_iff {tokens : List Token} {token : Token} :
    (∃ entry ∈ plan tokens, token ∈ entry.2) ↔ token ∈ tokens ∧ token.connector? = none := by
  rw [← List.mem_flatMap, flatMap_plan]
  simp

/-! ## Lists in which nothing is out of place -/

theorem unexpected?_cons (token : Token) (rest : List Token) :
    unexpected? (token :: rest) = if token.isOperator then some token else unexpectedAfter? rest :=
  rfl

/-- Behind an operator a list is checked like a list of its own. -/
theorem unexpectedAfter?_cons (token : Token) (rest : List Token) :
    unexpectedAfter? (token :: rest) =
      if !token.isOperator then unexpectedAfter? rest
      else if token.isDoubled then some token else unexpected? rest := by
  cases rest with
  | nil => rfl
  | cons next later =>
      rw [unexpectedAfter?, unexpected?_cons]
      by_cases hnext : next.isOperator
      · simp [hnext]
      · have hskip : unexpectedAfter? (next :: later) = unexpectedAfter? later := by
          rw [unexpectedAfter?.eq_def]; simp [hnext]
        simp [hnext, hskip]

theorem unexpectedAfter?_cons_word {token : Token} (h : token.isOperator = false)
    (rest : List Token) : unexpectedAfter? (token :: rest) = unexpectedAfter? rest := by
  simp [unexpectedAfter?_cons, h]

theorem unexpectedAfter?_cons_operator_eq_none {token : Token} (h : token.isOperator)
    (rest : List Token) :
    unexpectedAfter? (token :: rest) = none ↔ token.isDoubled = false ∧ unexpected? rest = none := by
  rw [unexpectedAfter?_cons]
  by_cases hdoubled : token.isDoubled <;> simp [h, hdoubled]

theorem unexpected?_cons_eq_none {token : Token} {rest : List Token} :
    unexpected? (token :: rest) = none ↔
      token.isOperator = false ∧ unexpectedAfter? rest = none := by
  rw [unexpected?_cons]
  by_cases h : token.isOperator <;> simp [h]

/-- A list that may follow a word and does not begin with an operator may open a line. -/
theorem unexpected?_of_unexpectedAfter? {tokens : List Token} (h : unexpectedAfter? tokens = none)
    (hhead : ∀ token ∈ tokens.head?, token.isOperator = false) : unexpected? tokens = none := by
  cases tokens with
  | nil => rfl
  | cons token rest =>
      have hword := hhead token rfl
      exact unexpected?_cons_eq_none.mpr ⟨hword, by rwa [unexpectedAfter?_cons_word hword] at h⟩

/-- The segments of a list inherit what the check asks of the list. The first conjunct is about a list
that follows a word: its first segment follows that word too. -/
private theorem segments_unexpected (tokens : List Token) :
    (unexpectedAfter? tokens = none → unexpectedAfter? (Chain.ofTokens tokens).first = none ∧
      ∀ entry ∈ (Chain.ofTokens tokens).rest, unexpected? entry.2 = none) ∧
    (unexpected? tokens = none → unexpected? (Chain.ofTokens tokens).first = none ∧
      ∀ entry ∈ (Chain.ofTokens tokens).rest, unexpected? entry.2 = none) := by
  induction tokens with
  | nil => simp
  | cons token later ih =>
      obtain ⟨ihafter, ihstart⟩ := ih
      cases hconnector : token.connector? with
      | some connector =>
          have hoperator := isOperator_of_connector? hconnector
          rw [ofTokens_cons_connector hconnector]
          refine ⟨fun h => ?_, fun h => ?_⟩
          · obtain ⟨-, hlater⟩ := (unexpectedAfter?_cons_operator_eq_none hoperator later).mp h
            obtain ⟨hfirst, hrest⟩ := ihstart hlater
            exact ⟨rfl, List.forall_mem_cons.mpr ⟨hfirst, hrest⟩⟩
          · simp [unexpected?_cons, hoperator] at h
      | none =>
          rw [ofTokens_cons_word hconnector]
          cases hoperator : token.isOperator with
          | true =>
              refine ⟨fun h => ?_, fun h => ?_⟩
              · obtain ⟨hdoubled, hlater⟩ :=
                  (unexpectedAfter?_cons_operator_eq_none hoperator later).mp h
                obtain ⟨hfirst, hrest⟩ := ihstart hlater
                exact ⟨(unexpectedAfter?_cons_operator_eq_none hoperator _).mpr
                  ⟨hdoubled, hfirst⟩, hrest⟩
              · simp [unexpected?_cons, hoperator] at h
          | false =>
              rw [unexpectedAfter?_cons_word hoperator, unexpectedAfter?_cons_word hoperator,
                unexpected?_cons_eq_none, unexpected?_cons_eq_none]
              exact ⟨ihafter, fun h => ⟨⟨hoperator, (ihafter h.2).1⟩, (ihafter h.2).2⟩⟩

/-- **Nothing is out of place in a segment of a list in which nothing is.** -/
theorem unexpected?_of_mem_plan {tokens : List Token} (h : unexpected? tokens = none)
    {entry : Connector × List Token} (hentry : entry ∈ plan tokens) :
    unexpected? entry.2 = none := by
  obtain ⟨hfirst, hrest⟩ := (segments_unexpected tokens).2 h
  rw [plan_eq_ofTokens] at hentry
  rcases List.mem_cons.mp hentry with rfl | hentry
  · exact hfirst
  · exact hrest entry hentry

/-- A token that does not begin with an operator character is no connector. -/
theorem connector?_of_isOperator_eq_false {token : Token} (h : token.isOperator = false) :
    token.connector? = none := by
  cases hconnector : token.connector? with
  | none => rfl
  | some connector => simp [isOperator_of_connector? hconnector] at h

/-- The first segment of a list in which nothing is out of place is empty only if the list is. -/
theorem eq_nil_of_first_eq_nil {tokens : List Token} (h : unexpected? tokens = none)
    (hfirst : (Chain.ofTokens tokens).first = []) : tokens = [] := by
  cases tokens with
  | nil => rfl
  | cons token later =>
      have hword := (unexpected?_cons_eq_none.mp h).1
      rw [ofTokens_cons_word (connector?_of_isOperator_eq_false hword)] at hfirst
      exact absurd hfirst (List.cons_ne_nil _ _)

private theorem rest_nil_last (tokens : List Token) :
    (unexpectedAfter? tokens = none ∨ unexpected? tokens = none) → ∀ i connector,
      (Chain.ofTokens tokens).rest[i]? = some (connector, []) →
        i + 1 = (Chain.ofTokens tokens).rest.length := by
  induction tokens with
  | nil => simp
  | cons token later ih =>
      intro h i connector hi
      cases hconnector : token.connector? with
      | some joint =>
          have hoperator := isOperator_of_connector? hconnector
          have hlater : unexpected? later = none := by
            rcases h with h | h
            · exact ((unexpectedAfter?_cons_operator_eq_none hoperator later).mp h).2
            · simp [unexpected?_cons, hoperator] at h
          rw [ofTokens_cons_connector hconnector] at hi ⊢
          cases i with
          | zero =>
              -- An empty segment behind a connector leaves no tokens behind it.
              have hfirst : (Chain.ofTokens later).first = [] := by simp_all
              simp [eq_nil_of_first_eq_nil hlater hfirst]
          | succ i =>
              have := ih (.inr hlater) i connector (by simpa using hi)
              simpa using this
      | none =>
          rw [ofTokens_cons_word hconnector] at hi ⊢
          refine ih ?_ i connector hi
          cases hoperator : token.isOperator with
          | true =>
              rcases h with h | h
              · exact .inr ((unexpectedAfter?_cons_operator_eq_none hoperator later).mp h).2
              · simp [unexpected?_cons, hoperator] at h
          | false =>
              rcases h with h | h
              · exact .inl (by rwa [unexpectedAfter?_cons_word hoperator] at h)
              · exact .inl (unexpected?_cons_eq_none.mp h).2

/-- **Only the last segment can be empty** where nothing is out of place. -/
theorem getElem?_plan_nil {tokens : List Token} (h : unexpected? tokens = none) {i : Nat}
    {connector : Connector} (hi : (plan tokens)[i]? = some (connector, [])) :
    i + 1 = (plan tokens).length := by
  rw [plan_eq_ofTokens] at hi ⊢
  cases i with
  | zero =>
      have hfirst : (Chain.ofTokens tokens).first = [] := by simp_all
      simp [eq_nil_of_first_eq_nil h hfirst]
  | succ i =>
      have := rest_nil_last tokens (.inr h) i connector (by simpa using hi)
      simpa using this

/-- A list that ends in a connector has an empty segment behind it. -/
theorem getLast?_plan_of_connector {tokens : List Token} {token : Token} {connector : Connector}
    (hlast : tokens.getLast? = some token) (h : token.connector? = some connector) :
    ∃ link, (plan tokens).getLast? = some (link, []) := by
  suffices hrest : (Chain.ofTokens tokens).rest.getLast? = some (connector, []) from
    ⟨connector, by simp [plan_eq_ofTokens, List.getLast?_cons, hrest]⟩
  induction tokens with
  | nil => simp at hlast
  | cons first later ih =>
      cases later with
      | nil =>
          obtain rfl : first = token := by simpa using hlast
          simp [ofTokens_cons_connector h]
      | cons next others =>
          have hlater := ih (by simpa [List.getLast?_cons] using hlast)
          cases hfirst : first.connector? with
          | none => rw [ofTokens_cons_word hfirst]; exact hlater
          | some joint => simp [ofTokens_cons_connector hfirst, List.getLast?_cons, hlater]

private theorem not_doubled (tokens : List Token) :
    (unexpectedAfter? tokens = none ∨ unexpected? tokens = none) →
      ∀ token ∈ tokens, token.isOperator → token.isDoubled = false := by
  induction tokens with
  | nil => simp
  | cons first rest ih =>
      intro h token htoken hoperator
      cases hfirst : first.isOperator with
      | true =>
          obtain ⟨hdoubled, hrest⟩ : first.isDoubled = false ∧ unexpected? rest = none := by
            rcases h with h | h
            · exact (unexpectedAfter?_cons_operator_eq_none hfirst rest).mp h
            · simp [unexpected?_cons, hfirst] at h
          rcases List.mem_cons.mp htoken with rfl | htoken
          · exact hdoubled
          · exact ih (.inr hrest) token htoken hoperator
      | false =>
          have hrest : unexpectedAfter? rest = none := by
            rcases h with h | h
            · rwa [unexpectedAfter?_cons_word hfirst] at h
            · exact (unexpected?_cons_eq_none.mp h).2
          rcases List.mem_cons.mp htoken with rfl | htoken
          · simp [hfirst] at hoperator
          · exact ih (.inl hrest) token htoken hoperator

/-- **No operator has a `;` in its second place** where nothing is out of place. -/
theorem isDoubled_eq_false_of_unexpected? {tokens : List Token} (h : unexpected? tokens = none)
    {token : Token} (htoken : token ∈ tokens) (hoperator : token.isOperator) :
    token.isDoubled = false :=
  not_doubled tokens (.inr h) token htoken hoperator

/-! ## Lists without operators -/

section

variable {tokens : List Token} (h : ∀ token ∈ tokens, token.isOperator = false)

include h

theorem unexpectedAfter?_of_all_words : unexpectedAfter? tokens = none := by
  induction tokens with
  | nil => rfl
  | cons token rest ih =>
      rw [unexpectedAfter?_cons_word (h token (List.mem_cons_self ..))]
      exact ih fun word hword => h word (List.mem_cons_of_mem _ hword)

/-- Where no operator stands, none is out of place. -/
theorem unexpected?_of_all_words : unexpected? tokens = none :=
  unexpected?_of_unexpectedAfter? (unexpectedAfter?_of_all_words h) fun token htoken =>
    h token (List.mem_of_mem_head? htoken)

private theorem append_words (before : List Token) :
    (unexpectedAfter? before = none → unexpectedAfter? (before ++ tokens) = none) ∧
      (unexpected? before = none → unexpected? (before ++ tokens) = none) := by
  induction before with
  | nil => exact ⟨fun _ => unexpectedAfter?_of_all_words h, fun _ => unexpected?_of_all_words h⟩
  | cons token rest ih =>
      obtain ⟨ihafter, ihstart⟩ := ih
      rw [List.cons_append, unexpected?_cons_eq_none, unexpected?_cons_eq_none]
      refine ⟨?_, And.imp_right ihafter⟩
      cases hoperator : token.isOperator with
      | true =>
          rw [unexpectedAfter?_cons_operator_eq_none hoperator,
            unexpectedAfter?_cons_operator_eq_none hoperator]
          exact And.imp_right ihstart
      | false =>
          rw [unexpectedAfter?_cons_word hoperator, unexpectedAfter?_cons_word hoperator]
          exact ihafter

/-- **Words behind a list in which nothing is out of place change nothing in that.** -/
theorem unexpected?_append_words {before : List Token} (hbefore : unexpected? before = none) :
    unexpected? (before ++ tokens) = none :=
  (append_words h before).2 hbefore

end

theorem ofTokens_of_no_connector {tokens : List Token}
    (h : ∀ token ∈ tokens, token.connector? = none) : Chain.ofTokens tokens = ⟨tokens, []⟩ := by
  induction tokens with
  | nil => rfl
  | cons token rest ih =>
      have hword := h token (List.mem_cons_self ..)
      rw [ofTokens_cons_word hword, ih fun word hword => h word (List.mem_cons_of_mem _ hword)]

/-- A list without connectors is one segment. -/
theorem runChain_of_no_connector {σ : Type} {tokens : List Token}
    (h : ∀ token ∈ tokens, token.connector? = none) (run : Runner σ) (s : σ) :
    runChain run tokens s = run tokens s := by
  rw [runChain, ofTokens_of_no_connector h]
  obtain ⟨flow, s'⟩ := run tokens s
  cases flow <;> rfl

/-- A list without operators is one segment. -/
theorem runChain_of_all_words {σ : Type} {tokens : List Token}
    (h : ∀ token ∈ tokens, token.isOperator = false) (run : Runner σ) (s : σ) :
    runChain run tokens s = run tokens s :=
  runChain_of_no_connector (fun token htoken => connector?_of_isOperator_eq_false (h token htoken))
    run s

/-- Two segments behind each other are run one after the other. -/
theorem runChain_of_two {σ : Type} {run : Runner σ} {tokens first second : List Token}
    (h : Chain.ofTokens tokens = ⟨first, [(.sequence, second)]⟩) {s s' : σ} {status : Status}
    (hfirst : run first s = (.status status, s')) : runChain run tokens s = run second s' := by
  rw [runChain, h]
  simp only [hfirst, runRest, true_or, if_true]
  obtain ⟨flow, last⟩ := run second s'
  cases flow <;> rfl

/-! ## Runs along a plan -/

section

variable {σ τ : Type} {run : Runner σ}

private theorem runRest_map {run' : Runner τ} {f : τ → σ}
    (h : ∀ segment t, Prod.map id f (run' segment t) = run segment (f t))
    (rest : List (Connector × List Token)) (status : Status) (skipping : Bool) (t : τ) :
    Prod.map id f (runRest run' rest status skipping t) =
      runRest run rest status skipping (f t) := by
  induction rest generalizing status skipping t with
  | nil => rfl
  | cons entry rest ih =>
      obtain ⟨connector, segment⟩ := entry
      rw [runRest, runRest]
      split
      · rw [← h segment t]
        obtain ⟨flow, t'⟩ := run' segment t
        cases flow with
        | status status => exact ih status false t'
        | terminate | exit code => rfl
      · exact ih status true t

/-- **A view of the state that every segment respects is respected by a chain of them.** -/
theorem runChain_map {run' : Runner τ} {f : τ → σ}
    (h : ∀ segment t, Prod.map id f (run' segment t) = run segment (f t)) (tokens : List Token)
    (t : τ) : Prod.map id f (runChain run' tokens t) = runChain run tokens (f t) := by
  rw [runChain, runChain, ← h]
  obtain ⟨flow, t'⟩ := run' (Chain.ofTokens tokens).first t
  cases flow with
  | status status => exact runRest_map h _ status false t'
  | terminate | exit code => rfl

variable {run' : Runner σ} {P : σ → Prop} {Q : Flow × σ → Prop}

private theorem runRest_congr {rest : List (Connector × List Token)}
    (h : ∀ entry ∈ rest, ∀ s, P (run entry.2 s).2 → P s ∧ run entry.2 s = run' entry.2 s)
    {status : Status} {skipping : Bool} {s : σ} (hs : P (runRest run rest status skipping s).2) :
    P s ∧ runRest run rest status skipping s = runRest run' rest status skipping s := by
  induction rest generalizing status skipping s with
  | nil => exact ⟨hs, rfl⟩
  | cons entry rest ih =>
      obtain ⟨connector, segment⟩ := entry
      have hrest : ∀ entry ∈ rest, ∀ s, P (run entry.2 s).2 → P s ∧ run entry.2 s = run' entry.2 s :=
        fun entry hentry => h entry (List.mem_cons_of_mem _ hentry)
      have hsegment := h (connector, segment) (List.mem_cons_self ..) s
      rw [runRest] at hs ⊢
      rw [runRest]
      split at hs
      · rename_i hadmits
        rw [if_pos hadmits, if_pos hadmits]
        generalize hrun : run segment s = outcome at hs hsegment
        obtain ⟨flow, s'⟩ := outcome
        cases flow with
        | status status =>
            obtain ⟨hs', heq⟩ := ih hrest hs
            obtain ⟨hbefore, hrun'⟩ := hsegment hs'
            rw [← hrun']
            exact ⟨hbefore, heq⟩
        | terminate | exit code =>
            obtain ⟨hbefore, hrun'⟩ := hsegment hs
            rw [← hrun']
            exact ⟨hbefore, rfl⟩
      · rename_i hadmits
        rw [if_neg hadmits, if_neg hadmits]
        exact ih hrest hs

/-- **Runners that agree on every run with a good end agree on chains with a good end**, if an end is
good only where the start is. -/
theorem runChain_congr {tokens : List Token}
    (h : ∀ entry ∈ plan tokens, ∀ s, P (run entry.2 s).2 → P s ∧ run entry.2 s = run' entry.2 s)
    {s : σ} (hs : P (runChain run tokens s).2) : runChain run tokens s = runChain run' tokens s := by
  rw [plan_eq_ofTokens] at h
  have hfirst := h _ (List.mem_cons_self ..) s
  rw [runChain] at hs ⊢
  rw [runChain]
  generalize hrun : run (Chain.ofTokens tokens).first s = outcome at hs hfirst
  obtain ⟨flow, s'⟩ := outcome
  cases flow with
  | status status =>
      obtain ⟨hs', heq⟩ := runRest_congr (fun entry hentry => h entry (List.mem_cons_of_mem _ hentry)) hs
      rw [← (hfirst hs').2]
      exact heq
  | terminate | exit code => rw [← (hfirst hs).2]

private theorem runRest_induction {rest : List (Connector × List Token)}
    (hrun : ∀ entry ∈ rest, ∀ s, P s → Q (run entry.2 s))
    (hnext : ∀ status s, Q (.status status, s) → P s) {status : Status} {skipping : Bool} {s : σ}
    (h : Q (.status status, s)) : Q (runRest run rest status skipping s) := by
  induction rest generalizing status skipping s with
  | nil => exact h
  | cons entry rest ih =>
      obtain ⟨connector, segment⟩ := entry
      have hrest : ∀ entry ∈ rest, ∀ s, P s → Q (run entry.2 s) := fun entry hentry =>
        hrun entry (List.mem_cons_of_mem _ hentry)
      rw [runRest]
      split
      · have hsegment : Q (run segment s) :=
          hrun (connector, segment) (List.mem_cons_self ..) s (hnext status s h)
        generalize run segment s = outcome at hsegment
        obtain ⟨flow, s'⟩ := outcome
        cases flow with
        | status status => exact ih hrest hsegment
        | terminate | exit code => exact hsegment
      · exact ih hrest h

/-- **What every segment of a plan leads to, the chain leads to**, if it lets the next segment start
from what the segment before asks. -/
theorem runChain_induction {tokens : List Token}
    (hrun : ∀ entry ∈ plan tokens, ∀ s, P s → Q (run entry.2 s))
    (hnext : ∀ status s, Q (.status status, s) → P s) {s : σ} (h : P s) :
    Q (runChain run tokens s) := by
  rw [plan_eq_ofTokens] at hrun
  have hfirst : Q (run (Chain.ofTokens tokens).first s) := hrun _ (List.mem_cons_self ..) s h
  rw [runChain]
  generalize run (Chain.ofTokens tokens).first s = outcome at hfirst
  obtain ⟨flow, s'⟩ := outcome
  cases flow with
  | status status =>
      exact runRest_induction (fun entry hentry => hrun entry (List.mem_cons_of_mem _ hentry)) hnext
        hfirst
  | terminate | exit code => exact hfirst

end

end CommandShell
