import CommandShell.Proofs.Chain.Plan
import CommandShell.Session.Execute
import Mathlib.Computability.Language
import Mathlib.Order.Bounds.Basic
import Mathlib.Tactic.Abel

/-!
# The grammar of chains

A token list is checked by looking at each token and at the one behind it. What passes is a regular
language: words, any number of times an operator and words, and perhaps an operator at the end. What
does not pass is blamed on one token, that of the first place at which something is wrong.

A run of a chain relies on the check. It hands on an empty segment at most once, as the last one, and
only where no token follows.

## Main definitions
* `Grammar.word`, `Grammar.operator`, `Grammar.chain`: the language of the lists that pass.
* `IsOffending`, `blamed?`: the places at which a list is wrong, and what is cited for them.
* `noting`: a runner with a note of the segments that it is given.

## Main results
* `unexpected?_eq_none_iff`: what passes.
* `unexpected?_eq_some_iff`: what is cited.
* `sublist_calls`: the segments of a run are segments of the plan, in its order.
* `chain_checked_by_grammar`: the check and what a run relies on.
-/

namespace CommandShell

open scoped Computability

namespace Grammar

/-- The lists of one token, of a kind. -/
def single (kind : Token → Prop) : Language Token :=
  {tokens | ∃ token, tokens = [token] ∧ kind token}

/-- One token that begins with no operator character. -/
def word : Language Token :=
  single fun token => token.isOperator = false

/-- One operator that has no `;` in its second place. -/
def operator : Language Token :=
  single fun token => token.isOperator = true ∧ token.isDoubled = false

/-- Words, at least one. -/
def words : Language Token :=
  word * word∗

/-- Nothing, or words, joined by single operators and perhaps followed by one. -/
def chain : Language Token :=
  1 + words * (operator * words)∗ * (1 + operator)

/-- What may follow a word in a chain. -/
def behindWord : Language Token :=
  word∗ * (operator * words)∗ * (1 + operator)

theorem chain_eq : chain = 1 + word * behindWord := by
  rw [chain, behindWord, words, mul_assoc word, mul_assoc word]

/-- What follows a word is nothing, or an operator and a chain, or another word. -/
theorem behindWord_eq : behindWord = 1 + operator * chain + word * behindWord := by
  set links := (operator * words)∗ with hlinks
  have hwords : word∗ = 1 + word * word∗ := (Language.one_add_self_mul_kstar_eq_kstar word).symm
  have hunfold : links = 1 + operator * words * links :=
    (Language.one_add_self_mul_kstar_eq_kstar _).symm
  have hrest : links * (1 + operator) = 1 + operator * chain := by
    rw [chain, ← hlinks]
    conv_lhs => rw [hunfold]
    simp only [add_mul, mul_add, mul_assoc, one_mul, mul_one]
    abel
  calc behindWord = (1 + word * word∗) * links * (1 + operator) := by rw [behindWord, ← hwords]
    _ = links * (1 + operator) + word * (word∗ * links * (1 + operator)) := by
        simp only [add_mul, one_mul, mul_assoc]
    _ = 1 + operator * chain + word * behindWord := by rw [hrest, behindWord]

section

variable {token : Token} {rest : List Token}

/-- A list that begins with one token of a kind. -/
theorem cons_mem_single_mul_iff {kind : Token → Prop} {later : Language Token} :
    token :: rest ∈ single kind * later ↔ kind token ∧ rest ∈ later := by
  rw [Language.mem_mul]
  constructor
  · rintro ⟨_, ⟨first, rfl, hkind⟩, others, hothers, h⟩
    obtain ⟨rfl, rfl⟩ := List.cons.inj h
    exact ⟨hkind, hothers⟩
  · rintro ⟨hkind, hrest⟩
    exact ⟨[token], ⟨token, rfl, hkind⟩, rest, hrest, rfl⟩

theorem nil_mem_chain : [] ∈ chain := by
  rw [chain_eq, Language.mem_add]
  exact .inl rfl

theorem nil_mem_behindWord : [] ∈ behindWord := by
  rw [behindWord_eq, Language.mem_add, Language.mem_add]
  exact .inl (.inl rfl)

theorem cons_mem_chain :
    token :: rest ∈ chain ↔ token.isOperator = false ∧ rest ∈ behindWord := by
  rw [chain_eq, Language.mem_add, word, cons_mem_single_mul_iff]
  simp

theorem cons_mem_behindWord :
    token :: rest ∈ behindWord ↔
      (token.isOperator = true ∧ token.isDoubled = false ∧ rest ∈ chain) ∨
        (token.isOperator = false ∧ rest ∈ behindWord) := by
  conv_lhs => rw [behindWord_eq]
  rw [Language.mem_add, Language.mem_add, operator, word, cons_mem_single_mul_iff,
    cons_mem_single_mul_iff]
  simp [and_assoc]

end

end Grammar

/-! ## What passes -/

private theorem passes_iff (tokens : List Token) :
    (unexpectedAfter? tokens = none ↔ tokens ∈ Grammar.behindWord) ∧
      (unexpected? tokens = none ↔ tokens ∈ Grammar.chain) := by
  induction tokens with
  | nil =>
      exact ⟨iff_of_true rfl Grammar.nil_mem_behindWord, iff_of_true rfl Grammar.nil_mem_chain⟩
  | cons token rest ih =>
      obtain ⟨ihafter, ihstart⟩ := ih
      rw [unexpected?_cons_eq_none, Grammar.cons_mem_chain, Grammar.cons_mem_behindWord, ihafter]
      refine ⟨?_, Iff.rfl⟩
      cases hoperator : token.isOperator with
      | true => simp [unexpectedAfter?_cons_operator_eq_none hoperator, ihstart]
      | false => simp [unexpectedAfter?_cons_word hoperator, ihafter]

/-- **The check passes just the chains of the grammar.** -/
theorem unexpected?_eq_none_iff {tokens : List Token} :
    unexpected? tokens = none ↔ tokens ∈ Grammar.chain :=
  (passes_iff tokens).2

/-! ## What is cited -/

/-- An operator stands at the place and is wrong there: it opens the list, or has a `;` in its second
place, or another operator follows it. -/
def IsOffending (tokens : List Token) (i : Nat) : Prop :=
  ∃ token, tokens[i]? = some token ∧ token.isOperator = true ∧
    (i = 0 ∨ token.isDoubled = true ∨
      ∃ next, tokens[i + 1]? = some next ∧ next.isOperator = true)

/-- The token that is cited for what is wrong at a place: the one that stands there if it opens the
list or is doubled, and otherwise the one behind it. -/
def blamed? (tokens : List Token) (i : Nat) : Option Token :=
  if i = 0 ∨ tokens[i]?.any Token.isDoubled = true then tokens[i]? else tokens[i + 1]?

section

variable {before rest : List Token} {token : Token}

/-- What is wrong at a place behind the first one shows in the two tokens from there on. -/
theorem isOffending_append_cons_iff (hne : before ≠ []) :
    IsOffending (before ++ token :: rest) before.length ↔
      token.isOperator = true ∧
        (token.isDoubled = true ∨ ∃ next, rest.head? = some next ∧ next.isOperator = true) := by
  have hnext : (before ++ token :: rest)[before.length + 1]? = rest.head? := by
    rw [List.getElem?_append_right (by omega), List.head?_eq_getElem?]
    simp
  have hzero : before.length ≠ 0 := fun h => hne (List.eq_nil_of_length_eq_zero h)
  rw [IsOffending, hnext]
  simp [hzero]

theorem blamed?_append_cons (hne : before ≠ []) :
    blamed? (before ++ token :: rest) before.length =
      if token.isDoubled = true then some token else rest.head? := by
  have hnext : (before ++ token :: rest)[before.length + 1]? = rest.head? := by
    rw [List.getElem?_append_right (by omega), List.head?_eq_getElem?]
    simp
  have hzero : before.length ≠ 0 := fun h => hne (List.eq_nil_of_length_eq_zero h)
  rw [blamed?, hnext]
  simp [hzero]

/-- A place is looked at when the places before it have been found right. -/
private theorem right_up_to {tokens : List Token} {k : Nat}
    (hbefore : ∀ i < k, ¬ IsOffending tokens i) (h : ¬ IsOffending tokens k) :
    ∀ i < k + 1, ¬ IsOffending tokens i := by
  intro i hi
  rcases Nat.lt_succ_iff_lt_or_eq.mp hi with hi | rfl
  · exact hbefore i hi
  · exact h

private theorem isLeast_of_offending {tokens : List Token} {k : Nat}
    (hbefore : ∀ i < k, ¬ IsOffending tokens i) (h : IsOffending tokens k) :
    IsLeast {i | IsOffending tokens i} k := by
  refine ⟨h, fun i hi => ?_⟩
  by_contra hlt
  exact hbefore i (Nat.lt_of_not_le hlt) hi

private theorem exists_least_iff {tokens : List Token} {k : Nat} {cited : Token}
    (h : IsLeast {i | IsOffending tokens i} k) :
    (∃ i, IsLeast {i | IsOffending tokens i} i ∧ blamed? tokens i = some cited) ↔
      blamed? tokens k = some cited := by
  constructor
  · rintro ⟨i, hi, hcited⟩
    rwa [← hi.unique h]
  · intro hcited
    exact ⟨k, h, hcited⟩

/-- Where every place is right, none is the first wrong one. -/
private theorem not_exists_least {tokens : List Token} {cited : Token}
    (h : ∀ i < tokens.length, ¬ IsOffending tokens i) :
    ¬ ∃ i, IsLeast {i | IsOffending tokens i} i ∧ blamed? tokens i = some cited := by
  rintro ⟨i, ⟨hi, -⟩, -⟩
  obtain ⟨token, htoken, -⟩ := id hi
  exact h i (List.getElem?_eq_some_iff.mp htoken).1 hi

end

/-- Behind a beginning in which nothing is wrong, the scan cites what the first wrong place asks. -/
private theorem unexpectedAfter?_eq_some_iff (tokens : List Token) {before : List Token}
    (hne : before ≠ []) (hbefore : ∀ i < before.length, ¬ IsOffending (before ++ tokens) i)
    {cited : Token} :
    unexpectedAfter? tokens = some cited ↔
      ∃ i, IsLeast {i | IsOffending (before ++ tokens) i} i ∧
        blamed? (before ++ tokens) i = some cited := by
  -- One token that is right joins the beginning.
  have hlonger : ∀ (before : List Token) token rest,
      before ++ token :: rest = (before ++ [token]) ++ rest := by simp
  fun_induction unexpectedAfter? tokens generalizing before with
  | case1 =>
      refine iff_of_false (by simp) (not_exists_least fun i hi => hbefore i ?_)
      simpa using hi
  | case2 token rest hword ih =>
      have hright : ¬ IsOffending (before ++ token :: rest) before.length := by
        rw [isOffending_append_cons_iff hne]
        rintro ⟨hoperator, -⟩
        simp [hoperator] at hword
      have hall := right_up_to hbefore hright
      rw [hlonger] at hall ⊢
      exact ih (by simp) (by simpa using hall)
  | case3 token rest hword hdoubled =>
      have hoperator : token.isOperator = true := by simpa using hword
      have hwrong : IsOffending (before ++ token :: rest) before.length :=
        (isOffending_append_cons_iff hne).mpr ⟨hoperator, .inl hdoubled⟩
      rw [exists_least_iff (isLeast_of_offending hbefore hwrong), blamed?_append_cons hne,
        if_pos hdoubled]
  | case4 token hword hdoubled =>
      have hright : ¬ IsOffending (before ++ [token]) before.length := by
        rw [isOffending_append_cons_iff hne]
        simp [hdoubled]
      refine iff_of_false (by simp) (not_exists_least fun i hi => ?_)
      exact right_up_to hbefore hright i (by simpa using hi)
  | case5 token hword hdoubled next later hnext =>
      have hoperator : token.isOperator = true := by simpa using hword
      have hwrong : IsOffending (before ++ token :: next :: later) before.length :=
        (isOffending_append_cons_iff hne).mpr ⟨hoperator, .inr ⟨next, rfl, hnext⟩⟩
      rw [exists_least_iff (isLeast_of_offending hbefore hwrong), blamed?_append_cons hne,
        if_neg hdoubled]
      rfl
  | case6 token hword hdoubled next later hnext ih =>
      have hright : ¬ IsOffending (before ++ token :: next :: later) before.length := by
        rw [isOffending_append_cons_iff hne]
        simp [hdoubled, hnext]
      have hall := right_up_to hbefore hright
      rw [hlonger] at hall ⊢
      exact ih (by simp) (by simpa using hall)

/-- **The check cites what the first wrong place asks.** -/
theorem unexpected?_eq_some_iff {tokens : List Token} {cited : Token} :
    unexpected? tokens = some cited ↔
      ∃ i, IsLeast {i | IsOffending tokens i} i ∧ blamed? tokens i = some cited := by
  cases tokens with
  | nil => exact iff_of_false (by simp [unexpected?]) (not_exists_least (by simp))
  | cons token rest =>
      rw [unexpected?_cons]
      cases hoperator : token.isOperator with
      | true =>
          have hwrong : IsOffending (token :: rest) 0 := ⟨token, rfl, hoperator, .inl rfl⟩
          rw [exists_least_iff (isLeast_of_offending (by simp) hwrong)]
          simp [blamed?]
      | false =>
          have hright : ∀ i < [token].length, ¬ IsOffending ([token] ++ rest) i := by
            intro i hi
            obtain rfl : i = 0 := by simpa using hi
            simp [IsOffending, hoperator]
          exact unexpectedAfter?_eq_some_iff rest (List.cons_ne_nil token []) hright

/-! ## The segments that a run hands on -/

/-- A runner with a note of the segments that it is given, in their order. -/
def noting {σ : Type} (run : Runner σ) : Runner (σ × List (List Token)) :=
  fun segment state =>
    ((run segment state.1).1, (run segment state.1).2, state.2 ++ [segment])

section

variable {σ : Type}

/-- The notes do not change what a run does. -/
theorem runChain_noting (run : Runner σ) (tokens : List Token) (s : σ)
    (calls : List (List Token)) :
    Prod.map id Prod.fst (runChain (noting run) tokens (s, calls)) = runChain run tokens s := by
  have hsegment : ∀ segment (state : σ × List (List Token)),
      Prod.map id Prod.fst (noting run segment state) = run segment state.1 := fun _ _ => rfl
  exact runChain_map hsegment tokens (s, calls)

/-- The segments behind the first one are handed on in the order of the plan, or are passed over. -/
private theorem exists_calls_runRest (run : Runner σ) (rest : List (Connector × List Token))
    (status : Status) (skipping : Bool) (s : σ) (before : List (List Token)) :
    ∃ calls, calls.Sublist (rest.map Prod.snd) ∧
      (runRest (noting run) rest status skipping (s, before)).2.2 = before ++ calls := by
  induction rest generalizing status skipping s before with
  | nil => exact ⟨[], .slnil, by simp [runRest]⟩
  | cons entry rest ih =>
      obtain ⟨connector, segment⟩ := entry
      rw [runRest]
      split
      · rw [noting]
        cases hflow : (run segment s).1 with
        | status status =>
            obtain ⟨calls, hcalls, heq⟩ :=
              ih status false (run segment s).2 (before ++ [segment])
            refine ⟨segment :: calls, hcalls.cons_cons segment, ?_⟩
            simpa using heq
        | terminate | exit code =>
            exact ⟨[segment], by simp, rfl⟩
      · obtain ⟨calls, hcalls, heq⟩ := ih status true s before
        exact ⟨calls, hcalls.cons segment, heq⟩

/-- **The segments of a run are segments of the plan**, in its order. -/
theorem sublist_calls (run : Runner σ) (tokens : List Token) (s : σ) :
    (runChain (noting run) tokens (s, [])).2.2.Sublist ((plan tokens).map Prod.snd) := by
  rw [plan_eq_ofTokens, List.map_cons, runChain, noting]
  cases hflow : (run (Chain.ofTokens tokens).first s).1 with
  | status status =>
      obtain ⟨calls, hcalls, heq⟩ := exists_calls_runRest run (Chain.ofTokens tokens).rest status
        false (run (Chain.ofTokens tokens).first s).2 [(Chain.ofTokens tokens).first]
      have hnoted := hcalls.cons_cons (Chain.ofTokens tokens).first
      rw [← List.singleton_append, ← heq] at hnoted
      exact hnoted
  | terminate | exit code => simp

/-- Where nothing is out of place, no segment before the last one is empty. -/
theorem nil_not_mem_dropLast_plan {tokens : List Token} (h : unexpected? tokens = none) :
    [] ∉ ((plan tokens).map Prod.snd).dropLast := by
  intro hmem
  obtain ⟨i, hi⟩ := List.mem_iff_getElem?.mp hmem
  have hlt := (List.getElem?_eq_some_iff.mp hi).1
  rw [List.getElem?_dropLast, if_pos (by simpa using hlt), List.getElem?_map,
    Option.map_eq_some_iff] at hi
  obtain ⟨⟨connector, segment⟩, hentry, rfl⟩ := hi
  have hlast := getElem?_plan_nil h hentry
  rw [List.length_dropLast, List.length_map] at hlt
  omega

/-- The last segment is empty only if no token follows the last connector. -/
theorem eq_nil_or_connector_of_getLast?_plan {tokens : List Token}
    (h : ((plan tokens).map Prod.snd).getLast? = some []) :
    tokens = [] ∨ ∃ token ∈ tokens.getLast?, token.connector?.isSome := by
  rw [plan_eq_ofTokens] at h
  induction tokens with
  | nil => exact .inl rfl
  | cons token later ih =>
      right
      by_cases hlater : later = []
      · subst hlater
        cases hconnector : token.connector? with
        | some connector => exact ⟨token, rfl, by simp [hconnector]⟩
        | none => simp [ofTokens_cons_word hconnector] at h
      · have hlast : (((.sequence, (Chain.ofTokens later).first) ::
            (Chain.ofTokens later).rest : List (Connector × List Token)).map
              Prod.snd).getLast? = some [] := by
          cases hconnector : token.connector? with
          | some connector => simpa [ofTokens_cons_connector hconnector, List.getLast?_cons] using h
          | none =>
              -- A word joins the first segment, which is the last one only if it is not empty.
              rw [ofTokens_cons_word hconnector] at h
              cases hrest : (Chain.ofTokens later).rest with
              | nil => simp [hrest] at h
              | cons entry entries => simpa [hrest, List.getLast?_cons] using h
        obtain ⟨last, hmem, hconnector⟩ := (ih hlast).resolve_left hlater
        refine ⟨last, ?_, hconnector⟩
        rw [Option.mem_def, List.getLast?_cons, Option.mem_def.mp hmem]
        rfl

/-- All but the last of some elements in order are among all but the last of all of them. -/
private theorem dropLast_sublist_dropLast {α : Type} {xs ys : List α} (h : xs.Sublist ys) :
    xs.dropLast.Sublist ys.dropLast := by
  have htail := h.reverse.tail
  rwa [List.tail_reverse, List.tail_reverse, List.reverse_sublist] at htail

/-- **A run of a list that passes hands on an empty segment only as its last one**, and only if the
list is empty or ends in a connector. -/
theorem nil_call {tokens : List Token} (h : unexpected? tokens = none) (run : Runner σ) (s : σ) :
    let calls := (runChain (noting run) tokens (s, [])).2.2
    [] ∉ calls.dropLast ∧
      ([] ∈ calls → tokens = [] ∨ ∃ token ∈ tokens.getLast?, token.connector?.isSome) := by
  intro calls
  have hcalls : calls.Sublist ((plan tokens).map Prod.snd) := sublist_calls run tokens s
  have hplan := nil_not_mem_dropLast_plan h
  refine ⟨fun hmem => hplan ((dropLast_sublist_dropLast hcalls).subset hmem), fun hmem => ?_⟩
  refine eq_nil_or_connector_of_getLast?_plan ?_
  have hmem' := hcalls.subset hmem
  have hne := List.ne_nil_of_mem hmem'
  rw [← List.dropLast_concat_getLast hne] at hmem'
  have hlast : [] = ((plan tokens).map Prod.snd).getLast hne := by simpa [hplan] using hmem'
  rw [List.getLast?_eq_some_getLast hne, ← hlast]

end

/-! ## The check and the run -/

/-- **A list passes the check exactly if it is a chain of the grammar.** Otherwise the token is cited
that the first wrong place asks, and nothing runs. A run of a list that passes hands on an empty
segment at most once, as its last one, and only if the list is empty or ends in a connector, whatever
the segments do. -/
theorem chain_checked_by_grammar (tokens : List Token) :
    (unexpected? tokens = none ↔ tokens ∈ Grammar.chain) ∧
    (∀ cited, unexpected? tokens = some cited ↔
      ∃ i, IsLeast {i | IsOffending tokens i} i ∧ blamed? tokens i = some cited) ∧
    (∀ cited (run : Runner Session) s, unexpected? tokens = some cited →
      runChecked run tokens s = s.settle (.error (.unexpectedToken cited))) ∧
    (unexpected? tokens = none → ∀ {σ : Type} (run : Runner σ) (s : σ),
      let noted := runChain (noting run) tokens (s, [])
      Prod.map id Prod.fst noted = runChain run tokens s ∧ [] ∉ noted.2.2.dropLast ∧
        ([] ∈ noted.2.2 → tokens = [] ∨ ∃ token ∈ tokens.getLast?, token.connector?.isSome)) := by
  refine ⟨unexpected?_eq_none_iff, fun cited => unexpected?_eq_some_iff, ?_, ?_⟩
  · intro cited run s hcited
    rw [runChecked, hcited]
    rfl
  · intro h σ run s noted
    exact ⟨runChain_noting run tokens s [], nil_call h run s⟩

/-- In `a && b ;` the last segment is empty, and it is handed on behind the others. -/
theorem chain_checked_by_grammar_of_trailing_semicolon :
    let tokens : List Token := [['a'], ['&', '&'], ['b'], [';']]
    let run : Runner Unit := fun _ s => (.status 0, s)
    let calls := (runChain (noting run) tokens ((), [])).2.2
    tokens ∈ Grammar.chain ∧ calls = [[['a']], [['b']], []] ∧
      ∃ token ∈ tokens.getLast?, token.connector?.isSome := by
  intro tokens run calls
  have hvalid : unexpected? tokens = none := by decide
  have hcalls : calls = [[['a']], [['b']], []] := by decide
  obtain ⟨hgrammar, -, -, hruns⟩ := chain_checked_by_grammar tokens
  obtain ⟨-, -, hempty⟩ := hruns hvalid run ()
  have hmem : [] ∈ calls := by rw [hcalls]; decide
  exact ⟨hgrammar.mp hvalid, hcalls, (hempty hmem).resolve_left (by decide)⟩

end CommandShell
