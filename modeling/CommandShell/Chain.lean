import CommandShell.Flow
import CommandShell.Line.Token

/-!
# Chains

The tokens of a line are segments joined by connectors: `;` runs the next segment in any case, `&&`
after a success and `||` after a failure. A segment that its connector does not admit is skipped with
all that follows it up to the next `;`.

What a segment does is a parameter here: a runner takes the tokens of a segment and a state to a flow
and a state.

## Main definitions
* `Connector`, `Token.connector?`
* `unexpected?`: the operator that stands where none may stand.
* `Chain`, `Chain.ofTokens`: a token list as segments and connectors.
* `runChain`: the segments of a token list run in order.
-/

namespace CommandShell

/-- What joins two segments. -/
inductive Connector
  /-- `;` -/
  | sequence
  /-- `&&` -/
  | and
  /-- `||` -/
  | or
  deriving DecidableEq

/-- The connector that a token is, told by its first characters. -/
def Token.connector? : Token → Option Connector
  | ';' :: _ => some .sequence
  | '&' :: '&' :: _ => some .and
  | '|' :: '|' :: _ => some .or
  | _ => none

/-- The token holds a `;` in its second place, and can stand nowhere if it is an operator. -/
def Token.isDoubled (token : Token) : Bool :=
  token[1]? == some ';'

/-- The first operator that is out of place in tokens that follow a word. -/
def unexpectedAfter? : List Token → Option Token
  | [] => none
  | token :: rest =>
    if !token.isOperator then unexpectedAfter? rest
    else if token.isDoubled then some token
    else match rest with
      | [] => none
      | next :: later => if next.isOperator then some next else unexpectedAfter? (next :: later)

/-- The first operator that is out of place: one that opens the list, that has a `;` in its second
place, or that stands directly behind another operator. -/
def unexpected? : List Token → Option Token
  | [] => none
  | token :: rest => if token.isOperator then some token else unexpectedAfter? rest

/-- Segments joined by connectors. -/
structure Chain where
  first : List Token
  rest : List (Connector × List Token)
  deriving DecidableEq

/-- The chain that a token list spells. -/
def Chain.ofTokens : List Token → Chain
  | [] => ⟨[], []⟩
  | token :: later =>
    let chain := ofTokens later
    match token.connector? with
    | some connector => ⟨[], (connector, chain.first) :: chain.rest⟩
    | none => ⟨token :: chain.first, chain.rest⟩

/-- Whether the segment behind a connector may run after a status. -/
def Connector.admits : Connector → Status → Bool
  | .sequence, _ => true
  | .and, status => status == 0
  | .or, status => status != 0

/-- What it does to a state to run a segment. -/
abbrev Runner (σ : Type) := List Token → σ → Flow × σ

/-- Runs the segments behind the first one. The last segment that ran ended with `status`; if
`skipping`, a condition has failed since the last `;`. -/
def runRest {σ : Type} (run : Runner σ) :
    List (Connector × List Token) → Status → Bool → σ → Flow × σ
  | [], status, _, state => (.status status, state)
  | (connector, segment) :: rest, status, skipping, state =>
    if connector = .sequence ∨ (skipping = false ∧ connector.admits status) then
      match run segment state with
      | (.status status, state) => runRest run rest status false state
      | stop => stop
    else runRest run rest status true state

/-- Runs the segments of a token list in order. -/
def runChain {σ : Type} (run : Runner σ) (tokens : List Token) (state : σ) : Flow × σ :=
  let chain := Chain.ofTokens tokens
  match run chain.first state with
  | (.status status, state) => runRest run chain.rest status false state
  | stop => stop

@[simp] theorem ofTokens_nil : Chain.ofTokens [] = ⟨[], []⟩ := rfl

theorem ofTokens_cons_connector {token : Token} {connector : Connector}
    (h : token.connector? = some connector) (later : List Token) :
    Chain.ofTokens (token :: later) =
      ⟨[], (connector, (Chain.ofTokens later).first) :: (Chain.ofTokens later).rest⟩ := by
  simp [Chain.ofTokens, h]

theorem ofTokens_cons_word {token : Token} (h : token.connector? = none) (later : List Token) :
    Chain.ofTokens (token :: later) =
      ⟨token :: (Chain.ofTokens later).first, (Chain.ofTokens later).rest⟩ := by
  simp [Chain.ofTokens, h]

/-- A connector begins with an operator character. -/
theorem isOperator_of_connector? {token : Token} {connector : Connector}
    (h : token.connector? = some connector) : token.isOperator := by
  unfold Token.connector? at h
  split at h <;> simp_all [Token.isOperator, isOperatorChar]

end CommandShell
