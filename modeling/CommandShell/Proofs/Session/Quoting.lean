import CommandShell.Proofs.Line.Writing
import CommandShell.Proofs.Session.Record

/-!
# Quoted words as commands

A line of words in writing runs as one command, with just these words as its name and its operands:
nothing in the words is taken for a reference, an operator, a comment or an alias, and the quotes are
dropped once.

## Main results
* `executeLineRecorded_of_words`: a line of tokens that none of the steps changes.
* `writtenLine_runs_words`: a line of words in writing.
-/

namespace CommandShell

open Recorded

variable {machine : Machine} {r : Recorded}

/-- **A line of plain words is one command.** -/
theorem executeLineRecorded_of_words (machine : Machine) {line : Text} {token : Token}
    {rest : List Token}
    (hline : r.session.tokensOf line = token :: rest)
    (hwords : ∀ word ∈ token :: rest, word.isOperator = false)
    (haliases : ∀ word ∈ token :: rest, r.session.aliases.get? word = none) :
    executeLineRecorded machine line r =
      r.note (.command (token :: rest) r.session (dispatch machine (token :: rest) r.session))
        (dispatch machine (token :: rest) r.session) := by
  have hconnector : ∀ word ∈ token :: rest, word.connector? = none := fun word hword =>
    connector?_of_isOperator_eq_false (hwords word hword)
  exact executeLineRecorded_of_no_connector hconnector haliases hline (List.cons_ne_nil token rest)
    (unexpected?_of_all_words hwords)

/-- A name without quotes is no word in writing. -/
theorem get?_written {aliases : Aliases}
    (h : ∀ name, (aliases.get? name).isSome → ∀ c ∈ name, isQuote c = false) (writing : Writing) :
    aliases.get? writing.written = none := by
  cases hget : aliases.get? writing.written with
  | none => rfl
  | some value =>
      have hplain := h writing.written (by simp [hget]) writing.first.quote (by
        rw [written_eq_cons]
        exact List.mem_cons_self ..)
      simp [writing.first.isQuote_quote] at hplain

/-- A line of words without `$` is not changed by expansion. -/
theorem tokensOf_writtenLine {first : Writing} {rest : List (Nat × Writing)}
    (h : ∀ word ∈ first.text :: rest.map (·.2.text), '$' ∉ word) (s : Session) :
    s.tokensOf (writtenLine first rest) = tokens (writtenLine first rest) := by
  have hline : '$' ∉ writtenLine first rest := by
    intro hmem
    obtain ⟨word, hword, hc⟩ := mem_writtenLine rfl (by decide) hmem
    exact h word hword hc
  rw [Session.tokensOf, expand_of_not_mem _ hline]

/-- The tokens of words in writing run as the words. -/
theorem dispatch_writtenLine (machine : Machine) (first : Writing) (rest : List (Nat × Writing))
    (s : Session) : dispatch machine (tokens (writtenLine first rest)) s =
      commandOutcome machine first.text (rest.map (·.2.text)) s := by
  have hwords := map_word_tokens_writtenLine first rest
  rw [tokens_writtenLine, List.map_cons] at hwords
  rw [tokens_writtenLine, dispatch_cons, List.head_eq_of_cons_eq hwords,
    List.tail_eq_of_cons_eq hwords]

/-- **A line of words in writing is read back word by word**, and runs as one command with just these
words, if they hold no reference and no alias has a quote in its name. -/
theorem writtenLine_runs_words (machine : Machine) (first : Writing) (rest : List (Nat × Writing))
    (r : Recorded) :
    (tokens (writtenLine first rest)).map Token.word = first.text :: rest.map (·.2.text) ∧
    unexpected? (tokens (writtenLine first rest)) = none ∧
    ((∀ word ∈ first.text :: rest.map (·.2.text), '$' ∉ word) →
      (∀ name, (r.session.aliases.get? name).isSome → ∀ c ∈ name, isQuote c = false) →
      let outcome := commandOutcome machine first.text (rest.map (·.2.text)) r.session
      executeLineRecorded machine (writtenLine first rest) r =
          r.note (.command (tokens (writtenLine first rest)) r.session outcome) outcome ∧
        executeLine machine (writtenLine first rest) r.session = outcome) := by
  have hwords : ∀ word ∈ tokens (writtenLine first rest), word.isOperator = false := fun _ =>
    isOperator_of_mem_tokens
  refine ⟨map_word_tokens_writtenLine first rest, unexpected?_of_all_words hwords, ?_⟩
  intro hdollar hnames outcome
  have htokensOf := tokensOf_writtenLine hdollar r.session
  have haliases : ∀ word ∈ tokens (writtenLine first rest), r.session.aliases.get? word = none := by
    intro word hword
    obtain ⟨writing, rfl⟩ := exists_writing_of_mem_tokens hword
    exact get?_written hnames writing
  have houtcome : dispatch machine (tokens (writtenLine first rest)) r.session = outcome :=
    dispatch_writtenLine machine first rest r.session
  have hrun : executeLineRecorded machine (writtenLine first rest) r =
      r.note (.command (tokens (writtenLine first rest)) r.session outcome) outcome := by
    rw [← houtcome]
    rw [tokens_writtenLine] at htokensOf hwords haliases ⊢
    exact executeLineRecorded_of_words machine htokensOf hwords haliases
  refine ⟨hrun, ?_⟩
  rw [← executeLineRecorded_eq, hrun, plain_note]

/-- `'x'  "it's; #"''` runs `x` with the operand `it's; #`. -/
theorem writtenLine_runs_words_of_operators :
    let first : Writing := ⟨⟨'\'', ['x'], rfl, by decide⟩, []⟩
    let second : Writing := ⟨⟨'"', "it's; #".toList, rfl, by decide⟩, [⟨'\'', [], rfl, by decide⟩]⟩
    let s := Session.new "husk".toList 1 .empty ⟨.empty, .root⟩
    writtenLine first [(1, second)] = "'x'  \"it's; #\"''".toList ∧
      executeLine Machine.idle (writtenLine first [(1, second)]) s =
        commandOutcome Machine.idle ['x'] ["it's; #".toList] s := by
  intro first second s
  have hdollar : ∀ word ∈ [first.text, second.text], '$' ∉ word := by decide
  have hnames : ∀ name, (s.aliases.get? name).isSome → ∀ c ∈ name, isQuote c = false := by
    intro name hname
    have hnone : s.aliases.get? name = none := Aliases.get?_empty name
    simp [hnone] at hname
  obtain ⟨-, -, hrun⟩ := writtenLine_runs_words Machine.idle first [(1, second)] ⟨s, []⟩
  exact ⟨by decide, (hrun hdollar hnames).2⟩

end CommandShell
