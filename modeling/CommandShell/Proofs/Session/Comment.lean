import CommandShell.Proofs.Line.Joining
import CommandShell.Proofs.Line.Locality
import CommandShell.Proofs.Session.Record

/-!
# Lines with a comment behind them

References are replaced before a comment is dropped, so the text of a comment is expanded too. It comes
behind a space, and the expansion of what stands before a space does not depend on what stands behind:
no name reaches over the space, and the budget is spent from left to right. The comment may get less of
the budget, or none of it, but its `#` stays.

## Main results
* `tokens_append_comment`: a comment adds no token.
* `executeLine_commented`: a comment behind a line changes nothing.
-/

namespace CommandShell

open Recorded

/-! ## Normalization at a comment -/

/-- From any place before a comment on, a text is normalized as if nothing followed. -/
private theorem normalizeFrom_append_of_comment {text rest : Text} {i j : Nat} {mark : Mark}
    (hstands : Stands text i mark) (hdrop : text.drop i = rest) (hcomment : StartsComment text j)
    (hij : i ≤ j) (ys : Text) :
    normalizeFrom mark (rest ++ ' ' :: ys) = normalizeFrom mark rest := by
  induction rest generalizing i mark with
  | nil =>
      have hlt : j < text.length := (List.getElem?_eq_some_iff.mp hcomment.1).1
      have hlength := List.drop_eq_nil_iff.mp hdrop
      omega
  | cons c rest ih =>
      rw [List.cons_append, normalizeFrom_cons, normalizeFrom_cons, next_append_space,
        breaks_append_space]
      split
      · rfl
      · rename_i hc
        rw [hstands.isComment_iff hdrop] at hc
        have hne : i ≠ j := fun heq => hc (heq ▸ hcomment)
        rw [ih (hstands.next hdrop) (drop_succ_of_drop hdrop) (by omega)]

/-- **A comment adds no token** to a text that ends outside quotes, or that has a comment itself. -/
theorem tokens_append_comment {text : Text}
    (h : endQuote text = none ∨ ∃ i, StartsComment text i) (comment : Text) :
    tokens (text ++ ' ' :: '#' :: comment) = tokens text := by
  by_cases hcomment : ∃ i, StartsComment text i
  · obtain ⟨i, hi⟩ := hcomment
    have hnormal : normalize (text ++ ' ' :: '#' :: comment) = normalize text :=
      normalizeFrom_append_of_comment (stands_zero text) rfl hi (Nat.zero_le i) _
    rw [tokens, hnormal, tokens]
  · have hcomplete : IsComplete text :=
      ⟨h.resolve_right hcomment, fun i hi => hcomment ⟨i, hi⟩⟩
    have hnone : tokens ('#' :: comment) = [] := by
      simp [tokens, normalize, normalizeFrom, splitAt, splitFrom]
    rw [tokens_append_space hcomplete, hnone, List.append_nil]

/-! ## Lines -/

/-- A line with a comment behind it. -/
def commented (line comment : Text) : Text :=
  line ++ ' ' :: '#' :: comment

/-- A comment behind a line adds no token, whatever is expanded in it. -/
theorem tokensOf_commented {line : Text} {s : Session}
    (h : endQuote (expand s.value line) = none ∨ ∃ i, StartsComment (expand s.value line) i)
    (comment : Text) : s.tokensOf (commented line comment) = s.tokensOf line := by
  obtain ⟨-, left, -, -, hexpand⟩ :=
    exists_expandWith_append_space s.value substitutionLimit line ('#' :: comment)
  rw [expandWith_cons_of_ne s.value left (by decide)] at hexpand
  rw [Session.tokensOf, expand, commented, hexpand]
  exact tokens_append_comment h _

/-- **A comment behind a line changes nothing**: the same commands run, from the same sessions and with
the same outcome, if the expansion of the line ends outside quotes or has a comment itself. The comment
may hold references, quotes and operators, and the line may use up the budget for references. -/
theorem executeLine_commented (machine : Machine) {line : Text} (hne : line ≠ []) (comment : Text)
    (r : Recorded) (h : endQuote (expand r.session.value line) = none ∨
      ∃ i, StartsComment (expand r.session.value line) i) :
    executeLine machine (commented line comment) r.session = executeLine machine line r.session ∧
      executeLineRecorded machine (commented line comment) r = executeLineRecorded machine line r := by
  have hrecorded :
      executeLineRecorded machine (commented line comment) r = executeLineRecorded machine line r := by
    have hline : line.isEmpty = false := by simpa using hne
    have hcommented : (commented line comment).isEmpty = false := by simp [commented]
    rw [executeLineRecorded, executeLineRecorded, tokensOf_commented h, hline, hcommented]
  refine ⟨?_, hrecorded⟩
  have hplain := congrArg plain hrecorded
  rwa [executeLineRecorded_eq, executeLineRecorded_eq] at hplain

/-- `exit 3; #$A' &&` leaves as `exit 3;` does, also where `A` stands for itself. -/
theorem executeLine_commented_of_exit :
    let env : Environment := ⟨[(Utf8.encode ['A'], Utf8.encode ['$', 'A'])]⟩
    let s := Session.new "husk".toList 1 env ⟨.empty, .root⟩
    let line := "exit 3;".toList
    line ≠ [] ∧ commented line "$A' &&".toList = "exit 3; #$A' &&".toList ∧
      endQuote (expand s.value line) = none ∧
      executeLine Machine.idle (commented line "$A' &&".toList) s = (.exit 3, s.advance) := by
  intro env s line
  have hexpand : expand s.value line = line := expand_of_not_mem s.value (by decide)
  have hquote : endQuote (expand s.value line) = none := by
    rw [hexpand]
    decide
  have htokens : s.tokensOf line = ["exit".toList, ['3'], [';']] := by
    rw [Session.tokensOf, hexpand]
    decide
  have hline : executeLine Machine.idle line s = (.exit 3, s.advance) := by
    have hvalid : unexpected? ["exit".toList, ['3'], [';']] = none := by decide
    have hchain : Chain.ofTokens ["exit".toList, ['3'], [';']] =
        ⟨["exit".toList, ['3']], [(.sequence, [])]⟩ := by decide
    have hsegment : runResolved Machine.idle ["exit".toList, ['3']] s = (.exit 3, s.advance) := by
      rw [runResolved_of_no_connector (by decide)
        (Aliases.resolve_of_all_none fun word _ => Aliases.get?_empty word) (by decide)]
      rfl
    rw [executeLine, htokens, runChecked, hvalid]
    simp only [runChain, hchain, hsegment]
    rfl
  refine ⟨by decide, by decide, hquote, ?_⟩
  rw [(executeLine_commented Machine.idle (by decide) "$A' &&".toList ⟨s, []⟩ (.inl hquote)).1, hline]

end CommandShell
