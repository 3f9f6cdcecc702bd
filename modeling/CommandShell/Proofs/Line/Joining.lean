import CommandShell.Proofs.Line.Scan

/-!
# Texts with a space between them

A space outside quotes ends a run of operator characters and a token. So where a text ends outside quotes
and has no comment, a space and another text can follow it: each is normalized and cut into tokens as
if the other were not there.

## Main definitions
* `IsComplete`: a text behind which a line goes on.
* `IsPlainWord`: a word that stands for itself in a line.
* `joined`: a text with words behind it.

## Main results
* `tokens_append_space`: the tokens of two texts with a space between them.
* `tokens_joined`: the tokens of a text with words behind it.
-/

namespace CommandShell

/-- Behind the text a line goes on outside quotes and comments. -/
structure IsComplete (text : Text) : Prop where
  endQuote_eq : endQuote text = none
  not_startsComment : ∀ i, ¬ StartsComment text i

/-- No character of the word means something in a line. -/
structure IsPlainWord (word : Text) : Prop where
  not_isQuote : ∀ c ∈ word, isQuote c = false
  not_isOperatorChar : ∀ c ∈ word, isOperatorChar c = false
  space_not_mem : ' ' ∉ word
  dollar_not_mem : '$' ∉ word
  head?_ne : word.head? ≠ some '#'

theorem isPlainWord_iff {word : Text} : IsPlainWord word ↔
    (word.all fun c => !isQuote c && !isOperatorChar c && c != ' ' && c != '$') = true ∧
      word.head? ≠ some '#' := by
  rw [List.all_eq_true]
  constructor
  · rintro ⟨hquote, hoperator, hspace, hdollar, hhead⟩
    refine ⟨fun c hc => ?_, hhead⟩
    have hne : c ≠ ' ' ∧ c ≠ '$' :=
      ⟨fun heq => hspace (heq ▸ hc), fun heq => hdollar (heq ▸ hc)⟩
    simp [hquote c hc, hoperator c hc, hne]
  · rintro ⟨hall, hhead⟩
    have hchars : ∀ c ∈ word, ((isQuote c = false ∧ isOperatorChar c = false) ∧ c ≠ ' ') ∧ c ≠ '$' := by
      simpa using hall
    exact ⟨fun c hc => (hchars c hc).1.1.1, fun c hc => (hchars c hc).1.1.2,
      fun hc => (hchars ' ' hc).1.2 rfl, fun hc => (hchars '$' hc).2 rfl, hhead⟩

instance (word : Text) : Decidable (IsPlainWord word) :=
  decidable_of_iff _ isPlainWord_iff.symm

/-- A text with words behind it, each behind a space. -/
def joined (text : Text) (words : List Text) : Text :=
  text ++ words.flatMap (' ' :: ·)

/-! ## The scan at a space -/

/-- A space does not prolong a run. -/
theorem isApart_append_space (c : Char) (rest ys : Text) :
    isApart c (rest ++ ' ' :: ys) = isApart c rest := by
  cases rest <;> simp [isApart, isOperatorChar]

theorem next_append_space (mark : Mark) (c : Char) (rest ys : Text) :
    mark.next c (rest ++ ' ' :: ys) = mark.next c rest := by
  cases mark <;> simp [Mark.next, isApart_append_space]

theorem breaks_append_space (mark : Mark) (c : Char) (rest ys : Text) :
    mark.breaks c (rest ++ ' ' :: ys) = mark.breaks c rest := by
  cases mark <;> simp [Mark.breaks, isApart_append_space]

/-- Behind an unquoted space a line is normalized as from its start. -/
theorem normalizeFrom_space_cons {mark : Mark} (h : mark.quote? = none) (ys : Text) :
    normalizeFrom mark (' ' :: ys) = ' ' :: normalize ys := by
  cases mark with
  | quoted q => simp [Mark.quote?] at h
  | plain fresh => simp [normalizeFrom, normalize, isOperatorChar, Mark.after, isQuote]
  | operators apart => simp [normalizeFrom, normalize, isOperatorChar, Mark.after, isQuote]

/-- A space is put only where no quote is open, and opens none. -/
theorem foldl_quoteAfter_gap (mark : Mark) (c : Char) (rest : Text) :
    (gap (mark.breaks c rest)).foldl quoteAfter mark.quote? = mark.quote? := by
  cases hbreaks : mark.breaks c rest with
  | true => rw [Mark.quote?_of_breaks hbreaks]; rfl
  | false => rfl

/-! ## Complete texts -/

section

variable {text : Text} (h : IsComplete text)

include h

/-- From any place on, a complete text is normalized as if nothing followed. -/
private theorem normalizeFrom_append_space {rest : Text} {i : Nat} {mark : Mark}
    (hstands : Stands text i mark) (hdrop : text.drop i = rest) (ys : Text) :
    normalizeFrom mark (rest ++ ' ' :: ys) = normalizeFrom mark rest ++ ' ' :: normalize ys := by
  induction rest generalizing i mark with
  | nil =>
      have hquote : mark.quote? = none := by
        rw [← hstands.quote_eq, List.take_of_length_le (List.drop_eq_nil_iff.mp hdrop), h.endQuote_eq]
      simp [normalizeFrom_space_cons hquote, normalizeFrom]
  | cons c rest ih =>
      have hcomment : ¬ mark.isComment c := by
        rw [hstands.isComment_iff hdrop]
        exact h.not_startsComment i
      rw [List.cons_append, normalizeFrom_cons, normalizeFrom_cons, if_neg hcomment, if_neg hcomment,
        next_append_space, breaks_append_space, ih (hstands.next hdrop) (drop_succ_of_drop hdrop)]
      simp

/-- From any place on, normalization leaves the quotes of a complete text as they are. -/
private theorem foldl_quoteAfter_normalizeFrom {rest : Text} {i : Nat} {mark : Mark}
    (hstands : Stands text i mark) (hdrop : text.drop i = rest) :
    (normalizeFrom mark rest).foldl quoteAfter mark.quote? = rest.foldl quoteAfter mark.quote? := by
  induction rest generalizing i mark with
  | nil => simp [normalizeFrom]
  | cons c rest ih =>
      have hcomment : ¬ mark.isComment c := by
        rw [hstands.isComment_iff hdrop]
        exact h.not_startsComment i
      rw [normalizeFrom_cons, if_neg hcomment, List.foldl_append, foldl_quoteAfter_gap, List.foldl_cons,
        ← Mark.quote?_next mark c rest, ih (hstands.next hdrop) (drop_succ_of_drop hdrop),
        Mark.quote?_next, List.foldl_cons]

/-- **A complete text is normalized apart from what follows it behind a space.** -/
theorem normalize_append_space (ys : Text) :
    normalize (text ++ ' ' :: ys) = normalize text ++ ' ' :: normalize ys :=
  normalizeFrom_append_space h (stands_zero text) rfl ys

theorem endQuote_normalize : endQuote (normalize text) = none := by
  have hquotes := foldl_quoteAfter_normalizeFrom h (stands_zero text) rfl
  exact hquotes.trans h.endQuote_eq

end

/-- An unquoted space ends a piece. -/
theorem splitFrom_append_space {quote : Option Char} {xs : Text}
    (h : xs.foldl quoteAfter quote = none) (piece ys : Text) :
    splitFrom ' ' quote piece (xs ++ ' ' :: ys) = splitFrom ' ' quote piece xs ++ splitAt ' ' ys := by
  induction xs generalizing quote piece with
  | nil =>
      obtain rfl : quote = none := h
      by_cases hpiece : piece = [] <;> simp [splitFrom, splitAt, hpiece]
  | cons c xs ih =>
      rw [List.cons_append, splitFrom, splitFrom]
      split
      · rename_i hgap
        obtain ⟨rfl, rfl⟩ := hgap
        have hrest : xs.foldl quoteAfter none = none := h
        split
        · exact ih hrest []
        · rw [ih hrest [], List.cons_append]
      · exact ih h (c :: piece)

/-- **A complete text is cut into tokens apart from what follows it behind a space.** -/
theorem tokens_append_space {text : Text} (h : IsComplete text) (ys : Text) :
    tokens (text ++ ' ' :: ys) = tokens text ++ tokens ys := by
  rw [tokens, normalize_append_space h, splitAt, splitFrom_append_space (endQuote_normalize h)]
  rfl

/-! ## Plain words -/

/-- A text without quotes ends outside quotes. -/
theorem endQuote_of_all_plain {text : Text} (h : ∀ c ∈ text, isQuote c = false) :
    endQuote text = none := by
  induction text using List.reverseRecOn with
  | nil => rfl
  | append_singleton text c ih =>
      rw [endQuote_append, ih fun d hd => h d (List.mem_append_left _ hd),
        quoteAfter_none (h c (List.mem_append_right _ (List.mem_singleton.mpr rfl)))]

section

variable {text : Text} (hquote : ∀ c ∈ text, isQuote c = false)

include hquote

/-- Other characters than quotes, operators and spaces are normal, unless they are a comment. -/
theorem normalizeFrom_append_of_all_plain {fresh : Bool}
    (hoperator : ∀ c ∈ text, isOperatorChar c = false) (hspace : ' ' ∉ text)
    (hhead : fresh = true → text.head? ≠ some '#') (rest : Text) :
    normalizeFrom (.plain fresh) (text ++ rest) =
      text ++ normalizeFrom (.plain (fresh && text.isEmpty)) rest := by
  induction text generalizing fresh with
  | nil => simp
  | cons c text ih =>
      obtain ⟨hc, htext⟩ : ' ' ≠ c ∧ ' ' ∉ text := by simpa using hspace
      have hcomment : ¬ (c = '#' ∧ fresh = true) := by
        rintro ⟨rfl, hfresh⟩
        exact hhead hfresh rfl
      have hafter : Mark.after c = .plain false := by
        simp [Mark.after, hquote c (List.mem_cons_self ..), hc.symm]
      rw [List.cons_append, normalizeFrom, if_neg hcomment,
        if_neg (by simp [hoperator c (List.mem_cons_self ..)]), hafter,
        ih (fun d hd => hquote d (List.mem_cons_of_mem _ hd))
          (fun d hd => hoperator d (List.mem_cons_of_mem _ hd)) htext (by simp)]
      simp

/-- Other characters than quotes and spaces are not cut. -/
theorem splitFrom_append_of_all_plain (hspace : ' ' ∉ text) (piece rest : Text) :
    splitFrom ' ' none piece (text ++ rest) = splitFrom ' ' none (text.reverse ++ piece) rest := by
  induction text generalizing piece with
  | nil => rfl
  | cons c text ih =>
      obtain ⟨hc, htext⟩ : ' ' ≠ c ∧ ' ' ∉ text := by simpa using hspace
      have hstep : splitFrom ' ' none piece (c :: (text ++ rest)) =
          splitFrom ' ' none (c :: piece) (text ++ rest) := by
        simp [splitFrom, hc.symm, quoteAfter_none (hquote c (List.mem_cons_self ..))]
      rw [List.cons_append, hstep, ih (fun d hd => hquote d (List.mem_cons_of_mem _ hd)) htext,
        List.reverse_cons, List.append_assoc, List.singleton_append]

/-- Other characters than quotes stay. -/
theorem unquoteFrom_append_of_all_plain (rest : Text) :
    unquoteFrom none (text ++ rest) = text ++ unquoteFrom none rest := by
  induction text with
  | nil => rfl
  | cons c text ih =>
      have hc := quoteAfter_none (hquote c (List.mem_cons_self ..))
      rw [List.cons_append, unquoteFrom, if_pos hc,
        ih fun d hd => hquote d (List.mem_cons_of_mem _ hd), List.cons_append]

end

namespace IsPlainWord

variable {word : Text} (h : IsPlainWord word)

include h

theorem isComplete : IsComplete word where
  endQuote_eq := endQuote_of_all_plain h.not_isQuote
  not_startsComment := by
    rintro i ⟨hsharp, -, rfl | hbefore⟩
    · exact h.head?_ne (by rwa [List.head?_eq_getElem?])
    · exact h.space_not_mem (List.mem_of_getElem? hbefore)

theorem isOperator_eq : Token.isOperator word = false := by
  cases word with
  | nil => rfl
  | cons c rest => exact h.not_isOperatorChar c (List.mem_cons_self ..)

/-- A plain word is its only token, if it is not empty. -/
theorem tokens_eq : tokens word = [word].filter (· ≠ []) := by
  have hnormal : normalize word = word := by
    simpa [normalize, normalizeFrom] using normalizeFrom_append_of_all_plain h.not_isQuote
      h.not_isOperatorChar h.space_not_mem (fun _ => h.head?_ne) []
  have hsplit : splitAt ' ' word = splitFrom ' ' none word.reverse [] := by
    simpa [splitAt] using splitFrom_append_of_all_plain h.not_isQuote h.space_not_mem [] []
  rw [tokens, hnormal, hsplit]
  cases word <;> simp [splitFrom]

end IsPlainWord

/-! ## Words behind a text -/

section

variable {text : Text} {words : List Text} (hwords : ∀ word ∈ words, IsPlainWord word)

include hwords

/-- **Plain words behind a complete text are tokens of their own**, except the empty ones. -/
theorem tokens_joined (h : IsComplete text) :
    tokens (joined text words) = tokens text ++ words.filter (· ≠ []) := by
  induction words generalizing text with
  | nil => simp [joined]
  | cons word rest ih =>
      have hword := hwords word (List.mem_cons_self ..)
      have hrest := ih (fun other hother => hwords other (List.mem_cons_of_mem _ hother))
        hword.isComplete
      have hline : joined text (word :: rest) = text ++ ' ' :: joined word rest := by
        simp [joined]
      rw [hline, tokens_append_space h, hrest, hword.tokens_eq, ← List.filter_append,
        List.singleton_append]

theorem dollar_not_mem_joined (h : '$' ∉ text) : '$' ∉ joined text words := by
  intro hmem
  rcases List.mem_append.mp hmem with hmem | hmem
  · exact h hmem
  · obtain ⟨word, hword, hmem⟩ := List.mem_flatMap.mp hmem
    exact (hwords word hword).dollar_not_mem ((List.mem_cons.mp hmem).resolve_left (by decide))

end

end CommandShell
