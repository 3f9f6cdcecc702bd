import CommandShell.Line.Token

/-!
# Words in writing

A word can be written as quoted pieces, each between two quote characters that do not occur in it, one
directly behind the other. Any text can be so written, with spaces, operators and quotes of the other
kind in it. Lines of words in writing are read back word by word: every scan passes over a piece as a
whole, since nothing in it closes the quote, and stands outside quotes behind it.

## Main definitions
* `Piece`, `Writing`: a quoted piece, and a word written in pieces.
* `writtenLine`: a line of words in writing, with spaces between them.

## Main results
* `exists_writing`: every word can be written.
* `tokens_writtenLine`: a line of words in writing has the writings as its tokens.
* `map_word_tokens_writtenLine`: without their quotes these are the words.
-/

namespace CommandShell

/-- A text between two quote characters that do not occur in it. -/
structure Piece where
  quote : Char
  text : Text
  isQuote_quote : isQuote quote
  not_mem_text : quote ∉ text

namespace Piece

/-- The piece with its quotes. -/
def written (piece : Piece) : Text :=
  piece.quote :: (piece.text ++ [piece.quote])

end Piece

/-- A word that is written in one piece or more. -/
structure Writing where
  first : Piece
  others : List Piece

namespace Writing

/-- The pieces of the word. -/
def pieces (writing : Writing) : List Piece :=
  writing.first :: writing.others

/-- The word that is written. -/
def text (writing : Writing) : Text :=
  writing.pieces.flatMap Piece.text

/-- The word as it is written. -/
def written (writing : Writing) : Text :=
  writing.pieces.flatMap Piece.written

end Writing

/-- Words in writing behind a first one, with `n + 1` spaces before each. -/
def writtenRest (rest : List (Nat × Writing)) : Text :=
  rest.flatMap fun entry => List.replicate (entry.1 + 1) ' ' ++ entry.2.written

/-- A line of words in writing. -/
def writtenLine (first : Writing) (rest : List (Nat × Writing)) : Text :=
  first.written ++ writtenRest rest

theorem written_eq_cons (writing : Writing) :
    writing.written = writing.first.quote ::
      (writing.first.text ++ [writing.first.quote] ++ writing.others.flatMap Piece.written) := by
  simp [Writing.written, Writing.pieces, Piece.written]

/-! ## Every word can be written -/

/-- A character between quotes of the other kind. -/
def Piece.ofChar (c : Char) : Piece where
  quote := if c = '"' then '\'' else '"'
  text := [c]
  isQuote_quote := by split <;> rfl
  not_mem_text := by
    rw [List.mem_singleton]
    split
    · rename_i h
      rw [h]
      decide
    · rename_i h
      exact fun heq => h heq.symm

/-- **Every word can be written.** -/
theorem exists_writing (word : Text) : ∃ writing : Writing, writing.text = word := by
  have hchars : word.flatMap (fun c => (Piece.ofChar c).text) = word := by
    simp [Piece.ofChar]
  refine ⟨⟨⟨'"', [], rfl, by simp⟩, word.map Piece.ofChar⟩, ?_⟩
  simp [Writing.text, Writing.pieces, List.flatMap_map, hchars]

/-! ## One piece -/

section

variable {q : Char} {text : Text}

theorem normalizeFrom_quoted (h : q ∉ text) (rest : Text) :
    normalizeFrom (.quoted q) (text ++ q :: rest) =
      text ++ q :: normalizeFrom (.plain false) rest := by
  induction text with
  | nil => simp [normalizeFrom]
  | cons c text ih =>
      obtain ⟨hc, htext⟩ : q ≠ c ∧ q ∉ text := by simpa using h
      have hc' : c ≠ q := fun heq => hc heq.symm
      rw [List.cons_append, normalizeFrom, if_neg hc', ih htext, List.cons_append]

theorem splitFrom_quoted (h : q ∉ text) (separator : Char) (piece rest : Text) :
    splitFrom separator (some q) piece (text ++ q :: rest) =
      splitFrom separator none (q :: (text.reverse ++ piece)) rest := by
  induction text generalizing piece with
  | nil => simp [splitFrom]
  | cons c text ih =>
      obtain ⟨hc, htext⟩ : q ≠ c ∧ q ∉ text := by simpa using h
      have hc' : c ≠ q := fun heq => hc heq.symm
      have hopen : ¬ (some q = none ∧ c = separator) := by simp
      rw [List.cons_append, splitFrom, if_neg hopen, quoteAfter_inside hc', ih htext]
      simp

theorem unquoteFrom_quoted (h : q ∉ text) (rest : Text) :
    unquoteFrom (some q) (text ++ q :: rest) = text ++ unquoteFrom none rest := by
  induction text with
  | nil => simp [unquoteFrom]
  | cons c text ih =>
      obtain ⟨hc, htext⟩ : q ≠ c ∧ q ∉ text := by simpa using h
      have hc' : c ≠ q := fun heq => hc heq.symm
      rw [List.cons_append, unquoteFrom, if_pos (quoteAfter_inside hc'), ih htext, List.cons_append]

end

namespace Piece

variable (piece : Piece)

theorem written_append (rest : Text) :
    piece.written ++ rest = piece.quote :: (piece.text ++ piece.quote :: rest) := by
  simp [written]

/-- A quote character is no other character that a scan looks for. -/
theorem quote_cases : piece.quote = '\'' ∨ piece.quote = '"' := by
  simpa [isQuote] using piece.isQuote_quote

theorem normalizeFrom_written (fresh : Bool) (rest : Text) :
    normalizeFrom (.plain fresh) (piece.written ++ rest) =
      piece.written ++ normalizeFrom (.plain false) rest := by
  have hcomment : ¬ (piece.quote = '#' ∧ fresh) := by
    rintro ⟨hquote, -⟩
    have := piece.isQuote_quote
    simp [hquote, isQuote] at this
  have hoperator : ¬ isOperatorChar piece.quote := by
    rcases piece.quote_cases with h | h <;> simp [h, isOperatorChar]
  have hafter : Mark.after piece.quote = .quoted piece.quote := by
    simp [Mark.after, piece.isQuote_quote]
  rw [written_append, written_append, normalizeFrom, if_neg hcomment, if_neg hoperator, hafter,
    normalizeFrom_quoted piece.not_mem_text]

theorem splitFrom_written (begun rest : Text) :
    splitFrom ' ' none begun (piece.written ++ rest) =
      splitFrom ' ' none (piece.written.reverse ++ begun) rest := by
  have hspace : ¬ ((none : Option Char) = none ∧ piece.quote = ' ') := by
    rcases piece.quote_cases with h | h <;> simp [h]
  rw [written_append, splitFrom, if_neg hspace, quoteAfter_open piece.isQuote_quote,
    splitFrom_quoted piece.not_mem_text]
  simp [written]

theorem unquoteFrom_written (rest : Text) :
    unquoteFrom none (piece.written ++ rest) = piece.text ++ unquoteFrom none rest := by
  have hopen : quoteAfter none piece.quote = some piece.quote :=
    quoteAfter_open piece.isQuote_quote
  have hchange : ¬ quoteAfter none piece.quote = none := by simp [hopen]
  rw [written_append, unquoteFrom, if_neg hchange, hopen, unquoteFrom_quoted piece.not_mem_text]

end Piece

/-! ## One word -/

theorem normalizeFrom_pieces (pieces : List Piece) (rest : Text) :
    normalizeFrom (.plain false) (pieces.flatMap Piece.written ++ rest) =
      pieces.flatMap Piece.written ++ normalizeFrom (.plain false) rest := by
  induction pieces with
  | nil => rfl
  | cons piece pieces ih =>
      rw [List.flatMap_cons, List.append_assoc, piece.normalizeFrom_written, ih,
        List.append_assoc]

theorem splitFrom_pieces (pieces : List Piece) (begun rest : Text) :
    splitFrom ' ' none begun (pieces.flatMap Piece.written ++ rest) =
      splitFrom ' ' none ((pieces.flatMap Piece.written).reverse ++ begun) rest := by
  induction pieces generalizing begun with
  | nil => rfl
  | cons piece pieces ih =>
      rw [List.flatMap_cons, List.append_assoc, piece.splitFrom_written, ih,
        List.reverse_append, List.append_assoc]

theorem unquoteFrom_pieces (pieces : List Piece) :
    unquoteFrom none (pieces.flatMap Piece.written) = pieces.flatMap Piece.text := by
  induction pieces with
  | nil => rfl
  | cons piece pieces ih =>
      rw [List.flatMap_cons, piece.unquoteFrom_written, ih, List.flatMap_cons]

namespace Writing

variable (writing : Writing)

theorem written_ne_nil : writing.written ≠ [] := by
  rw [written_eq_cons]
  exact List.cons_ne_nil _ _

theorem normalizeFrom_written (fresh : Bool) (rest : Text) :
    normalizeFrom (.plain fresh) (writing.written ++ rest) =
      writing.written ++ normalizeFrom (.plain false) rest := by
  have hwritten : writing.written = writing.first.written ++
      writing.others.flatMap Piece.written := List.flatMap_cons ..
  rw [hwritten, List.append_assoc, Piece.normalizeFrom_written, normalizeFrom_pieces,
    List.append_assoc]

theorem splitFrom_written (rest : Text) :
    splitFrom ' ' none [] (writing.written ++ rest) =
      splitFrom ' ' none writing.written.reverse rest := by
  rw [written, splitFrom_pieces, List.append_nil]

/-- **A word in writing stands for the word.** -/
theorem word_written : Token.word writing.written = writing.text :=
  unquoteFrom_pieces writing.pieces

/-- A word in writing is no operator, since it begins with a quote. -/
theorem isOperator_written : Token.isOperator writing.written = false := by
  rw [written_eq_cons, Token.isOperator, List.head?_cons]
  rcases writing.first.quote_cases with h | h <;> simp [h, isOperatorChar]

end Writing

/-! ## Lines of words -/

theorem normalizeFrom_space (fresh : Bool) (rest : Text) :
    normalizeFrom (.plain fresh) (' ' :: rest) = ' ' :: normalizeFrom (.plain true) rest := by
  simp [normalizeFrom, isOperatorChar, Mark.after, isQuote]

theorem normalizeFrom_spaces (n : Nat) (fresh : Bool) (rest : Text) :
    normalizeFrom (.plain fresh) (List.replicate (n + 1) ' ' ++ rest) =
      List.replicate (n + 1) ' ' ++ normalizeFrom (.plain true) rest := by
  induction n generalizing fresh with
  | zero => exact normalizeFrom_space fresh rest
  | succ n ih =>
      rw [List.replicate_succ, List.cons_append, normalizeFrom_space, ih, List.cons_append]

/-- Spaces end the piece before them, if there is one. -/
theorem splitFrom_spaces (n : Nat) {begun : Text} (h : begun ≠ []) (rest : Text) :
    splitFrom ' ' none begun (List.replicate (n + 1) ' ' ++ rest) =
      begun.reverse :: splitFrom ' ' none [] rest := by
  have hmore : splitFrom ' ' none [] (List.replicate n ' ' ++ rest) = splitFrom ' ' none [] rest := by
    induction n with
    | zero => rfl
    | succ n ih => simp [List.replicate_succ, splitFrom, ih]
  rw [List.replicate_succ, List.cons_append, splitFrom]
  simp [h, hmore]

theorem writtenRest_cons (entry : Nat × Writing) (rest : List (Nat × Writing)) :
    writtenRest (entry :: rest) =
      List.replicate (entry.1 + 1) ' ' ++ (entry.2.written ++ writtenRest rest) := by
  simp [writtenRest]

theorem normalizeFrom_writtenRest (rest : List (Nat × Writing)) :
    normalizeFrom (.plain false) (writtenRest rest) = writtenRest rest := by
  induction rest with
  | nil => rfl
  | cons entry rest ih =>
      rw [writtenRest_cons, normalizeFrom_spaces, Writing.normalizeFrom_written, ih]

theorem splitFrom_writtenRest {begun : Text} (h : begun ≠ []) (rest : List (Nat × Writing)) :
    splitFrom ' ' none begun (writtenRest rest) =
      begun.reverse :: rest.map fun entry => entry.2.written := by
  induction rest generalizing begun with
  | nil => simp [writtenRest, splitFrom, h]
  | cons entry rest ih =>
      have hwritten : entry.2.written.reverse ≠ [] := by
        simpa using entry.2.written_ne_nil
      rw [writtenRest_cons, splitFrom_spaces _ h, Writing.splitFrom_written, ih hwritten,
        List.reverse_reverse, List.map_cons]

/-- A line of words in writing is normal. -/
theorem normalize_writtenLine (first : Writing) (rest : List (Nat × Writing)) :
    normalize (writtenLine first rest) = writtenLine first rest := by
  rw [normalize, writtenLine, Writing.normalizeFrom_written, normalizeFrom_writtenRest]

/-- **A line of words in writing has the writings as its tokens.** -/
theorem tokens_writtenLine (first : Writing) (rest : List (Nat × Writing)) :
    tokens (writtenLine first rest) = first.written :: rest.map fun entry => entry.2.written := by
  have hfirst : first.written.reverse ≠ [] := by simpa using first.written_ne_nil
  rw [tokens, normalize_writtenLine, splitAt, writtenLine, Writing.splitFrom_written,
    splitFrom_writtenRest hfirst, List.reverse_reverse]

/-- **A line of words in writing is read back word by word.** -/
theorem map_word_tokens_writtenLine (first : Writing) (rest : List (Nat × Writing)) :
    (tokens (writtenLine first rest)).map Token.word =
      first.text :: rest.map fun entry => entry.2.text := by
  have hrest : (rest.map fun entry => entry.2.written).map Token.word =
      rest.map fun entry => entry.2.text := by
    rw [List.map_map]
    exact List.map_congr_left fun entry _ => entry.2.word_written
  rw [tokens_writtenLine, List.map_cons, first.word_written, hrest]

theorem exists_writing_of_mem_tokens {first : Writing} {rest : List (Nat × Writing)} {token : Token}
    (h : token ∈ tokens (writtenLine first rest)) : ∃ writing : Writing, writing.written = token := by
  rw [tokens_writtenLine] at h
  rcases List.mem_cons.mp h with rfl | h
  · exact ⟨first, rfl⟩
  · obtain ⟨entry, -, rfl⟩ := List.mem_map.mp h
    exact ⟨entry.2, rfl⟩

/-- No token of a line of words in writing is an operator. -/
theorem isOperator_of_mem_tokens {first : Writing} {rest : List (Nat × Writing)} {token : Token}
    (h : token ∈ tokens (writtenLine first rest)) : token.isOperator = false := by
  obtain ⟨writing, rfl⟩ := exists_writing_of_mem_tokens h
  exact writing.isOperator_written

/-! ## Characters of a line of words -/

/-- A character of a word in writing opens or closes a piece, or belongs to the word. -/
theorem mem_written {writing : Writing} {c : Char} (h : c ∈ writing.written) :
    isQuote c ∨ c ∈ writing.text := by
  obtain ⟨piece, hpiece, hc⟩ := List.mem_flatMap.mp h
  have hcases : c = piece.quote ∨ c ∈ piece.text := by
    simpa [Piece.written, or_comm, or_left_comm] using hc
  rcases hcases with rfl | hc
  · exact .inl piece.isQuote_quote
  · exact .inr (List.mem_flatMap.mpr ⟨piece, hpiece, hc⟩)

/-- A character of a line of words that is no quote and no space belongs to a word. -/
theorem mem_writtenLine {first : Writing} {rest : List (Nat × Writing)} {c : Char}
    (hquote : isQuote c = false) (hspace : c ≠ ' ') (h : c ∈ writtenLine first rest) :
    ∃ word ∈ first.text :: rest.map (·.2.text), c ∈ word := by
  have hword : ∀ {writing : Writing}, c ∈ writing.written → c ∈ writing.text := fun hc =>
    (mem_written hc).resolve_left (by simp [hquote])
  rcases List.mem_append.mp h with hc | hc
  · exact ⟨first.text, List.mem_cons_self .., hword hc⟩
  · obtain ⟨entry, hentry, hc⟩ := List.mem_flatMap.mp hc
    rcases List.mem_append.mp hc with hc | hc
    · exact absurd (List.eq_of_mem_replicate hc) hspace
    · exact ⟨entry.2.text, List.mem_cons_of_mem _ (List.mem_map_of_mem hentry), hword hc⟩

end CommandShell
