import CommandShell.Proofs.Aliases.Store
import CommandShell.Proofs.Line.Joining
import CommandShell.Proofs.Session.Action
import CommandShell.Proofs.Session.Counting
import CommandShell.Proofs.Text.Lines

/-!
# Listing aliases and reading them back

The command that shows all aliases writes a line for each, in which the value stands between quotes. The
line with the command word before it is a definition: the quotes keep spaces, operators and comment signs
in the value from being read as such, the word is not looked up as an alias, and its first `=` is the one
behind the name. So a session without aliases that executes these lines has the same aliases then.

## Main definitions
* `definitionText`, `Aliases.listing`, `Aliases.chunks`: the lines that show aliases, and how they are
  written.
* `IsListable`: aliases whose lines can be read back.

## Main results
* `dispatch_listing`: what the command writes.
* `executeLine_definitionText`: what a line of the listing does.
* `listing_reads_back`: the listing rebuilds the aliases.
-/

namespace CommandShell

/-! ## The lines of a listing -/

/-- The text that shows an alias. -/
def definitionText (name value : Text) : Text :=
  name ++ "='".toList ++ value ++ ['\'']

namespace Aliases

/-- The lines that show all aliases. -/
def listing (aliases : Aliases) : List Text :=
  aliases.toList.map fun entry => definitionText entry.1 entry.2

/-- What is written to show all aliases. -/
def chunks (aliases : Aliases) : List Chunk :=
  aliases.toList.flatMap fun entry => Builtin.aliasLine entry.1 entry.2

end Aliases

/-- The name can stand before a `=` in a line. -/
structure IsListableName (name : Text) : Prop where
  isPlainWord : IsPlainWord name
  equals_not_mem : '=' ∉ name
  newline_not_mem : '\n' ∉ name

/-- The value can stand between quotes in a line. -/
structure IsListableValue (value : Text) : Prop where
  not_isQuote : ∀ c ∈ value, isQuote c = false
  dollar_not_mem : '$' ∉ value
  newline_not_mem : '\n' ∉ value

/-- A store that definitions can build, with names and values that can stand in a line. -/
structure Aliases.IsListable (aliases : Aliases) : Prop where
  isIndexed : aliases.IsIndexed
  name : ∀ entry ∈ aliases.toList, IsListableName entry.1
  value : ∀ entry ∈ aliases.toList, IsListableValue entry.2

/-! ## Showing aliases -/

theorem newline_not_mem_definitionText {name value : Text} (hname : '\n' ∉ name)
    (hvalue : '\n' ∉ value) : '\n' ∉ definitionText name value := by
  simp [definitionText, hname, hvalue]

/-- The pieces that are written are the line with its end. -/
theorem contents_aliasLine (name value : Text) :
    (Builtin.aliasLine name value).flatMap Chunk.contents =
      Utf8.encodeLines [definitionText name value] := by
  have hnewline : String.utf8EncodeChar '\n' = [newline] := by decide
  simp [Builtin.aliasLine, definitionText, Chunk.text, Chunk.contents, hnewline]

theorem contents_aliasLines (entries : List (Text × Text)) :
    (entries.flatMap fun entry => Builtin.aliasLine entry.1 entry.2).flatMap Chunk.contents =
      Utf8.encodeLines (entries.map fun entry => definitionText entry.1 entry.2) := by
  rw [List.flatMap_assoc, Utf8.encodeLines, List.flatMap_map]
  refine congrArg (entries.flatMap ·) (funext fun entry => ?_)
  rw [contents_aliasLine]
  simp

/-- Aliases are shown one below the other, and nothing else changes. -/
theorem forM_showAlias_of_writeAll {entries : List (Text × Text)} {s : Session}
    (h : (s.out.writeAll (entries.flatMap fun entry => Builtin.aliasLine entry.1 entry.2)).1 = .ok ()) :
    (entries.forM fun entry => Builtin.showAlias entry.1 entry.2).run s = (.ok (), { s with
      out := (s.out.writeAll (entries.flatMap fun entry => Builtin.aliasLine entry.1 entry.2)).2 }) := by
  induction entries generalizing s with
  | nil => rfl
  | cons entry rest ih =>
      rw [List.flatMap_cons] at h ⊢
      have hfirst := Stream.writeAll_of_append h
      rw [Stream.writeAll_append_of_ok hfirst] at h ⊢
      exact (run_bind_of_ok (writeOut_of_writeAll hfirst _) _).trans (ih h)

/-- **The command that shows all aliases writes the listing**, if the stream takes it, and succeeds. -/
theorem dispatch_listing (machine : Machine) {s : Session}
    (h : (s.out.writeAll s.aliases.chunks).1 = .ok ()) :
    dispatch machine [Aliases.definer] s = (.status 0, { s with
      out := (s.out.writeAll s.aliases.chunks).2
      lastStatus := 0
      counter := s.counter + 1 }) := by
  have hword : Token.word Aliases.definer = Builtin.definitionsName := by decide
  have hname : Builtin.ofName? Builtin.definitionsName = some .defining := Builtin.ofName?_name .defining
  have hrun : (Builtin.defineAliases []).run s =
      (.ok (.status 0), { s with out := (s.out.writeAll s.aliases.chunks).2 }) := by
    rw [Builtin.defineAliases, List.isEmpty_nil, if_pos rfl]
    exact run_bind_of_ok (forM_showAlias_of_writeAll h) _
  rw [dispatch_cons, hword, commandOutcome, runCommand, hname]
  simp only [List.map_nil, Builtin.run, hrun]
  rfl

/-! ## Plain words with a quoted end -/

section

variable {plain : Text} (h : IsPlainWord plain) (piece : Piece)

include h

/-- A quoted piece behind a plain word belongs to it. -/
theorem tokens_append_written : tokens (plain ++ piece.written) = [plain ++ piece.written] := by
  have hnormal : normalize (plain ++ piece.written) = plain ++ piece.written := by
    rw [normalize, normalizeFrom_append_of_all_plain h.not_isQuote h.not_isOperatorChar
      h.space_not_mem fun _ => h.head?_ne, ← List.append_nil piece.written, piece.normalizeFrom_written]
    simp [normalizeFrom]
  have hwritten : piece.written ≠ [] := by simp [Piece.written]
  rw [tokens, hnormal, splitAt, splitFrom_append_of_all_plain h.not_isQuote h.space_not_mem]
  conv_lhs => rw [← List.append_nil piece.written]
  rw [piece.splitFrom_written]
  simp [splitFrom, hwritten]

theorem word_append_written : Token.word (plain ++ piece.written) = plain ++ piece.text := by
  have hpiece := piece.unquoteFrom_written []
  rw [List.append_nil, unquoteFrom, List.append_nil] at hpiece
  rw [Token.word, unquote, unquoteFrom_append_of_all_plain h.not_isQuote, hpiece]

theorem isOperator_append_written : Token.isOperator (plain ++ piece.written) = false := by
  cases plain with
  | nil =>
      rcases piece.quote_cases with hquote | hquote <;>
        simp [Token.isOperator, Piece.written, hquote, isOperatorChar]
  | cons c rest => exact h.not_isOperatorChar c (List.mem_cons_self ..)

end

/-! ## Reading a listing -/

section

variable {name value : Text} (hname : IsListableName name) (hvalue : IsListableValue value)

include hname

/-- A name with a `=` behind it is a plain word. -/
theorem IsListableName.isPlainWord_append : IsPlainWord (name ++ ['=']) := by
  obtain ⟨hquote, hoperator, hspace, hdollar, hhead⟩ := hname.isPlainWord
  refine ⟨?_, ?_, by simp [hspace], by simp [hdollar], ?_⟩
  · intro c hc
    rcases List.mem_append.mp hc with hc | hc
    · exact hquote c hc
    · rw [List.mem_singleton.mp hc]
      rfl
  · intro c hc
    rcases List.mem_append.mp hc with hc | hc
    · exact hoperator c hc
    · rw [List.mem_singleton.mp hc]
      rfl
  · cases name with
    | nil => simp
    | cons c rest => exact hhead

/-- The name ends before the first `=`. -/
theorem IsListableName.definition?_append (value : Text) :
    Builtin.definition? (name ++ '=' :: value) = some (name, value) := by
  have hall : ∀ c ∈ name, (c != '=') = true := fun c hc =>
    bne_iff_ne.mpr fun heq => hname.equals_not_mem (heq ▸ hc)
  have hdrop : (name ++ '=' :: value).dropWhile (· != '=') = '=' :: value := by
    rw [List.dropWhile_append_of_pos hall]
    rfl
  have htake : (name ++ '=' :: value).takeWhile (· != '=') = name := by
    rw [List.takeWhile_append_of_pos hall]
    simp
  rw [Builtin.definition?, hdrop, htake]

omit hname in
include hvalue in
theorem IsListableValue.stripQuotes_eq : stripQuotes value = value := by
  simpa [stripQuotes] using hvalue.not_isQuote

include hvalue

/-- **A line of a listing, with the command word before it, defines the alias that it shows.** The
command word keeps aliases from being replaced in it. -/
theorem executeLine_definitionText (machine : Machine) (t : Session) :
    executeLine machine ("alias ".toList ++ definitionText name value) t = (.status 0, { t with
      aliases := t.aliases.add name value
      lastStatus := 0
      counter := t.counter + 1 }) := by
  have hquote : '\'' ∉ value := fun hc => by simpa [isQuote] using hvalue.not_isQuote _ hc
  let piece : Piece := ⟨'\'', value, rfl, hquote⟩
  have hplain := hname.isPlainWord_append
  have htext : definitionText name value = (name ++ ['=']) ++ piece.written := by
    simp [definitionText, Piece.written, piece]
  have hline : t.tokensOf ("alias ".toList ++ definitionText name value) =
      [Aliases.definer, (name ++ ['=']) ++ piece.written] := by
    have hdollar : '$' ∉ "alias ".toList ++ definitionText name value := by
      simp [definitionText, hname.isPlainWord.dollar_not_mem, hvalue.dollar_not_mem]
    have hword : IsPlainWord Aliases.definer := by decide
    have hspace : "alias ".toList ++ definitionText name value =
        Aliases.definer ++ ' ' :: definitionText name value := rfl
    rw [Session.tokensOf, expand_of_not_mem _ hdollar, hspace, tokens_append_space hword.isComplete,
      hword.tokens_eq, htext, tokens_append_written hplain]
    rfl
  have hdefinition : Builtin.definition? (Token.word ((name ++ ['=']) ++ piece.written)) =
      some (name, value) := by
    rw [word_append_written hplain, List.append_assoc]
    exact hname.definition?_append value
  rw [executeLine_of_definer hline (by simpa using isOperator_append_written hplain piece),
    dispatch_definition machine hdefinition, hvalue.stripQuotes_eq]

end

/-- The lines of a listing, each behind the command word, define the aliases that they show. -/
theorem aliases_executeLines_listing (machine : Machine) {entries : List (Text × Text)}
    (hname : ∀ entry ∈ entries, IsListableName entry.1)
    (hvalue : ∀ entry ∈ entries, IsListableValue entry.2) (t : Session) :
    (executeLines machine
        (entries.map fun entry => "alias ".toList ++ definitionText entry.1 entry.2) t).aliases =
      entries.foldl (fun store entry => store.add entry.1 entry.2) t.aliases := by
  induction entries generalizing t with
  | nil => rfl
  | cons entry rest ih =>
      obtain ⟨hfirst, hrest⟩ := List.forall_mem_cons.mp hname
      obtain ⟨hfirst', hrest'⟩ := List.forall_mem_cons.mp hvalue
      rw [List.map_cons, executeLines, executeLine_definitionText hfirst hfirst', ih hrest hrest']
      rfl

/-- **The listing of the aliases can be read back.** The line `alias` writes them below one another, if
the output stream takes that, and succeeds. What it has written is cut into lines
again, and a session without aliases that executes these lines, each behind the command word, has the
same names with the same values in the same order then. -/
theorem listing_reads_back (machine : Machine) {s t : Session} (h : s.aliases.IsListable)
    (hprints : (s.out.writeAll s.aliases.chunks).1 = .ok ()) (hfresh : t.aliases = .empty) :
    ∃ printed, (executeLine machine "alias".toList s).1 = .status 0 ∧
      (executeLine machine "alias".toList s).2.out.contents = s.out.contents ++ printed ∧
      lines printed = s.aliases.listing ∧
      let rebuilt := (executeLines machine ((lines printed).map ("alias ".toList ++ ·)) t).aliases
      rebuilt.toList = s.aliases.toList ∧ ∀ name, rebuilt.get? name = s.aliases.get? name := by
  have hnewline : ∀ entry ∈ s.aliases.toList, '\n' ∉ entry.1 ∧ '\n' ∉ entry.2 := fun entry hentry =>
    ⟨(h.name entry hentry).newline_not_mem, (h.value entry hentry).newline_not_mem⟩
  have hlines : lines (Utf8.encodeLines s.aliases.listing) = s.aliases.listing := by
    refine lines_encodeLines fun line hline => ?_
    obtain ⟨entry, hentry, rfl⟩ := List.mem_map.mp hline
    exact newline_not_mem_definitionText (hnewline entry hentry).1 (hnewline entry hentry).2
  have hcommand : s.tokensOf "alias".toList = [Aliases.definer] := by
    rw [Session.tokensOf, expand_of_not_mem _ (by decide)]
    decide
  have hline : executeLine machine "alias".toList s = _ :=
    (executeLine_of_definer hcommand (by simp)).trans (dispatch_listing machine hprints)
  refine ⟨Utf8.encodeLines s.aliases.listing, ?_, ?_, hlines, ?_⟩
  · rw [hline]
  · rw [hline, Aliases.listing, ← contents_aliasLines]
    exact Stream.contents_writeAll_of_ok hprints
  · intro rebuilt
    have hrebuilt : rebuilt =
        s.aliases.toList.foldl (fun store entry => store.add entry.1 entry.2) .empty := by
      show (executeLines machine ((lines _).map _) t).aliases = _
      rw [hlines, Aliases.listing, List.map_map, ← hfresh]
      exact aliases_executeLines_listing machine h.name h.value t
    rw [hrebuilt]
    exact h.isIndexed.rebuilt

/-- Operators, a comment sign and a `=` in a value are read back, and so is an empty value. -/
theorem listing_reads_back_of_operators :
    let definitions := [("ll".toList, "a;b && c #d=e ".toList), ("e".toList, [])]
    let fresh := Session.new "husk".toList 1 .empty ⟨.empty, .root⟩
    let s := { fresh with
      aliases := definitions.foldl (fun store entry => store.add entry.1 entry.2) .empty }
    s.aliases.IsListable ∧ (s.out.writeAll s.aliases.chunks).1 = .ok () ∧ fresh.aliases = .empty ∧
      s.aliases.listing = ["ll='a;b && c #d=e '".toList, "e=''".toList] ∧
      ∃ printed, (executeLine Machine.idle "alias".toList s).2.out.contents = printed ∧
        (executeLines Machine.idle ((lines printed).map ("alias ".toList ++ ·)) fresh).aliases.toList =
          definitions := by
  intro definitions fresh s
  have hnames : ((Aliases.empty.toList ++ definitions).map Prod.fst).Nodup := by decide
  obtain ⟨hindexed, hlist⟩ := Aliases.isIndexed_empty.toList_foldl_add hnames
  have hstore : s.aliases.toList = definitions := hlist
  have hname : ∀ entry ∈ definitions, IsListableName entry.1 :=
    List.forall_mem_cons.mpr ⟨⟨by decide, by decide, by decide⟩,
      List.forall_mem_singleton.mpr ⟨by decide, by decide, by decide⟩⟩
  have hvalue : ∀ entry ∈ definitions, IsListableValue entry.2 :=
    List.forall_mem_cons.mpr ⟨⟨by simp [isQuote], by simp, by simp⟩,
      List.forall_mem_singleton.mpr ⟨by simp, by simp, by simp⟩⟩
  have hlistable : s.aliases.IsListable := ⟨hindexed, by rwa [hstore], by rwa [hstore]⟩
  have hprints : (s.out.writeAll s.aliases.chunks).1 = .ok () :=
    Stream.writeAll_of_takesAll Stream.isWorking_new.takesAll _
  obtain ⟨printed, -, hprinted, -, hrebuilt, -⟩ :=
    listing_reads_back Machine.idle hlistable hprints (t := fresh) rfl
  refine ⟨hlistable, hprints, rfl, ?_, printed, hprinted, hrebuilt.trans hstore⟩
  rw [Aliases.listing, hstore]
  decide

end CommandShell
