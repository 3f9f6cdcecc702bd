import CommandShell.Proofs.Session.Leaving
import CommandShell.Proofs.Text.Lines

/-!
# Runs over redirected input

A run over redirected input and the lines of a file that is read at the start are executed by different
loops. The run shows no prompt, and flushes after each line. So where flushing does not fail the two stop
at the same line in the same session, and the run ends with the status that this line asks for, or with
the last status. Input that ends in a newline can therefore be cut off from what follows: what follows is
run from the session that is left, or not at all.

## Main definitions
* `concluded`: how a run ends.

## Main results
* `run_ofStream`: a run is the execution of its lines.
* `sourceLines_of_serves`, `served_or_stopped`: lines that are executed to the end, or up to one that
  asks to leave.
* `batch_agrees_with_sourcing`: a run and the execution of its lines come to the same, and input is cut
  at a newline.
-/

namespace CommandShell

/-! ## Streams that can be flushed -/

namespace Session

/-- Redirected input ends a run with the last status, and changes nothing. -/
theorem CanFlush.finish {s : Session} (h : s.CanFlush) : s.finish false = (.ok s.lastStatus, s) := by
  rw [Session.finish, if_neg Bool.false_ne_true, h.conclude]

end Session

/-- Nothing that a line does keeps a stream from being flushed. -/
theorem isLineFrame_canFlush (machine : Machine) :
    IsLineFrame machine fun s t => s.CanFlush → t.CanFlush where
  refl _ := id
  trans hst htu := htu ∘ hst
  env _ _ h := ⟨h.out, h.err⟩
  disk _ _ h := ⟨h.out, h.err⟩
  out _ _ h := ⟨h.out.write _, h.err⟩
  err _ _ h := ⟨h.out, h.err.write _⟩
  flush s h := by rwa [h.flush]
  adopt _ _ _ _ _ h := ⟨h.out.receive _, h.err.receive _⟩
  aliases _ _ h := ⟨h.out, h.err⟩
  report _ _ h := ⟨h.out, h.err.report _⟩
  lastStatus _ _ h := ⟨h.out, h.err⟩
  advance _ h := ⟨h.out, h.err⟩

theorem canFlush_executeLine (machine : Machine) (line : Text) {s : Session} (h : s.CanFlush) :
    (executeLine machine line s).2.CanFlush :=
  (isLineFrame_canFlush machine).executeLine line s h

theorem canFlush_sourceLines (machine : Machine) (texts : List Text) {s : Session} (h : s.CanFlush) :
    (sourceLines machine texts s).2.CanFlush := by
  induction texts generalizing s with
  | nil => exact h
  | cons line rest ih =>
      have hline := canFlush_executeLine machine line h
      rw [sourceLines]
      generalize executeLine machine line s = outcome at hline
      obtain ⟨flow, t⟩ := outcome
      simp only
      split
      · exact hline
      · exact ih hline

/-! ## Runs and lines -/

/-- The code that a run ends with when its lines have been executed, and the session: the code that the
last of them asks for, or the last status. -/
def concluded (outcome : Option Status × Session) : Except FatalError Status × Session :=
  (.ok (outcome.1.getD outcome.2.lastStatus), outcome.2)

section

variable {machine : Machine} {s : Session}

/-- Redirected input is asked for without a prompt. -/
theorem ask_batch (s : Session) : s.ask Manner.batch.prompt = s := rfl

private theorem runLines_batch {source : LineSource} (hmanner : source.manner = .batch)
    (hfailure : source.failure = none) (texts : List Text) (hs : s.CanFlush) :
    runLines machine source texts s = concluded (sourceLines machine texts s) := by
  induction texts generalizing s with
  | nil =>
      rw [runLines, hmanner, hfailure, ask_batch]
      exact hs.finish
  | cons line rest ih =>
      have hline := canFlush_executeLine machine line hs
      rw [runLines, sourceLines, hmanner, ask_batch]
      generalize executeLine machine line s = outcome at hline
      obtain ⟨flow, t⟩ := outcome
      simp only [hline.ending?]
      cases flow.leaves? t.lastStatus with
      | none => exact ih hline
      | some code => rfl

/-- **A run over redirected input is the execution of its lines**, whatever its bytes are. -/
theorem run_ofStream (data : Bytes) (hs : s.CanFlush) :
    run machine (.ofStream data) s = concluded (sourceLines machine (lines data) s) :=
  runLines_batch rfl rfl _ hs

/-- Input behind whole lines is run from where they lead, or not at all. -/
theorem run_ofStream_append {first : Bytes} (hfirst : first.getLast? = some newline) (second : Bytes)
    (hs : s.CanFlush) :
    run machine (.ofStream (first ++ second)) s =
      match sourceLines machine (lines first) s with
      | (none, t) => run machine (.ofStream second) t
      | (some code, t) => (.ok code, t) := by
  have ht := canFlush_sourceLines machine (lines first) hs
  rw [run_ofStream _ hs, lines_append hfirst, sourceLines_append]
  generalize sourceLines machine (lines first) s = outcome at ht
  obtain ⟨code?, t⟩ := outcome
  cases code? with
  | none => exact (run_ofStream second ht).symm
  | some code => rfl

/-! ## Lines in turn -/

variable {source : LineSource} {texts rest : List Text} {t : Session}

/-- Lines that are served leave the session that they are said to leave. -/
theorem sourceLines_of_serves (h : Serves machine .batch source.reader texts s rest t) :
    ∃ served, texts = served ++ rest ∧ sourceLines machine served s = (none, t) := by
  induction h with
  | done rest s => exact ⟨[], rfl, rfl⟩
  | @line lines kept rest s found t u text status hfound hline hrest ih =>
      cases lines with
      | nil => cases hfailure : source.failure <;> simp [LineSource.reader, hfailure] at hfound
      | cons first lines =>
          obtain ⟨hfirst, hkept⟩ := Prod.mk.inj hfound
          obtain ⟨rfl, rfl⟩ := Prod.mk.inj hkept
          obtain rfl := Answer.line.inj hfirst
          obtain ⟨served, rfl, hserved⟩ := ih
          refine ⟨first :: served, rfl, ?_⟩
          rw [ask_batch] at hline
          rw [sourceLines, hline]
          exact hserved

/-- **Lines are served to the last, or up to one that asks to leave.** -/
theorem served_or_stopped (machine : Machine) (source : LineSource) (texts : List Text) (s : Session) :
    (∃ t, Serves machine .batch source.reader texts s [] t) ∨
      ∃ line later t, Serves machine .batch source.reader texts s (line :: later) t ∧
        (executeLine machine line t).1.stops := by
  induction texts generalizing s with
  | nil => exact .inl ⟨s, .done [] s⟩
  | cons line rest ih =>
      rcases hline : executeLine machine line s with ⟨flow, t⟩
      cases flow with
      | status status =>
          have hfirst : ∀ {kept u}, Serves machine .batch source.reader rest t kept u →
              Serves machine .batch source.reader (line :: rest) s kept u := .line rfl hline
          rcases ih t with ⟨u, hserves⟩ | ⟨next, later, u, hserves, hstops⟩
          · exact .inl ⟨u, hfirst hserves⟩
          · exact .inr ⟨next, later, u, hfirst hserves, hstops⟩
      | terminate | exit code => exact .inr ⟨line, rest, s, .done _ s, by rw [hline]; rfl⟩

/-- Behind lines that are served, a line that asks to leave is the last. -/
theorem exists_sourceLines_of_stops {line : Text} {later : List Text}
    (h : Serves machine .batch source.reader texts s (line :: later) t)
    (hstops : (executeLine machine line t).1.stops) :
    ∃ code u, sourceLines machine texts s = (some code, u) := by
  obtain ⟨served, rfl, hserved⟩ := sourceLines_of_serves h
  rw [sourceLines_append, hserved]
  simp only [sourceLines]
  generalize executeLine machine line t = outcome at hstops
  obtain ⟨flow, u⟩ := outcome
  cases flow with
  | status status => exact absurd hstops Bool.false_ne_true
  | terminate => exact ⟨u.lastStatus, u, rfl⟩
  | exit code => exact ⟨code, u, rfl⟩

end

/-- **A run over redirected input agrees with the execution of its lines, and can be cut at a newline.**
Where the streams can be flushed, a run over lines that are each ended by a newline leaves the session
that executing the lines leaves, and ends with the code that they ask for, or with the last status.

Input that ends in a newline is served to the last line or up to one that asks to leave. In the first
case the run ends with the last status, and a run over it with more behind is a run over it and then a run
over the rest. In the second case the rest plays no part. -/
theorem batch_agrees_with_sourcing (machine : Machine) {s : Session} (hs : s.CanFlush) :
    (∀ texts : List Text, (∀ line ∈ texts, '\n' ∉ line) →
      run machine (.ofStream (Utf8.encodeLines texts)) s = concluded (sourceLines machine texts s)) ∧
    ∀ first second : Bytes, first.getLast? = some newline →
      let source := LineSource.ofStream first
      let whole := LineSource.ofStream (first ++ second)
      (∀ t, Serves machine .batch source.reader source.lines s [] t →
        run machine source s = (.ok t.lastStatus, t) ∧
        run machine whole s = run machine (.ofStream second) (run machine source s).2) ∧
      (∀ line later t, Serves machine .batch source.reader source.lines s (line :: later) t →
        (executeLine machine line t).1.stops → run machine whole s = run machine source s) ∧
      ((∃ t, Serves machine .batch source.reader source.lines s [] t) ∨
        ∃ line later t, Serves machine .batch source.reader source.lines s (line :: later) t ∧
          (executeLine machine line t).1.stops) := by
  refine ⟨fun texts htexts => ?_, ?_⟩
  · rw [run_ofStream _ hs, lines_encodeLines htexts]
  intro first second hfirst source whole
  refine ⟨?_, ?_, served_or_stopped machine source source.lines s⟩
  · intro t hserves
    obtain ⟨served, hlines, hserved⟩ := sourceLines_of_serves hserves
    obtain rfl : lines first = served := hlines.trans (List.append_nil served)
    have hrun : run machine source s = (.ok t.lastStatus, t) := by
      rw [run_ofStream _ hs, hserved]
      rfl
    refine ⟨hrun, ?_⟩
    rw [run_ofStream_append hfirst second hs, hserved, hrun]
  · intro line later t hserves hstops
    obtain ⟨code, u, hsourced⟩ := exists_sourceLines_of_stops hserves hstops
    have hlines : sourceLines machine (lines first) s = (some code, u) := hsourced
    rw [run_ofStream_append hfirst second hs, run_ofStream _ hs, hlines]
    rfl

/-- On a stream that is full, an empty line and `exit 3` are run as they are executed. What follows the
empty line is run, and what follows `exit 3` is not, be it text or not. -/
theorem batch_agrees_with_sourcing_of_exit :
    let fresh := Session.new "husk".toList 1 .empty ⟨.empty, .root⟩
    let s := { fresh with out := ⟨[], fun _ _ => 0, fun _ => true⟩ }
    let leaving := Utf8.encodeLines ["exit 3".toList]
    s.CanFlush ∧ (∀ line ∈ [[], "exit 3".toList], '\n' ∉ line) ∧
      run Machine.idle (.ofStream (Utf8.encodeLines [[], "exit 3".toList])) s =
        (.ok 3, s.advance.advance) ∧
      leaving.getLast? = some newline ∧ (executeLine Machine.idle "exit 3".toList s).1.stops ∧
      run Machine.idle (.ofStream (leaving ++ [0xFF])) s = (.ok 3, s.advance) ∧
      run Machine.idle (.ofStream ([newline] ++ leaving)) s =
        run Machine.idle (.ofStream leaving) s.advance := by
  intro fresh s leaving
  have hs : s.CanFlush := ⟨fun _ => rfl, fun _ => rfl⟩
  have hnewline : ∀ line ∈ [[], "exit 3".toList], '\n' ∉ line := by decide
  have hexit : ∀ u : Session, u.aliases = .empty →
      executeLine Machine.idle "exit 3".toList u = (.exit 3, u.advance) := by
    intro u hu
    have htokens : u.tokensOf "exit 3".toList = ["exit".toList, ['3']] := by
      rw [Session.tokensOf, expand_of_not_mem u.value (by decide)]
      decide
    exact executeLine_of_no_connector (r := ⟨u, []⟩) (by decide)
      (fun word _ => hu ▸ Aliases.get?_empty word) htokens (by decide) (by decide)
  obtain ⟨hlines, hcut⟩ := batch_agrees_with_sourcing Machine.idle hs
  have hstops : (executeLine Machine.idle "exit 3".toList s).1.stops := by
    rw [hexit s rfl]
    rfl
  have hleaving : leaving.getLast? = some newline := by decide
  have hlist : lines leaving = ["exit 3".toList] := lines_encodeLines (by decide)
  have hrun : run Machine.idle (.ofStream leaving) s = (.ok 3, s.advance) := by
    rw [run_ofStream _ hs, hlist, sourceLines, hexit s rfl]
    rfl
  refine ⟨hs, hnewline, ?_, hleaving, hstops, ?_, ?_⟩
  · have hempty : executeLine Machine.idle [] s = (.status 0, s.advance) := rfl
    rw [hlines _ hnewline, sourceLines, hempty]
    simp only [Flow.leaves?, sourceLines, hexit s.advance rfl]
    rfl
  · obtain ⟨-, hstopped, -⟩ := hcut leaving [0xFF] hleaving
    rw [← hrun]
    refine hstopped "exit 3".toList [] s ?_ hstops
    rw [show (LineSource.ofStream leaving).lines = ["exit 3".toList] from hlist]
    exact .done _ s
  · obtain ⟨hserved, -, -⟩ := hcut [newline] leaving rfl
    have hempty : Serves Machine.idle .batch (LineSource.ofStream [newline]).reader
        (LineSource.ofStream [newline]).lines s [] s.advance := .line rfl rfl (.done _ _)
    obtain ⟨hfirst, hwhole⟩ := hserved s.advance hempty
    rw [hwhole, hfirst]

end CommandShell
