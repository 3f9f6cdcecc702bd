import CommandShell.Proofs.Session.Command
import CommandShell.Session.Run

/-!
# How lines and runs end

A line that ends with a status leaves it behind as the last status. A line that asks to leave has run
the command that does so as its last one, whether that was typed or came in with an alias, and the last
status is the one from before that command.

So a run executes its lines in turn up to the first that asks to leave, and asks for no other line then.
It ends with the status that this line names, or with the last status; and with the last status too if
no line is found any more.

## Main definitions
* `IsCoherent`: the flow and the last status after a line agree.
* `Session.CanFlush`: streams that can be flushed.
* `Session.IsWorking`: streams that take everything and can be flushed.
* `Answer`, `Reader`: what there is when a line is asked for, and how it is found.
* `LineSource.reader`, `Manner.reader`: the lines of a source, and those of the standard input.
* `Serves`: lines that are executed in turn, none of which asks to leave.
* `Closes`, `Concludes`: how a run ends.
* `serve`: one step of a run.

## Main results
* `isCoherent_executeLineRecorded`: the end of a line.
* `concludes_run`, `concludes_runInput`: the end of a run.
* `run_of_stops`: lines that are not read.
* `status_and_flow_agree`: the status and the flow of a line, and of a run over any source or over the
  standard input.
-/

namespace CommandShell

open Recorded

/-! ## Lines -/

/-- It is a command that asks to leave. -/
def Event.stops : Event → Bool
  | command _ _ outcome => outcome.1.stops
  | refusal _ _ => false

/-- After a line the flow and the last status agree: a status that the line ends with is the last
status. If the line asks to leave, its last event is the command that asked, and this command has left
the last status as it found it. No event before has asked to leave. -/
structure IsCoherent (machine : Machine) (outcome : Flow × Recorded) : Prop where
  goes_on : ∀ status, outcome.1 = .status status →
    outcome.2.session.lastStatus = status ∧ ∀ event ∈ outcome.2.events, event.stops = false
  leaves : outcome.1.stops → ∃ earlier segment before,
    outcome.2.events = earlier ++ [.command segment before (plain outcome)] ∧
    plain outcome = dispatch machine segment before ∧
    segment.head?.map Token.word = some Builtin.leaveName ∧
    outcome.2.session.lastStatus = before.lastStatus ∧ ∀ event ∈ earlier, event.stops = false

section

variable {machine : Machine} {r : Recorded}

theorem isCoherent_idle (h : ∀ event ∈ r.events, event.stops = false) :
    IsCoherent machine (.status r.session.lastStatus, r) :=
  ⟨fun _ hflow => ⟨Flow.status.inj hflow, h⟩, nofun⟩

theorem isCoherent_command (h : ∀ event ∈ r.events, event.stops = false) (segment : List Token) :
    IsCoherent machine
      (r.note (.command segment r.session (dispatch machine segment r.session))
        (dispatch machine segment r.session)) := by
  obtain ⟨hstatus, hleaves⟩ := lastStatus_dispatch machine r.session segment
  refine ⟨fun status hflow => ⟨hstatus status hflow, forall_mem_note h ?_ _⟩, fun hstops => ?_⟩
  · exact congrArg Flow.stops hflow
  · exact ⟨r.events, segment, r.session, rfl, rfl,
      head?_of_stops_dispatch machine r.session hstops, hleaves hstops, h⟩

theorem isCoherent_refusal (h : ∀ event ∈ r.events, event.stops = false) (token : Token) :
    IsCoherent machine (r.note (.refusal token r.session) (r.session.refuse token)) :=
  ⟨fun _ hflow => ⟨Flow.status.inj hflow, forall_mem_note h rfl _⟩, nofun⟩

/-- **The flow and the last status agree after every line.** -/
theorem isCoherent_executeLineRecorded (machine : Machine) (line : Text) (s : Session) :
    IsCoherent machine (executeLineRecorded machine line ⟨s, []⟩) := by
  have hnone : ∀ event ∈ ([] : List Event), event.stops = false := by simp
  by_cases hline : line = []
  · subst hline
    exact ⟨fun _ hflow => ⟨Flow.status.inj hflow, hnone⟩, nofun⟩
  · exact executeLineRecorded_induction (P := fun r => ∀ event ∈ r.events, event.stops = false)
      (fun segment _ _ hr => isCoherent_command hr segment)
      (fun token _ hr => isCoherent_refusal hr token) (fun _ hr => isCoherent_idle hr)
      (fun status _ h => (h.goes_on status rfl).2) hline hnone

end

/-! ## Working streams -/

namespace Session

/-- Both streams can be flushed at any time, whatever they still take. -/
structure CanFlush (s : Session) : Prop where
  out : s.out.FlushesAlways true
  err : s.err.FlushesAlways true

/-- Both streams take everything and can be flushed at any time. -/
structure IsWorking (s : Session) : Prop where
  out : s.out.IsWorking
  err : s.err.IsWorking

variable {s : Session}

/-- Where the streams can be flushed at any time, to flush them changes nothing. -/
theorem CanFlush.flush (h : s.CanFlush) : s.flush = (.ok (), s) := by
  have hout : s.out.flush = (.ok (), s.out) := Stream.flush_of_flushesAlways h.out
  have herr : s.err.flush = (.ok (), s.err) := Stream.flush_of_flushesAlways h.err
  rw [flush_of_out (congrArg Prod.fst hout), hout, herr]

theorem CanFlush.handOn (h : s.CanFlush) : s.handOn = (.ok (), s) := by
  rw [Session.handOn, h.flush]
  rfl

theorem CanFlush.conclude (h : s.CanFlush) : s.conclude = (.ok s.lastStatus, s) := by
  rw [Session.conclude, h.handOn]
  rfl

theorem CanFlush.ending? (h : s.CanFlush) (flow : Flow) :
    s.ending? flow = ((flow.leaves? s.lastStatus).map .ok, s) := by
  rw [Session.ending?, h.handOn]

theorem IsWorking.ask (h : s.IsWorking) (prompt : Text) : (s.ask prompt).IsWorking :=
  ⟨h.out.receive _, h.err⟩

theorem IsWorking.canFlush (h : s.IsWorking) : s.CanFlush :=
  ⟨h.out.flushesAlways, h.err.flushesAlways⟩

theorem IsWorking.ending? (h : s.IsWorking) (flow : Flow) :
    s.ending? flow = ((flow.leaves? s.lastStatus).map .ok, s) :=
  h.canFlush.ending? flow

/-- At the end of the input a run ends with the last status. -/
theorem IsWorking.finish (h : s.IsWorking) (isInteractive : Bool) :
    s.finish isInteractive = (.ok s.lastStatus, (s.finish isInteractive).2) := by
  unfold Session.finish
  split
  · have hwrite := Stream.write_of_takesAll h.out.takesAll (.text ['\n'])
    have hworks : IsWorking { s with out := (s.out.write (.text ['\n'])).2 } := ⟨h.out.write _, h.err⟩
    generalize s.out.write (.text ['\n']) = outcome at hwrite hworks
    obtain ⟨result, out⟩ := outcome
    obtain rfl := hwrite
    simp only [hworks.canFlush.conclude]
  · simp only [h.canFlush.conclude]

end Session

/-- Streams that work go on to work. -/
theorem isLineFrame_isWorking (machine : Machine) :
    IsLineFrame machine fun s t => s.IsWorking → t.IsWorking where
  refl _ := id
  trans hst htu := htu ∘ hst
  env _ _ h := ⟨h.out, h.err⟩
  disk _ _ h := ⟨h.out, h.err⟩
  out _ _ h := ⟨h.out.write _, h.err⟩
  err _ _ h := ⟨h.out, h.err.write _⟩
  flush s h := by rwa [h.canFlush.flush]
  adopt _ _ _ _ _ h := ⟨h.out.receive _, h.err.receive _⟩
  aliases _ _ h := ⟨h.out, h.err⟩
  report _ _ h := ⟨h.out, h.err.report _⟩
  lastStatus _ _ h := ⟨h.out, h.err⟩
  advance _ h := ⟨h.out, h.err⟩

theorem isWorking_executeLine (machine : Machine) (line : Text) {s : Session} (h : s.IsWorking) :
    (executeLine machine line s).2.IsWorking :=
  (isLineFrame_isWorking machine).executeLine line s h

/-! ## The input that is left -/

/-- A program is started on the input that is there. -/
theorem exists_process_of_spawn {machine : Machine} {disk : Disk} {env : Environment} {input : Input}
    {path : Bytes} {words : List Text} {done : Completion}
    (h : spawn machine disk env input path words = .ok done) :
    ∃ process : Process, process.input = input ∧ machine process = done := by
  unfold spawn spawnImage at h
  generalize (if words.isEmpty then [path] else words.map Utf8.encode) = arguments at h
  simp only [bind, Except.bind, pure, Except.pure, throw, throwThe, MonadExceptOf.throw] at h
  split at h
  · exact absurd h nofun
  split at h
  · exact absurd h nofun
  split at h
  · exact absurd h nofun
  · exact ⟨_, rfl, Except.ok.inj h⟩

/-- Where no program puts something back into its input, no line does. -/
theorem isLineFrame_size_input {machine : Machine}
    (hinput : ∀ process, (machine process).input.size ≤ process.input.size) :
    IsLineFrame machine fun s t => t.input.size ≤ s.input.size where
  refl _ := Nat.le_refl _
  trans hst htu := Nat.le_trans htu hst
  env _ _ := Nat.le_refl _
  disk _ _ := Nat.le_refl _
  out _ _ := Nat.le_refl _
  err _ _ := Nat.le_refl _
  flush s := by
    obtain ⟨out, err, hflush⟩ := s.exists_flush
    have hinput : s.flush.2.input = s.input := by rw [hflush]
    exact Nat.le_of_eq (congrArg Input.size hinput)
  adopt s path words done hdone := by
    obtain ⟨process, hprocess, rfl⟩ := exists_process_of_spawn hdone
    rw [← hprocess]
    exact hinput process
  aliases _ _ := Nat.le_refl _
  report _ _ := Nat.le_refl _
  lastStatus _ _ := Nat.le_refl _
  advance _ := Nat.le_refl _

/-- What is read block after block is what has been taken from the input. -/
theorem Input.size_fill (isEnough : Bytes → Bool) (before : Bytes) (input : Input) :
    (Input.fill isEnough before input).1.length + (Input.fill isEnough before input).2.size ≤
      before.length + input.size := by
  induction before, input using Input.fill.induct isEnough with
  | case1 before input henough =>
      exact Nat.le_of_eq (by rw [Input.fill, if_pos henough])
  | case2 before input henough hread =>
      have hsize := Input.size_read Input.blockSize input
      rw [Input.fill, if_neg henough, dif_pos hread]
      simp only
      omega
  | case3 before input henough hread ih =>
      have hsize := Input.size_read Input.blockSize input
      rw [Input.fill, if_neg henough, dif_neg hread]
      rw [List.length_append] at ih
      omega

/-! ## Runs -/

/-- What there is when a line is asked for. -/
inductive Answer
  /-- The input has ended. -/
  | nothing
  /-- The input cannot be read, or is no text. -/
  | failure (e : FatalError)
  | line (line : Text)

/-- How lines are found: from what is kept of the input and a session, what there is, what is then kept,
and the session. -/
abbrev Reader (ρ : Type) := ρ → Session → Answer × ρ × Session

/-- The lines of a source, of which those that are left are kept. -/
def LineSource.reader (source : LineSource) : Reader (List Text)
  | [], s => (source.failure.elim .nothing .failure, [], s)
  | line :: rest, s => (.line line, rest, s)

/-- The lines of the standard input. Blocks are read until there is a newline, and what has been read
behind it is kept. -/
def Manner.reader (manner : Manner) : Reader Bytes := fun read s =>
  let (read, input) := Input.fill (·.contains newline) read s.input
  let found := if read.isEmpty then .nothing
    else match manner.line (read.takeWhile (· != newline)) (read.contains newline) with
    | .error e => .failure e
    | .ok line => .line line
  (found, (read.dropWhile (· != newline)).tail, { s with input })

/-- A line that is read is no longer there. -/
theorem Manner.size_reader {manner : Manner} {read kept : Bytes} {s found : Session} {text : Text}
    (h : manner.reader read s = (.line text, kept, found)) :
    kept.length + found.input.size < read.length + s.input.size := by
  have hfill := Input.size_fill (·.contains newline) read s.input
  unfold Manner.reader at h
  generalize Input.fill (·.contains newline) read s.input = fetched at hfill h
  obtain ⟨block, input⟩ := fetched
  simp only [Prod.mk.injEq] at h
  obtain ⟨hanswer, rfl, rfl⟩ := h
  have hne : block ≠ [] := by
    rintro rfl
    simp at hanswer
  have hshorter : (block.dropWhile (· != newline)).tail.length < block.length := by
    have := (block.dropWhile_sublist (· != newline)).length_le
    have := List.length_pos_of_ne_nil hne
    rw [List.length_tail]
    omega
  simp only at hfill
  change (block.dropWhile (· != newline)).tail.length + input.size < read.length + s.input.size
  omega

section

variable {ρ : Type} (machine : Machine) (manner : Manner) (reader : Reader ρ)

/-- Lines are asked for, found and executed, one after the other, and none of them asks to leave. -/
inductive Serves : ρ → Session → ρ → Session → Prop
  | done (kept : ρ) (s : Session) : Serves kept s kept s
  | line {kept kept' kept'' : ρ} {s found t u : Session} {text : Text} {status : Status} :
      reader kept (s.ask manner.prompt) = (.line text, kept', found) →
      executeLine machine text found = (.status status, t) →
      Serves kept' t kept'' u → Serves kept s kept'' u

/-- The next time a line is asked for, the run ends with the outcome: the line that is found asks to
leave, or none is found. -/
inductive Closes (kept : ρ) (s : Session) : Except FatalError Status × Session → Prop
  | exit {kept' : ρ} {found t : Session} {text : Text} {code : Status} :
      reader kept (s.ask manner.prompt) = (.line text, kept', found) →
      executeLine machine text found = (.exit code, t) → Closes kept s (.ok code, t)
  | terminate {kept' : ρ} {found t : Session} {text : Text} :
      reader kept (s.ask manner.prompt) = (.line text, kept', found) →
      executeLine machine text found = (.terminate, t) → Closes kept s (.ok t.lastStatus, t)
  | nothing {kept' : ρ} {found : Session} :
      reader kept (s.ask manner.prompt) = (.nothing, kept', found) →
      Closes kept s (.ok s.lastStatus, (found.finish manner.isInteractive).2)
  | failure {kept' : ρ} {found : Session} {e : FatalError} :
      reader kept (s.ask manner.prompt) = (.failure e, kept', found) → Closes kept s (.error e, found)

/-- The run serves lines until it closes with the outcome. -/
def Concludes (kept : ρ) (s : Session) (outcome : Except FatalError Status × Session) : Prop :=
  ∃ kept' t, Serves machine manner reader kept s kept' t ∧ Closes machine manner reader kept' t outcome

/-- What a run does when it asks for a line, and `next` is what it does behind a line that does not ask
to leave. -/
def serve (next : ρ → Session → Except FatalError Status × Session) (kept : ρ) (s : Session) :
    Except FatalError Status × Session :=
  match reader kept (s.ask manner.prompt) with
  | (.nothing, _, found) => found.finish manner.isInteractive
  | (.failure e, _, found) => (.error e, found)
  | (.line text, kept, found) =>
    let (flow, t) := executeLine machine text found
    match t.ending? flow with
    | (some ending, t) => (ending, t)
    | (none, t) => next kept t

end

section

variable {ρ : Type} {machine : Machine} {manner : Manner} {reader : Reader ρ} {kept kept' : ρ}
  {s found t : Session} {outcome : Except FatalError Status × Session}

theorem Closes.concludes (h : Closes machine manner reader kept s outcome) :
    Concludes machine manner reader kept s outcome :=
  ⟨kept, s, .done kept s, h⟩

/-- A run goes on behind a line that does not ask to leave. -/
theorem Concludes.line {text : Text} {status : Status}
    (hfound : reader kept (s.ask manner.prompt) = (.line text, kept', found))
    (hline : executeLine machine text found = (.status status, t))
    (h : Concludes machine manner reader kept' t outcome) :
    Concludes machine manner reader kept s outcome := by
  obtain ⟨kept'', u, hserves, hcloses⟩ := h
  exact ⟨kept'', u, .line hfound hline hserves, hcloses⟩

/-- **One step of a run.** It concludes if what comes behind a line that does not ask to leave does. -/
theorem concludes_serve {next : ρ → Session → Except FatalError Status × Session} (h : s.IsWorking)
    (hreader : ∀ kept s, ∃ input, (reader kept s).2.2 = { s with input })
    (hnext : ∀ text kept' found status t,
      reader kept (s.ask manner.prompt) = (.line text, kept', found) →
      executeLine machine text found = (.status status, t) → t.IsWorking →
      Concludes machine manner reader kept' t (next kept' t)) :
    Concludes machine manner reader kept s (serve machine manner reader next kept s) := by
  obtain ⟨input, hinput⟩ := hreader kept (s.ask manner.prompt)
  rw [serve]
  generalize hfound : reader kept (s.ask manner.prompt) = result at hinput
  obtain ⟨answer, kept', found⟩ := result
  replace hinput : found = { s.ask manner.prompt with input } := hinput
  have hworks : found.IsWorking := by
    rw [hinput]
    exact ⟨h.out.receive _, h.err⟩
  cases answer with
  | nothing =>
      have hstatus : found.lastStatus = s.lastStatus := by
        rw [hinput]
        rfl
      change Concludes machine manner reader kept s (found.finish manner.isInteractive)
      rw [hworks.finish, hstatus]
      exact (Closes.nothing hfound).concludes
  | failure e => exact (Closes.failure hfound).concludes
  | line text =>
      have hafter := isWorking_executeLine machine text hworks
      have hbehind := hnext text kept' found
      simp only [hafter.ending?]
      generalize hline : executeLine machine text found = result at hafter hbehind
      obtain ⟨flow, t⟩ := result
      cases flow with
      | status status => exact .line hfound hline (hbehind status t hfound rfl hafter)
      | terminate => exact (Closes.terminate hfound hline).concludes
      | exit code => exact (Closes.exit hfound hline).concludes

end

theorem runLines_eq_serve (machine : Machine) (source : LineSource) (lines : List Text) (s : Session) :
    runLines machine source lines s =
      serve machine source.manner source.reader (runLines machine source) lines s := by
  cases lines with
  | nil =>
      rw [runLines, serve, LineSource.reader]
      cases source.failure <;> rfl
  | cons line rest => rfl

theorem runInputFrom_eq_serve (machine : Machine) (manner : Manner) (fuel : Nat) (read : Bytes)
    (s : Session) :
    runInputFrom machine manner (fuel + 1) read s =
      serve machine manner manner.reader (runInputFrom machine manner fuel) read s := by
  simp only [runInputFrom, serve, Manner.reader]
  split
  · rfl
  · cases manner.line _ _ <;> rfl

/-- **A run over a source** concludes. -/
theorem concludes_run (machine : Machine) (source : LineSource) {s : Session} (h : s.IsWorking) :
    Concludes machine source.manner source.reader source.lines s (run machine source s) := by
  have hreader : ∀ lines s, ∃ input, (source.reader lines s).2.2 = { s with input } := by
    intro lines s
    cases lines <;> exact ⟨s.input, rfl⟩
  suffices hlines : ∀ lines s, s.IsWorking →
      Concludes machine source.manner source.reader lines s (runLines machine source lines s) from
    hlines _ s h
  intro lines
  induction lines with
  | nil =>
      intro s hs
      rw [runLines_eq_serve]
      refine concludes_serve hs hreader fun text kept' found status t hfound => ?_
      rw [LineSource.reader] at hfound
      cases hfailure : source.failure <;> simp [hfailure] at hfound
  | cons line rest ih =>
      intro s hs
      rw [runLines_eq_serve]
      refine concludes_serve hs hreader fun text kept' found status t hfound _ ht => ?_
      obtain ⟨rfl, -⟩ := Prod.mk.inj (Prod.mk.inj hfound).2
      exact ih t ht

/-- **A run over the standard input** concludes, if no program puts something back into its input. -/
theorem concludes_runInput {machine : Machine}
    (hinput : ∀ process, (machine process).input.size ≤ process.input.size) (manner : Manner)
    {s : Session} (h : s.IsWorking) :
    Concludes machine manner manner.reader [] s (runInput machine manner s) := by
  have hreader : ∀ read s, ∃ input, (manner.reader read s).2.2 = { s with input } :=
    fun read s => ⟨(Input.fill (·.contains newline) read s.input).2, rfl⟩
  suffices hfuel : ∀ fuel read s, s.IsWorking → read.length + s.input.size < fuel →
      Concludes machine manner manner.reader read s (runInputFrom machine manner fuel read s) from
    hfuel _ [] s h (by simp)
  intro fuel
  induction fuel with
  | zero => intro read s _ hsize; omega
  | succ fuel ih =>
      intro read s hs hsize
      rw [runInputFrom_eq_serve]
      refine concludes_serve hs hreader fun text kept' found status t hfound hline ht => ?_
      refine ih kept' t ht ?_
      have hread := Manner.size_reader hfound
      have hexecuted : t.input.size ≤ found.input.size := by
        simpa only [hline] using (isLineFrame_size_input hinput).executeLine text found
      change kept'.length + found.input.size < read.length + s.input.size at hread
      omega

/-! ## Lines that are not read -/

section

variable {machine : Machine} {source : LineSource}

/-- The lines of a source that have been served are the first ones, and a run behind them goes on as if
it began there, whatever else the source holds. -/
theorem runLines_of_serves {lines rest : List Text} {s t : Session} (hs : s.IsWorking)
    (h : Serves machine source.manner source.reader lines s rest t) :
    t.IsWorking ∧ ∃ served, lines = served ++ rest ∧
      ∀ (other : LineSource) later, other.manner = source.manner →
        runLines machine other (served ++ later) s = runLines machine other later t := by
  induction h with
  | done rest s => exact ⟨hs, [], rfl, fun _ _ _ => rfl⟩
  | @line lines kept rest s found t u text status hfound hline hrest ih =>
      cases lines with
      | nil => cases hfailure : source.failure <;> simp [LineSource.reader, hfailure] at hfound
      | cons first lines =>
          obtain ⟨hfirst, hkept⟩ := Prod.mk.inj hfound
          obtain ⟨rfl, rfl⟩ := Prod.mk.inj hkept
          obtain rfl := Answer.line.inj hfirst
          have ht : t.IsWorking := by
            simpa only [hline] using isWorking_executeLine machine first (hs.ask source.manner.prompt)
          obtain ⟨hu, served, rfl, hserved⟩ := ih ht
          refine ⟨hu, first :: served, rfl, fun other later hmanner => ?_⟩
          rw [List.cons_append, runLines, hmanner, hline, ← hserved other later hmanner]
          simp only [ht.ending?, Flow.leaves?, Option.map_none]

/-- What a run does with a line that asks to leave does not depend on the lines behind it. -/
theorem runLines_of_stops {line : Text} {t : Session} (ht : t.IsWorking) {manner : Manner}
    (h : (executeLine machine line (t.ask manner.prompt)).1.stops) (one other : LineSource)
    (hone : one.manner = manner) (hother : other.manner = manner) (later later' : List Text) :
    runLines machine one (line :: later) t = runLines machine other (line :: later') t := by
  have hworks := isWorking_executeLine machine line (ht.ask manner.prompt)
  rw [runLines, runLines, hone, hother]
  generalize executeLine machine line (t.ask manner.prompt) = outcome at h hworks
  obtain ⟨flow, u⟩ := outcome
  simp only [hworks.ending?]
  cases flow with
  | status status => exact absurd h nofun
  | terminate => rfl
  | exit code => rfl

/-- **A run ends with the first line that asks to leave**: whatever lines stand behind it, and however
the source fails behind them, the outcome is the same. -/
theorem run_of_stops {s t : Session} (hs : s.IsWorking) {line : Text} {later : List Text}
    (hserves : Serves machine source.manner source.reader source.lines s (line :: later) t)
    (hstops : (executeLine machine line (t.ask source.manner.prompt)).1.stops) :
    ∃ served, source.lines = served ++ line :: later ∧ ∀ later' failure,
      run machine ⟨served ++ line :: later', failure, source.manner⟩ s = run machine source s := by
  obtain ⟨ht, served, hlines, hserved⟩ := runLines_of_serves hs hserves
  refine ⟨served, hlines, fun later' failure => ?_⟩
  have hrun : run machine source s = runLines machine source (line :: later) t := by
    rw [run, hlines, hserved source (line :: later) rfl]
  let other : LineSource := ⟨served ++ line :: later', failure, source.manner⟩
  have hother : run machine other s = runLines machine other (line :: later') t :=
    hserved other (line :: later') rfl
  rw [hrun, hother]
  exact runLines_of_stops ht hstops other source rfl rfl later' later

end

/-- **Status and flow agree over lines and runs.** A line that ends with a status has it as the last
status. A line that asks to leave has run the command that asks, which is `exit` and may have come in
with an alias, as its last one, and the last status is the one from before that command.

A run whose streams work serves lines until one asks to leave or none is found. It ends with the status
that `exit` names, or with the last status; the lines behind play no part in it. For the standard input
this holds if no program puts something back into it. -/
theorem status_and_flow_agree (machine : Machine) :
    (∀ line s, plain (executeLineRecorded machine line ⟨s, []⟩) = executeLine machine line s ∧
      IsCoherent machine (executeLineRecorded machine line ⟨s, []⟩)) ∧
    (∀ (source : LineSource) (s : Session), s.IsWorking →
      Concludes machine source.manner source.reader source.lines s (run machine source s) ∧
      ∀ line later t,
        Serves machine source.manner source.reader source.lines s (line :: later) t →
        (executeLine machine line (t.ask source.manner.prompt)).1.stops →
        ∃ served, source.lines = served ++ line :: later ∧ ∀ later' failure,
          run machine ⟨served ++ line :: later', failure, source.manner⟩ s = run machine source s) ∧
    ((∀ process, (machine process).input.size ≤ process.input.size) →
      ∀ (manner : Manner) (s : Session), s.IsWorking →
        Concludes machine manner manner.reader [] s (runInput machine manner s)) := by
  refine ⟨fun line s => ?_, fun source s hs => ?_, fun hinput manner s hs => ?_⟩
  · exact ⟨executeLineRecorded_eq machine line ⟨s, []⟩, isCoherent_executeLineRecorded machine line s⟩
  · refine ⟨concludes_run machine source hs, fun line later t hserves hstops => ?_⟩
    exact run_of_stops hs hserves hstops
  · exact concludes_runInput hinput manner hs

/-- Behind `exit 3` the line `exit 4` is not read. -/
theorem status_and_flow_agree_of_exit :
    let s := Session.new "husk".toList 1 .empty ⟨.empty, .root⟩
    let source : LineSource := ⟨["exit 3".toList, "exit 4".toList], none, .batch⟩
    s.IsWorking ∧ (∀ process, (Machine.idle process).input.size ≤ process.input.size) ∧
      (executeLine Machine.idle "exit 3".toList (s.ask source.manner.prompt)).1.stops ∧
      run Machine.idle source s = (.ok 3, s.advance) ∧
      run Machine.idle ⟨["exit 3".toList], none, .batch⟩ s = run Machine.idle source s ∧
      Concludes Machine.idle .batch Manner.batch.reader [] s (runInput Machine.idle .batch s) := by
  intro s source
  have hworks : s.IsWorking := ⟨Stream.isWorking_new, Stream.isWorking_new⟩
  have hinput : ∀ process, (Machine.idle process).input.size ≤ process.input.size :=
    fun _ => Nat.le_refl _
  have htokens : s.tokensOf "exit 3".toList = ["exit".toList, ['3']] := by
    rw [Session.tokensOf, expand_of_not_mem s.value (by decide)]
    decide
  have hline : executeLine Machine.idle "exit 3".toList s = (.exit 3, s.advance) :=
    executeLine_of_no_connector (r := ⟨s, []⟩) (by decide) (fun word _ => Aliases.get?_empty word)
      htokens (by decide) (by decide)
  have hrun : run Machine.idle source s = (.ok 3, s.advance) := by
    have hask : s.ask source.manner.prompt = s := rfl
    rw [run, runLines, hask, hline]
    rfl
  obtain ⟨-, hsource, hstandard⟩ := status_and_flow_agree Machine.idle
  have hstops : (executeLine Machine.idle "exit 3".toList s).1.stops := by
    rw [hline]
    rfl
  obtain ⟨served, hserved, hequal⟩ := (hsource source s hworks).2 _ _ s (.done _ _) hstops
  obtain rfl : served = [] := by
    simpa [source] using congrArg List.length hserved
  exact ⟨hworks, hinput, hstops, hrun, hequal [] none, hstandard hinput .batch s hworks⟩

end CommandShell
