import CommandShell.Proofs.Line.Writing
import CommandShell.Proofs.Session.Command

/-!
# The numbers of commands

The history of a session holds an entry for each command, for each refusal of a token list and for each
empty line. Each entry begins in the very session that the one before it has left, so nothing that
happens between two entries changes anything: no segment that is skipped or that aliases turn into
nothing, and no line without tokens. Commands and empty lines take one number each, and what is reported
in an entry bears the number that comes next when the entry begins.

## Main definitions
* `Entry`: an entry of the history of a session.
* `Entry.IsSound`: what one entry does to the numbers and to the reports.
* `IsPath`: entries that lead from one session to another.
* `executeLines`, `history`: lines executed in turn, and their entries.
* `isVacant`: a line of spaces and a comment.

## Main results
* `isPath_lineEntries`, `isPath_history`: a line and a session are a path of sound entries.
* `IsPath.toNat_counter`: the number of the next command.
* `IsPath.diagnostics`, `IsPath.pairwise_reported`: the numbers of the reports.
* `counter_counts_commands`: the number of the next command over any lines, and the entries and reports
  that it numbers.
-/

namespace CommandShell

open Recorded

/-- The session that an event leaves. -/
def Event.after : Event → Session
  | command _ _ outcome => outcome.2
  | refusal token before => (before.refuse token).2

/-- An entry of the history of a session. -/
inductive Entry
  | event (e : Event)
  | emptyLine (before : Session)

namespace Entry

/-- The session in which the entry begins. -/
def before : Entry → Session
  | event e => e.before
  | emptyLine before => before

/-- The session that the entry leaves. -/
def after : Entry → Session
  | event e => e.after
  | emptyLine before => before.advance

/-- The entry is a command. -/
def isCommand : Entry → Bool
  | event (.command _ _ _) => true
  | event (.refusal _ _) | emptyLine _ => false

/-- The entry is an empty line. -/
def isEmptyLine : Entry → Bool
  | event _ => false
  | emptyLine _ => true

/-- The entry takes a number. -/
def takesNumber (entry : Entry) : Bool :=
  entry.isCommand || entry.isEmptyLine

/-- The diagnostics that stand behind those that were there when the entry began. -/
def reported (entry : Entry) : List Diagnostic :=
  entry.after.err.diagnostics.drop entry.before.err.diagnostics.length

/-- A command that is an entry has run as it is told. A command and an empty line take a number, and a
refusal takes none. What is reported bears the number with which the entry begins. -/
structure IsSound (machine : Machine) (entry : Entry) : Prop where
  genuine : ∀ segment before outcome, entry = .event (.command segment before outcome) →
    segment ≠ [] ∧ outcome = dispatch machine segment before
  counter : entry.after.counter = entry.before.counter + if entry.takesNumber then 1 else 0
  diagnostics : entry.after.err.diagnostics = entry.before.err.diagnostics ++ entry.reported
  reported : ∀ d ∈ entry.reported,
    d.program = entry.before.program ∧ d.counter = entry.before.counter

end Entry

/-- The entries lead from the one session to the other: each begins where the one before it has
ended. -/
def IsPath : Session → List Entry → Session → Prop
  | s, [], t => s = t
  | s, entry :: rest, t => entry.before = s ∧ IsPath entry.after rest t

/-! ## Entries -/

section

variable {machine : Machine}

/-- What has been reported stands behind what was there. -/
theorem Reports.drop {s t : Session} (h : Reports s t) :
    t.err.diagnostics =
        s.err.diagnostics ++ t.err.diagnostics.drop s.err.diagnostics.length ∧
      ∀ d ∈ t.err.diagnostics.drop s.err.diagnostics.length,
        d.program = s.program ∧ d.counter = s.counter := by
  obtain ⟨reported, heq, hreported⟩ := h.diagnostics
  have hdrop : t.err.diagnostics.drop s.err.diagnostics.length = reported := by
    rw [heq, List.drop_left]
  rw [hdrop]
  exact ⟨heq, hreported⟩

theorem isSound_command (s : Session) {segment : List Token} (hne : segment ≠ []) :
    Entry.IsSound machine (.event (.command segment s (dispatch machine segment s))) := by
  obtain ⟨hdiagnostics, hreported⟩ := (reports_dispatch machine s segment).drop
  have hcounter := counter_dispatch machine s hne
  refine ⟨fun segment' before outcome heq => ?_, hcounter, hdiagnostics, hreported⟩
  obtain ⟨rfl, rfl, rfl⟩ := Event.command.inj (Entry.event.inj heq)
  exact ⟨hne, rfl⟩

theorem isSound_refusal (s : Session) (token : Token) :
    Entry.IsSound machine (.event (.refusal token s)) := by
  obtain ⟨hreports, hcounter⟩ := reports_refuse s token
  obtain ⟨hdiagnostics, hreported⟩ := hreports.drop
  exact ⟨fun _ _ _ h => (nomatch h), hcounter.trans (UInt64.add_zero _).symm, hdiagnostics, hreported⟩

theorem isSound_emptyLine (s : Session) : Entry.IsSound machine (.emptyLine s) := by
  have hreports : Reports s s.advance := .of_eq rfl rfl
  exact ⟨fun _ _ _ h => (nomatch h), rfl, hreports.drop.1, hreports.drop.2⟩

end

/-! ## Paths -/

section

variable {s t u : Session} {entries later : List Entry}

theorem IsPath.append (h : IsPath s entries t) (hlater : IsPath t later u) :
    IsPath s (entries ++ later) u := by
  induction entries generalizing s with
  | nil =>
      obtain rfl := h
      exact hlater
  | cons entry rest ih => exact ⟨h.1, ih h.2⟩

/-- The entries before one of them lead to where it begins. -/
theorem IsPath.take (h : IsPath s entries t) {i : Nat} {entry : Entry} (hi : entries[i]? = some entry) :
    IsPath s (entries.take i) entry.before := by
  induction entries generalizing s i with
  | nil => simp at hi
  | cons first rest ih =>
      cases i with
      | zero =>
          obtain rfl := Option.some.inj hi
          exact h.1.symm
      | succ i => exact ⟨h.1, ih h.2 hi⟩

variable {machine : Machine}

/-- The number after one entry, if it does not run over. -/
theorem Entry.IsSound.toNat_counter {entry : Entry} (h : entry.IsSound machine)
    (hbound : entry.before.counter.toNat + (if entry.takesNumber then 1 else 0) < UInt64.size) :
    entry.after.counter.toNat = entry.before.counter.toNat + if entry.takesNumber then 1 else 0 := by
  have hone : (if entry.takesNumber then (1 : UInt64) else 0).toNat =
      if entry.takesNumber then 1 else 0 := by
    split <;> rfl
  rw [h.counter, UInt64.toNat_add, hone]
  exact Nat.mod_eq_of_lt hbound

/-- **The number of the next command** is greater by the entries that take one, if it does not run
over. -/
theorem IsPath.toNat_counter (h : IsPath s entries t)
    (hsound : ∀ entry ∈ entries, entry.IsSound machine)
    (hbound : s.counter.toNat + entries.countP Entry.takesNumber < UInt64.size) :
    t.counter.toNat = s.counter.toNat + entries.countP Entry.takesNumber := by
  induction entries generalizing s with
  | nil =>
      obtain rfl := h
      rfl
  | cons entry rest ih =>
      obtain ⟨rfl, hrest⟩ := h
      obtain ⟨hentry, hothers⟩ := List.forall_mem_cons.mp hsound
      rw [List.countP_cons] at hbound ⊢
      have hafter := hentry.toNat_counter (by omega)
      rw [ih hrest hothers (by omega)]
      omega

/-- **Numbers do not decrease on the way**: what is reported bears at least the number of the beginning,
and none that is less than that of a report before it. -/
theorem IsPath.pairwise_reported (h : IsPath s entries t)
    (hsound : ∀ entry ∈ entries, entry.IsSound machine)
    (hbound : s.counter.toNat + entries.countP Entry.takesNumber < UInt64.size) :
    (∀ d ∈ entries.flatMap Entry.reported, s.counter ≤ d.counter) ∧
      (entries.flatMap Entry.reported).Pairwise fun d e => d.counter ≤ e.counter := by
  induction entries generalizing s with
  | nil => simp
  | cons entry rest ih =>
      obtain ⟨rfl, hrest⟩ := h
      obtain ⟨hentry, hothers⟩ := List.forall_mem_cons.mp hsound
      rw [List.countP_cons] at hbound
      have hafter := hentry.toNat_counter (by omega)
      have hle : entry.before.counter ≤ entry.after.counter := by
        rw [UInt64.le_iff_toNat_le]
        omega
      obtain ⟨hlater, hpairwise⟩ := ih hrest hothers (by omega)
      have hown : ∀ d ∈ entry.reported, d.counter = entry.before.counter := fun d hd =>
        (hentry.reported d hd).2
      have hbehind : ∀ d ∈ rest.flatMap Entry.reported, entry.before.counter ≤ d.counter := fun d hd =>
        UInt64.le_trans hle (hlater d hd)
      rw [List.flatMap_cons]
      refine ⟨fun d hd => ?_, List.pairwise_append.mpr ⟨?_, hpairwise, fun d hd e he => ?_⟩⟩
      · rcases List.mem_append.mp hd with hd | hd
        · exact UInt64.le_of_eq (hown d hd).symm
        · exact hbehind d hd
      · refine List.pairwise_of_forall_mem_list fun d hd e he => ?_
        rw [hown d hd, hown e he]
        exact UInt64.le_refl _
      · rw [hown d hd]
        exact hbehind e he

/-- **What has been reported on the way** is what the entries have reported. -/
theorem IsPath.diagnostics (h : IsPath s entries t)
    (hsound : ∀ entry ∈ entries, entry.IsSound machine) :
    t.err.diagnostics = s.err.diagnostics ++ entries.flatMap Entry.reported := by
  induction entries generalizing s with
  | nil =>
      obtain rfl := h
      simp
  | cons entry rest ih =>
      obtain ⟨rfl, hrest⟩ := h
      obtain ⟨hentry, hothers⟩ := List.forall_mem_cons.mp hsound
      rw [ih hrest hothers, hentry.diagnostics, List.flatMap_cons, List.append_assoc]

end

/-! ## Lines and sessions -/

/-- The entries of a line. -/
def lineEntries (machine : Machine) (line : Text) (s : Session) : List Entry :=
  if line.isEmpty then [.emptyLine s]
  else (executeLineRecorded machine line ⟨s, []⟩).2.events.map .event

/-- Executes lines in turn, whatever their flow is. -/
def executeLines (machine : Machine) : List Text → Session → Session
  | [], s => s
  | line :: rest, s => executeLines machine rest (executeLine machine line s).2

/-- The entries of lines that are executed in turn. -/
def history (machine : Machine) : List Text → Session → List Entry
  | [], _ => []
  | line :: rest, s => lineEntries machine line s ++ history machine rest (executeLine machine line s).2

section

variable (machine : Machine)

/-- The record so far is a path of sound entries from the session to where it has come. -/
def Recorded.IsPathFrom (s : Session) (r : Recorded) : Prop :=
  IsPath s (r.events.map .event) r.session ∧
    ∀ event ∈ r.events, Entry.IsSound machine (.event event)

variable {machine} in
/-- One more event goes on where the record has come to. -/
theorem Recorded.IsPathFrom.note {s : Session} {r : Recorded} (h : r.IsPathFrom machine s)
    {event : Event} {outcome : Flow × Session} (hsound : Entry.IsSound machine (.event event))
    (hbefore : event.before = r.session) (hafter : event.after = outcome.2) :
    (r.note event outcome).2.IsPathFrom machine s := by
  refine ⟨?_, forall_mem_note h.2 hsound outcome⟩
  rw [events_note, List.map_append]
  exact h.1.append ⟨hbefore, hafter⟩

/-- **The entries of a line are sound, and lead to the session that the line leaves.** -/
theorem isPath_lineEntries (line : Text) (s : Session) :
    IsPath s (lineEntries machine line s) (executeLine machine line s).2 ∧
      ∀ entry ∈ lineEntries machine line s, entry.IsSound machine := by
  by_cases hline : line = []
  · subst hline
    refine ⟨⟨rfl, rfl⟩, fun entry hentry => ?_⟩
    obtain rfl := List.mem_singleton.mp hentry
    exact isSound_emptyLine s
  · have hstart : Recorded.IsPathFrom machine s ⟨s, []⟩ := ⟨rfl, by simp⟩
    rw [lineEntries, if_neg (by simpa using hline), ← executeLineRecorded_eq machine line ⟨s, []⟩]
    obtain ⟨hpath, hsound⟩ := executeLineRecorded_induction (P := Recorded.IsPathFrom machine s)
      (Q := fun outcome => outcome.2.IsPathFrom machine s)
      (fun _ r hne hr => hr.note (isSound_command r.session hne) rfl rfl)
      (fun token r hr => hr.note (isSound_refusal r.session token) rfl rfl)
      (fun _ hr => hr) (fun _ _ hr => hr) hline hstart
    exact ⟨hpath, List.forall_mem_map.mpr hsound⟩

/-- **The history of a session is a path of sound entries.** -/
theorem isPath_history (lines : List Text) (s : Session) :
    IsPath s (history machine lines s) (executeLines machine lines s) ∧
      ∀ entry ∈ history machine lines s, entry.IsSound machine := by
  induction lines generalizing s with
  | nil => exact ⟨rfl, by simp [history]⟩
  | cons line rest ih =>
      obtain ⟨hline, hentries⟩ := isPath_lineEntries machine line s
      obtain ⟨hrest, hhistory⟩ := ih (executeLine machine line s).2
      exact ⟨hline.append hrest, List.forall_mem_append.mpr ⟨hentries, hhistory⟩⟩

/-- The entries for empty lines are as many as the empty lines. -/
theorem countP_isEmptyLine_history (lines : List Text) (s : Session) :
    (history machine lines s).countP Entry.isEmptyLine = lines.count [] := by
  induction lines generalizing s with
  | nil => rfl
  | cons line rest ih =>
      rw [history, List.countP_append, ih, List.count_cons, Nat.add_comm]
      congr 1
      by_cases hline : line = []
      · subst hline
        rfl
      · rw [lineEntries, if_neg (by simpa using hline), if_neg (by simpa using hline), List.countP_map]
        exact List.countP_eq_zero.mpr fun _ _ => nofun

theorem countP_takesNumber (entries : List Entry) :
    entries.countP Entry.takesNumber =
      entries.countP Entry.isCommand + entries.countP Entry.isEmptyLine := by
  induction entries with
  | nil => rfl
  | cons entry rest ih =>
      simp only [List.countP_cons, ih]
      rcases entry with (_ | _) | _ <;>
        simp [Entry.takesNumber, Entry.isCommand, Entry.isEmptyLine] <;> omega

end

/-! ## Lines and segments that are no entries -/

/-- There are only spaces in the line, and perhaps a comment behind them. -/
def isVacant : Text → Bool
  | [] => true
  | c :: rest => c == '#' || (c == ' ' && isVacant rest)

/-- A vacant line has no tokens, whatever the references in its comment stand for. -/
theorem tokensOf_of_isVacant {line : Text} (h : isVacant line) (s : Session) :
    s.tokensOf line = [] := by
  have hsplit : ∀ budget, splitFrom ' ' none []
      (normalizeFrom (.plain true) (expandWith s.value budget line)) = [] := by
    intro budget
    induction line with
    | nil => simp [normalizeFrom, splitFrom]
    | cons c rest ih =>
        rw [isVacant, Bool.or_eq_true, Bool.and_eq_true, beq_iff_eq, beq_iff_eq] at h
        rcases h with rfl | ⟨rfl, hrest⟩
        · rw [expandWith_cons_of_ne _ _ (by decide)]
          simp [normalizeFrom, splitFrom]
        · rw [expandWith_cons_of_ne _ _ (by decide), normalizeFrom_space]
          simpa [splitFrom] using ih hrest
  exact hsplit substitutionLimit

/-- A line without tokens is no entry, and does nothing, unless it is empty. -/
theorem executeLineRecorded_of_eq_nil (machine : Machine) {line : Text} (hline : line ≠ [])
    {r : Recorded} (h : r.session.tokensOf line = []) :
    executeLineRecorded machine line r = (.status r.session.lastStatus, r) := by
  rw [executeLineRecorded, if_neg (by simpa using hline), if_pos (by simpa using h)]

/-- A segment that aliases turn into nothing is no entry, and does nothing. -/
theorem runResolvedRecorded_of_resolve_eq_nil (machine : Machine) {segment : List Token} {r : Recorded}
    (h : r.session.aliases.resolve segment = []) :
    runResolvedRecorded machine segment r = (.status r.session.lastStatus, r) := by
  cases segment with
  | nil => rfl
  | cons token rest =>
      simp only [runResolvedRecorded, h]
      rfl

/-- **The number of the next command counts commands and empty lines.** Let lines be executed from a
session on in which this number is 1, and let it not run over. The history of the lines leads from that
session to the one that they leave, without a gap. When one of its entries begins, the number is greater
by 1 than the commands and the empty lines before it, and so it is in the end. All that has been reported
was reported in an entry, under the number with which that entry began, and the numbers of the reports
never decrease.

A vacant line, any other line without tokens that is not empty, and a segment that aliases turn into
nothing are no entries and change nothing. -/
theorem counter_counts_commands (machine : Machine) (lines : List Text) {start : Session}
    (hstart : start.counter = 1)
    (hbound : 1 + (history machine lines start).countP Entry.isCommand + lines.count [] < UInt64.size) :
    let entries := history machine lines start
    let final := executeLines machine lines start
    IsPath start entries final ∧ (∀ entry ∈ entries, entry.IsSound machine) ∧
    entries.countP Entry.isEmptyLine = lines.count [] ∧
    (∀ (i : Nat) entry, entries[i]? = some entry → entry.before.counter.toNat =
      1 + (entries.take i).countP Entry.isCommand + (entries.take i).countP Entry.isEmptyLine) ∧
    final.counter.toNat = 1 + entries.countP Entry.isCommand + lines.count [] ∧
    final.err.diagnostics = start.err.diagnostics ++ entries.flatMap Entry.reported ∧
    (entries.flatMap Entry.reported).Pairwise (fun d e => d.counter ≤ e.counter) ∧
    (∀ line (s : Session), isVacant line → s.tokensOf line = []) ∧
    (∀ line r, line ≠ [] → r.session.tokensOf line = [] →
      executeLineRecorded machine line r = (.status r.session.lastStatus, r)) ∧
    ∀ segment r, r.session.aliases.resolve segment = [] →
      runResolvedRecorded machine segment r = (.status r.session.lastStatus, r) := by
  intro entries final
  obtain ⟨hpath, hsound⟩ := isPath_history machine lines start
  have hempty : entries.countP Entry.isEmptyLine = lines.count [] :=
    countP_isEmptyLine_history machine lines start
  have hone : start.counter.toNat = 1 := by rw [hstart]; rfl
  have htotal : start.counter.toNat + entries.countP Entry.takesNumber < UInt64.size := by
    rw [countP_takesNumber, hone, hempty, ← Nat.add_assoc]
    exact hbound
  refine ⟨hpath, hsound, hempty, fun i entry hi => ?_, ?_, hpath.diagnostics hsound,
    (hpath.pairwise_reported hsound htotal).2, fun line s h => tokensOf_of_isVacant h s,
    fun line r hline h => executeLineRecorded_of_eq_nil machine hline h,
    fun segment r h => runResolvedRecorded_of_resolve_eq_nil machine h⟩
  · have hle : (entries.take i).countP Entry.takesNumber ≤ entries.countP Entry.takesNumber :=
      (List.take_sublist i entries).countP_le
    have hcount := (hpath.take hi).toNat_counter
      (fun other hother => hsound other (List.mem_of_mem_take hother))
      (Nat.lt_of_le_of_lt (Nat.add_le_add_left hle _) htotal)
    rw [hcount, countP_takesNumber, hone, Nat.add_assoc]
  · rw [hpath.toNat_counter hsound htotal, countP_takesNumber, hone, hempty, Nat.add_assoc]

/-- Of `exit 5`, an empty line and a comment the first two take a number. -/
theorem counter_counts_commands_of_exit :
    let start := Session.new "husk".toList 1 .empty ⟨.empty, .root⟩
    let lines := ["exit 5".toList, [], "  # $?".toList]
    start.counter = 1 ∧
      1 + (history Machine.idle lines start).countP Entry.isCommand + lines.count [] < UInt64.size ∧
      (executeLines Machine.idle lines start).counter.toNat = 3 := by
  intro start lines
  have htokens : start.tokensOf "exit 5".toList = ["exit".toList, ['5']] := by
    rw [Session.tokensOf, expand_of_not_mem start.value (by decide)]
    decide
  set segment : List Token := ["exit".toList, ['5']]
  have hcommand : executeLineRecorded Machine.idle "exit 5".toList ⟨start, []⟩ = _ :=
    executeLineRecorded_of_no_connector (by decide) (fun word _ => Aliases.get?_empty word) htokens
      (by decide) (by decide)
  have hfirst : executeLine Machine.idle "exit 5".toList start = (.exit 5, start.advance) := by
    rw [← executeLineRecorded_eq Machine.idle _ ⟨start, []⟩, hcommand]
    rfl
  have hcomment : lineEntries Machine.idle "  # $?".toList start.advance.advance = [] := by
    rw [lineEntries, if_neg (by decide),
      executeLineRecorded_of_eq_nil Machine.idle (by decide) (tokensOf_of_isVacant (by decide) _)]
    rfl
  have hentries : lineEntries Machine.idle "exit 5".toList start =
      [.event (.command segment start (dispatch Machine.idle segment start))] := by
    rw [lineEntries, if_neg (by decide), hcommand]
    rfl
  have hhistory : history Machine.idle lines start =
      [.event (.command segment start (dispatch Machine.idle segment start)),
        .emptyLine start.advance] := by
    have hrest : history Machine.idle [[], "  # $?".toList] start.advance =
        .emptyLine start.advance ::
          (lineEntries Machine.idle "  # $?".toList start.advance.advance ++ []) := rfl
    rw [history, hentries, hfirst, hrest, hcomment]
    rfl
  have hcount : (history Machine.idle lines start).countP Entry.isCommand = 1 := by
    rw [hhistory]
    rfl
  have hbound : 1 + (history Machine.idle lines start).countP Entry.isCommand + lines.count [] <
      UInt64.size := by
    rw [hcount]
    decide
  refine ⟨rfl, hbound, ?_⟩
  rw [(counter_counts_commands Machine.idle lines rfl hbound).2.2.2.2.1, hcount]
  decide

end CommandShell
