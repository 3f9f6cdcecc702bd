import CommandShell.Proofs.Files.Walk
import CommandShell.Proofs.Session.Alike

/-!
# Lines on a broken diagnostic stream

An error that cannot be reported is an error of the command all the same, with the same status. So the
diagnostic stream may be full, run full on the way, or refuse to be flushed from some moment on: a line
that starts no program and asks for no help does what it does on a stream that works.

There is one exception. Both streams are flushed before a program that has been found is started, and a
flush that is refused is the error of the command, also where the program could not have been started.

## Main definitions
* `Attempts`: what comes of starting the program that a command names.
* `Event.IsQuiet`: a command that starts no program and asks for no help.
* `Event.RefusesAlike`: a command that ends with the same status if a flush is refused before.
* `SpawnError.errorBehind`: the error of a command whose program is refused.
* `SameNumber`: the same number, and streams that are flushed alike if that is asked for.

## Main results
* `commandOutcome_of_refused`: a command whose program is refused.
* `executeLine_with_err`: lines on any diagnostic stream.
-/

namespace CommandShell

/-- The command finds a program, and to start it on an output stream that can be flushed gives the
result. -/
def Attempts (machine : Machine) (name : Text) (operands : List Text) (s : Session)
    (result : Except SpawnError Completion) : Prop :=
  Builtin.ofName? name = none ∧ s.out.flush.1 = .ok () ∧ ∃ path, s.programPath? name = some path ∧
    spawn machine s.disk s.env s.input path (name :: operands) = result

theorem Attempts.unique {machine : Machine} {name : Text} {operands : List Text} {s : Session}
    {result result' : Except SpawnError Completion} (h : Attempts machine name operands s result)
    (h' : Attempts machine name operands s result') : result = result' := by
  obtain ⟨-, -, path, hpath, hspawn⟩ := h
  obtain ⟨-, -, path', hpath', hspawn'⟩ := h'
  obtain rfl : path = path' := Option.some.inj (hpath.symm.trans hpath')
  exact hspawn.symm.trans hspawn'

namespace Event

/-- The command asks for no help, and no program is started, be the diagnostic stream as it may. -/
def IsQuiet (machine : Machine) : Event → Prop
  | command (token :: rest) before _ => token.word ≠ Builtin.helpName ∧
      ∀ done, ¬ Attempts machine token.word (rest.map Token.word) before (.ok done)
  | _ => True

/-- If the program of the command is found and refused, the status is that of any failure. -/
def RefusesAlike (machine : Machine) : Event → Prop
  | command (token :: rest) before _ =>
      ∀ refusal, Attempts machine token.word (rest.map Token.word) before (.error refusal) →
        (refusal.commandError token.word).status = -1
  | _ => True

end Event

/-! ## Commands -/

namespace SpawnError

/-- The error of a command whose program is refused behind a flush of the diagnostic stream: this flush may
have been refused before. -/
def errorBehind (name : Text) (refusal : SpawnError) (err : Stream) : CommandError :=
  if err.flushes 0 then refusal.commandError name else .failed name .flushRefused

theorem status_errorBehind (name : Text) (refusal : SpawnError) (err : Stream) :
    (refusal.errorBehind name err).status =
      if err.flushes 0 then (refusal.commandError name).status else -1 :=
  apply_ite ..

end SpawnError

section

variable {machine : Machine} {name : Text} {operands : List Text} {s : Session}

/-- **A command whose program is refused** ends with the refusal, or with the flush that was refused
before. -/
theorem commandOutcome_of_refused {refusal : SpawnError}
    (h : Attempts machine name operands s (.error refusal)) :
    let e := refusal.errorBehind name s.err
    let flushed := { s with out := s.out.flush.2, err := s.err.flush.2 }
    commandOutcome machine name operands s =
      (.status e.status, { flushed.report e with lastStatus := e.status, counter := s.counter + 1 }) := by
  intro e flushed
  obtain ⟨hnone, hout, path, hpath, hspawn⟩ := h
  have hrun : (runProgram machine name (name :: operands)).run s = (.error e, flushed) := by
    rw [run_runProgram, hpath, Session.flush_of_out hout, Stream.flush]
    by_cases herr : s.err.flushes 0 <;> simp [hspawn, e, SpawnError.errorBehind, herr] <;> rfl
  have hcommand : (runCommand machine name operands).run s = (.error e, flushed) := by
    rw [runCommand, hnone, run_bind, hrun]
  rw [commandOutcome, hcommand]
  rfl

end

/-- The number is the same. With `can?` all flushes of both streams come out so. -/
structure SameNumber (can? : Option Bool) (r r' : Reporting) : Prop where
  counter : r'.counter = r.counter
  flushes : ∀ can ∈ can?, r.err.FlushesAlways can ∧ r'.err.FlushesAlways can

namespace SameNumber

variable {can? : Option Bool} {r r' : Reporting} (h : SameNumber can? r r')

include h

theorem flush : SameNumber can? r.flush r'.flush :=
  ⟨h.counter, fun can hcan => (h.flushes can hcan).imp (·.flush) (·.flush)⟩

theorem report (program : Text) (e e' : CommandError) :
    SameNumber can? (r.report program e) (r'.report program e') :=
  ⟨h.counter, fun can hcan => (h.flushes can hcan).imp (·.report _) (·.report _)⟩

theorem advance : SameNumber can? r.advance r'.advance :=
  ⟨congrArg (· + 1) h.counter, h.flushes⟩

/-- A refusal has the same status on both streams if all flushes come out the same, or if it counts as any
failure does. -/
theorem status_errorBehind {name : Text} {refusal : SpawnError}
    (hstatus : can?.isSome ∨ (refusal.commandError name).status = -1) :
    (refusal.errorBehind name r'.err).status = (refusal.errorBehind name r.err).status := by
  rw [SpawnError.status_errorBehind, SpawnError.status_errorBehind]
  rcases hstatus with hcan | hfailure
  · obtain ⟨can, rfl⟩ := Option.isSome_iff_exists.mp hcan
    obtain ⟨hfirst, hsecond⟩ := h.flushes can rfl
    rw [hfirst 0, hsecond 0]
  · rw [hfailure, ite_self, ite_self]

end SameNumber

theorem isKeptByReports_sameNumber (can? : Option Bool) : IsKeptByReports (SameNumber can?) :=
  ⟨fun h program e => h.report program e e, fun h => h.advance⟩

section

variable {machine : Machine} {s t : Session} {can? : Option Bool} {token : Token} {rest : List Token}
  (halike : Alike (SameNumber can?) s t)

include halike

/-- Commands whose program is refused end alike if the refusal has the same status. -/
theorem dispatch_endsAlike_of_refused {refusal : SpawnError}
    (h : Attempts machine token.word (rest.map Token.word) s (.error refusal))
    (hstatus : can?.isSome ∨ (refusal.commandError token.word).status = -1) :
    EndsAlike (Alike (SameNumber can?)) (dispatch machine (token :: rest) s)
      (dispatch machine (token :: rest) t) := by
  obtain ⟨r, rfl, hr⟩ := halike
  have hsame : (refusal.errorBehind token.word (s.reportingBy r).err).status =
      (refusal.errorBehind token.word s.err).status := hr.status_errorBehind hstatus
  rw [dispatch_cons, dispatch_cons, commandOutcome_of_refused h,
    commandOutcome_of_refused (s := s.reportingBy r) h, hsame]
  exact ⟨rfl, (r.flush.report s.program (refusal.errorBehind token.word r.err)).advance, rfl,
    (hr.flush.report s.program _ _).advance⟩

/-- Commands that ask for no help and do not come to start a program end alike. -/
theorem dispatch_endsAlike_of_not_attempted (hhelp : token.word ≠ Builtin.helpName)
    (hnever : ∀ result, ¬ Attempts machine token.word (rest.map Token.word) s result) :
    EndsAlike (Alike (SameNumber can?)) (dispatch machine (token :: rest) s)
      (dispatch machine (token :: rest) t) := by
  obtain ⟨r, rfl, hr⟩ := id halike
  have hkept := isKeptByReports_sameNumber can?
  refine dispatch_endsAlike hkept (runCommand_endsAlike hkept halike (fun hname => absurd hname hhelp)
    fun hnone => ?_)
  have hrefused : ∀ path, s.programPath? token.word = some path → s.out.flush.1 ≠ .ok () :=
    fun path hpath hout => hnever _ ⟨hnone, hout, path, hpath, rfl⟩
  refine runProgram_endsAlike halike (fun path hpath => ?_) fun path done hpath hflush _ => ?_
  · exact flush_endsAlike hr fun hout => absurd hout (hrefused path hpath)
  · cases hout : s.out.flush.1 with
    | ok done => exact absurd hout (hrefused path hpath)
    | error cause => rw [Session.flush_of_out_error hout] at hflush; cases hflush

end

/-- **A quiet command ends alike on any diagnostic stream**, if all flushes come out the same, or if that
makes no difference. -/
theorem Event.IsQuiet.endsAlike {machine : Machine} {event : Event} (h : event.IsQuiet machine)
    {can? : Option Bool} (hflush : can?.isSome ∨ event.RefusesAlike machine) :
    event.EndsAlike machine (SameNumber can?) := by
  match event with
  | .refusal _ _ => trivial
  | .command [] before _ =>
      rintro t ⟨r, rfl, hr⟩
      exact ⟨rfl, r, rfl, hr⟩
  | .command (token :: rest) before _ =>
      obtain ⟨hhelp, hstarts⟩ := h
      intro t ht
      by_cases hrefused : ∃ refusal,
        Attempts machine token.word (rest.map Token.word) before (.error refusal)
      · obtain ⟨refusal, hrefusal⟩ := hrefused
        exact dispatch_endsAlike_of_refused ht hrefusal (hflush.imp_right (· refusal hrefusal))
      · refine dispatch_endsAlike_of_not_attempted ht hhelp fun result hresult => ?_
        cases result with
        | ok done => exact hstarts done hresult
        | error refusal => exact hrefused ⟨refusal, hresult⟩

/-! ## Lines -/

/-- **Lines on any diagnostic stream.** A line of which no command starts a program or asks for help ends
with the same flow in the same session, but for the diagnostic stream, whatever this stream takes and
whenever it refuses to be flushed. Only if a program is found and refused on an output stream that can be
flushed, and the refusal has a status of its own, flushes make a difference, unless they all come out the
same: the command ends with this status, or with the one of any failure if the diagnostic stream cannot be
flushed at that moment, and changes nothing else but the two streams and the number. -/
theorem executeLine_with_err (machine : Machine) :
    (∀ line s err, let events := (executeLineRecorded machine line ⟨s, []⟩).2.events
      (∀ event ∈ events, event.IsQuiet machine) →
      ((∃ can, s.err.FlushesAlways can ∧ err.FlushesAlways can) ∨
        ∀ event ∈ events, event.RefusesAlike machine) →
      ∃ err', executeLine machine line { s with err } =
        ((executeLine machine line s).1, { (executeLine machine line s).2 with err := err' })) ∧
    ∀ name operands s refusal, Attempts machine name operands s (.error refusal) →
      let status := if s.err.flushes 0 then (refusal.commandError name).status else -1
      ∃ err', commandOutcome machine name operands s =
        (.status status, { s with
          out := s.out.flush.2
          err := err'
          lastStatus := status
          counter := s.counter + 1 }) := by
  constructor
  · intro line s err events hquiet hflush
    have hends : ∀ can? : Option Bool, (can?.isSome ∨ ∀ event ∈ events, event.RefusesAlike machine) →
        (∀ can ∈ can?, s.err.FlushesAlways can ∧ err.FlushesAlways can) →
        EndsAlike (Alike (SameNumber can?)) (executeLine machine line s)
          (executeLine machine line { s with err }) := by
      intro can? halike hcan
      refine executeLine_endsAlike (isKeptByReports_sameNumber can?)
        ⟨⟨err, s.counter⟩, rfl, rfl, hcan⟩ fun event hevent => ?_
      exact (hquiet event hevent).endsAlike (halike.imp_right (· event hevent))
    obtain ⟨can?, hflow, r, hsession, hr⟩ : ∃ can?, EndsAlike (Alike (SameNumber can?))
        (executeLine machine line s) (executeLine machine line { s with err }) := by
      rcases hflush with ⟨can, hcan⟩ | hrefuses
      · exact ⟨some can, hends (some can) (.inl rfl) (by rintro _ ⟨⟩; exact hcan)⟩
      · exact ⟨none, hends none (.inr hrefuses) nofun⟩
    refine ⟨r.err, Prod.ext hflow ?_⟩
    rw [hsession, Session.reportingBy, hr.counter]
    rfl
  · intro name operands s refusal h status
    rw [commandOutcome_of_refused h, SpawnError.status_errorBehind]
    exact ⟨_, rfl⟩

/-- The root directory can be found and not be started. -/
theorem attempts_slash (err : Stream) :
    Attempts Machine.idle ['/'] [] { Session.new "husk".toList 1 .empty ⟨.empty, .root⟩ with err }
      (.error (.permissionDenied (Utf8.encode ['/']))) := by
  refine ⟨by decide, rfl, Utf8.encode ['/'], ?_, ?_⟩
  · have hthere : (Disk.mk .empty .root).contains (Utf8.encode ['/']) = true := by
      rw [Disk.contains, Disk.locate_slash]
      rfl
    show findProgram (Disk.mk .empty .root).contains (Utf8.encode ['/']) _ _ = _
    rw [findProgram, if_neg (by decide), if_pos (by decide), if_pos hthere]
  · have hfind : ∀ searched arguments,
        findImage ⟨.empty, .root⟩ searched (Utf8.encode ['/']) arguments =
          .error (.system .permissionDenied) := by
      intro searched arguments
      rw [findImage, if_pos (by decide), Disk.image, Disk.locate_slash]
      rfl
    have hhanded : Environment.empty.handed = [] := by simp [Environment.handed, Environment.empty]
    show spawn Machine.idle ⟨.empty, .root⟩ .empty .empty (Utf8.encode ['/']) [['/']] = _
    simp only [spawn, spawnImage, hfind, hhanded]
    rfl

/-- On a stream that takes eight bytes and can be flushed once, a definition behind a name that is not
there, and a directory in place of a program. -/
theorem executeLine_with_err_of_missing_alias :
    let s := Session.new "husk".toList 1 .empty ⟨.empty, .root⟩
    let line := "alias x y=1".toList
    let err : Stream := ⟨[], fun log _ => if log = [] then 8 else 0, fun later => later = 0⟩
    let events := (executeLineRecorded Machine.idle line ⟨s, []⟩).2.events
    (∀ event ∈ events, event.IsQuiet Machine.idle) ∧ (∀ event ∈ events, event.RefusesAlike Machine.idle) ∧
      (∃ err', executeLine Machine.idle line { s with err } =
        ((executeLine Machine.idle line s).1,
          { (executeLine Machine.idle line s).2 with err := err' })) ∧
      Attempts Machine.idle ['/'] [] { s with err } (.error (.permissionDenied (Utf8.encode ['/']))) ∧
      ∃ err', commandOutcome Machine.idle ['/'] [] { s with err } =
        (.status 126, { s with err := err', lastStatus := 126, counter := 2 }) := by
  intro s line err events
  have hline : s.tokensOf line = [Aliases.definer, ['x'], "y=1".toList] := by
    rw [Session.tokensOf, expand_of_not_mem s.value (by decide)]
    decide
  have hevents : ∀ event ∈ events, ∃ outcome,
      event = .command [Aliases.definer, ['x'], "y=1".toList] s outcome := by
    intro event hevent
    have hrecorded : executeLineRecorded Machine.idle line ⟨s, []⟩ = _ :=
      executeLineRecorded_of_no_connector (by decide) (fun word _ => Aliases.get?_empty word) hline
        (by decide) (by decide)
    rw [show events = _ from congrArg (fun outcome => outcome.2.events) hrecorded] at hevent
    exact ⟨_, List.mem_singleton.mp hevent⟩
  have hbuiltin : Builtin.ofName? (Token.word Aliases.definer) ≠ none := by decide
  have hquiet : ∀ event ∈ events, event.IsQuiet Machine.idle := by
    intro event hevent
    obtain ⟨outcome, rfl⟩ := hevents event hevent
    exact ⟨by decide, fun done hstarts => hbuiltin hstarts.1⟩
  have hrefuses : ∀ event ∈ events, event.RefusesAlike Machine.idle := by
    intro event hevent
    obtain ⟨outcome, rfl⟩ := hevents event hevent
    exact fun refusal hrefused => absurd hrefused.1 hbuiltin
  obtain ⟨hlines, hcommands⟩ := executeLine_with_err Machine.idle
  have hslash := attempts_slash err
  exact ⟨hquiet, hrefuses, hlines line s err hquiet (.inr hrefuses), hslash,
    hcommands ['/'] [] _ _ hslash⟩

/-- The root directory cannot be started. So neither of two lines that name it starts a program, and where
the diagnostic stream cannot be flushed, the line ends with another status. -/
theorem executeLine_slash_depends_on_err :
    let s := Session.new "husk".toList 1 .empty ⟨.empty, .root⟩
    let line := ['/']
    let broken := { s with err := { Stream.new with flushes := fun _ => false } }
    (∀ t ∈ [s, broken], ∀ event ∈ (executeLineRecorded Machine.idle line ⟨t, []⟩).2.events,
        event.IsQuiet Machine.idle) ∧
      (executeLine Machine.idle line s).1 = .status 126 ∧
      (executeLine Machine.idle line broken).1 = .status (-1) := by
  intro s line broken
  have hline : s.tokensOf line = [['/']] := by
    rw [Session.tokensOf, expand_of_not_mem s.value (by decide)]
    decide
  have hrecord : ∀ err, let t := { s with err }
      executeLineRecorded Machine.idle line ⟨t, []⟩ =
        Recorded.note ⟨t, []⟩ (.command [['/']] t (dispatch Machine.idle [['/']] t))
          (dispatch Machine.idle [['/']] t) :=
    fun err => executeLineRecorded_of_no_connector (by decide) (fun word _ => Aliases.get?_empty word)
      hline (by decide) (by decide)
  have hquiet : ∀ err, ∀ event ∈ (executeLineRecorded Machine.idle line ⟨{ s with err }, []⟩).2.events,
      event.IsQuiet Machine.idle := by
    intro err event hevent
    rw [hrecord err] at hevent
    obtain rfl := List.mem_singleton.mp hevent
    refine ⟨by decide, fun done hstarts => ?_⟩
    cases hstarts.unique (attempts_slash err)
  have hflow : ∀ err, (executeLine Machine.idle line { s with err }).1 =
      .status (if err.flushes 0 then 126 else -1) := by
    intro err
    have hdispatch : dispatch Machine.idle [['/']] { s with err } = _ :=
      commandOutcome_of_refused (attempts_slash err)
    rw [← executeLineRecorded_eq Machine.idle line ⟨{ s with err }, []⟩, hrecord err,
      Recorded.plain_note, hdispatch, SpawnError.status_errorBehind]
    rfl
  refine ⟨?_, hflow .new, hflow { Stream.new with flushes := fun _ => false }⟩
  rintro t ht
  rcases List.mem_cons.mp ht with rfl | ht
  · exact hquiet .new
  · obtain rfl := List.mem_singleton.mp ht
    exact hquiet _

end CommandShell
