import CommandShell.Proofs.Session.Leaving
import CommandShell.Proofs.Session.Listing
import Mathlib.Data.List.TakeWhile

/-!
# Operands that define and show aliases

The operands of the command for aliases are taken from the left to the right. Each is taken with the
aliases that those before it have left: one with a `=` defines a name, any other is a name to be shown, or
to be reported as missing. Nothing that comes of an operand keeps the others from being taken, except that
its line cannot be written. Then the definitions before it stand, and no operand behind it is taken.

## Main definitions
* `Tally`, `Tally.take`, `tally`: what the operands come to.
* `Session.taken`: the session after them.
* `FailsAt`: the first line that cannot be written.

## Main results
* `takeOperand_of_mem`, `takeOperand_of_get?`, `takeOperand_of_none`: the ways to take one operand.
* `run_foldlM_takeOperand`, `run_foldlM_takeOperand_of_failsAt`: operands one after the other.
* `defineAliases_folds_operands`: the command, with streams that work and with streams that do not.
-/

namespace CommandShell

open Builtin

/-! ## The fold -/

/-- What operands have come to. -/
structure Tally where
  store : Aliases
  /-- The names and values that are shown. -/
  shown : List (Text × Text)
  /-- The names that are not there. -/
  missing : List Text

namespace Tally

/-- One more operand is taken. -/
def take (tally : Tally) (operand : Text) : Tally :=
  if '=' ∈ operand then
    let name := operand.takeWhile (· != '=')
    let value := (operand.dropWhile (· != '=')).tail
    { tally with store := tally.store.add name (stripQuotes value) }
  else
    match tally.store.get? operand with
    | some value => { tally with shown := tally.shown ++ [(operand, value)] }
    | none => { tally with missing := tally.missing ++ [operand] }

/-- What is written to the output stream. -/
def printed (tally : Tally) : List Chunk :=
  tally.shown.flatMap fun entry => aliasLine entry.1 entry.2

/-- The status, which a name that is missing makes 1 for good. -/
def status (tally : Tally) : Status :=
  if tally.missing = [] then 0 else 1

end Tally

/-- What operands come to, taken from the left to the right. -/
def tally (store : Aliases) (operands : List Text) : Tally :=
  operands.foldl Tally.take ⟨store, [], []⟩

/-- The session in which the operands have come to this. -/
def Session.taken (s : Session) (tally : Tally) : Session :=
  { s with
    aliases := tally.store
    out := (s.out.writeAll tally.printed).2
    err := tally.missing.foldl
      (fun err name => err.report (s.diagnostic (.aliasNotFound name))) s.err }

/-- The lines of the operands before this one can be written, and the line that shows this one cannot. -/
structure FailsAt (s : Session) (before : List Text) (operand : Text) (cause : Failure) (out : Stream) :
    Prop where
  earlier : (s.out.writeAll (tally s.aliases before).printed).1 = .ok ()
  equals_not_mem : '=' ∉ operand
  refused : ∃ value, (tally s.aliases before).store.get? operand = some value ∧
    (s.taken (tally s.aliases before)).out.writeAll (aliasLine operand value) = (.error cause, out)

theorem tally_concat (store : Aliases) (before : List Text) (operand : Text) :
    tally store (before ++ [operand]) = (tally store before).take operand := by
  rw [tally, List.foldl_append]
  rfl

/-! ## One operand -/

theorem dropWhile_eq_nil_iff_equals {operand : Text} :
    operand.dropWhile (· != '=') = [] ↔ '=' ∉ operand := by
  rw [List.dropWhile_eq_nil_iff]
  constructor
  · intro h hmem
    simpa using h '=' hmem
  · intro h c hc
    exact bne_iff_ne.mpr fun heq => h (heq ▸ hc)

/-- An operand with a `=` defines what stands before the first one as what stands behind it. -/
theorem definition?_of_mem {operand : Text} (h : '=' ∈ operand) :
    definition? operand =
      some (operand.takeWhile (· != '='), (operand.dropWhile (· != '=')).tail) := by
  rw [definition?]
  split
  · rename_i hnil
    exact absurd h (dropWhile_eq_nil_iff_equals.mp hnil)
  · rename_i hcons
    rw [hcons, List.tail_cons]

theorem definition?_of_not_mem {operand : Text} (h : '=' ∉ operand) : definition? operand = none := by
  rw [definition?, dropWhile_eq_nil_iff_equals.mpr h]

section

variable {tally : Tally} {s : Session} {operand value : Text}

theorem Tally.take_of_mem (h : '=' ∈ operand) :
    tally.take operand = { tally with
      store := tally.store.add (operand.takeWhile (· != '='))
        (stripQuotes (operand.dropWhile (· != '=')).tail) } := by
  rw [take, if_pos h]

theorem Tally.take_of_get? (h : '=' ∉ operand) (hvalue : tally.store.get? operand = some value) :
    tally.take operand = { tally with shown := tally.shown ++ [(operand, value)] } := by
  rw [take, if_neg h, hvalue]

theorem Tally.take_of_none (h : '=' ∉ operand) (hvalue : tally.store.get? operand = none) :
    tally.take operand = { tally with missing := tally.missing ++ [operand] } := by
  rw [take, if_neg h, hvalue]

/-- A line more is written if the operand is a name that is there. -/
theorem Tally.printed_take_of_get? (h : '=' ∉ operand) (hvalue : tally.store.get? operand = some value) :
    (tally.take operand).printed = tally.printed ++ aliasLine operand value := by
  simp [take_of_get? h hvalue, printed]

/-- A definition changes the aliases alone. -/
theorem takeOperand_of_mem (h : '=' ∈ operand) :
    (takeOperand tally.status operand).run (s.taken tally) =
      (.ok (tally.take operand).status, s.taken (tally.take operand)) := by
  rw [takeOperand, definition?_of_mem h, Tally.take_of_mem h]
  rfl

/-- A name that is not there is reported, and makes the status 1. -/
theorem takeOperand_of_none (h : '=' ∉ operand) (hvalue : tally.store.get? operand = none) :
    (takeOperand tally.status operand).run (s.taken tally) =
      (.ok (tally.take operand).status, s.taken (tally.take operand)) := by
  have hstatus : (tally.take operand).status = 1 := by
    rw [Tally.take_of_none h hvalue]
    simp [Tally.status]
  have hreport : s.taken (tally.take operand) = (s.taken tally).report (.aliasNotFound operand) := by
    rw [Tally.take_of_none h hvalue, Session.taken, List.foldl_append]
    rfl
  have hnone : (s.taken tally).aliases.get? operand = none := hvalue
  rw [takeOperand, definition?_of_not_mem h, hstatus, hreport]
  simp only [run_bind, run_get, hnone]
  rfl

/-- A name that is there is shown. -/
theorem takeOperand_of_get? (h : '=' ∉ operand) (hvalue : tally.store.get? operand = some value)
    {result : Except Failure Unit} {out : Stream}
    (hwrite : (s.taken tally).out.writeAll (aliasLine operand value) = (result, out)) :
    (takeOperand tally.status operand).run (s.taken tally) =
      ((result.mapError (.failed definitionsName)).map fun _ => tally.status,
        { s.taken tally with out }) := by
  have hget : (s.taken tally).aliases.get? operand = some value := hvalue
  rw [takeOperand, definition?_of_not_mem h]
  simp only [run_bind, run_get, hget, showAlias, run_writeOut, hwrite]
  cases result <;> rfl

/-- To take one more operand may write one line more. -/
theorem Tally.printed_take_cases (tally : Tally) (operand : Text) :
    (tally.take operand).printed = tally.printed ∨
      '=' ∉ operand ∧ ∃ value, tally.store.get? operand = some value ∧
        (tally.take operand).printed = tally.printed ++ aliasLine operand value := by
  by_cases h : '=' ∈ operand
  · exact .inl (by rw [take_of_mem h]; rfl)
  cases hvalue : tally.store.get? operand with
  | none => exact .inl (by rw [take_of_none h hvalue]; rfl)
  | some value => exact .inr ⟨h, value, rfl, printed_take_of_get? h hvalue⟩

/-- Where the lines can be written with one more operand, they could be without it. -/
theorem writeAll_printed_of_take {stream : Stream}
    (h : (stream.writeAll (tally.take operand).printed).1 = .ok ()) :
    (stream.writeAll tally.printed).1 = .ok () := by
  obtain hsame | ⟨-, value, -, hprinted⟩ := tally.printed_take_cases operand
  · rwa [hsame] at h
  · rw [hprinted] at h
    exact Stream.writeAll_of_append h

/-- **One operand** of which the line can be written, if there is one. -/
theorem takeOperand_of_prints (h : (s.out.writeAll (tally.take operand).printed).1 = .ok ()) :
    (takeOperand tally.status operand).run (s.taken tally) =
      (.ok (tally.take operand).status, s.taken (tally.take operand)) := by
  by_cases hmem : '=' ∈ operand
  · exact takeOperand_of_mem hmem
  cases hvalue : tally.store.get? operand with
  | none => exact takeOperand_of_none hmem hvalue
  | some value =>
      have hwhole : s.out.writeAll (tally.take operand).printed =
          (s.taken tally).out.writeAll (aliasLine operand value) := by
        rw [Tally.printed_take_of_get? hmem hvalue]
        exact Stream.writeAll_append_of_ok (writeAll_printed_of_take h) _
      have hwrite : (s.taken tally).out.writeAll (aliasLine operand value) =
          (.ok (), (s.taken (tally.take operand)).out) := by
        rw [← hwhole]
        exact Prod.ext h rfl
      rw [takeOperand_of_get? hmem hvalue hwrite, Tally.take_of_get? hmem hvalue]
      rfl

end

/-! ## All operands -/

section

variable {s : Session} {before after : List Text} {operand : Text}

/-- **The operands one after the other**, as long as lines can be written. -/
theorem run_foldlM_takeOperand
    (h : (s.out.writeAll (tally s.aliases before).printed).1 = .ok ()) :
    (before.foldlM takeOperand 0).run s =
      (.ok (tally s.aliases before).status, s.taken (tally s.aliases before)) := by
  induction before using List.reverseRecOn with
  | nil => rfl
  | append_singleton before operand ih =>
      rw [tally_concat] at h ⊢
      rw [List.foldlM_append, run_bind_of_ok (ih (writeAll_printed_of_take h)), List.foldlM_cons,
        run_bind_of_ok (takeOperand_of_prints h)]
      rfl

/-- The first line that cannot be written is the end of it. -/
theorem run_foldlM_takeOperand_of_failsAt {cause : Failure} {out : Stream}
    (h : FailsAt s before operand cause out) :
    ((before ++ operand :: after).foldlM takeOperand 0).run s =
      (.error (.failed definitionsName cause), { s.taken (tally s.aliases before) with out }) := by
  obtain ⟨value, hvalue, hwrite⟩ := h.refused
  rw [List.foldlM_append, run_bind_of_ok (run_foldlM_takeOperand h.earlier), List.foldlM_cons, run_bind,
    takeOperand_of_get? h.equals_not_mem hvalue hwrite]
  rfl

/-- Either all lines can be written, or there is a first one that cannot. -/
theorem prints_or_failsAt (s : Session) (operands : List Text) :
    (s.out.writeAll (tally s.aliases operands).printed).1 = .ok () ∨
      ∃ before operand after cause out, operands = before ++ operand :: after ∧
        FailsAt s before operand cause out := by
  induction operands using List.reverseRecOn with
  | nil => exact .inl rfl
  | append_singleton operands last ih =>
      rcases ih with hearlier | ⟨before, operand, after, cause, out, rfl, hfails⟩
      · rw [tally_concat]
        obtain hsame | ⟨hmem, value, hvalue, hprinted⟩ :=
          (tally s.aliases operands).printed_take_cases last
        · exact .inl (by rwa [hsame])
        · rw [hprinted, Stream.writeAll_append_of_ok hearlier]
          cases hwrite : ((s.out.writeAll (tally s.aliases operands).printed).2.writeAll
              (aliasLine last value)).1 with
          | ok done => exact .inl rfl
          | error cause =>
              exact .inr ⟨operands, last, [], cause, _, rfl, hearlier, hmem, value, hvalue,
                Prod.ext hwrite rfl⟩
      · exact .inr ⟨before, operand, after ++ [last], cause, out, by simp, hfails⟩

end

/-! ## The command -/

/-- What is reported of names that are missing stands behind what was written before. -/
theorem contents_err_taken {s : Session} (h : s.err.TakesAll) (tally : Tally) :
    (s.taken tally).err.contents = s.err.contents ++
      tally.missing.flatMap fun name => Utf8.encode (s.diagnostic (.aliasNotFound name)).render :=
  Stream.contents_foldl_report h _ _

/-- Lines that show aliases are written, behind what was written before. -/
theorem contents_out_taken {s : Session} (h : s.out.TakesAll) (tally : Tally) :
    (s.out.writeAll tally.printed).1 = .ok () ∧
    (s.taken tally).out.contents = s.out.contents ++
      Utf8.encodeLines (tally.shown.map fun entry => definitionText entry.1 entry.2) := by
  have hwrite := Stream.writeAll_of_takesAll h tally.printed
  refine ⟨hwrite, ?_⟩
  rw [← contents_aliasLines]
  exact Stream.contents_writeAll_of_ok hwrite

/-- **The operands are a fold from the left to the right.** Each is taken with the aliases as those before
it have left them. If all lines can be written, as they can with streams that work, the command ends with
the aliases, the lines and the reports that the operands have come to, and its status is 1 if a name was
missing. If the line of an operand is the first that cannot be written, the command fails with what those
before it have come to, and with nothing else but what the stream took of the line. One of the two is the
case. -/
theorem defineAliases_folds_operands {operands : List Text} (hne : operands ≠ []) (s : Session) :
    let all := tally s.aliases operands
    let outcome := (defineAliases operands).run s
    let done := (.ok (.status (if all.missing = [] then 0 else 1)), s.taken all)
    ((s.out.writeAll all.printed).1 = .ok () → outcome = done) ∧
    (∀ before operand after cause out, operands = before ++ operand :: after →
      FailsAt s before operand cause out →
      outcome = (.error (.failed definitionsName cause),
        { s.taken (tally s.aliases before) with out })) ∧
    ((s.out.writeAll all.printed).1 = .ok () ∨
      ∃ before operand after cause out, operands = before ++ operand :: after ∧
        FailsAt s before operand cause out) ∧
    (s.IsWorking → outcome = done ∧
      (s.taken all).out.contents = s.out.contents ++
        Utf8.encodeLines (all.shown.map fun entry => definitionText entry.1 entry.2) ∧
      (s.taken all).err.contents = s.err.contents ++
        all.missing.flatMap fun name => Utf8.encode (s.diagnostic (.aliasNotFound name)).render) := by
  intro all outcome done
  have hrun : outcome = (operands.foldlM takeOperand 0 >>= fun status => pure (.status status)).run s := by
    have hnil : ¬ operands.isEmpty := by simpa using hne
    show (defineAliases operands).run s = _
    rw [defineAliases, if_neg hnil]
  have hdone : (s.out.writeAll all.printed).1 = .ok () → outcome = done := fun h => by
    rw [hrun, run_bind_of_ok (run_foldlM_takeOperand h)]
    rfl
  refine ⟨hdone, ?_, prints_or_failsAt s operands, fun hworks => ?_⟩
  · rintro before operand after cause out rfl hfails
    rw [hrun, run_bind, run_foldlM_takeOperand_of_failsAt hfails]
  · obtain ⟨hwrite, hout⟩ := contents_out_taken hworks.out.takesAll all
    exact ⟨hdone hwrite, hout, contents_err_taken hworks.err.takesAll all⟩

/-- A name that is not there, a definition, and the name that it defines. On a stream that is full the name
cannot be shown, and is defined all the same. -/
theorem defineAliases_folds_operands_of_lookup :
    let s := Session.new "husk".toList 1 .empty ⟨.empty, .root⟩
    let full := { s with out := ⟨[], fun _ _ => 0, fun _ => true⟩ }
    let refused := (full.out.write (.text ['a'])).2
    let before := [['x'], "a='b'".toList]
    let operands := before ++ [['a']]
    let store := Aliases.empty.add ['a'] ['b']
    let all : Tally := ⟨store, [(['a'], ['b'])], [['x']]⟩
    operands ≠ [] ∧ tally s.aliases operands = all ∧ s.IsWorking ∧
      (s.out.writeAll all.printed).1 = .ok () ∧
      (defineAliases operands).run s = (.ok (.status 1), s.taken all) ∧
      FailsAt full before ['a'] .full refused ∧
      (defineAliases operands).run full =
        (.error (.failed definitionsName .full),
          { full.taken ⟨store, [], [['x']]⟩ with out := refused }) := by
  intro s full refused before operands store all
  have hbefore : tally .empty before = ⟨store, [], [['x']]⟩ := by
    have hmissing : Tally.take ⟨.empty, [], []⟩ ['x'] = ⟨.empty, [], [['x']]⟩ :=
      Tally.take_of_none (by decide) (Aliases.get?_empty _)
    show (Tally.take ⟨.empty, [], []⟩ ['x']).take "a='b'".toList = _
    rw [hmissing, Tally.take_of_mem (by decide)]
    rfl
  have hvalue : store.get? ['a'] = some ['b'] := by
    rw [Aliases.get?_add_empty, if_pos rfl]
  have hall : tally .empty operands = all := by
    rw [tally_concat, hbefore, Tally.take_of_get? (by decide) hvalue]
    rfl
  have hne : operands ≠ [] := by simp [operands]
  have hworks : s.IsWorking := ⟨Stream.isWorking_new, Stream.isWorking_new⟩
  have hfails : FailsAt full before ['a'] .full refused := by
    refine ⟨?_, by decide, ['b'], ?_, ?_⟩ <;> rw [show full.aliases = .empty from rfl, hbefore]
    · rfl
    · exact hvalue
    · rfl
  obtain ⟨hprints, -, -, hworking⟩ := defineAliases_folds_operands hne s
  obtain ⟨-, hfailing, -, -⟩ := defineAliases_folds_operands hne full
  have hfailed := hfailing before ['a'] [] .full refused rfl hfails
  rw [show s.aliases = .empty from rfl, hall] at hworking
  rw [show full.aliases = .empty from rfl, hbefore] at hfailed
  exact ⟨hne, hall, hworks, rfl, (hworking hworks).1, hfails, hfailed⟩

end CommandShell
