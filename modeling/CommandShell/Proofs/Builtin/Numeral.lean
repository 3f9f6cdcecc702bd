import CommandShell.Builtin.Leave
import CommandShell.Proofs.Session.Action
import Mathlib.Data.List.Induction
import Mathlib.Data.Nat.Digits.Defs
import Mathlib.Logic.Relation

/-!
# The number to leave with

The operand is read digit by digit into a word, which is refused as soon as it passes the bound. A number
only grows with the digits behind it, so an operand is refused if the number that it spells is too large,
and only then. Where another digit is read, the word has not passed the bound, so that ten times as much
and one digit more still fits in it, however many digits there are.

## Main definitions
* `decimal`, `Spells`: the number that an operand spells.
* `Reading`, `Reading.Step`, `Reading.Reaches`: where the reading of digits stands, and how it goes on.

## Main results
* `toNat_nextValue`: no digit overflows the word.
* `Reading.IsExact.step`, `Reading.Reaches.isExact`: the word holds the number that has been read.
* `readStatus_eq_some_iff_reaches`: the steps are those of the reader.
* `readStatus_eq_some_iff`: what is read.
* `leave_reads_numeral`: the command.
-/

namespace CommandShell.Builtin

/-! ## Numbers -/

/-- The number that a digit stands for. -/
def digitValue (c : Char) : Nat :=
  c.toNat - '0'.toNat

/-- The number that digits spell: each counts ten times as much as the one behind it. -/
def decimal (digits : Text) : Nat :=
  Nat.ofDigits 10 (digits.reverse.map digitValue)

/-- The operand spells a number: at least one digit, behind at most one `+`. -/
def Spells (operand : Text) (n : Nat) : Prop :=
  ∃ digits, (operand = digits ∨ operand = '+' :: digits) ∧ digits ≠ [] ∧
    (∀ c ∈ digits, c.isDigit) ∧ decimal digits = n

@[simp] theorem decimal_nil : decimal [] = 0 := rfl

/-- Each digit more makes ten times as much. -/
@[simp] theorem decimal_concat (digits : Text) (c : Char) :
    decimal (digits ++ [c]) = decimal digits * 10 + digitValue c := by
  simp [decimal, Nat.ofDigits_cons, Nat.mul_comm, Nat.add_comm]

/-- Digits behind a number do not make it smaller. -/
theorem decimal_le_decimal_append (digits later : Text) :
    decimal digits ≤ decimal (digits ++ later) := by
  induction later using List.reverseRecOn with
  | nil => rw [List.append_nil]
  | append_singleton later c ih =>
      rw [← List.append_assoc, decimal_concat]
      omega

theorem digitValue_lt {c : Char} (h : c.isDigit) : digitValue c < 10 := by
  have hrange : 48 ≤ c.val ∧ c.val ≤ 57 := by simpa [Char.isDigit] using h
  have hhigh : c.toNat ≤ 57 := UInt32.le_iff_toNat_le.mp hrange.2
  have hzero : '0'.toNat = 48 := rfl
  rw [digitValue, hzero]
  omega

/-! ## One digit -/

/-- The word behind one more digit. -/
def nextValue (value : UInt64) (c : Char) : UInt64 :=
  value * 10 + (c.toNat - '0'.toNat).toUInt64

theorem readStatus_cons (value : UInt64) (c : Char) (rest : Text) :
    readStatus value (c :: rest) =
      if c.isDigit then
        if nextValue value c > statusBound then none else readStatus (nextValue value c) rest
      else none := rfl

theorem toNat_statusBound : statusBound.toNat = 2147483647 := rfl

/-- **No digit overflows the word**, as long as the word has not passed the bound. -/
theorem toNat_nextValue {value : UInt64} {c : Char} (hvalue : value.toNat ≤ 2147483647)
    (hc : c.isDigit) :
    value.toNat * 10 + digitValue c < UInt64.size ∧
      (nextValue value c).toNat = value.toNat * 10 + digitValue c := by
  have hdigit := digitValue_lt hc
  have hword : ((c.toNat - '0'.toNat).toUInt64).toNat = digitValue c := by
    rw [Nat.toUInt64_eq, UInt64.toNat_ofNat']
    exact Nat.mod_eq_of_lt (by rw [← digitValue]; omega)
  have hten : (10 : UInt64).toNat = 10 := rfl
  rw [nextValue, UInt64.toNat_add, UInt64.toNat_mul, hword, hten]
  constructor
  · rw [UInt64.size]
    omega
  · omega

/-! ## Reading digit by digit -/

/-- Where the reading of digits stands: the word, and what is still to be read. -/
structure Reading where
  value : UInt64
  ahead : Text

namespace Reading

/-- One digit is read, and the word has not passed the bound. -/
inductive Step : Reading → Reading → Prop
  | digit {value c rest} (hdigit : c.isDigit) (hbound : nextValue value c ≤ statusBound) :
      Step ⟨value, c :: rest⟩ ⟨nextValue value c, rest⟩

/-- Any number of digits are read. -/
abbrev Reaches : Reading → Reading → Prop :=
  Relation.ReflTransGen Step

/-- The word holds the number that has been read of the digits, and has not passed the bound. -/
structure IsExact (digits : Text) (reading : Reading) : Prop where
  exists_before : ∃ before, digits = before ++ reading.ahead ∧ reading.value.toNat = decimal before ∧
    ∀ c ∈ before, c.isDigit
  toNat_le : reading.value.toNat ≤ 2147483647

variable {digits : Text} {reading next : Reading}

theorem isExact_start (digits : Text) : IsExact digits ⟨0, digits⟩ :=
  ⟨⟨[], rfl, rfl, by simp⟩, Nat.zero_le _⟩

/-- **A step keeps the word exact.** -/
theorem IsExact.step (h : IsExact digits reading) (hstep : Step reading next) : IsExact digits next := by
  cases hstep with
  | @digit value c rest hdigit hbound =>
      obtain ⟨before, hdigits, hvalue, hbefore⟩ := h.exists_before
      refine ⟨⟨before ++ [c], by simpa using hdigits, ?_, ?_⟩, UInt64.le_iff_toNat_le.mp hbound⟩
      · rw [decimal_concat, ← hvalue]
        exact (toNat_nextValue h.toNat_le hdigit).2
      · intro b hb
        rcases List.mem_append.mp hb with hb | hb
        · exact hbefore b hb
        · rwa [List.mem_singleton.mp hb]

/-- **Wherever reading comes, the word is exact.** -/
theorem Reaches.isExact (h : Reaches ⟨0, digits⟩ reading) : IsExact digits reading := by
  induction h with
  | refl => exact isExact_start digits
  | tail _ hstep ih => exact ih.step hstep

/-- Where the number is within the bound, all digits are read. -/
theorem IsExact.exists_reaches (h : IsExact digits reading) (hahead : ∀ c ∈ reading.ahead, c.isDigit)
    (hbound : decimal digits ≤ 2147483647) : ∃ value, Reaches reading ⟨value, []⟩ := by
  obtain ⟨value, ahead⟩ := reading
  induction ahead generalizing value with
  | nil => exact ⟨value, .refl⟩
  | cons c rest ih =>
      obtain ⟨hc, hrest⟩ := List.forall_mem_cons.mp hahead
      obtain ⟨before, hdigits, hvalue, -⟩ := h.exists_before
      obtain ⟨-, hnext⟩ := toNat_nextValue h.toNat_le hc
      have hle : decimal (before ++ [c]) ≤ decimal digits := by
        have hparts : digits = before ++ [c] ++ rest := by simpa using hdigits
        rw [hparts]
        exact decimal_le_decimal_append _ rest
      have hstep : Step ⟨value, c :: rest⟩ ⟨nextValue value c, rest⟩ := by
        refine .digit hc (UInt64.le_iff_toNat_le.mpr ?_)
        rw [toNat_statusBound]
        rw [decimal_concat] at hle
        simp only at hvalue hnext
        omega
      obtain ⟨last, hreaches⟩ := ih _ (h.step hstep) hrest
      exact ⟨last, .head hstep hreaches⟩

end Reading

open Reading

/-- The reader goes on as the steps do. -/
theorem readStatus_of_step {reading next : Reading} (h : Step reading next) :
    readStatus reading.value reading.ahead = readStatus next.value next.ahead := by
  cases h with
  | digit hdigit hbound =>
      simp only [readStatus_cons]
      rw [if_pos hdigit, if_neg (UInt64.not_lt.mpr hbound)]

/-- **The steps are those of the reader**: it comes to a number where they come to the end. -/
theorem readStatus_eq_some_iff_reaches {value result : UInt64} {digits : Text} :
    readStatus value digits = some result ↔ Reaches ⟨value, digits⟩ ⟨result, []⟩ := by
  constructor
  · intro h
    induction digits generalizing value with
    | nil =>
        obtain rfl : value = result := by simpa [readStatus] using h
        exact .refl
    | cons c rest ih =>
        rw [readStatus_cons] at h
        split at h
        · rename_i hdigit
          split at h
          · cases h
          · rename_i hbound
            exact .head (.digit hdigit (UInt64.not_lt.mp hbound)) (ih h)
        · cases h
  · intro h
    have hread : ∀ reading, Reaches reading ⟨result, []⟩ →
        readStatus reading.value reading.ahead = some result := by
      intro reading hreading
      induction hreading using Relation.ReflTransGen.head_induction_on with
      | refl => rfl
      | head hstep _ ih => rw [readStatus_of_step hstep, ih]
    exact hread _ h

/-- **What is read** is the number that the digits spell, if it is within the bound. -/
theorem readStatus_eq_some_iff {digits : Text} {result : UInt64} :
    readStatus 0 digits = some result ↔
      (∀ c ∈ digits, c.isDigit) ∧ decimal digits ≤ 2147483647 ∧ result.toNat = decimal digits := by
  rw [readStatus_eq_some_iff_reaches]
  constructor
  · intro h
    obtain ⟨⟨before, hdigits, hvalue, hbefore⟩, hbound⟩ := h.isExact
    obtain rfl : digits = before := by simpa using hdigits
    exact ⟨hbefore, hvalue ▸ hbound, hvalue⟩
  · rintro ⟨hdigits, hbound, hresult⟩
    obtain ⟨value, hreaches⟩ := (isExact_start digits).exists_reaches hdigits hbound
    obtain ⟨⟨before, hbefore, hvalue, -⟩, -⟩ := hreaches.isExact
    obtain rfl : digits = before := by simpa using hbefore
    have heq : value = result := UInt64.toNat_inj.mp (hvalue.trans hresult.symm)
    exact heq ▸ hreaches

/-! ## Operands -/

theorem statusDigits_of_ne {operand : Text} (h : operand.head? ≠ some '+') :
    statusDigits operand = operand := by
  unfold statusDigits
  split
  · simp at h
  · rfl

/-- The digits of an operand are what spells its number. -/
theorem spells_iff {operand : Text} {n : Nat} :
    Spells operand n ↔ statusDigits operand ≠ [] ∧ (∀ c ∈ statusDigits operand, c.isDigit) ∧
      decimal (statusDigits operand) = n := by
  constructor
  · rintro ⟨digits, rfl | rfl, hne, hdigits, hvalue⟩
    · have hhead : operand.head? ≠ some '+' := fun h =>
        absurd (hdigits '+' (List.mem_of_head? h)) (by decide)
      rw [statusDigits_of_ne hhead]
      exact ⟨hne, hdigits, hvalue⟩
    · exact ⟨hne, hdigits, hvalue⟩
  · intro h
    refine ⟨statusDigits operand, ?_, h⟩
    unfold statusDigits
    split
    · exact .inr rfl
    · exact .inl rfl

theorem parseStatus?_of_ne {operand : Text} (h : statusDigits operand ≠ []) :
    parseStatus? operand =
      (readStatus 0 (statusDigits operand)).map fun value => value.toNat.toInt32 := by
  unfold parseStatus?
  split
  · contradiction
  · rfl

/-- **The status that an operand spells** is its number, if that is within the bound. -/
theorem parseStatus?_eq_some_iff {operand : Text} {status : Status} :
    parseStatus? operand = some status ↔
      ∃ n : Nat, Spells operand n ∧ n ≤ 2147483647 ∧ status.toInt = n := by
  by_cases hne : statusDigits operand = []
  · have hnone : parseStatus? operand = none := by rw [parseStatus?, hne]
    simp [hnone, spells_iff, hne]
  · rw [parseStatus?_of_ne hne, Option.map_eq_some_iff]
    constructor
    · rintro ⟨value, hread, rfl⟩
      obtain ⟨hdigits, hbound, hvalue⟩ := readStatus_eq_some_iff.mp hread
      refine ⟨decimal (statusDigits operand), spells_iff.mpr ⟨hne, hdigits, rfl⟩, hbound, ?_⟩
      rw [hvalue]
      exact Int32.toInt_ofNat_of_lt (by omega)
    · rintro ⟨n, hspells, hbound, hstatus⟩
      obtain ⟨-, hdigits, rfl⟩ := spells_iff.mp hspells
      have hword : (UInt64.ofNat (decimal (statusDigits operand))).toNat =
          decimal (statusDigits operand) := by
        rw [UInt64.toNat_ofNat']
        omega
      refine ⟨_, readStatus_eq_some_iff.mpr ⟨hdigits, hbound, hword⟩, ?_⟩
      rw [hword, ← Int32.toInt_inj, hstatus]
      exact Int32.toInt_ofNat_of_lt (by omega)

/-- An operand is refused if it spells no number, or one beyond the bound. -/
theorem parseStatus?_eq_none_iff {operand : Text} :
    parseStatus? operand = none ↔ ∀ n, Spells operand n → 2147483647 < n := by
  rw [Option.eq_none_iff_forall_ne_some]
  constructor
  · intro h n hspells
    by_contra hbound
    refine h n.toInt32 (parseStatus?_eq_some_iff.mpr ⟨n, hspells, by omega, ?_⟩)
    exact Int32.toInt_ofNat_of_lt (by omega)
  · intro h status hparse
    obtain ⟨n, hspells, hbound, -⟩ := parseStatus?_eq_some_iff.mp hparse
    have := h n hspells
    omega

section

variable {operand : Text} (later : List Text) (s : Session)

theorem leave_of_parse {status : Status} (h : parseStatus? operand = some status) :
    (leave (operand :: later)).run s = (.ok (.exit status), s) := by
  simp only [leave, h]
  rfl

theorem leave_of_none (h : parseStatus? operand = none) :
    (leave (operand :: later)).run s = (.error (.illegalNumber operand), s) := by
  simp only [leave, h]
  rfl

end

/-- **The operand of the command is read as a decimal number**, digits behind at most one `+`. The
command leaves with this number if it is within the bound. It fails with the operand as it was given if
the operand spells no number, or a greater one. As long as digits are read, the word has room for ten
times what it holds and for a digit more, so it holds the number of the digits behind it, however many
they are. -/
theorem leave_reads_numeral (operand : Text) (later : List Text) (s : Session) :
    let outcome := (leave (operand :: later)).run s
    let digits := statusDigits operand
    (∀ status, parseStatus? operand = some status ↔
      ∃ n : Nat, Spells operand n ∧ n ≤ 2147483647 ∧ status.toInt = n) ∧
    (∀ status, parseStatus? operand = some status ↔ outcome = (.ok (.exit status), s)) ∧
    ((∀ n, Spells operand n → 2147483647 < n) ↔ outcome = (.error (.illegalNumber operand), s)) ∧
    (∀ result, readStatus 0 digits = some result ↔ Reaches ⟨0, digits⟩ ⟨result, []⟩) ∧
    ∀ reading, Reaches ⟨0, digits⟩ reading → ∀ c ∈ reading.ahead.head?, c.isDigit →
      reading.value.toNat * 10 + digitValue c < UInt64.size ∧
        (nextValue reading.value c).toNat = reading.value.toNat * 10 + digitValue c := by
  intro outcome digits
  refine ⟨fun status => parseStatus?_eq_some_iff, fun status => ?_, ?_,
    fun result => readStatus_eq_some_iff_reaches,
    fun reading hreaches c _ hc => toNat_nextValue hreaches.isExact.toNat_le hc⟩
  · cases hparse : parseStatus? operand with
    | none =>
        have hrun : outcome = (.error (.illegalNumber operand), s) := leave_of_none later s hparse
        rw [hrun]
        exact ⟨nofun, nofun⟩
    | some found =>
        have hrun : outcome = (.ok (.exit found), s) := leave_of_parse later s hparse
        rw [hrun, Option.some_inj]
        exact ⟨fun heq => by rw [heq], fun heq => by cases heq; rfl⟩
  · rw [← parseStatus?_eq_none_iff]
    cases hparse : parseStatus? operand with
    | none => exact ⟨fun _ => leave_of_none later s hparse, fun _ => rfl⟩
    | some found =>
        have hrun : outcome = (.ok (.exit found), s) := leave_of_parse later s hparse
        rw [hrun]
        exact ⟨nofun, nofun⟩

/-- A `+` and zeros in front are read, the number behind the bound is refused, and so is a digit that is
not one of ASCII. -/
theorem leave_reads_numeral_of_zeros :
    let s := Session.new "husk".toList 1 .empty ⟨.empty, .root⟩
    let beyond := "2147483648".toList
    (leave ["+002147483647".toList]).run s = (.ok (.exit 2147483647), s) ∧
      (leave [beyond]).run s = (.error (.illegalNumber beyond), s) ∧
      (leave [['٣']]).run s = (.error (.illegalNumber ['٣']), s) := by
  intro s beyond
  obtain ⟨hvalue, hleave, -⟩ := leave_reads_numeral "+002147483647".toList [] s
  obtain ⟨-, -, hbeyond, -⟩ := leave_reads_numeral beyond [] s
  obtain ⟨-, -, hforeign, -⟩ := leave_reads_numeral ['٣'] [] s
  have hspells : Spells "+002147483647".toList 2147483647 :=
    spells_iff.mpr ⟨by decide, by simp [statusDigits],
      by simp [statusDigits, decimal, digitValue, Nat.ofDigits_cons]⟩
  refine ⟨(hleave _).mp ((hvalue _).mpr ⟨2147483647, hspells, Nat.le_refl _, rfl⟩), hbeyond.mp ?_,
    hforeign.mp ?_⟩
  · intro n hspells
    obtain ⟨-, -, rfl⟩ := spells_iff.mp hspells
    simp [beyond, statusDigits, decimal, digitValue, Nat.ofDigits_cons]
  · intro n hspells
    obtain ⟨-, hdigits, -⟩ := spells_iff.mp hspells
    exact absurd (hdigits '٣' (List.mem_singleton_self _)) (by decide)

end CommandShell.Builtin
