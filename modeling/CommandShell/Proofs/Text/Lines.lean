import CommandShell.Text.Pieces
import Mathlib.Tactic.IntervalCases

/-!
# Texts and lines as bytes

A text is read back from its bytes, character by character and whatever follows. The byte that ends a
line stands for no other character than the one that does. So lines that are written one below the other
are read back as they are, and a stretch of whole lines is read apart from what follows it.

## Main definitions
* `Utf8.encodeLines`: lines one below the other, each ended.

## Main results
* `Utf8.decodeLossy_encode`: texts are read back.
* `lines_append`: whole lines are read apart from what follows.
* `lines_encodeLines`: lines are read back.
-/

namespace CommandShell

namespace Utf8

/-! ## One character -/

theorem start_ascii {n : Nat} (h : n < 0x80) :
    start (UInt8.ofNat n) = .unit (some (Char.ofNat n)) := by
  interval_cases n <;> rfl

theorem start_two {n : Nat} (hlow : 2 ≤ n) (h : n < 32) :
    start (UInt8.ofNat (n + 192)) = .lead ⟨n, 1, 0x80, 0xBF⟩ := by
  interval_cases n <;> rfl

theorem start_three {n : Nat} (h : n < 16) :
    start (UInt8.ofNat (n + 224)) =
      .lead ⟨n, 2, if n = 0 then 0xA0 else 0x80, if n = 13 then 0x9F else 0xBF⟩ := by
  interval_cases n <;> rfl

theorem start_four {n : Nat} (h : n < 5) :
    start (UInt8.ofNat (n + 240)) =
      .lead ⟨n, 3, if n = 0 then 0x90 else 0x80, if n = 4 then 0x8F else 0xBF⟩ := by
  interval_cases n <;> rfl

theorem unitsFrom_lead {b : UInt8} {p : Partial} (h : start b = .lead p) (rest : Bytes) :
    unitsFrom none (b :: rest) = unitsFrom (some p) rest := by
  rw [unitsFrom, h]

/-- A byte that continues the character in hand adds six bits to it. -/
theorem unitsFrom_continue {p : Partial} {n : Nat} (hn : n < 64) (hlow : p.low.toNat ≤ n + 128)
    (hhigh : n + 128 ≤ p.high.toNat) (rest : Bytes) :
    unitsFrom (some p) (UInt8.ofNat (n + 128) :: rest) =
      if p.more ≤ 1 then some (Char.ofNat (p.code * 64 + n)) :: unitsFrom none rest
      else unitsFrom (some ⟨p.code * 64 + n, p.more - 1, 0x80, 0xBF⟩) rest := by
  have hbyte : (UInt8.ofNat (n + 128)).toNat = n + 128 := by
    rw [UInt8.toNat_ofNat']
    omega
  generalize UInt8.ofNat (n + 128) = b at hbyte ⊢
  have hrange : p.low ≤ b ∧ b ≤ p.high := by
    rw [UInt8.le_iff_toNat_le, UInt8.le_iff_toNat_le, hbyte]
    exact ⟨hlow, hhigh⟩
  have hextend : p.extend b = p.code * 64 + n := by
    have hbits : b.toNat - 0x80 = n := by omega
    exact congrArg (p.code * 64 + ·) hbits
  rw [unitsFrom, if_pos hrange, hextend]

/-- **A character is read back from its bytes**, whatever follows. The code of a character is no
surrogate and not too large, so each byte lies in the range that the one before it leaves. -/
theorem unitsFrom_encodeChar (c : Char) (rest : Bytes) :
    unitsFrom none (String.utf8EncodeChar c ++ rest) = some c :: unitsFrom none rest := by
  have hc : Char.ofNat c.val.toNat = c := Char.ofNat_toNat c
  have hvalid : c.val.toNat < 0xd800 ∨ 0xdfff < c.val.toNat ∧ c.val.toNat < 0x110000 := c.valid
  rw [String.utf8EncodeChar]
  generalize c.val.toNat = v at hc hvalid ⊢
  split
  · rw [List.singleton_append, unitsFrom, start_ascii (by omega), hc]
  split
  · have hlead : v / 64 % 32 = v / 64 := by omega
    have hcode : v / 64 * 64 + v % 64 = v := by omega
    rw [List.cons_append, List.singleton_append, hlead,
      unitsFrom_lead (start_two (by omega) (by omega)),
      unitsFrom_continue (by omega) (by simp) (by simp; omega), if_pos (by simp), hcode, hc]
  split
  · have hlead : v / 4096 % 16 = v / 4096 := by omega
    have hcode : (v / 4096 * 64 + v / 64 % 64) * 64 + v % 64 = v := by omega
    have hlow : (if v / 4096 = 0 then (0xA0 : UInt8) else 0x80).toNat ≤ v / 64 % 64 + 128 := by
      split
      · simp
        omega
      · simp
    have hhigh : v / 64 % 64 + 128 ≤ (if v / 4096 = 13 then (0x9F : UInt8) else 0xBF).toNat := by
      split <;> (simp; omega)
    rw [List.cons_append, List.cons_append, List.singleton_append, hlead,
      unitsFrom_lead (start_three (by omega)), unitsFrom_continue (by omega) hlow hhigh,
      if_neg (by simp), unitsFrom_continue (by omega) (by simp) (by simp; omega), if_pos (by simp),
      hcode, hc]
  · have hlead : v / 262144 % 8 = v / 262144 := by omega
    have hcode : ((v / 262144 * 64 + v / 4096 % 64) * 64 + v / 64 % 64) * 64 + v % 64 = v := by
      omega
    have hlow : (if v / 262144 = 0 then (0x90 : UInt8) else 0x80).toNat ≤ v / 4096 % 64 + 128 := by
      split
      · simp
        omega
      · simp
    have hhigh : v / 4096 % 64 + 128 ≤ (if v / 262144 = 4 then (0x8F : UInt8) else 0xBF).toNat := by
      split <;> (simp; omega)
    rw [List.cons_append, List.cons_append, List.cons_append, List.singleton_append, hlead,
      unitsFrom_lead (start_four (by omega)), unitsFrom_continue (by omega) hlow hhigh,
      if_neg (by simp), unitsFrom_continue (by omega) (by simp) (by simp; omega), if_neg (by simp),
      unitsFrom_continue (by omega) (by simp) (by simp; omega), if_pos (by simp), hcode, hc]

/-- The bytes of a character other than a newline hold no newline. -/
theorem newline_not_mem_encodeChar {c : Char} (h : c ≠ '\n') :
    newline ∉ String.utf8EncodeChar c := by
  have hc : c.val.toNat ≠ 10 := fun heq => h (Char.ext (UInt32.toNat_inj.mp heq))
  have hbyte : ∀ n, n % 256 ≠ 10 → newline ≠ UInt8.ofNat n := by
    intro n hn heq
    exact hn (by simpa [newline] using (congrArg UInt8.toNat heq).symm)
  rw [String.utf8EncodeChar]
  generalize c.val.toNat = v at hc ⊢
  split
  · simpa using hbyte v (by omega)
  split
  · simp only [List.mem_cons, List.not_mem_nil, or_false, not_or]
    exact ⟨hbyte _ (by omega), hbyte _ (by omega)⟩
  split
  · simp only [List.mem_cons, List.not_mem_nil, or_false, not_or]
    exact ⟨hbyte _ (by omega), hbyte _ (by omega), hbyte _ (by omega)⟩
  · simp only [List.mem_cons, List.not_mem_nil, or_false, not_or]
    exact ⟨hbyte _ (by omega), hbyte _ (by omega), hbyte _ (by omega), hbyte _ (by omega)⟩

/-! ## Texts -/

theorem units_encode (text : Text) : units (encode text) = text.map some := by
  induction text with
  | nil => rfl
  | cons c rest ih =>
      rw [units, encode_cons, unitsFrom_encodeChar, List.map_cons, ← ih]
      rfl

/-- **A text is read back from its bytes.** -/
@[simp] theorem decodeLossy_encode (text : Text) : decodeLossy (encode text) = text := by
  simp [decodeLossy, units_encode]

theorem newline_not_mem_encode {text : Text} (h : '\n' ∉ text) : newline ∉ encode text := by
  rw [encode, List.mem_flatMap]
  rintro ⟨c, hc, hnewline⟩
  exact newline_not_mem_encodeChar (fun heq => h (heq ▸ hc)) hnewline

/-- Lines one below the other, each ended by a newline. -/
def encodeLines (lines : List Text) : Bytes :=
  lines.flatMap fun line => encode line ++ [newline]

@[simp] theorem encodeLines_nil : encodeLines [] = [] := rfl

@[simp] theorem encodeLines_cons (line : Text) (rest : List Text) :
    encodeLines (line :: rest) = encode line ++ newline :: encodeLines rest := by
  simp [encodeLines]

end Utf8

/-! ## Lines -/

/-- A separator cuts what stands before it from what stands behind. -/
theorem pieces_append_separator {α : Type} [DecidableEq α] (separator : α) (xs ys : List α) :
    pieces separator (xs ++ separator :: ys) = pieces separator xs ++ pieces separator ys := by
  induction xs with
  | nil => simp
  | cons x xs ih =>
      by_cases hx : x = separator
      · rw [hx, List.cons_append, pieces_cons_separator, ih, pieces_cons_separator, List.cons_append]
      · obtain ⟨piece, later, hpieces⟩ := List.exists_cons_of_ne_nil (pieces_ne_nil separator xs)
        rw [List.cons_append, pieces, if_neg hx, ih, hpieces, pieces, if_neg hx, hpieces]
        rfl

theorem pieces_of_not_mem {α : Type} [DecidableEq α] {separator : α} {xs : List α}
    (h : separator ∉ xs) : pieces separator xs = [xs] := by
  induction xs with
  | nil => rfl
  | cons x xs ih =>
      obtain ⟨hx, hxs⟩ : separator ≠ x ∧ separator ∉ xs := by simpa using h
      rw [pieces, if_neg hx.symm, ih hxs]

/-- What stands behind a newline is cut into lines of its own. -/
theorem lineBytes_append_newline (xs ys : Bytes) :
    lineBytes (xs ++ newline :: ys) = pieces newline xs ++ lineBytes ys := by
  have hne := pieces_ne_nil newline ys
  have hlast : (pieces newline xs ++ pieces newline ys).getLast? = (pieces newline ys).getLast? := by
    rw [List.getLast?_append, Option.or_of_isSome (by simpa using hne)]
  rw [lineBytes, lineBytes, pieces_append_separator, hlast]
  split
  · rw [List.dropLast_append_of_ne_nil hne]
  · rfl

/-- **Whole lines are read apart from what follows.** -/
theorem lines_append {xs : Bytes} (h : xs.getLast? = some newline) (ys : Bytes) :
    lines (xs ++ ys) = lines xs ++ lines ys := by
  obtain ⟨before, rfl⟩ := List.getLast?_eq_some_iff.mp h
  have hwhole : lineBytes (before ++ [newline]) = pieces newline before := by
    rw [lineBytes_append_newline]
    simp [lineBytes]
  rw [lines, List.append_assoc, List.singleton_append, lineBytes_append_newline, List.map_append, lines,
    hwhole, lines]

/-- A text without a newline, with a newline behind it, is the first line. -/
theorem lines_encode_append {line : Text} (h : '\n' ∉ line) (rest : Bytes) :
    lines (Utf8.encode line ++ newline :: rest) = line :: lines rest := by
  rw [lines, lineBytes_append_newline, pieces_of_not_mem (Utf8.newline_not_mem_encode h)]
  simp [lines]

/-- **Lines are read back as they were written.** -/
theorem lines_encodeLines {texts : List Text} (h : ∀ line ∈ texts, '\n' ∉ line) :
    lines (Utf8.encodeLines texts) = texts := by
  induction texts with
  | nil => rfl
  | cons line rest ih =>
      obtain ⟨hline, hrest⟩ := List.forall_mem_cons.mp h
      rw [Utf8.encodeLines_cons, lines_encode_append hline, ih hrest]

end CommandShell
