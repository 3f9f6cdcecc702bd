import CommandShell.Proofs.Text.Lines

/-!
# Newlines and broken bytes

A newline in a byte string is a newline of its text, and there are no others, however broken the bytes
between may be: no byte that is wanted by a character that has begun is one of ASCII, and no character of
several bytes is. So it is all the same whether a byte string is cut into lines that are then read as text,
or read as text that is then cut.

## Main definitions
* `Utf8.Partial.IsLong`: what a character in hand cannot be.
* `textLines`: the lines of a text.

## Main results
* `Utf8.exists_unitsFrom_cons`: what one byte does.
* `Utf8.decodeLossy_append_newline`, `Utf8.newline_not_mem_decodeLossy`: newlines stay where they are.
* `pieces_decodeLossy`, `lines_eq_textLines`: to read and to cut can be done in either order.
* `length_textLines`, `joinPieces_textLines`: how many lines there are, and that nothing of the text is lost.
-/

namespace CommandShell

namespace Utf8

/-! ## Characters in hand -/

theorem ofNat_eq_newline_iff {n : Nat} : Char.ofNat n = '\n' ↔ n = 10 := by
  constructor
  · intro h
    by_cases hvalid : n.isValidChar
    · rw [Char.ofNat, dif_pos hvalid] at h
      exact congrArg Char.toNat h
    · rw [Char.ofNat, dif_neg hvalid] at h
      exact absurd h (by decide)
  · rintro rfl
    rfl

/-- The character in hand has more than one byte: no byte of ASCII continues it, and its code is none of
ASCII's even if no other bits are set. -/
structure Partial.IsLong (p : Partial) : Prop where
  low : 0x80 ≤ p.low.toNat
  code : 0x80 ≤ (p.code * 64 + (p.low.toNat - 0x80)) * 64 ^ (p.more - 1)

/-- The first byte of two sets bits beyond those of ASCII. Of three or four it sets some bit at all, or it
is one that wants more of the second byte than its mark. -/
theorem isLong_of_start {b : UInt8} {p : Partial} (h : start b = .lead p) : p.IsLong := by
  have hne : ∀ n : UInt8, b ≠ n → b.toNat ≠ n.toNat := fun n hb heq => hb (UInt8.toNat_inj.mp heq)
  simp only [start, UInt8.lt_iff_toNat_lt, UInt8.toNat_ofNat] at h
  split at h
  · cases h
  split at h
  · cases h
  split at h
  · obtain rfl := Start.lead.inj h
    exact ⟨by simp, by simp; omega⟩
  split at h
  · obtain rfl := Start.lead.inj h
    by_cases hb : b = 0xE0
    · subst hb
      exact ⟨by decide, by decide⟩
    · have hcode : b.toNat ≠ 0xE0 := hne _ hb
      refine ⟨by simp [hb], ?_⟩
      simp [hb]
      omega
  split at h
  · obtain rfl := Start.lead.inj h
    by_cases hb : b = 0xF0
    · subst hb
      exact ⟨by decide, by decide⟩
    · have hcode : b.toNat ≠ 0xF0 := hne _ hb
      refine ⟨by simp [hb], ?_⟩
      simp [hb]
      omega
  · cases h

/-- The bits of one more byte are at least those that any next byte must add. -/
theorem Partial.le_extend {p : Partial} {b : UInt8} (hlow : p.low ≤ b) :
    p.code * 64 + (p.low.toNat - 0x80) ≤ p.extend b :=
  Nat.add_le_add_left (Nat.sub_le_sub_right (UInt8.le_iff_toNat_le.mp hlow) _) _

/-- One more byte, where more than one is wanted. -/
theorem Partial.IsLong.extend {p : Partial} (h : p.IsLong) {b : UInt8} (hlow : p.low ≤ b)
    (hmore : ¬ p.more ≤ 1) : Partial.IsLong ⟨p.extend b, p.more - 1, 0x80, 0xBF⟩ := by
  obtain ⟨more, hwanted⟩ : ∃ more, p.more = more + 2 := ⟨p.more - 2, by omega⟩
  have hcode := h.code
  rw [hwanted] at hcode ⊢
  refine ⟨by simp, ?_⟩
  calc 0x80 ≤ (p.code * 64 + (p.low.toNat - 0x80)) * 64 ^ (more + 1) := hcode
    _ ≤ p.extend b * 64 ^ (more + 1) := Nat.mul_le_mul_right _ (p.le_extend hlow)
    _ = (p.extend b * 64 + ((0x80 : UInt8).toNat - 0x80)) * 64 ^ more := by
        rw [Nat.pow_succ']
        simp [Nat.mul_assoc]

/-- The last byte that is wanted makes a character that is no newline. -/
theorem Partial.IsLong.ofNat_extend_ne {p : Partial} (h : p.IsLong) {b : UInt8} (hlow : p.low ≤ b)
    (hmore : p.more ≤ 1) : Char.ofNat (p.extend b) ≠ '\n' := by
  have hcode := h.code
  rw [show p.more - 1 = 0 by omega, Nat.pow_zero, Nat.mul_one] at hcode
  have hextend := hcode.trans (p.le_extend hlow)
  rw [Ne, ofNat_eq_newline_iff]
  omega

/-- No byte other than a newline is a newline at the start of a character. -/
theorem start_ne_newline {b : UInt8} (h : b ≠ newline) : start b ≠ .unit (some '\n') := by
  intro hstart
  unfold start at hstart
  split at hstart
  · have hcode := ofNat_eq_newline_iff.mp (Option.some.inj (Start.unit.inj hstart))
    exact h (UInt8.toNat_inj.mp hcode)
  split at hstart
  · cases hstart
  split at hstart
  · cases hstart
  split at hstart
  · cases hstart
  split at hstart <;> cases hstart

/-! ## Newlines -/

/-- A byte that cannot continue the character in hand breaks it off. -/
theorem unitsFrom_broken {p : Partial} {b : UInt8} (h : ¬ (p.low ≤ b ∧ b ≤ p.high)) (bs : Bytes) :
    unitsFrom (some p) (b :: bs) = none :: unitsFrom none (b :: bs) := by
  rw [unitsFrom, if_neg h, unitsFrom]

/-- A newline is read where it stands, and breaks off a character in hand. -/
theorem unitsFrom_newline {hand : Option Partial} (h : ∀ p ∈ hand, p.IsLong) (bs : Bytes) :
    unitsFrom hand (newline :: bs) = unitsFrom hand [] ++ some '\n' :: unitsFrom none bs := by
  cases hand with
  | none => rfl
  | some p =>
      have hrange : ¬ (p.low ≤ newline ∧ newline ≤ p.high) := fun ⟨hlow, _⟩ =>
        absurd ((h p rfl).low.trans (UInt8.le_iff_toNat_le.mp hlow)) (by decide)
      rw [unitsFrom_broken hrange]
      rfl

/-- **One byte**: what it completes holds no newline, if it is none, and what is in hand then is long. -/
theorem exists_unitsFrom_cons {hand : Option Partial} (h : ∀ p ∈ hand, p.IsLong) {b : UInt8}
    (hb : b ≠ newline) :
    ∃ read hand', (∀ bs, unitsFrom hand (b :: bs) = read ++ unitsFrom hand' bs) ∧
      (∀ p ∈ hand', p.IsLong) ∧ some '\n' ∉ read := by
  have hstart : ∃ read hand', (∀ bs, unitsFrom none (b :: bs) = read ++ unitsFrom hand' bs) ∧
      (∀ p ∈ hand', p.IsLong) ∧ some '\n' ∉ read := by
    cases hunit : start b with
    | unit u =>
        refine ⟨[u], none, fun bs => by rw [unitsFrom, hunit]; rfl, nofun, ?_⟩
        rw [List.mem_singleton]
        rintro rfl
        exact start_ne_newline hb hunit
    | lead q =>
        refine ⟨[], some q, fun bs => unitsFrom_lead hunit bs, fun p hp => ?_, by simp⟩
        exact Option.some.inj hp ▸ isLong_of_start hunit
  cases hand with
  | none => exact hstart
  | some p =>
      have hp := h p rfl
      by_cases hrange : p.low ≤ b ∧ b ≤ p.high
      · by_cases hmore : p.more ≤ 1
        · refine ⟨[some (Char.ofNat (p.extend b))], none, fun bs => ?_, nofun, ?_⟩
          · rw [unitsFrom, if_pos hrange, if_pos hmore, List.singleton_append]
          · simpa using (hp.ofNat_extend_ne hrange.1 hmore).symm
        · refine ⟨[], some ⟨p.extend b, p.more - 1, 0x80, 0xBF⟩, fun bs => ?_, ?_, by simp⟩
          · rw [unitsFrom, if_pos hrange, if_neg hmore, List.nil_append]
          · intro q hq
            exact Option.some.inj hq ▸ hp.extend hrange.1 hmore
      · obtain ⟨read, hand', hread, hhand, hnewline⟩ := hstart
        refine ⟨none :: read, hand', fun bs => ?_, hhand, by simpa using hnewline⟩
        rw [List.cons_append, ← hread bs, unitsFrom_broken hrange]

/-- What stands before a newline is read apart from what stands behind it. -/
theorem unitsFrom_append_newline {xs : Bytes} {hand : Option Partial} (h : ∀ p ∈ hand, p.IsLong)
    (ys : Bytes) :
    unitsFrom hand (xs ++ newline :: ys) = unitsFrom hand xs ++ some '\n' :: unitsFrom none ys := by
  induction xs generalizing hand with
  | nil => exact unitsFrom_newline h ys
  | cons b bs ih =>
      by_cases hb : b = newline
      · rw [hb, List.cons_append, unitsFrom_newline h, unitsFrom_newline h, ih (by simp), List.append_assoc,
          List.cons_append]
      · obtain ⟨read, hand', hread, hhand, -⟩ := exists_unitsFrom_cons h hb
        rw [List.cons_append, hread, hread, ih hhand, List.append_assoc]

/-- Where no byte is a newline, no character is. -/
theorem newline_not_mem_unitsFrom {xs : Bytes} {hand : Option Partial} (h : ∀ p ∈ hand, p.IsLong)
    (hxs : newline ∉ xs) : some '\n' ∉ unitsFrom hand xs := by
  induction xs generalizing hand with
  | nil => cases hand <;> simp [unitsFrom]
  | cons b bs ih =>
      obtain ⟨hb, hbs⟩ : newline ≠ b ∧ newline ∉ bs := by simpa using hxs
      obtain ⟨read, hand', hread, hhand, hnewline⟩ := exists_unitsFrom_cons h hb.symm
      rw [hread, List.mem_append]
      exact not_or.mpr ⟨hnewline, ih hhand hbs⟩

/-- Bytes are read as something. -/
theorem unitsFrom_ne_nil {xs : Bytes} (hand : Option Partial) (h : hand.isSome ∨ xs ≠ []) :
    unitsFrom hand xs ≠ [] := by
  fun_induction unitsFrom hand xs with
  | case4 p b bs hrange hmore ih => exact ih (.inl rfl)
  | case7 b bs q hstart ih => exact ih (.inl rfl)
  | _ => simp_all

/-- **A newline cuts a byte string where it cuts its text.** -/
theorem decodeLossy_append_newline (xs ys : Bytes) :
    decodeLossy (xs ++ newline :: ys) = decodeLossy xs ++ '\n' :: decodeLossy ys := by
  rw [decodeLossy, units, unitsFrom_append_newline (by simp), List.map_append, List.map_cons]
  rfl

theorem newline_not_mem_decodeLossy {xs : Bytes} (h : newline ∉ xs) : '\n' ∉ decodeLossy xs := by
  rw [decodeLossy, List.mem_map]
  rintro ⟨_ | c, hu, hc⟩
  · exact absurd hc (by decide)
  · obtain rfl : c = '\n' := hc
    exact newline_not_mem_unitsFrom (by simp) h hu

theorem decodeLossy_eq_nil_iff {xs : Bytes} : decodeLossy xs = [] ↔ xs = [] := by
  constructor
  · intro h
    by_contra hxs
    exact unitsFrom_ne_nil none (.inr hxs) (List.map_eq_nil_iff.mp h)
  · rintro rfl
    rfl

end Utf8

/-! ## Pieces -/

theorem joinPieces_concat {α : Type} {separator : α} {list : List (List α)} (hne : list ≠ [])
    (piece : List α) :
    joinPieces separator (list ++ [piece]) = joinPieces separator list ++ separator :: piece := by
  induction list with
  | nil => exact absurd rfl hne
  | cons first rest ih =>
      rw [List.cons_append, joinPieces_cons _ _ (by simp)]
      by_cases hrest : rest = []
      · subst hrest
        rfl
      · rw [ih hrest, joinPieces_cons _ _ hrest, List.append_assoc, List.cons_append]

section

variable {α : Type} [DecidableEq α] {separator : α}

/-- Pieces that hold no separator are cut where they were joined. -/
theorem pieces_joinPieces {list : List (List α)} (hne : list ≠ [])
    (h : ∀ piece ∈ list, separator ∉ piece) :
    pieces separator (joinPieces separator list) = list := by
  induction list with
  | nil => exact absurd rfl hne
  | cons piece rest ih =>
      obtain ⟨hpiece, hrest⟩ := List.forall_mem_cons.mp h
      by_cases hlast : rest = []
      · subst hlast
        exact pieces_of_not_mem hpiece
      · rw [joinPieces_cons separator piece hlast, pieces_append_separator, pieces_of_not_mem hpiece,
          ih hlast hrest, List.singleton_append]

theorem not_mem_of_mem_pieces {xs piece : List α} (h : piece ∈ pieces separator xs) :
    separator ∉ piece := by
  induction xs generalizing piece with
  | nil => simp_all
  | cons x xs ih =>
      by_cases hx : x = separator
      · subst hx
        rw [pieces_cons_separator, List.mem_cons] at h
        rcases h with rfl | h
        · simp
        · exact ih h
      · obtain ⟨first, later, hpieces⟩ := List.exists_cons_of_ne_nil (pieces_ne_nil separator xs)
        rw [pieces, if_neg hx, hpieces, List.mem_cons] at h
        rw [hpieces] at ih
        rcases h with rfl | h
        · simp [Ne.symm hx, ih (List.mem_cons_self ..)]
        · exact ih (List.mem_cons_of_mem _ h)

/-- The last piece is empty if the last thing is a separator, or if there is nothing. -/
theorem getLast?_pieces_eq_nil_iff {xs : List α} :
    (pieces separator xs).getLast? = some [] ↔ xs = [] ∨ xs.getLast? = some separator := by
  constructor
  · intro h
    obtain ⟨front, hfront⟩ := List.getLast?_eq_some_iff.mp h
    have hjoin := joinPieces_pieces separator xs
    rw [hfront] at hjoin
    by_cases hne : front = []
    · subst hne
      exact .inl hjoin.symm
    · rw [joinPieces_concat hne] at hjoin
      exact .inr (List.getLast?_eq_some_iff.mpr ⟨_, hjoin.symm⟩)
  · rintro (rfl | h)
    · rfl
    · obtain ⟨before, rfl⟩ := List.getLast?_eq_some_iff.mp h
      rw [pieces_append_separator, pieces_nil, List.getLast?_concat]

end

/-- **To read and to cut can be done in either order.** -/
theorem pieces_decodeLossy (data : Bytes) :
    pieces '\n' (Utf8.decodeLossy data) = (pieces newline data).map Utf8.decodeLossy := by
  have hjoin : ∀ list : List Bytes, Utf8.decodeLossy (joinPieces newline list) =
      joinPieces '\n' (list.map Utf8.decodeLossy) := by
    intro list
    induction list with
    | nil => rfl
    | cons piece rest ih =>
        by_cases hrest : rest = []
        · rw [hrest]
          rfl
        · rw [joinPieces_cons newline piece hrest, Utf8.decodeLossy_append_newline, ih, List.map_cons,
            joinPieces_cons _ _ (by simpa using hrest)]
  have hnewline : ∀ piece ∈ (pieces newline data).map Utf8.decodeLossy, '\n' ∉ piece := by
    simp only [List.forall_mem_map]
    exact fun piece hpiece => Utf8.newline_not_mem_decodeLossy (not_mem_of_mem_pieces hpiece)
  calc pieces '\n' (Utf8.decodeLossy data)
      = pieces '\n' (Utf8.decodeLossy (joinPieces newline (pieces newline data))) := by
        rw [joinPieces_pieces]
    _ = pieces '\n' (joinPieces '\n' ((pieces newline data).map Utf8.decodeLossy)) := by rw [hjoin]
    _ = (pieces newline data).map Utf8.decodeLossy :=
        pieces_joinPieces (by simpa using pieces_ne_nil newline data) hnewline

theorem Utf8.count_decodeLossy (data : Bytes) :
    (Utf8.decodeLossy data).count '\n' = data.count newline := by
  have hlength := congrArg List.length (pieces_decodeLossy data)
  rw [List.length_map, length_pieces, length_pieces] at hlength
  exact Nat.succ.inj hlength

theorem Utf8.getLast?_decodeLossy_eq_newline_iff {data : Bytes} :
    (Utf8.decodeLossy data).getLast? = some '\n' ↔ data.getLast? = some newline := by
  by_cases hdata : data = []
  · subst hdata
    exact ⟨nofun, nofun⟩
  · have hlast : (pieces '\n' (Utf8.decodeLossy data)).getLast? = some [] ↔
        (pieces newline data).getLast? = some [] := by
      rw [pieces_decodeLossy, List.getLast?_map, Option.map_eq_some_iff]
      simp [Utf8.decodeLossy_eq_nil_iff]
    rw [getLast?_pieces_eq_nil_iff, getLast?_pieces_eq_nil_iff, Utf8.decodeLossy_eq_nil_iff] at hlast
    simpa [hdata] using hlast

/-! ## Lines -/

/-- The lines of a text. The last newline ends a line and begins none. -/
def textLines (text : Text) : List Text :=
  let all := pieces '\n' text
  if all.getLast? = some [] then all.dropLast else all

/-- **The lines of a byte string are those of its text.** -/
theorem lines_eq_textLines (data : Bytes) : lines data = textLines (Utf8.decodeLossy data) := by
  have hlast : (pieces '\n' (Utf8.decodeLossy data)).getLast? = some [] ↔
      (pieces newline data).getLast? = some [] := by
    rw [getLast?_pieces_eq_nil_iff, getLast?_pieces_eq_nil_iff, Utf8.decodeLossy_eq_nil_iff,
      Utf8.getLast?_decodeLossy_eq_newline_iff]
  rw [lines, lineBytes, textLines]
  simp only [hlast]
  rw [pieces_decodeLossy]
  split
  · rw [List.map_dropLast]
  · rfl

theorem length_textLines (text : Text) : (textLines text).length =
    text.count '\n' + if text = [] ∨ text.getLast? = some '\n' then 0 else 1 := by
  rw [textLines]
  simp only [getLast?_pieces_eq_nil_iff]
  split
  · rw [List.length_dropLast, length_pieces]
    rfl
  · rw [length_pieces]

theorem newline_not_mem_of_mem_textLines {text line : Text} (h : line ∈ textLines text) :
    '\n' ∉ line := by
  rw [textLines] at h
  split at h
  · exact not_mem_of_mem_pieces (List.dropLast_subset _ h)
  · exact not_mem_of_mem_pieces h

/-- **Nothing of the text is lost**: its lines with newlines between them are the text, up to a newline at
the end. -/
theorem joinPieces_textLines (text : Text) :
    joinPieces '\n' (textLines text) ++ (if text.getLast? = some '\n' then ['\n'] else []) = text := by
  have hjoin := joinPieces_pieces '\n' text
  rw [textLines]
  by_cases hlast : (pieces '\n' text).getLast? = some []
  · obtain ⟨front, hfront⟩ := List.getLast?_eq_some_iff.mp hlast
    rw [if_pos hlast, hfront, List.dropLast_concat]
    rw [hfront] at hjoin
    by_cases hne : front = []
    · subst hne
      rw [← hjoin]
      rfl
    · rw [joinPieces_concat hne] at hjoin
      rw [if_pos (List.getLast?_eq_some_iff.mpr ⟨_, hjoin.symm⟩), hjoin]
  · have hnewline := fun h => hlast (getLast?_pieces_eq_nil_iff.mpr (.inr h))
    rw [if_neg hlast, if_neg hnewline, hjoin, List.append_nil]

end CommandShell
