import CommandShell.Proofs.Session.Leaving
import CommandShell.Proofs.Text.Newlines
import Mathlib.Data.List.TakeWhile

/-!
# Lines read from redirected input

Redirected input is read in blocks, which end anywhere, and each line is read as text on its own. What is
found, one line after the other, are the lines of the whole input read as text at once: blocks are put
together until there is a newline, what stands behind it is kept, and no newline is part of a character.

## Main definitions
* `Yields`: lines that are found one after the other, up to the end of the input.

## Main results
* `fill_ofBytes`: what is read in blocks.
* `yields_lines`: what is found in redirected input.
* `reading_cuts_at_newlines`: the lines that are found, as pieces of the text between its newlines.
-/

namespace CommandShell

/-- The lines are found one after the other, and then the input has ended, whatever is done in between, as
long as it leaves the input as it is. -/
inductive Yields {ρ : Type} (reader : Reader ρ) : ρ → Session → List Text → Prop
  | nothing {kept kept' : ρ} {s found : Session} :
      reader kept s = (.nothing, kept', found) → Yields reader kept s []
  | line {kept kept' : ρ} {s found : Session} {text : Text} {later : List Text} :
      reader kept s = (.line text, kept', found) →
      (∀ t : Session, t.input = found.input → Yields reader kept' t later) →
      Yields reader kept s (text :: later)

/-! ## Blocks -/

/-- What is read of redirected input is cut off from what is left. -/
theorem read_ofBytes (limit : Nat) (data : Bytes) :
    (Input.ofBytes data).read limit = (data.take limit, .ofBytes (data.drop limit)) := by
  by_cases hdata : data = []
  · subst hdata
    simp [Input.ofBytes, Input.read, Input.empty]
  · by_cases hlength : data.length ≤ limit <;> simp [Input.ofBytes, Input.read, hdata, hlength]

/-- **What is read in blocks** is a first part of what is there, and all of it if there is no newline. -/
theorem fill_ofBytes (before data : Bytes) :
    ∃ block left, before ++ data = block ++ left ∧
      Input.fill (·.contains newline) before (.ofBytes data) = (block, .ofBytes left) ∧
      (newline ∈ block ∨ left = []) := by
  induction hlength : data.length using Nat.strong_induction_on generalizing before data with
  | _ n ih =>
    by_cases henough : newline ∈ before
    · refine ⟨before, data, rfl, ?_, .inl henough⟩
      rw [Input.fill, if_pos (by simpa using henough)]
    · by_cases hdata : data = []
      · subst hdata
        refine ⟨before, [], rfl, ?_, .inr rfl⟩
        rw [Input.fill, if_neg (by simpa using henough), read_ofBytes]
        simp
      · have hblock : data.take Input.blockSize ≠ [] := by simpa [Input.blockSize] using hdata
        have hshorter : (data.drop Input.blockSize).length < n := by
          rw [List.length_drop, ← hlength]
          exact Nat.sub_lt (List.length_pos_of_ne_nil hdata) (by decide)
        obtain ⟨block, left, hcut, hfill, hends⟩ :=
          ih _ hshorter (before ++ data.take Input.blockSize) (data.drop Input.blockSize) rfl
        refine ⟨block, left, ?_, ?_, hends⟩
        · rw [← hcut, List.append_assoc, List.take_append_drop]
        · rw [Input.fill, if_neg (by simpa using henough), read_ofBytes, dif_neg hblock, hfill]

/-! ## Lines -/

section

variable {line : Bytes} (h : newline ∉ line)

include h

theorem bne_newline_of_mem : ∀ b ∈ line, (b != newline) = true :=
  fun _ hb => bne_iff_ne.mpr fun heq => h (heq ▸ hb)

theorem takeWhile_append_newline (rest : Bytes) :
    (line ++ newline :: rest).takeWhile (· != newline) = line := by
  rw [List.takeWhile_append_of_pos (bne_newline_of_mem h)]
  simp

theorem dropWhile_append_newline (rest : Bytes) :
    (line ++ newline :: rest).dropWhile (· != newline) = newline :: rest := by
  rw [List.dropWhile_append_of_pos (bne_newline_of_mem h)]
  simp

end

section

variable {s : Session} {kept left : Bytes}

/-- Up to a newline, the bytes are a line, and those behind it are there still. -/
theorem reader_of_newline {line rest : Bytes} (hinput : s.input = .ofBytes left)
    (h : kept ++ left = line ++ newline :: rest) (hline : newline ∉ line) :
    ∃ kept' left', kept' ++ left' = rest ∧ Manner.batch.reader kept s =
      (.line (Utf8.decodeLossy line), kept', { s with input := .ofBytes left' }) := by
  obtain ⟨block, left', hcut, hfill, hends⟩ := fill_ofBytes kept left
  rw [h] at hcut
  have hblock : newline ∈ block := by
    rcases hends with hblock | rfl
    · exact hblock
    · rw [← List.append_nil block, ← hcut]
      simp
  obtain ⟨first, kept', rfl, hfirst⟩ := List.eq_append_cons_of_mem hblock
  rw [List.append_assoc, List.cons_append] at hcut
  obtain rfl : line = first := by
    rw [← takeWhile_append_newline hline rest, hcut, takeWhile_append_newline hfirst]
  have hrest : rest = kept' ++ left' := (List.cons.inj (List.append_cancel_left hcut)).2
  refine ⟨kept', left', hrest.symm, ?_⟩
  rw [Manner.reader, hinput, hfill]
  simp [takeWhile_append_newline hfirst, dropWhile_append_newline hfirst, Manner.line]

/-- Without a newline, all the bytes are one line, or there is none. -/
theorem reader_of_no_newline (hinput : s.input = .ofBytes left) (h : newline ∉ kept ++ left) :
    Manner.batch.reader kept s =
      (if kept ++ left = [] then .nothing else .line (Utf8.decodeLossy (kept ++ left)), [],
        { s with input := .ofBytes [] }) := by
  obtain ⟨block, left', hcut, hfill, hends⟩ := fill_ofBytes kept left
  have hblock : newline ∉ block := fun hblock => h (hcut ▸ List.mem_append_left _ hblock)
  obtain rfl := hends.resolve_left hblock
  obtain rfl : block = kept ++ left := by rw [hcut, List.append_nil]
  have hall := bne_newline_of_mem h
  have htake : (kept ++ left).takeWhile (· != newline) = kept ++ left :=
    List.takeWhile_eq_self_iff.mpr hall
  have hdrop : (kept ++ left).dropWhile (· != newline) = [] := List.dropWhile_eq_nil_iff.mpr hall
  rw [Manner.reader, hinput, hfill]
  simp only [htake, hdrop, Manner.line, List.isEmpty_iff]
  by_cases hne : kept ++ left = [] <;> simp [hne]

/-- **What is found in redirected input** are the lines of the bytes that have been kept and of those that
are left. -/
theorem yields_lines {data : Bytes} (hinput : s.input = .ofBytes left) (h : kept ++ left = data) :
    Yields Manner.batch.reader kept s (lines data) := by
  induction hlength : data.length using Nat.strong_induction_on generalizing s kept left data with
  | _ n ih =>
    by_cases hnewline : newline ∈ data
    · obtain ⟨line, rest, rfl, hline⟩ := List.eq_append_cons_of_mem hnewline
      obtain ⟨kept', left', hrest, hread⟩ := reader_of_newline hinput h hline
      have hlines : lines (line ++ newline :: rest) = Utf8.decodeLossy line :: lines rest := by
        rw [lines, lineBytes_append_newline, pieces_of_not_mem hline]
        rfl
      have hshorter : rest.length < n := by
        rw [← hlength]
        simp
        omega
      rw [hlines]
      exact .line hread fun t ht => ih _ hshorter ht hrest rfl
    · subst h
      have hread := reader_of_no_newline hinput hnewline
      by_cases hne : kept ++ left = []
      · rw [if_pos hne] at hread
        rw [hne]
        exact .nothing hread
      · rw [if_neg hne] at hread
        have hlines : lines (kept ++ left) = [Utf8.decodeLossy (kept ++ left)] := by
          rw [lines, lineBytes, pieces_of_not_mem hnewline]
          simp [hne]
        rw [hlines]
        exact .line hread fun t ht => .nothing (reader_of_no_newline ht (by simp))

end

/-- **Redirected input is cut at its newlines and nowhere else**, whatever its bytes are. What is found in
it are the lines of its text: one for each newline, and one more behind the last newline if there is
anything. No line holds a newline. Of bytes that are text nothing is lost: written with newlines between
them, the lines are the bytes again, up to a newline at the end. -/
theorem reading_cuts_at_newlines (data : Bytes) :
    let found := (LineSource.ofStream data).lines
    (∀ s : Session, s.input = .ofBytes data → Yields Manner.batch.reader [] s found) ∧
    found = textLines (Utf8.decodeLossy data) ∧
    found.length = data.count newline + (if data = [] ∨ data.getLast? = some newline then 0 else 1) ∧
    (∀ line ∈ found, '\n' ∉ line) ∧
    ∀ text, data = Utf8.encode text →
      Utf8.encode (joinPieces '\n' found) ++ (if data.getLast? = some newline then [newline] else []) =
        data := by
  intro found
  have hfound : found = textLines (Utf8.decodeLossy data) := lines_eq_textLines data
  refine ⟨fun s hinput => yields_lines hinput rfl, hfound, ?_, fun line hline => ?_, ?_⟩
  · rw [hfound, length_textLines]
    simp only [Utf8.count_decodeLossy, Utf8.decodeLossy_eq_nil_iff,
      Utf8.getLast?_decodeLossy_eq_newline_iff]
  · rw [hfound] at hline
    exact newline_not_mem_of_mem_textLines hline
  · rintro text rfl
    have hjoin := congrArg Utf8.encode (joinPieces_textLines text)
    have hlast : _ ↔ (Utf8.encode text).getLast? = some newline :=
      Utf8.getLast?_decodeLossy_eq_newline_iff
    rw [Utf8.decodeLossy_encode] at hfound hlast
    rw [Utf8.encode_append, apply_ite Utf8.encode] at hjoin
    rw [hfound]
    simp only [← hlast]
    exact hjoin

example : lines [0xE2, 0x82, newline, 0x61] = [[Utf8.replacement], ['a']] := by decide

/-- A line with a character of two bytes, an empty line, and a line that does not end. -/
theorem reading_cuts_at_newlines_of_text :
    let text := "é\n\na".toList
    let data := Utf8.encode text
    let found := (LineSource.ofStream data).lines
    let s := { Session.new "husk".toList 1 .empty ⟨.empty, .root⟩ with input := .ofBytes data }
    s.input = .ofBytes data ∧ Yields Manner.batch.reader [] s found ∧
      found = [['é'], [], ['a']] ∧ ([] ∈ found ∧ '\n' ∉ ([] : Text)) ∧
      data = Utf8.encode text ∧ Utf8.encode (joinPieces '\n' found) ++ [] = data := by
  intro text data found s
  obtain ⟨hyields, -, -, hnewline, hjoin⟩ := reading_cuts_at_newlines data
  have hfound : found = [['é'], [], ['a']] := by decide
  have hempty : [] ∈ found := by rw [hfound]; decide
  exact ⟨rfl, hyields s rfl, hfound, ⟨hempty, hnewline [] hempty⟩, rfl, hjoin text rfl⟩

end CommandShell
