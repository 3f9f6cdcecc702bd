import CommandShell.Stream

/-!
# Writing to streams

What is written stands behind what was there, to the end if writing does not fail and in part otherwise.
Nothing that is done to a stream changes how it answers to what is written. A stream that works takes
everything, and can be flushed at any time.

## Main definitions
* `Stream.TakesAll`: the stream takes everything.
* `Stream.FlushesAlways`: every flush of the stream comes out the same.
* `Stream.IsWorking`: the stream works.

## Main results
* `contents_write`, `contents_writeAll_of_ok`: what is written.
* `writeAll_append_of_ok`: chunks behind others.
* `writeAll_of_takesAll`, `contents_foldl_report`: what a stream takes that takes everything.
* `flush_of_flushesAlways`: a flush that changes nothing.
-/

namespace CommandShell.Stream

variable (s : Stream) (chunk : Chunk) (d : Diagnostic) (data : Bytes)

/-! ## What stays -/

@[simp] theorem takes_write : (s.write chunk).2.takes = s.takes := by
  unfold write
  split <;> rfl

@[simp] theorem flushes_write : (s.write chunk).2.flushes = s.flushes := by
  unfold write
  split <;> rfl

@[simp] theorem takes_receive : (s.receive data).takes = s.takes := by
  unfold receive
  split <;> rfl

@[simp] theorem flushes_receive : (s.receive data).flushes = s.flushes := by
  unfold receive
  split <;> rfl

@[simp] theorem log_flush : s.flush.2.log = s.log := rfl

@[simp] theorem takes_flush : s.flush.2.takes = s.takes := rfl

/-- To report is to write, and perhaps to flush. -/
theorem report_cases : s.report d = (s.write (.diagnostic d)).2 ∨
    s.report d = (s.write (.diagnostic d)).2.flush.2 := by
  unfold report
  generalize s.write (.diagnostic d) = outcome
  obtain ⟨_ | _, s'⟩ := outcome
  · exact .inl rfl
  · exact .inr rfl

@[simp] theorem log_report : (s.report d).log = (s.write (.diagnostic d)).2.log := by
  rcases report_cases s d with h | h <;> simp only [h, log_flush]

@[simp] theorem takes_report : (s.report d).takes = s.takes := by
  rcases report_cases s d with h | h <;> simp only [h, takes_flush, takes_write]

@[simp] theorem contents_report : (s.report d).contents = (s.write (.diagnostic d)).2.contents := by
  rw [contents, contents, log_report]

/-! ## What is written -/

/-- What the stream takes of a chunk stands behind what was there. -/
theorem contents_write :
    (s.write chunk).2.contents =
      s.contents ++ chunk.contents.take (s.takes s.log chunk.contents) := by
  unfold write
  by_cases hempty : chunk.contents = []
  · simp [hempty]
  · rw [if_neg (by simpa using hempty)]
    simp only [contents, List.flatMap_append, List.flatMap_singleton, Use.contents]
    rw [← List.take_take, List.take_length]

/-- Writing fails exactly if the stream does not take all of the chunk. -/
theorem write_eq_ok_iff :
    (s.write chunk).1 = .ok () ↔
      chunk.contents = [] ∨ chunk.contents.length ≤ s.takes s.log chunk.contents := by
  unfold write
  by_cases hempty : chunk.contents = []
  · simp [hempty]
  · rw [if_neg (by simpa using hempty)]
    simp only [hempty, false_or, ite_eq_left_iff, reduceCtorEq, imp_false, Classical.not_not]
    omega

variable {s chunk d}

theorem contents_write_of_ok (h : (s.write chunk).1 = .ok ()) :
    (s.write chunk).2.contents = s.contents ++ chunk.contents := by
  rw [contents_write]
  rcases (write_eq_ok_iff s chunk).mp h with hempty | hfits
  · simp [hempty]
  · rw [List.take_of_length_le hfits]

/-- **Chunks that can be written stand behind what was there.** -/
theorem contents_writeAll_of_ok {chunks : List Chunk} (h : (s.writeAll chunks).1 = .ok ()) :
    (s.writeAll chunks).2.contents = s.contents ++ chunks.flatMap Chunk.contents := by
  induction chunks generalizing s with
  | nil => simp [writeAll]
  | cons chunk rest ih =>
      have hcontents : (s.write chunk).1 = .ok () →
          (s.write chunk).2.contents = s.contents ++ chunk.contents := contents_write_of_ok
      rw [writeAll] at h ⊢
      generalize s.write chunk = outcome at h hcontents ⊢
      obtain ⟨_ | _, s'⟩ := outcome
      · cases h
      · rw [ih h, hcontents rfl, List.flatMap_cons, List.append_assoc]

/-- Chunks in two parts are written as a whole, if the first part can be written. -/
theorem writeAll_append (s : Stream) (xs ys : List Chunk) :
    s.writeAll (xs ++ ys) =
      match s.writeAll xs with
      | (.ok (), s) => s.writeAll ys
      | refused => refused := by
  induction xs generalizing s with
  | nil => rfl
  | cons chunk rest ih =>
      rw [List.cons_append, writeAll, writeAll]
      generalize s.write chunk = outcome
      obtain ⟨_ | _, s'⟩ := outcome
      · rfl
      · exact ih s'

/-- Behind chunks that can be written the others are written as if they were alone. -/
theorem writeAll_append_of_ok {xs : List Chunk} (h : (s.writeAll xs).1 = .ok ()) (ys : List Chunk) :
    s.writeAll (xs ++ ys) = (s.writeAll xs).2.writeAll ys := by
  rw [writeAll_append]
  generalize s.writeAll xs = outcome at h ⊢
  obtain ⟨result, s'⟩ := outcome
  obtain rfl := h
  rfl

/-- Chunks that can be written with others behind them can be written without those. -/
theorem writeAll_of_append {xs ys : List Chunk} (h : (s.writeAll (xs ++ ys)).1 = .ok ()) :
    (s.writeAll xs).1 = .ok () := by
  rw [writeAll_append] at h
  generalize s.writeAll xs = outcome at h ⊢
  obtain ⟨_ | _, s'⟩ := outcome
  · cases h
  · rfl

/-! ## Streams that work -/

/-- The stream takes everything that is written. -/
def TakesAll (s : Stream) : Prop :=
  ∀ log data, data.length ≤ s.takes log data

/-- The stream can be flushed at any time, or never. -/
def FlushesAlways (can : Bool) (s : Stream) : Prop :=
  ∀ later, s.flushes later = can

/-- The stream takes everything and can be flushed at any time. -/
structure IsWorking (s : Stream) : Prop where
  takesAll : s.TakesAll
  flushesAlways : s.FlushesAlways true

theorem isWorking_new : new.IsWorking :=
  ⟨fun _ _ => Nat.le_refl _, fun _ => rfl⟩

section

variable (h : s.TakesAll)

include h

theorem write_of_takesAll (chunk : Chunk) : (s.write chunk).1 = .ok () :=
  (write_eq_ok_iff s chunk).mpr (.inr (h _ _))

theorem TakesAll.write (chunk : Chunk) : (s.write chunk).2.TakesAll := by
  rwa [TakesAll, takes_write]

theorem TakesAll.report (d : Diagnostic) : (s.report d).TakesAll := by
  rwa [TakesAll, takes_report]

theorem TakesAll.receive (data : Bytes) : (s.receive data).TakesAll := by
  rwa [TakesAll, takes_receive]

/-- **A stream that takes everything takes all chunks.** -/
theorem writeAll_of_takesAll (chunks : List Chunk) : (s.writeAll chunks).1 = .ok () := by
  induction chunks generalizing s with
  | nil => rfl
  | cons chunk rest ih =>
      have hwrite := write_of_takesAll h chunk
      have hafter := h.write chunk
      rw [writeAll]
      generalize s.write chunk = outcome at hwrite hafter
      obtain ⟨result, s'⟩ := outcome
      obtain rfl := hwrite
      exact ih hafter

/-- All reports stand behind what was there. -/
theorem contents_foldl_report {α : Type} (diagnostic : α → Diagnostic) (xs : List α) :
    (xs.foldl (fun s x => s.report (diagnostic x)) s).contents =
      s.contents ++ xs.flatMap fun x => Utf8.encode (diagnostic x).render := by
  induction xs generalizing s with
  | nil => simp
  | cons x xs ih =>
      rw [List.foldl_cons, ih (h.report _), contents_report,
        contents_write_of_ok (write_of_takesAll h _), List.flatMap_cons, List.append_assoc]
      rfl

end

section

variable {can : Bool} (h : s.FlushesAlways can)

include h

/-- **A flush changes nothing** of a stream whose flushes all come out the same. -/
theorem flush_of_flushesAlways :
    s.flush = (if can then .ok () else .error .flushRefused, s) := by
  have hlater : (fun later => s.flushes (later + 1)) = s.flushes :=
    funext fun later => (h (later + 1)).trans (h later).symm
  rw [flush, h 0, hlater]

theorem FlushesAlways.write (chunk : Chunk) : (s.write chunk).2.FlushesAlways can := by
  rwa [FlushesAlways, flushes_write]

theorem FlushesAlways.receive (data : Bytes) : (s.receive data).FlushesAlways can := by
  rwa [FlushesAlways, flushes_receive]

theorem FlushesAlways.flush : s.flush.2.FlushesAlways can :=
  fun later => h (later + 1)

theorem FlushesAlways.report (d : Diagnostic) : (s.report d).FlushesAlways can := by
  rcases report_cases s d with hreport | hreport <;> rw [hreport]
  · exact h.write _
  · exact (h.write _).flush

end

namespace IsWorking

variable (h : s.IsWorking)

include h

theorem write (chunk : Chunk) : (s.write chunk).2.IsWorking :=
  ⟨h.takesAll.write chunk, h.flushesAlways.write chunk⟩

theorem report (d : Diagnostic) : (s.report d).IsWorking :=
  ⟨h.takesAll.report d, h.flushesAlways.report d⟩

theorem receive (data : Bytes) : (s.receive data).IsWorking :=
  ⟨h.takesAll.receive data, h.flushesAlways.receive data⟩

end IsWorking

end CommandShell.Stream
