import CommandShell.Aliases

/-!
# Segments after replacement

What becomes of a segment when its words are looked up: without a word that is an alias it stays, and
an alias at its front, with nothing else to be replaced, gives way to its words.

## Main results
* `mem_or_mem_tokens_of_mem_resolve`: no word comes from elsewhere.
* `length_resolve_le`: how long a segment can get.
* `resolve_of_all_none`: a segment without aliases.
* `resolve_cons_of_replacement`: a segment that opens with its only alias.
-/

namespace CommandShell

/-- A word with a replacement gives way to it, where it has not done so before. -/
theorem resolveWith_cons_of_some {replace? : Token → Option (List Token)} {word : Token}
    {replacement seen : List Token} (h : replace? word = some replacement) (hseen : word ∉ seen)
    (budget : Nat) (rest : List Token) :
    resolveWith replace? (budget + 1) seen (word :: rest) =
      resolveWith replace? budget (word :: seen) (replacement ++ rest) := by
  rw [resolveWith.eq_def]
  simp only [h, hseen, if_false]

/-- A word without a replacement stays, and so does one that has given way here before. -/
theorem resolveWith_cons_of_keep {replace? : Token → Option (List Token)} {word : Token}
    {seen : List Token} (h : replace? word = none ∨ word ∈ seen) (budget : Nat) (rest : List Token) :
    resolveWith replace? budget seen (word :: rest) = word :: resolveWith replace? budget [] rest := by
  cases hreplace : replace? word with
  | none => exact resolveWith_cons_of_none hreplace budget seen rest
  | some replacement =>
      have hseen : word ∈ seen := h.resolve_left (by simp [hreplace])
      rw [resolveWith.eq_def]
      cases budget with
      | zero => simp only [hreplace]
      | succ budget => simp only [hreplace, hseen, if_true]

/-- Every word of the result was there before, or was brought in by a replacement. -/
theorem mem_or_mem_replacement {replace? : Token → Option (List Token)} {word : Token} {budget : Nat}
    {seen words : List Token} (h : word ∈ resolveWith replace? budget seen words) :
    word ∈ words ∨ ∃ name replacement, replace? name = some replacement ∧ word ∈ replacement := by
  fun_induction resolveWith replace? budget seen words with
  | case1 => simp at h
  | case2 seen first rest replacement budget hreplacement hseen ih =>
      rcases List.mem_cons.mp h with rfl | h
      · exact .inl (List.mem_cons_self ..)
      · exact (ih h).imp_left (List.mem_cons_of_mem _)
  | case3 seen first rest replacement budget hreplacement hseen ih =>
      rcases ih h with hmem | hmem
      · rcases List.mem_append.mp hmem with hmem | hmem
        · exact .inr ⟨first, replacement, hreplacement, hmem⟩
        · exact .inl (List.mem_cons_of_mem _ hmem)
      · exact .inr hmem
  | case4 seen first rest budget hkeep ih =>
      rcases List.mem_cons.mp h with rfl | h
      · exact .inl (List.mem_cons_self ..)
      · exact (ih h).imp_left (List.mem_cons_of_mem _)

/-- Every replacement takes one word away, and brings in no more words than the longest holds. -/
theorem length_resolveWith_le {replace? : Token → Option (List Token)} {m : Nat}
    (h : ∀ name replacement, replace? name = some replacement → replacement.length ≤ m) (budget : Nat)
    (seen words : List Token) :
    (resolveWith replace? budget seen words).length ≤ words.length + budget * (m - 1) := by
  fun_induction resolveWith replace? budget seen words with
  | case1 => simp
  | case2 seen first rest replacement budget hreplacement hseen ih =>
      simp only [List.length_cons, Nat.succ_eq_add_one]
      omega
  | case3 seen first rest replacement budget hreplacement hseen ih =>
      have hlength := h first replacement hreplacement
      rw [List.length_append] at ih
      rw [List.length_cons, Nat.succ_mul]
      omega
  | case4 seen first rest budget hkeep ih =>
      simp only [List.length_cons]
      omega

namespace Aliases

variable {aliases : Aliases}

theorem replacement?_eq_none_iff {name : Token} :
    aliases.replacement? name = none ↔ aliases.get? name = none := by
  simp [replacement?]

/-- **Every word that a segment turns into is one of its own or a word of an alias.** -/
theorem mem_or_mem_tokens_of_mem_resolve {segment : List Token} {word : Token}
    (h : word ∈ aliases.resolve segment) :
    word ∈ segment ∨ ∃ name value, aliases.get? name = some value ∧ word ∈ tokens value := by
  rw [resolve] at h
  split at h
  · exact .inl h
  · refine (mem_or_mem_replacement h).imp_right ?_
    rintro ⟨name, replacement, hreplacement, hmem⟩
    obtain ⟨value, hvalue, rfl⟩ := Option.map_eq_some_iff.mp hreplacement
    exact ⟨name, value, hvalue, hmem⟩

/-- **A segment grows by no more than the words of the longest value for each replacement.** -/
theorem length_resolve_le {m : Nat}
    (h : ∀ name value, aliases.get? name = some value → (tokens value).length ≤ m)
    (segment : List Token) :
    (aliases.resolve segment).length ≤ segment.length + resolutionLimit * (m - 1) := by
  rw [resolve]
  split
  · exact Nat.le_add_right _ _
  · refine length_resolveWith_le (fun name replacement hreplacement => ?_) resolutionLimit [] segment
    obtain ⟨value, hvalue, rfl⟩ := Option.map_eq_some_iff.mp hreplacement
    exact h name value hvalue

/-- A segment that opens with the word that defines aliases stays. -/
theorem resolve_of_definer {segment : List Token} (h : segment.head? = some definer) :
    aliases.resolve segment = segment :=
  if_pos h

/-- A segment stays if none of its words is an alias. -/
theorem resolve_of_all_none {segment : List Token}
    (h : ∀ word ∈ segment, aliases.get? word = none) : aliases.resolve segment = segment := by
  rw [resolve]
  split
  · rfl
  · exact resolveWith_of_all_none (fun word hword => replacement?_eq_none_iff.mpr (h word hword)) _ _

/-- An alias at the front gives way to its words, if no word that follows then is an alias. -/
theorem resolve_cons_of_replacement {name : Token} {words rest : List Token}
    (hname : name ≠ definer) (hwords : aliases.replacement? name = some words)
    (h : ∀ word ∈ words ++ rest, aliases.get? word = none) :
    aliases.resolve (name :: rest) = words ++ rest := by
  have hhead : (name :: rest).head? ≠ some definer := by simpa using hname
  have hstay : ∀ word ∈ words ++ rest, aliases.replacement? word = none := fun word hword =>
    replacement?_eq_none_iff.mpr (h word hword)
  rw [resolve, if_neg hhead, resolutionLimit, resolveWith_cons_of_some hwords List.not_mem_nil,
    resolveWith_of_all_none hstay]

/-- A single definition. -/
theorem get?_add_empty (name value word : Text) :
    (empty.add name value).get? word = if word = name then some value else none := by
  by_cases h : word = name
  · simp [add, empty, get?, entry?, h]
  · have h' : ¬ name = word := fun heq => h heq.symm
    simp [add, empty, get?, entry?, h, h']

/-- Two definitions. -/
theorem get?_add_add {first second value other : Text} (hne : second ≠ first) (word : Text) :
    ((empty.add first value).add second other).get? word =
      if word = second then some other else if word = first then some value else none := by
  have hadd : (empty.add first value).add second other =
      ⟨#[(first, value), (second, other)],
        ((∅ : Std.HashMap Text Nat).insert first 0).insert second 1⟩ := by
    simp [add, empty, hne.symm]
  have hslot : (((∅ : Std.HashMap Text Nat).insert first 0).insert second 1)[word]? =
      if word = second then some 1 else if word = first then some 0 else none := by
    simp [Std.HashMap.getElem?_insert, eq_comm (a := word)]
  rw [hadd, get?, entry?, hslot]
  split
  · rfl
  split <;> rfl

/-- Nothing is found but what the two definitions say. -/
theorem eq_of_get?_add_add {first second value other name found : Text} (hne : second ≠ first)
    (h : ((empty.add first value).add second other).get? name = some found) :
    name = second ∧ found = other ∨ name = first ∧ found = value := by
  rw [get?_add_add hne] at h
  split at h
  · exact .inl ⟨‹_›, (Option.some.inj h).symm⟩
  split at h
  · exact .inr ⟨‹_›, (Option.some.inj h).symm⟩
  · exact absurd h.symm (Option.some_ne_none found)

/-- The second of two aliases gives way to its words, if no word that follows then is one of the two. -/
theorem resolve_add_add {first second value other : Text} {rest : List Token} (hne : second ≠ first)
    (hsecond : second ≠ definer) (h : ∀ word ∈ tokens other ++ rest, word ≠ second ∧ word ≠ first) :
    ((empty.add first value).add second other).resolve (second :: rest) = tokens other ++ rest := by
  refine resolve_cons_of_replacement hsecond ?_ fun word hword => ?_
  · rw [replacement?, get?_add_add hne, if_pos rfl, Option.map_some]
  · obtain ⟨hword, hword'⟩ := h word hword
    rw [get?_add_add hne, if_neg hword, if_neg hword']

end Aliases

end CommandShell
