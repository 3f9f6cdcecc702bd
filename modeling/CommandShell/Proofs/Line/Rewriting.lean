import CommandShell.Session
import Mathlib.Data.List.TakeWhile
import Mathlib.Data.Nat.Digits.Defs

/-!
# Expansion as rewriting

A `$` with a character other than a space behind it is reducible. One step of rewriting replaces the
leftmost reducible `$` of a text, with the reference behind it, by the value of the reference. What the
value brings in may be reducible itself, and may form a reference together with the text behind it; what
stands before the `$` is not touched, and no `$` in it becomes reducible later.

The relation knows nothing of a scan or of a place where it stands. The main theorem says that expansion
comes to the end of the rewriting, or to its last step that the limit admits.

## Main definitions
* `IsReducibleAt`, `IsReduced`: what can be rewritten.
* `Reference.Opens`: the reference that a text begins with.
* `Rewrites`, `RewritesIn`: one step, and a number of steps.
* `Environment.longestValue`

## Main results
* `Rewrites.unique`: a text is rewritten in one way only.
* `exists_rewritesIn_expandWith`: expansion rewrites as long as its budget lasts.
* `expandWith_of_isReduced`: a reduced text is its own expansion.
* `expand_rewrites`: the expansion of a line in a session, with a bound on its length.
-/

namespace CommandShell

/-- A `$` stands at the place, and a character other than a space behind it. -/
def IsReducibleAt (text : Text) (i : Nat) : Prop :=
  text[i]? = some '$' ∧ ∃ c, text[i + 1]? = some c ∧ c ≠ ' '

/-- Nothing in the text is left to be rewritten. -/
def IsReduced (text : Text) : Prop :=
  ∀ i, ¬ IsReducibleAt text i

/-- What stands behind a `$` begins with the reference, and goes on with `rest`. A name goes up to the
next `$` or space, or to the end. -/
inductive Reference.Opens : Reference → Text → Text → Prop
  | processId (rest : Text) : Opens .processId ('$' :: rest) rest
  | lastStatus (rest : Text) : Opens .lastStatus ('?' :: rest) rest
  | named {name rest : Text} (ne_nil : name ≠ []) (head_ne : name.head? ≠ some '?')
      (all_name : ∀ c ∈ name, c ≠ '$' ∧ c ≠ ' ') (ends : ∀ c ∈ rest.head?, c = '$' ∨ c = ' ') :
      Opens (.variable name) (name ++ rest) rest

/-- One step: the leftmost reducible `$` and its reference give way to the value. -/
inductive Rewrites (value : Reference → Text) : Text → Text → Prop
  | replace {before behind rest : Text} {reference : Reference}
      (leftmost : ∀ i < before.length, ¬ IsReducibleAt (before ++ '$' :: behind) i)
      (opens : reference.Opens behind rest) :
      Rewrites value (before ++ '$' :: behind) (before ++ (value reference ++ rest))

/-- A number of steps. -/
inductive RewritesIn (value : Reference → Text) : Nat → Text → Text → Prop
  | refl (text : Text) : RewritesIn value 0 text text
  | head {n : Nat} {text next last : Text} (step : Rewrites value text next)
      (steps : RewritesIn value n next last) : RewritesIn value (n + 1) text last

/-- The number of characters of the longest value of a variable. -/
def Environment.longestValue (env : Environment) : Nat :=
  (env.entries.map fun entry => (Utf8.decodeLossy entry.2).length).foldr max 0

/-! ## References -/

theorem isNameChar_iff {c : Char} : Reference.isNameChar c ↔ c ≠ '$' ∧ c ≠ ' ' := by
  simp [Reference.isNameChar]

/-- **A reference is read exactly where one stands.** -/
theorem read_eq_some_iff {behind rest : Text} {reference : Reference} :
    Reference.read behind = some (reference, rest) ↔ reference.Opens behind rest := by
  constructor
  · intro h
    cases behind with
    | nil => simp [Reference.read] at h
    | cons c behind =>
        rw [Reference.read] at h
        split at h
        · simp at h
        split at h
        · rename_i hc
          obtain ⟨rfl, rfl⟩ : .processId = reference ∧ behind = rest := by simpa using h
          rw [hc]
          exact .processId behind
        split at h
        · rename_i hc
          obtain ⟨rfl, rfl⟩ : .lastStatus = reference ∧ behind = rest := by simpa using h
          rw [hc]
          exact .lastStatus behind
        · rename_i hspace hdollar hquestion
          have hname : Reference.isNameChar c := isNameChar_iff.mpr ⟨hdollar, hspace⟩
          obtain ⟨rfl, rfl⟩ : .variable ((c :: behind).takeWhile Reference.isNameChar) = reference ∧
              (c :: behind).dropWhile Reference.isNameChar = rest := by simpa using h
          have hends : ∀ d ∈ ((c :: behind).dropWhile Reference.isNameChar).head?,
              d = '$' ∨ d = ' ' := by
            intro d hd
            have hnot := List.head?_dropWhile_not Reference.isNameChar (c :: behind)
            rw [Option.mem_def.mp hd] at hnot
            have hnot' : ¬ (d ≠ '$' ∧ d ≠ ' ') := by
              rw [← isNameChar_iff]
              simpa using hnot
            tauto
          have hne : (c :: behind).takeWhile Reference.isNameChar ≠ [] := by simp [hname]
          have hhead : ((c :: behind).takeWhile Reference.isNameChar).head? ≠ some '?' := by
            simpa [hname] using hquestion
          have hopens := Reference.Opens.named hne hhead
            (fun d hd => isNameChar_iff.mp (List.mem_takeWhile_imp hd)) hends
          rwa [List.takeWhile_append_dropWhile] at hopens
  · intro h
    cases h with
    | processId => simp [Reference.read]
    | lastStatus => simp [Reference.read]
    | @named name _ hne hhead hall hends =>
        cases name with
        | nil => exact absurd rfl hne
        | cons c name =>
            obtain ⟨hdollar, hspace⟩ := hall c (List.mem_cons_self ..)
            have hquestion : c ≠ '?' := by simpa using hhead
            have hname : ∀ d ∈ c :: name, Reference.isNameChar d := fun d hd =>
              isNameChar_iff.mpr (hall d hd)
            have hrest : rest.takeWhile Reference.isNameChar = [] ∧
                rest.dropWhile Reference.isNameChar = rest := by
              cases rest with
              | nil => simp
              | cons d rest =>
                  have hd : ¬ Reference.isNameChar d := by
                    rw [isNameChar_iff]
                    have := hends d rfl
                    tauto
                  simp [hd]
            rw [List.cons_append, Reference.read, if_neg hspace, if_neg hdollar, if_neg hquestion,
              ← List.cons_append, List.takeWhile_append_of_pos hname,
              List.dropWhile_append_of_pos hname, hrest.1, hrest.2, List.append_nil]

theorem length_le_of_opens {reference : Reference} {behind rest : Text}
    (h : reference.Opens behind rest) : rest.length ≤ behind.length := by
  cases h <;> simp

/-! ## What is reducible -/

section

variable {value : Reference → Text} {text next last before behind rest : Text} {c : Char}

theorem isReducibleAt_succ {i : Nat} :
    IsReducibleAt (c :: text) (i + 1) ↔ IsReducibleAt text i := by
  simp [IsReducibleAt]

theorem isReducibleAt_zero :
    IsReducibleAt (c :: text) 0 ↔ c = '$' ∧ ∃ d, text.head? = some d ∧ d ≠ ' ' := by
  simp [IsReducibleAt, List.head?_eq_getElem?]

theorem isReduced_cons :
    IsReduced (c :: text) ↔ ¬ IsReducibleAt (c :: text) 0 ∧ IsReduced text := by
  constructor
  · intro h
    exact ⟨h 0, fun i hi => h (i + 1) (isReducibleAt_succ.mpr hi)⟩
  · rintro ⟨hzero, hrest⟩ i
    cases i with
    | zero => exact hzero
    | succ i => exact fun hi => hrest i (isReducibleAt_succ.mp hi)

/-- A `$` is reducible exactly if a reference is read behind it. -/
theorem isReducibleAt_zero_iff_read :
    IsReducibleAt ('$' :: behind) 0 ↔ (Reference.read behind).isSome := by
  rw [isReducibleAt_zero]
  cases behind with
  | nil => simp [Reference.read]
  | cons d behind =>
      by_cases hspace : d = ' '
      · simp [Reference.read, hspace]
      · simp only [Reference.read, hspace, if_false]
        split
        · simp [hspace]
        · split <;> simp [hspace]

theorem isReducibleAt_of_opens {reference : Reference} (h : reference.Opens behind rest)
    (before : Text) : IsReducibleAt (before ++ '$' :: behind) before.length := by
  induction before with
  | nil =>
      have hread := read_eq_some_iff.mpr h
      exact isReducibleAt_zero_iff_read.mpr (by simp [hread])
  | cons c before ih => exact isReducibleAt_succ.mpr ih

/-! ## Steps -/

/-- **A text is rewritten in one way only**, since two leftmost places are one. -/
theorem Rewrites.unique (h : Rewrites value text next) (h' : Rewrites value text last) :
    next = last := by
  obtain ⟨hleft, hopens⟩ := h
  rename_i before behind rest reference
  generalize htext : before ++ '$' :: behind = text at h' hleft
  obtain ⟨hleft', hopens'⟩ := h'
  rename_i before' behind' rest' reference'
  have hreducible := isReducibleAt_of_opens hopens before
  have hreducible' := isReducibleAt_of_opens hopens' before'
  have hlength : before.length = before'.length := by
    rcases Nat.lt_trichotomy before.length before'.length with hlt | heq | hgt
    · exact absurd (htext ▸ hreducible) (hleft' _ hlt)
    · exact heq
    · exact absurd hreducible' (hleft _ hgt)
  obtain ⟨rfl, htail⟩ := List.append_inj htext hlength
  obtain rfl : behind = behind' := by simpa using htail
  have hread := (read_eq_some_iff.mpr hopens).symm.trans (read_eq_some_iff.mpr hopens')
  obtain ⟨rfl, rfl⟩ : reference = reference' ∧ rest = rest' := by simpa using hread
  rfl

theorem RewritesIn.unique {n : Nat} (h : RewritesIn value n text next)
    (h' : RewritesIn value n text last) : next = last := by
  induction h with
  | refl => cases h'; rfl
  | head step steps ih =>
      obtain _ | ⟨step', steps'⟩ := h'
      rw [← step.unique step'] at steps'
      exact ih steps'

/-- A `$` that opens the text is rewritten first, if it is reducible. -/
theorem rewrites_of_opens {reference : Reference} (h : reference.Opens behind rest) :
    Rewrites value ('$' :: behind) (value reference ++ rest) := by
  have hstep : Rewrites value ([] ++ '$' :: behind) ([] ++ (value reference ++ rest)) :=
    .replace (fun i hi => absurd hi (Nat.not_lt_zero i)) h
  exact hstep

/-- A step goes on as it is behind a character that is not reducible. -/
theorem Rewrites.cons (h : Rewrites value text next) (hc : ¬ IsReducibleAt (c :: text) 0) :
    Rewrites value (c :: text) (c :: next) := by
  obtain ⟨hleft, hopens⟩ := h
  rename_i before behind rest reference
  rw [← List.cons_append, ← List.cons_append]
  refine .replace ?_ hopens
  intro i hi
  cases i with
  | zero => exact hc
  | succ i => exact fun h => hleft i (by simpa using hi) (isReducibleAt_succ.mp h)

/-- **What has been passed over stays.** A `$` is passed over before a space or at the end, and a step
behind it keeps the space. -/
theorem not_isReducibleAt_zero_of_rewrites (h : Rewrites value text next)
    (hc : ¬ IsReducibleAt (c :: text) 0) : ¬ IsReducibleAt (c :: next) 0 := by
  rw [isReducibleAt_zero] at hc ⊢
  obtain ⟨hleft, hopens⟩ := h
  rename_i before behind rest reference
  cases before with
  | nil =>
      have hdollar : c ≠ '$' := by
        rintro rfl
        exact hc ⟨rfl, '$', rfl, by decide⟩
      exact fun h => hdollar h.1
  | cons d before => exact hc

theorem RewritesIn.cons {n : Nat} (h : RewritesIn value n text last)
    (hc : ¬ IsReducibleAt (c :: text) 0) :
    RewritesIn value n (c :: text) (c :: last) ∧ ¬ IsReducibleAt (c :: last) 0 := by
  induction h with
  | refl text => exact ⟨.refl (c :: text), hc⟩
  | head step steps ih =>
      obtain ⟨hsteps, hlast⟩ := ih (not_isReducibleAt_zero_of_rewrites step hc)
      exact ⟨.head (step.cons hc) hsteps, hlast⟩

theorem Rewrites.length_le {bound : Nat} (hvalue : ∀ reference, (value reference).length ≤ bound)
    (h : Rewrites value text next) : next.length ≤ text.length + bound := by
  obtain ⟨hleft, hopens⟩ := h
  rename_i before behind rest reference
  have hrest := length_le_of_opens hopens
  have hbound := hvalue reference
  simp only [List.length_append, List.length_cons]
  omega

theorem RewritesIn.length_le {bound n : Nat}
    (hvalue : ∀ reference, (value reference).length ≤ bound) (h : RewritesIn value n text last) :
    last.length ≤ text.length + n * bound := by
  induction h with
  | refl => simp
  | head step steps ih =>
      have hstep := step.length_le hvalue
      rw [Nat.succ_mul]
      omega

end

/-! ## Expansion -/

section

variable {value : Reference → Text}

theorem expandWith_of_read_eq_none {behind : Text} (h : Reference.read behind = none)
    (budget : Nat) :
    expandWith value budget ('$' :: behind) = '$' :: expandWith value budget behind := by
  rw [expandWith, if_pos rfl, h]

theorem expandWith_of_read_eq_some {behind rest : Text} {reference : Reference}
    (h : Reference.read behind = some (reference, rest)) (budget : Nat) :
    expandWith value (budget + 1) ('$' :: behind) =
      expandWith value budget (value reference ++ rest) := by
  rw [expandWith, if_pos rfl, h]

/-- A reduced text is its own expansion. -/
theorem expandWith_of_isReduced {text : Text} (h : IsReduced text) (budget : Nat) :
    expandWith value budget text = text := by
  induction text with
  | nil => simp
  | cons c rest ih =>
      obtain ⟨hzero, hrest⟩ := isReduced_cons.mp h
      by_cases hc : c = '$'
      · subst hc
        have hread : Reference.read rest = none := by
          simpa [isReducibleAt_zero_iff_read] using hzero
        rw [expandWith_of_read_eq_none hread, ih hrest]
      · rw [expandWith_cons_of_ne value budget hc, ih hrest]

/-- The steps behind a character that is not reducible are steps of the whole text. -/
private theorem rewritesIn_cons_or {c : Char} {text last : Text} {budget : Nat}
    (hc : ¬ IsReducibleAt (c :: text) 0)
    (h : ∃ n ≤ budget, RewritesIn value n text last ∧ (IsReduced last ∨ n = budget)) :
    ∃ n ≤ budget, RewritesIn value n (c :: text) (c :: last) ∧
      (IsReduced (c :: last) ∨ n = budget) := by
  obtain ⟨n, hn, hsteps, hend⟩ := h
  obtain ⟨hsteps', hlast⟩ := hsteps.cons hc
  exact ⟨n, hn, hsteps', hend.imp_left fun hreduced => isReduced_cons.mpr ⟨hlast, hreduced⟩⟩

/-- **Expansion rewrites as long as its budget lasts.** The induction is that of the scan: on the budget
where a reference is replaced, and on the text elsewhere. -/
theorem exists_rewritesIn_expandWith (value : Reference → Text) (budget : Nat) (text : Text) :
    ∃ n ≤ budget, RewritesIn value n text (expandWith value budget text) ∧
      (IsReduced (expandWith value budget text) ∨ n = budget) := by
  fun_induction expandWith value budget text with
  | case1 budget =>
      exact ⟨0, Nat.zero_le budget, .refl [], .inl fun i h => by simp [IsReducibleAt] at h⟩
  | case2 budget rest hread ih =>
      have hc : ¬ IsReducibleAt ('$' :: rest) 0 := by simp [isReducibleAt_zero_iff_read, hread]
      exact rewritesIn_cons_or hc ih
  | case3 rest reference tail hread => exact ⟨0, Nat.le_refl 0, .refl _, .inr rfl⟩
  | case4 rest reference tail hread budget ih =>
      obtain ⟨n, hn, hsteps, hend⟩ := ih
      have hstep : Rewrites value ('$' :: rest) (value reference ++ tail) :=
        rewrites_of_opens (read_eq_some_iff.mp hread)
      refine ⟨n + 1, Nat.succ_le_succ hn, .head hstep hsteps, ?_⟩
      exact hend.imp_right fun h => by rw [h]
  | case5 budget c rest hne ih =>
      have hc : ¬ IsReducibleAt (c :: rest) 0 := fun h => hne (isReducibleAt_zero.mp h).1
      exact rewritesIn_cons_or hc ih

end

/-! ## Values -/

theorem length_natural_le {n digits : Nat} (hpos : 0 < digits) (h : n < 10 ^ digits) :
    (natural n).length ≤ digits :=
  Nat.toDigits_length 10 n digits hpos h

/-- A status has at most ten digits and a sign. -/
theorem length_text_le (status : Status) : status.text.length ≤ 11 := by
  have hlow := status.le_toInt
  have hhigh := status.toInt_lt
  have hdigits : (natural status.toInt.natAbs).length ≤ 10 :=
    length_natural_le (by decide) (by omega)
  rw [Status.text, integer]
  split
  · rw [List.length_cons]
    omega
  · omega

namespace Environment

/-- A value that is found is one of the entries. -/
theorem exists_entry_of_getLossy? {env : Environment} {name text : Text}
    (h : env.getLossy? name = some text) :
    ∃ entry ∈ env.entries, Utf8.decodeLossy entry.2 = text := by
  obtain ⟨bytes, hlookup, rfl⟩ := Option.map_eq_some_iff.mp h
  obtain ⟨entry, hfind, rfl⟩ := Option.map_eq_some_iff.mp hlookup
  exact ⟨entry, List.mem_of_find?_eq_some hfind, rfl⟩

theorem length_le_longestValue {env : Environment} {name value : Text}
    (h : env.getLossy? name = some value) : value.length ≤ env.longestValue := by
  obtain ⟨entry, hentry, rfl⟩ := exists_entry_of_getLossy? h
  rw [longestValue]
  generalize env.entries = entries at hentry
  induction entries with
  | nil => simp at hentry
  | cons first rest ih =>
      rw [List.map_cons, List.foldr_cons]
      rcases List.mem_cons.mp hentry with rfl | hrest
      · exact Nat.le_max_left ..
      · exact Nat.le_trans (ih hrest) (Nat.le_max_right ..)

end Environment

/-- **What a reference stands for is no longer than the longest value**, or than a status. -/
theorem Session.length_value_le (s : Session) (reference : Reference) :
    (s.value reference).length ≤ max s.env.longestValue 11 := by
  rcases reference with _ | _ | name
  · have hpid := s.pid.toNat_lt
    have hdigits : (natural s.pid.toNat).length ≤ 10 :=
      length_natural_le (by decide) (by omega)
    simp only [value]
    omega
  · have hdigits := length_text_le s.lastStatus
    simp only [value]
    omega
  · simp only [value]
    cases hget : s.env.getLossy? name with
    | none => simp
    | some text =>
        have hlength := Environment.length_le_longestValue hget
        simp only [Option.getD_some]
        omega

/-! ## The expansion of a line -/

/-- **Expansion is rewriting from the left, up to a limit.** It comes to the one text to which some
number of steps leads, and either nothing in it is left to be rewritten or the number is the limit. A
text in which nothing is left is not changed any more, whatever the references stand for. Every step
adds at most one value. -/
theorem expand_rewrites (s : Session) (line : Text) :
    (∃ n ≤ substitutionLimit,
      (∀ text, RewritesIn s.value n line text ↔ text = expand s.value line) ∧
      (IsReduced (expand s.value line) ∨ n = substitutionLimit)) ∧
    (IsReduced (expand s.value line) →
      ∀ value, expand value (expand s.value line) = expand s.value line) ∧
    (expand s.value line).length ≤
      line.length + substitutionLimit * max s.env.longestValue 11 := by
  obtain ⟨n, hn, hsteps, hend⟩ := exists_rewritesIn_expandWith s.value substitutionLimit line
  refine ⟨⟨n, hn, ?_, hend⟩, ?_, ?_⟩
  · intro text
    constructor
    · exact fun htext => htext.unique hsteps
    · rintro rfl
      exact hsteps
  · intro hreduced value
    exact expandWith_of_isReduced hreduced substitutionLimit
  · calc (expand s.value line).length
        ≤ line.length + n * max s.env.longestValue 11 := hsteps.length_le s.length_value_le
      _ ≤ line.length + substitutionLimit * max s.env.longestValue 11 :=
          Nat.add_le_add_left (Nat.mul_le_mul_right _ hn) _

/-- With `x$` for `A`, the value and the `$` behind it in `$A$` form a reference to the process. -/
theorem expand_rewrites_of_joined_dollars :
    let env : Environment := ⟨[(Utf8.encode ['A'], Utf8.encode ['x', '$'])]⟩
    let s := Session.new "husk".toList 7 env ⟨.empty, .root⟩
    expand s.value "$A$".toList = ['x', '7'] ∧ IsReduced ['x', '7'] ∧
      ∀ value, expand value ['x', '7'] = ['x', '7'] := by
  intro env s
  have hname : s.value (.variable ['A']) = ['x', '$'] := by decide
  have hpid : s.value .processId = ['7'] := by decide
  have hexpand : expand s.value "$A$".toList = ['x', '7'] := by
    have hfirst : Reference.read ['A', '$'] = some (.variable ['A'], ['$']) := by decide
    have hsecond : Reference.read ['$'] = some (.processId, []) := by decide
    calc expandWith s.value 1024 ['$', 'A', '$']
        = expandWith s.value 1023 ['x', '$', '$'] := by
          rw [expandWith_of_read_eq_some hfirst, hname]; rfl
      _ = 'x' :: expandWith s.value 1023 ['$', '$'] :=
          expandWith_cons_of_ne s.value 1023 (by decide) _
      _ = 'x' :: expandWith s.value 1022 ['7'] := by
          rw [expandWith_of_read_eq_some hsecond, hpid]; rfl
      _ = ['x', '7'] := by rw [expandWith_of_not_mem s.value 1022 (by decide)]
  have hreduced : IsReduced ['x', '7'] := by
    intro i hi
    have hdollar : '$' ∈ ['x', '7'] := List.mem_of_getElem? hi.1
    simp at hdollar
  obtain ⟨-, hfixed, -⟩ := expand_rewrites s "$A$".toList
  rw [hexpand] at hfixed
  exact ⟨hexpand, hreduced, hfixed hreduced⟩

end CommandShell
