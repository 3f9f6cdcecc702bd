import CommandShell.Proofs.Line.Locality

/-!
# Expansion as one substitution

Where no value holds a `$`, what a reference brings in is not read as a reference, neither on its own nor
together with the text behind it. So the references of a line stand where they stood before anything was
replaced, and a line is expanded in one pass: it is split into the pieces of which it is made, and the
first references among them give way to their values, all at once.

The pieces are told by the line alone, without values, and without a scan that resumes in what it has
written.

## Main definitions
* `Line.Portion`, `Line.IsSplitInto`: what a line is made of.
* `Line.substituted`: the line with its first references replaced.

## Main results
* `Line.exists_isSplitInto`, `Line.IsSplitInto.unique`: a line is split in one way.
* `expandWith_eq_substituted`: expansion is a substitution, if no value holds a `$`.
* `expand_eq_substituted`: the expansion of a line in a session whose variables hold no `$`.
-/

namespace CommandShell

/-- The reference as it is written behind its `$`. -/
def Reference.source : Reference → Text
  | .processId => ['$']
  | .lastStatus => ['?']
  | .variable name => name

namespace Line

/-- A piece of a line. -/
inductive Portion
  | plain (c : Char)
  /-- A `$` that refers to nothing. -/
  | lone
  | reference (found : Reference)
  deriving DecidableEq

namespace Portion

/-- The piece as it is written. -/
def source : Portion → Text
  | plain c => [c]
  | lone => ['$']
  | reference found => '$' :: found.source

def isReference : Portion → Bool
  | reference _ => true
  | plain _ | lone => false

/-- The piece with its value in place of a reference. -/
def filled (value : Reference → Text) : Portion → Text
  | plain c => [c]
  | lone => ['$']
  | reference found => value found

end Portion

/-- The line is made of the pieces. A `$` is a piece of its own before a space and at the end. -/
inductive IsSplitInto : Text → List Portion → Prop
  | nil : IsSplitInto [] []
  | plain {c : Char} {rest : Text} {pieces : List Portion} (hc : c ≠ '$')
      (later : IsSplitInto rest pieces) : IsSplitInto (c :: rest) (.plain c :: pieces)
  | lone {rest : Text} {pieces : List Portion} (hrest : ∀ c ∈ rest.head?, c = ' ')
      (later : IsSplitInto rest pieces) : IsSplitInto ('$' :: rest) (.lone :: pieces)
  | reference {found : Reference} {behind rest : Text} {pieces : List Portion}
      (hopens : found.Opens behind rest) (later : IsSplitInto rest pieces) :
      IsSplitInto ('$' :: behind) (.reference found :: pieces)

/-- The pieces written one after another, each reference that less than `limit` others precede as its
value and everything else as it was. -/
def substituted (value : Reference → Text) (limit : Nat) (pieces : List Portion) : Text :=
  (pieces.mapIdx fun k piece =>
    if (pieces.take k).countP Portion.isReference < limit then piece.filled value
    else piece.source).flatten

/-! ## The pieces of a line -/

section

variable {line rest : Text} {pieces others : List Portion}

/-- Nothing is read behind a `$` exactly before a space and at the end. -/
theorem read_eq_none_iff : Reference.read rest = none ↔ ∀ c ∈ rest.head?, c = ' ' := by
  have hread : (Reference.read rest).isSome ↔ ∃ c, rest.head? = some c ∧ c ≠ ' ' := by
    rw [← isReducibleAt_zero_iff_read, isReducibleAt_zero]
    simp
  rw [← Option.not_isSome_iff_eq_none, hread]
  simp

theorem not_opens_of_lone {found : Reference} {tail : Text} (h : ∀ c ∈ rest.head?, c = ' ') :
    ¬ found.Opens rest tail := by
  intro hopens
  have hnone := read_eq_none_iff.mpr h
  rw [read_eq_some_iff.mpr hopens] at hnone
  exact Option.some_ne_none _ hnone

/-- Nothing is lost: the pieces as they are written are the line. -/
theorem IsSplitInto.flatMap_source (h : IsSplitInto line pieces) :
    pieces.flatMap Portion.source = line := by
  induction h with
  | nil => rfl
  | plain hc later ih => simp [Portion.source, ih]
  | lone hrest later ih => simp [Portion.source, ih]
  | reference hopens later ih =>
      cases hopens <;> simp [Portion.source, Reference.source, ih]

/-- **A line is split in one way only.** -/
theorem IsSplitInto.unique (h : IsSplitInto line pieces) (h' : IsSplitInto line others) :
    pieces = others := by
  induction h generalizing others with
  | nil => cases h'; rfl
  | plain hc later ih =>
      cases h' with
      | plain _ later' => rw [ih later']
      | lone => exact absurd rfl hc
      | reference => exact absurd rfl hc
  | lone hrest later ih =>
      cases h' with
      | plain hc => exact absurd rfl hc
      | lone _ later' => rw [ih later']
      | reference hopens => exact (not_opens_of_lone hrest hopens).elim
  | reference hopens later ih =>
      cases h' with
      | plain hc => exact absurd rfl hc
      | lone hrest => exact (not_opens_of_lone hrest hopens).elim
      | reference hopens' later' =>
          have hread := (read_eq_some_iff.mpr hopens).symm.trans (read_eq_some_iff.mpr hopens')
          obtain ⟨rfl, rfl⟩ := Prod.mk.inj (Option.some.inj hread)
          rw [ih later']

theorem exists_isSplitInto (line : Text) : ∃ pieces, IsSplitInto line pieces := by
  induction hn : line.length using Nat.strong_induction_on generalizing line with
  | _ n ih =>
    subst hn
    cases line with
    | nil => exact ⟨[], .nil⟩
    | cons c rest =>
        by_cases hc : c = '$'
        · subst hc
          cases hread : Reference.read rest with
          | none =>
              obtain ⟨pieces, hpieces⟩ := ih _ (Nat.lt_succ_self _) rest rfl
              exact ⟨_, .lone (read_eq_none_iff.mp hread) hpieces⟩
          | some found =>
              obtain ⟨found, tail⟩ := found
              have hopens := read_eq_some_iff.mp hread
              have hlength := length_le_of_opens hopens
              obtain ⟨pieces, hpieces⟩ := ih _ (by simpa using Nat.lt_succ_of_le hlength) tail rfl
              exact ⟨_, .reference hopens hpieces⟩
        · obtain ⟨pieces, hpieces⟩ := ih _ (Nat.lt_succ_self _) rest rfl
          exact ⟨_, .plain hc hpieces⟩

end

/-! ## Pieces written -/

section

variable {value : Reference → Text} {piece : Portion} {pieces : List Portion}

theorem substituted_cons_of_not_isReference (h : piece.isReference = false) (limit : Nat) :
    substituted value limit (piece :: pieces) = piece.source ++ substituted value limit pieces := by
  have hfilled : piece.filled value = piece.source := by
    cases piece <;> simp_all [Portion.isReference, Portion.filled, Portion.source]
  simp [substituted, List.mapIdx_cons, h, hfilled]

theorem substituted_cons_reference (found : Reference) (limit : Nat) :
    substituted value (limit + 1) (.reference found :: pieces) =
      value found ++ substituted value limit pieces := by
  have hreference : (Portion.reference found).isReference = true := rfl
  have hfilled : (Portion.reference found).filled value = value found := rfl
  simp [substituted, List.mapIdx_cons, hreference, hfilled]

theorem substituted_zero (value : Reference → Text) (pieces : List Portion) :
    substituted value 0 pieces = pieces.flatMap Portion.source := by
  induction pieces with
  | nil => rfl
  | cons piece pieces ih =>
      rw [List.flatMap_cons, ← ih]
      simp [substituted, List.mapIdx_cons]

end

end Line

open Line

/-! ## Expansion -/

section

variable {value : Reference → Text}

/-- A text without `$` is passed over. -/
theorem expandWith_append_of_not_mem (value : Reference → Text) (budget : Nat) {xs : Text}
    (h : '$' ∉ xs) (ys : Text) :
    expandWith value budget (xs ++ ys) = xs ++ expandWith value budget ys := by
  induction xs with
  | nil => rfl
  | cons c xs ih =>
      obtain ⟨hc, hxs⟩ : '$' ≠ c ∧ '$' ∉ xs := by simpa using h
      rw [List.cons_append, expandWith_cons_of_ne value budget hc.symm, ih hxs, List.cons_append]

/-- **Expansion is one substitution, if no value holds a `$`.** -/
theorem expandWith_eq_substituted (hvalue : ∀ found, '$' ∉ value found) {line : Text}
    {pieces : List Portion} (h : IsSplitInto line pieces) (budget : Nat) :
    expandWith value budget line = substituted value budget pieces := by
  induction h generalizing budget with
  | nil => simp [substituted]
  | plain hc later ih =>
      rw [expandWith_cons_of_ne value budget hc, ih, substituted_cons_of_not_isReference rfl]
      rfl
  | lone hrest later ih =>
      rw [expandWith_of_read_eq_none (read_eq_none_iff.mpr hrest), ih,
        substituted_cons_of_not_isReference rfl]
      rfl
  | @reference found behind rest pieces hopens later ih =>
      cases budget with
      | zero =>
          have hsplit : IsSplitInto ('$' :: behind) (.reference found :: pieces) := .reference hopens later
          rw [expandWith_zero, substituted_zero, hsplit.flatMap_source]
      | succ budget =>
          rw [expandWith_of_read_eq_some (read_eq_some_iff.mpr hopens),
            expandWith_append_of_not_mem value budget (hvalue found), ih, substituted_cons_reference]

end

/-! ## Sessions -/

theorem dollar_not_mem_text (status : Status) : '$' ∉ status.text := by
  rw [Status.text, integer]
  have hnumber : ∀ n, '$' ∉ natural n := not_mem_natural (by decide)
  split <;> simp [hnumber]

/-- A number holds no `$`, so no reference brings one in if no variable does. -/
theorem Session.dollar_not_mem_value {s : Session}
    (h : ∀ entry ∈ s.env.entries, '$' ∉ Utf8.decodeLossy entry.2) (found : Reference) :
    '$' ∉ s.value found := by
  rcases found with _ | _ | name
  · exact not_mem_natural (by decide) _
  · exact dollar_not_mem_text _
  · rw [value]
    cases hget : s.env.getLossy? name with
    | none => simp
    | some text =>
        obtain ⟨entry, hentry, rfl⟩ := Environment.exists_entry_of_getLossy? hget
        exact h entry hentry

/-- **A line is expanded in one pass, if no variable holds a `$`.** It is made of certain pieces and of no
others: characters, `$` that refer to nothing, and references. The first references, as many as the limit
admits, give way to their values at once, and everything else is written as it stands. -/
theorem expand_eq_substituted (s : Session)
    (h : ∀ entry ∈ s.env.entries, '$' ∉ Utf8.decodeLossy entry.2) (line : Text) :
    ∃ pieces, (∀ others, IsSplitInto line others ↔ others = pieces) ∧
      pieces.flatMap Portion.source = line ∧
      expand s.value line = substituted s.value substitutionLimit pieces := by
  obtain ⟨pieces, hpieces⟩ := exists_isSplitInto line
  refine ⟨pieces, fun others => ⟨fun hothers => hothers.unique hpieces, ?_⟩, hpieces.flatMap_source,
    expandWith_eq_substituted (s.dollar_not_mem_value h) hpieces substitutionLimit⟩
  rintro rfl
  exact hpieces

/-- With `b c` for `A`, the value in `x$A$ $?$B` stands before a `$` that refers to nothing, and stays
before it. -/
theorem expand_eq_substituted_of_lone :
    let env : Environment := ⟨[(Utf8.encode ['A'], Utf8.encode "b c".toList)]⟩
    let s := Session.new "husk".toList 7 env ⟨.empty, .root⟩
    (∀ entry ∈ s.env.entries, '$' ∉ Utf8.decodeLossy entry.2) ∧
      IsSplitInto "x$A$ $?$B".toList [.plain 'x', .reference (.variable ['A']), .lone, .plain ' ',
        .reference .lastStatus, .reference (.variable ['B'])] ∧
      expand s.value "x$A$ $?$B".toList = "xb c$ 0".toList := by
  intro env s
  have hvalues : ∀ entry ∈ s.env.entries, '$' ∉ Utf8.decodeLossy entry.2 := by decide
  have hopens : ∀ {behind rest : Text} {found : Reference},
      Reference.read behind = some (found, rest) → found.Opens behind rest := read_eq_some_iff.mp
  have hsplit : IsSplitInto "x$A$ $?$B".toList [.plain 'x', .reference (.variable ['A']), .lone,
      .plain ' ', .reference .lastStatus, .reference (.variable ['B'])] :=
    .plain (by decide) (.reference (hopens rfl) (.lone (fun _ hc => (Option.some.inj hc).symm)
      (.plain (by decide) (.reference (hopens rfl) (.reference (hopens rfl) .nil)))))
  obtain ⟨pieces, hpieces, -, hexpand⟩ := expand_eq_substituted s hvalues "x$A$ $?$B".toList
  obtain rfl := (hpieces _).mp hsplit
  exact ⟨hvalues, hsplit, hexpand.trans (by decide)⟩

end CommandShell
