import CommandShell.Chain
import CommandShell.Proofs.Line.Partition

/-!
# Where a semicolon goes

An unquoted `;` belongs to a run of operator characters, and the run is a token of its own. Its first two
characters tell what the token is: a connector, an operator that can stand nowhere, or neither. The last
happens if the run begins with a `&` and a `|`, in either order; then the run is taken for a word, with
the `;` in it.

## Main definitions
* `Token.isMixed`: the runs that are neither connectors nor refused.
* `Holds`, `HoldsSemicolon`: the token in which a place of the line lies.

## Main results
* `connector_or_doubled_or_mixed`: the three kinds of runs with a `;`.
* `exists_run_of_holdsSemicolon`: an unquoted `;` lies in a run that is a token.
-/

namespace CommandShell

/-- The token begins with two operator characters that are no connector together and no `;` either. -/
def Token.isMixed : Token → Bool
  | '&' :: '|' :: _ | '|' :: '&' :: _ => true
  | _ => false

/-- The token with the number `m` holds the place `i` of the line. -/
def Holds (text : Text) (m i : Nat) : Prop :=
  ∃ k, (visible text)[k]? = some i ∧ pieceIndex (tokens text) k = m

/-- A semicolon outside quotes stands at the place. -/
def IsSemicolonAt (text : Text) (i : Nat) : Prop :=
  text[i]? = some ';' ∧ IsUnquotedAt text i

/-- The token with the number `m` holds a semicolon that stands outside quotes in the line. -/
def HoldsSemicolon (text : Text) (m : Nat) : Prop :=
  ∃ i, Holds text m i ∧ IsSemicolonAt text i

/-! ## Kinds of runs -/

/-- **A run with a `;` in it is a connector, is doubled or is mixed.** -/
theorem connector_or_doubled_or_mixed {token : Token} (h : ∀ c ∈ token, isOperatorChar c)
    (hmem : ';' ∈ token) : token.connector?.isSome ∨ token.isDoubled ∨ token.isMixed := by
  have hcases : ∀ c ∈ token, c = ';' ∨ c = '&' ∨ c = '|' := by
    intro c hc
    simpa [isOperatorChar, or_assoc] using h c hc
  rcases token with _ | ⟨c, _ | ⟨d, rest⟩⟩
  · simp at hmem
  · obtain rfl : ';' = c := by simpa using hmem
    exact .inl rfl
  · rcases hcases c (by simp) with rfl | rfl | rfl
    · exact .inl rfl
    · rcases hcases d (by simp) with rfl | rfl | rfl
      · exact .inr (.inl rfl)
      · exact .inl rfl
      · exact .inr (.inr rfl)
    · rcases hcases d (by simp) with rfl | rfl | rfl
      · exact .inr (.inl rfl)
      · exact .inr (.inr rfl)
      · exact .inl rfl

theorem connector?_of_isMixed {token : Token} (h : token.isMixed) : token.connector? = none := by
  unfold Token.isMixed at h
  split at h
  · rfl
  · rfl
  · simp at h

/-! ## The token of a place -/

section

variable {α : Type}

/-- Every element lies in the piece that its number leads to. -/
theorem exists_piece_of_getElem? {pieces : List (List α)} {k : Nat} {a : α}
    (h : pieces.flatten[k]? = some a) :
    ∃ piece, pieces[pieceIndex pieces k]? = some piece ∧ a ∈ piece := by
  induction pieces generalizing k with
  | nil => simp at h
  | cons piece rest ih =>
      rw [List.flatten_cons] at h
      by_cases hk : k < piece.length
      · rw [List.getElem?_append_left hk] at h
        exact ⟨piece, by simp [pieceIndex, hk], List.mem_of_getElem? h⟩
      · rw [List.getElem?_append_right (by omega)] at h
        obtain ⟨other, hother, ha⟩ := ih h
        exact ⟨other, by simpa [pieceIndex, hk] using hother, ha⟩

end

/-- The cells of one token are all set apart, or none of them is. -/
theorem isApart_eq_of_mem_splitBy {gs group : List Cell} (hgroup : group ∈ gs.splitBy Cell.joins)
    {g h : Cell} (hg : g ∈ group) (hh : h ∈ group) : g.isApart = h.isApart := by
  have hsymm : Std.Symm fun a b : Cell => a.isApart = b.isApart := ⟨fun _ _ hab => hab.symm⟩
  have hchain : group.IsChain fun a b => a.isApart = b.isApart := by
    refine (List.isChain_of_mem_splitBy hgroup).imp fun a b hab => ?_
    simp only [Cell.joins, Bool.and_eq_true, beq_iff_eq] at hab
    exact hab.2.symm
  have hpairwise : group.Pairwise fun a b => a.isApart = b.isApart :=
    List.isChain_iff_pairwise.mp hchain
  exact List.Pairwise.forall_of_forall (R := fun a b => a.isApart = b.isApart) (fun _ _ => rfl)
    hpairwise hg hh

/-- What shows at a place of a run is so of the run: if it shows there that the run is set apart, it
shows at the first place too. -/
theorem isApartAt_of_isApart {text rest : Text} {i : Nat} {c : Char}
    (hdrop : text.drop i = c :: rest) (h : IsOperatorAt text i) (hapart : isApart c rest) :
    IsApartAt text i := by
  induction i generalizing c rest with
  | zero => exact (isApartAt_iff_isApart hdrop h (.inl rfl)).mpr hapart
  | succ i ih =>
      by_cases hbefore : IsOperatorAt text i
      · obtain ⟨d, hd⟩ : ∃ d, text[i]? = some d := ⟨_, hbefore.1.choose_spec.1⟩
        have hdrop' : text.drop i = d :: c :: rest := by
          rw [List.drop_eq_getElem?_toList_append, hd, hdrop]
          rfl
        have hc : isOperatorChar c := by
          obtain ⟨⟨e, he, hoperator⟩, -⟩ := h
          rw [getElem?_of_drop hdrop] at he
          rwa [Option.some.inj he]
        have hfirst : isApart d (c :: rest) := by simp [isApart, hc]
        exact (isApartAt_succ_iff hbefore h).mpr (ih hdrop' hbefore hfirst)
      · exact (isApartAt_iff_isApart hdrop h (.inr hbefore)).mpr hapart

/-- A semicolon outside quotes belongs to a run that is set apart. -/
theorem IsSemicolonAt.isApartAt {text : Text} {i : Nat} (h : IsSemicolonAt text i) :
    IsApartAt text i := by
  obtain ⟨hsemicolon, hquote⟩ := h
  have hdrop : text.drop i = ';' :: text.drop (i + 1) := by
    rw [List.drop_eq_getElem?_toList_append, hsemicolon]
    rfl
  exact isApartAt_of_isApart hdrop ⟨⟨';', hsemicolon, rfl⟩, hquote⟩ rfl

/-- Before the comment every semicolon outside quotes lies in a token. -/
theorem exists_holds_of_isSemicolonAt {text : Text} {i : Nat} (hkept : i < (kept text).length)
    (h : IsSemicolonAt text i) : ∃ m, Holds text m i := by
  have hgap : ¬ IsGapAt text i := by
    rintro ⟨hspace, -⟩
    simp [h.1] at hspace
  have hvisible : i ∈ visible text := by simp [visible, hkept, hgap]
  obtain ⟨k, hk⟩ := List.mem_iff_getElem?.mp hvisible
  exact ⟨_, k, hk, rfl⟩

/-- **A token that holds a semicolon outside quotes consists of operator characters.** Its cell there is
set apart, and so are all others of the token. -/
theorem exists_run_of_holdsSemicolon {text : Text} {m : Nat} (h : HoldsSemicolon text m) :
    ∃ token, (tokens text)[m]? = some token ∧ ';' ∈ token ∧ ∀ c ∈ token, isOperatorChar c := by
  obtain ⟨i, ⟨k, hk, rfl⟩, hsemicolon⟩ := h
  rw [← map_place_inked, List.getElem?_map, Option.map_eq_some_iff] at hk
  obtain ⟨g, hg, rfl⟩ := hk
  have hdescribed := describes_of_mem_inked (List.mem_of_getElem? hg)
  have hpiece := hg
  rw [← List.flatten_splitBy Cell.joins (inked (cells text))] at hpiece
  obtain ⟨group, hgroup, hmem⟩ := exists_piece_of_getElem? hpiece
  refine ⟨group.map Cell.char, ?_, ?_, ?_⟩
  · rw [tokens_eq_splitBy, pieceIndex_map, List.getElem?_map, hgroup]
    rfl
  · have hchar : ';' = g.char := by simpa [hsemicolon.1] using hdescribed.char_eq
    exact List.mem_map.mpr ⟨g, hmem, hchar.symm⟩
  · intro c hc
    obtain ⟨other, hother, rfl⟩ := List.mem_map.mp hc
    have hinked : other ∈ inked (cells text) := by
      rw [← List.flatten_splitBy Cell.joins (inked (cells text))]
      exact List.mem_flatten.mpr ⟨group, List.mem_of_getElem? hgroup, hother⟩
    have hapart : other.isApart := by
      rw [isApart_eq_of_mem_splitBy (List.mem_of_getElem? hgroup) hother hmem]
      exact hdescribed.apart_iff.mpr hsemicolon.isApartAt
    have hother' := describes_of_mem_inked hinked
    obtain ⟨⟨d, hd, hoperator⟩, -⟩ := (hother'.apart_iff.mp hapart).isOperatorAt
    obtain rfl : other.char = d := by simpa [hother'.char_eq] using hd
    exact hoperator

end CommandShell
