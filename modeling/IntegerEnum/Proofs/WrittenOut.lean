import IntegerEnum.Proofs.Congruence
import IntegerEnum.Proofs.Failures

/-! # Values written out

A declaration may state for every variant the value that it takes anyway. A stated value has to lie
in the type, and a counted one does so on its own, even where the count wraps around: a run that
checks stated values only claims the same as one that checks all. The written-out declaration is
therefore accepted with the same mapping or refused with the same problem. -/
set_option autoImplicit false

namespace IntegerEnum

def VariantDecl.withValue (v : VariantDecl) (value : Int) : VariantDecl :=
  { v with explicitValue := some (v.explicitValue.getD ⟨value, none⟩) }

def EnumDecl.writtenOut (d : EnumDecl) : EnumDecl :=
  d.withVariants (d.variants.zipIdx.map fun (v, i) => v.withValue (d.chainValue i))

namespace VariantDecl

theorem valueOr_withValue (v : VariantDecl) (value implied : Int) :
    (v.withValue value).valueOr implied = v.valueOr value := by
  unfold valueOr withValue
  cases v.explicitValue <;> rfl

/-- A stated value without a text is mapped like an implied one. -/
theorem resolvesLike_withValue (v : VariantDecl) (value : Int) :
    (v.withValue value).ResolvesLike value v where
  fault? _ _ := rfl
  addMarks _ := rfl
  entries := rfl
  resolved := by
    unfold resolved withValue
    cases v.explicitValue <;> rfl

theorem Valid.withValue {v : VariantDecl} (valid : v.Valid) (value : Int) :
    (v.withValue value).Valid where
  name := valid.name
  explicitValue := by
    intro e stated
    cases declared : v.explicitValue with
    | none =>
        simp only [VariantDecl.withValue, declared] at stated
        cases stated
        intro empty
        cases empty
    | some expr =>
        simp only [VariantDecl.withValue, declared] at stated
        cases stated
        exact valid.explicitValue _ declared
  modifiers := valid.modifiers
  span := valid.span

end VariantDecl

namespace EnumDecl

theorem variants_writtenOut (d : EnumDecl) :
    d.writtenOut.variants = d.valued.map fun x => x.1.withValue x.2 := by
  rw [valued_eq, List.map_map]
  rfl

theorem explicit_writtenOut (d : EnumDecl) :
    ∀ v ∈ d.writtenOut.variants, v.explicitValue ≠ none := by
  intro v member
  rw [variants_writtenOut] at member
  obtain ⟨x, _, rfl⟩ := List.mem_map.mp member
  simp [VariantDecl.withValue]

theorem valueOr_of_mem_valued {d : EnumDecl} {x : VariantDecl × Int} (member : x ∈ d.valued) :
    x.1.valueOr x.2 = x.2 := by
  rw [valued_eq] at member
  obtain ⟨⟨v, i⟩, found, rfl⟩ := List.mem_map.mp member
  have place := List.mem_zipIdx_iff_getElem?.mp found
  unfold VariantDecl.valueOr
  cases declared : v.explicitValue with
  | none => rfl
  | some e => exact (chainValue_of_explicit place declared).symm

/-- What is stated is what was counted, so the variants keep their values. -/
theorem valued_writtenOut (d : EnumDecl) :
    d.writtenOut.valued = d.valued.map fun x => (x.1.withValue x.2, x.2) := by
  rw [valued_of_explicit d.explicit_writtenOut, variants_writtenOut, List.map_map]
  apply List.map_congr_left
  intro x member
  have stated : (x.1.withValue x.2).valueOr 0 = x.2 := by
    rw [VariantDecl.valueOr_withValue, valueOr_of_mem_valued member]
  exact congrArg (Prod.mk (x.1.withValue x.2)) stated

theorem resolvesLike_writtenOut (d : EnumDecl) :
    List.Forall₂ (fun x y => x.1.ResolvesLike y.2 y.1 ∧ x.2 = y.2)
      d.writtenOut.valued d.valued := by
  rw [valued_writtenOut, List.forall₂_map_left_iff, List.forall₂_same]
  intro x _
  exact ⟨x.1.resolvesLike_withValue x.2, rfl⟩

theorem resolve_writtenOut (d : EnumDecl) : resolve d.writtenOut = resolve d :=
  resolve_withVariants d.resolvesLike_writtenOut

/-- Checked like any stated value, the counted ones are claimed as they are without the check. -/
theorem claimAll_writtenOut (d : EnumDecl) :
    claimAll d.integerType d.writtenOut.entries = claimVariants d.integerType 0 [] d.variants := by
  have sameEntries : d.writtenOut.entries = d.entries :=
    entries_withVariants d.resolvesLike_writtenOut
  rw [sameEntries, claimVariants_eq d.variants d.integerType.contains_zero]
  rfl

theorem variantNames_writtenOut (d : EnumDecl) : d.writtenOut.variantNames = d.variantNames := by
  unfold variantNames
  rw [variants_writtenOut, List.map_map, ← d.map_fst_valued, List.map_map]
  rfl

theorem valid_writtenOut {d : EnumDecl} (valid : d.Valid) : d.writtenOut.Valid where
  name := valid.name
  nonempty := by
    intro empty
    have unnamed : d.writtenOut.variantNames = [] := by rw [variantNames, empty, List.map_nil]
    rw [variantNames_writtenOut, variantNames, List.map_eq_nil_iff] at unnamed
    exact valid.nonempty unnamed
  variants := by
    intro w member
    rw [variants_writtenOut] at member
    obtain ⟨x, found, rfl⟩ := List.mem_map.mp member
    have declared : x.1 ∈ d.variants := d.map_fst_valued ▸ List.mem_map_of_mem found
    exact (valid.variants x.1 declared).withValue x.2
  distinct := by
    rw [variantNames_writtenOut]
    exact valid.distinct
  errorTypes := valid.errorTypes

end EnumDecl

/-- Stating the values that are counted changes nothing. The written-out declaration claims, with a
check of every value, what the other one claims with a check of the values that it states, and
resolution has the same outcome, be it a mapping or a problem. -/
theorem writing_values_out_changes_nothing (d : EnumDecl) :
    (∀ v ∈ d.writtenOut.variants, v.explicitValue ≠ none) ∧
    (d.Valid → d.writtenOut.Valid) ∧
    claimAll d.integerType d.writtenOut.entries = claimVariants d.integerType 0 [] d.variants ∧
    resolve d.writtenOut = resolve d :=
  ⟨d.explicit_writtenOut, EnumDecl.valid_writtenOut, d.claimAll_writtenOut, d.resolve_writtenOut⟩

def EnumDecl.wrapping : EnumDecl where
  name := "Level"
  integerType := ⟨.i8, .bits64⟩
  variants :=
    [{ name := "Low", explicitValue := some ⟨-128, some "i8::MIN"⟩ },
      { name := "High", explicitValue := some ⟨126, none⟩ },
      { name := "Top", modifiers := [.alternatives [.range ⟨0, 9, true, by decide⟩] none] },
      { name := "Next", span := some { line := some 5 } }]

theorem writing_values_out_changes_nothing_level :
    EnumDecl.wrapping.writtenOut.Valid ∧
      EnumDecl.wrapping.writtenOut.explicitAt 2 = some 127 ∧
      EnumDecl.wrapping.writtenOut.explicitAt 3 = some (-128) ∧
      resolve EnumDecl.wrapping.writtenOut =
        .error ⟨.collision (-128) "Low" "Next", some { line := some 5 }⟩ ∧
      resolve EnumDecl.gear.writtenOut = .ok Mapping.gear := by
  obtain ⟨_, valid, _, refused⟩ := writing_values_out_changes_nothing EnumDecl.wrapping
  obtain ⟨_, _, _, accepted⟩ := writing_values_out_changes_nothing EnumDecl.gear
  have wraps : resolve EnumDecl.wrapping =
      .error ⟨.collision (-128) "Low" "Next", some { line := some 5 }⟩ := by decide
  exact ⟨valid (by decide), by decide, by decide, refused.trans wraps, accepted.trans resolve_gear⟩

end IntegerEnum
