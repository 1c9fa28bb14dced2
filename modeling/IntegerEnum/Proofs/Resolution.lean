import IntegerEnum.Proofs.Chain
import IntegerEnum.Proofs.Claiming
import IntegerEnum.Proofs.Modifiers

/-! # Which declarations resolve

`WellFormed` states without any order of checks what a declaration must satisfy. Resolution accepts
the well-formed declarations and no others, and its result is then fixed by the declaration. -/
set_option autoImplicit false

namespace IntegerEnum

namespace VariantDecl

theorem alternativeRanges_eq_nil {v : VariantDecl} (bare : v.modifiersOf .alternatives = []) :
    v.alternativeRanges = [] := by
  rw [alternativeRanges, List.flatMap_eq_nil_iff]
  intro m member
  have other : m.kind ≠ .alternatives := by
    intro same
    have listed : m ∈ v.modifiersOf .alternatives := by simp [modifiersOf, member, same]
    rw [bare] at listed
    cases listed
  cases m with
  | byDefault span => rfl
  | catchAll span => rfl
  | alternatives entries span => exact (other rfl).elim

end VariantDecl

namespace EnumDecl

structure WellFormed (d : EnumDecl) : Prop where
  explicitInType : d.ExplicitInType
  alternativesInType : ∀ v ∈ d.variants, ∀ r ∈ v.alternativeRanges, d.integerType.Holds r
  /-- No integer is listed twice, by one variant or by two. -/
  apart : d.listedRanges.Pairwise ValueRange.Apart
  oneFallback : (d.variants.flatMap VariantDecl.modifiers).countP Modifier.isFallback ≤ 1
  catchAllShape : ∀ v ∈ d.variants, v.isCatchAll = true →
    v.modifiersOf .alternatives = [] ∧ v.fieldTypes = [d.integerType.name]
  unitShape : ∀ v ∈ d.variants, v.isCatchAll = false → v.fieldTypes = []
  oneErrorType : d.errorTypes.length ≤ 1

theorem holds_listedRanges_iff {d : EnumDecl} :
    (∀ r ∈ d.listedRanges, d.integerType.Holds r) ↔
      d.ExplicitInType ∧ ∀ v ∈ d.variants, ∀ r ∈ v.alternativeRanges, d.integerType.Holds r := by
  constructor
  · intro holds
    constructor
    · intro v member e isExplicit
      obtain ⟨i, place⟩ := List.mem_iff_getElem?.mp member
      have listed := holds _ (mem_listedRanges.mpr ⟨i, v, place, Or.inl rfl⟩)
      rw [chainValue_of_explicit place isExplicit] at listed
      exact IntegerType.holds_single.mp listed
    · intro v member r inVariant
      obtain ⟨i, place⟩ := List.mem_iff_getElem?.mp member
      exact holds r (mem_listedRanges.mpr ⟨i, v, place, Or.inr inVariant⟩)
  · rintro ⟨explicitInType, alternativesInType⟩ r listed
    obtain ⟨i, v, place, rfl | inVariant⟩ := mem_listedRanges.mp listed
    · exact IntegerType.holds_single.mpr (contains_chainValue explicitInType i)
    · exact alternativesInType v (List.mem_of_getElem? place) r inVariant

theorem shaped_iff {d : EnumDecl} :
    (∀ v ∈ d.variants, v.Shaped d.integerType) ↔
      (∀ v ∈ d.variants, v.isCatchAll = true →
        v.modifiersOf .alternatives = [] ∧ v.fieldTypes = [d.integerType.name]) ∧
      ∀ v ∈ d.variants, v.isCatchAll = false → v.fieldTypes = [] := by
  rw [← forall₂_and]
  refine forall₂_congr fun v _ => ?_
  rw [VariantDecl.Shaped]
  cases v.isCatchAll <;> simp

theorem values_entries_of_shaped {d : EnumDecl}
    (shaped : ∀ v ∈ d.variants, v.Shaped d.integerType) :
    d.entries.map Entry.values = d.listedRanges := by
  refine values_entries_of_bare_catchAll fun v member catchAll => ?_
  exact VariantDecl.alternativeRanges_eq_nil ((shaped_iff.mp shaped).1 v member catchAll).1

/-- Both passes of resolution succeed exactly on the well-formed declarations. -/
theorem wellFormed_iff {d : EnumDecl} :
    d.WellFormed ↔
      (∃ index, claimAll d.integerType d.entries = .ok index) ∧
        d.checkModifiers = .ok d.marks := by
  rw [claimAll_ok_iff, checkModifiers_eq_ok_iff, fallbackCount, ← countP_isFallback]
  constructor
  · intro h
    have shaped := shaped_iff.mpr ⟨h.catchAllShape, h.unitShape⟩
    rw [values_entries_of_shaped shaped, holds_listedRanges_iff]
    exact ⟨⟨⟨h.explicitInType, h.alternativesInType⟩, h.apart⟩, shaped, h.oneFallback,
      h.oneErrorType, rfl⟩
  · rintro ⟨claims, shaped, oneFallback, oneErrorType, _⟩
    rw [values_entries_of_shaped shaped, holds_listedRanges_iff] at claims
    obtain ⟨⟨explicitInType, alternativesInType⟩, apart⟩ := claims
    obtain ⟨catchAllShape, unitShape⟩ := shaped_iff.mp shaped
    exact ⟨explicitInType, alternativesInType, apart, oneFallback, catchAllShape, unitShape,
      oneErrorType⟩

end EnumDecl

theorem resolve_eq_ok_iff {d : EnumDecl} {m : Mapping} :
    resolve d = .ok m ↔ d.WellFormed ∧ d.mapping d.marks = m := by
  rw [EnumDecl.wellFormed_iff, resolve_eq]
  cases claimAll d.integerType d.entries with
  | error problem => simp
  | ok index =>
      cases checked : d.checkModifiers with
      | error problem => simp
      | ok marks =>
          obtain ⟨_, _, _, rfl⟩ := EnumDecl.checkModifiers_eq_ok_iff.mp checked
          simp

/-- The checks of modifiers are made once every value is claimed. -/
theorem resolve_eq_error_iff {d : EnumDecl} {problem : Diagnostic} :
    resolve d = .error problem ↔
      claimAll d.integerType d.entries = .error problem ∨
        (∃ index, claimAll d.integerType d.entries = .ok index) ∧
          d.checkModifiers = .error problem := by
  rw [resolve_eq]
  cases claimAll d.integerType d.entries with
  | error found => simp
  | ok index => cases d.checkModifiers <;> simp

theorem exists_resolve_iff_wellFormed {d : EnumDecl} : (∃ m, resolve d = .ok m) ↔ d.WellFormed := by
  constructor
  · rintro ⟨m, success⟩
    exact (resolve_eq_ok_iff.mp success).1
  · intro wellFormed
    exact ⟨d.mapping d.marks, resolve_eq_ok_iff.mpr ⟨wellFormed, rfl⟩⟩

end IntegerEnum
