import IntegerEnum.Proofs.Batches
import IntegerEnum.Proofs.Coverage
import IntegerEnum.Proofs.Raising

/-! # Reports

A report on several families and a batch of their plans are both runs of `derive`: the report sorts
the families asked for into those with a plan and those without, the batch stops at the first
without. `Agrees` says this of one report; which families a mapping offers is `Mapping.Offers`.
`Planning` is what a planning comes to, the report of a rejected declaration included. -/
set_option autoImplicit false

namespace IntegerEnum

/-! ## Which families a mapping offers -/

namespace Mapping

/-- What each family needs: a total conversion an outcome for every integer, a reinterpretation that
every variant stands for its own value alone, a default value the variant marked so. -/
def Offers (m : Mapping) : Family → Prop
  | .toInteger | .fromIntegerFallible => True
  | .fromIntegerTotal =>
    m.isExhaustive = true ∨ (∃ v ∈ m.variants, v.isDefault = true) ∨
      ∃ v ∈ m.variants, v.isCatchAll = true
  | .fromIntegerUnchecked =>
    ∀ v ∈ m.variants, v.isDefault = false ∧ v.isCatchAll = false ∧ v.alternatives = []
  | .defaultValue => ∃ v ∈ m.variants, v.isDefault = true

/-- The name kept of the marked variants is missing exactly where none is marked. -/
theorem eq_none_iff_unmarked {kept : Option String} {variants : List MappedVariant}
    {mark : MappedVariant → Bool}
    (named : ∀ name, kept = some name ↔ ∃ v ∈ variants, mark v = true ∧ v.name = name) :
    kept = none ↔ ∀ v ∈ variants, mark v = false := by
  constructor
  · intro missing v member
    rw [← Bool.not_eq_true]
    intro marked
    have found := (named v.name).mpr ⟨v, member, marked, rfl⟩
    rw [missing] at found
    contradiction
  · intro unmarked
    cases found : kept with
    | none => rfl
    | some name =>
        obtain ⟨v, member, marked, _⟩ := (named name).mp found
        rw [unmarked v member] at marked
        contradiction

theorem ne_none_iff_marked {kept : Option String} {variants : List MappedVariant}
    {mark : MappedVariant → Bool}
    (named : ∀ name, kept = some name ↔ ∃ v ∈ variants, mark v = true ∧ v.name = name) :
    kept ≠ none ↔ ∃ v ∈ variants, mark v = true := by
  rw [Ne, eq_none_iff_unmarked named]
  simp

namespace Sound
variable {m : Mapping}

theorem exists_fallback?_iff (sound : m.Sound) :
    (∃ fallback, m.fallback? = some fallback) ↔ m.Offers .fromIntegerTotal := by
  rw [Offers, ← ne_none_iff_marked sound.defaultVariant_iff,
    ← ne_none_iff_marked sound.catchAllVariant_iff, fallback?]
  cases m.isExhaustive with
  | true => simp
  | false => cases m.defaultVariant <;> cases m.catchAllVariant <;> simp

theorem uncheckedBlockers_eq_nil_iff (sound : m.Sound) :
    m.uncheckedBlockers = [] ↔ m.Offers .fromIntegerUnchecked := by
  have bare : (m.variants.filter fun v => !v.alternatives.isEmpty) = [] ↔
      ∀ v ∈ m.variants, v.alternatives = [] := by
    simp [List.filter_eq_nil_iff]
  rw [uncheckedBlockers, List.append_eq_nil_iff, List.append_eq_nil_iff, List.map_eq_nil_iff,
    List.map_eq_nil_iff, List.map_eq_nil_iff, Option.toList_eq_nil_iff, Option.toList_eq_nil_iff,
    eq_none_iff_unmarked sound.defaultVariant_iff, eq_none_iff_unmarked sound.catchAllVariant_iff,
    bare, and_assoc, ← forall₂_and, ← forall₂_and, Offers]

/-- A family has a plan exactly when the mapping offers what it needs. -/
theorem derives_iff (sound : m.Sound) (family : Family) :
    (∃ plan, derive m family = .ok plan) ↔ m.Offers family := by
  cases family with
  | toInteger => exact iff_of_true ⟨_, rfl⟩ trivial
  | fromIntegerFallible => exact iff_of_true ⟨_, rfl⟩ trivial
  | fromIntegerTotal =>
      rw [← sound.exists_fallback?_iff, derive]
      cases m.fallback? <;> simp
  | fromIntegerUnchecked =>
      rw [← sound.uncheckedBlockers_eq_nil_iff, derive]
      cases m.uncheckedBlockers <;> simp
  | defaultValue =>
      rw [Offers, ← ne_none_iff_marked sound.defaultVariant_iff, derive]
      cases m.defaultVariant <;> simp

end Sound

end Mapping

/-! ## One report -/

/-- The report tells for each family asked for what `derive` makes of it, in the order of the first
requests, and the batch of these families succeeds or fails as the report says. -/
structure Report.Agrees (r : Report) (m : Mapping) (families : List Family) : Prop where
  mapping : r.mapping? = some m
  accepted : r.problem? = none
  plans : ∀ family plan, (family, plan) ∈ r.plans ↔
    family ∈ families ∧ derive m family = .ok plan
  unavailable : ∀ family problem, (family, problem) ∈ r.unavailable ↔
    family ∈ families ∧ derive m family = .error problem
  onEitherSide : ∀ family ∈ families,
    family ∈ r.plans.map Prod.fst ↔ family ∉ r.unavailable.map Prod.fst
  plansInOrder : (r.plans.map Prod.fst).Pairwise fun a b => families.idxOf a < families.idxOf b
  unavailableInOrder :
    (r.unavailable.map Prod.fst).Pairwise fun a b => families.idxOf a < families.idxOf b
  isOk : r.isOk = true ↔ ∃ plans, deriveAll m families = .ok plans
  batch : ∀ plans, deriveAll m families = .ok plans → plans = r.plans
  failure : ∀ problem, deriveAll m families = .error problem →
    r.errors.head? = some problem ∧
      ∃ before family after, families = before ++ family :: after ∧
        (∀ earlier ∈ before, ∃ plan, derive m earlier = .ok plan) ∧
          derive m family = .error problem

theorem agrees_resolved (enumName : String) (m : Mapping) (families : List Family) :
    (Report.resolved enumName m (availablePlans m families)
      (unavailableFamilies m families)).Agrees m families where
  mapping := rfl
  accepted := rfl
  plans family plan := mem_availablePlans
  unavailable family problem := mem_unavailableFamilies
  onEitherSide := by
    intro family member
    simp only [Report.plans, Report.unavailable, List.mem_map, Prod.exists, exists_and_right,
      exists_eq_right, mem_availablePlans, mem_unavailableFamilies, member, true_and]
    cases derive m family <;> simp
  plansInOrder := by
    change ((availablePlans m families).map Prod.fst).Pairwise _
    rw [availablePlans_eq]
    exact Family.keptOf_ordered m.plan? families
  unavailableInOrder := by
    change ((unavailableFamilies m families).map Prod.fst).Pairwise _
    rw [unavailableFamilies_eq]
    exact Family.keptOf_ordered m.problem? families
  isOk := by
    have first := head?_unavailableFamilies m families
    simp only [deriveAll_eq_ok_iff, exists_and_left, exists_eq', and_true, ← first]
    simp [Report.isOk, Report.problem?, Report.unavailable]
  batch plans success := (deriveAll_eq_ok_iff.mp success).2.symm
  failure := by
    intro problem failure
    have met := deriveAll_eq_error_iff.mp failure
    refine ⟨(head?_unavailableFamilies m families).trans met, ?_⟩
    obtain ⟨before, family, after, split, why, clean⟩ := List.findSome?_eq_some_iff.mp met
    exact ⟨before, family, after, split,
      fun earlier member => Mapping.problem?_eq_none_iff.mp (clean earlier member),
      Mapping.problem?_eq_some_iff.mp why⟩

theorem planConversions_of_requested {d : EnumDecl} {names : Option (List String)}
    {families : List Family} (requested : Family.Requested names families) :
    planConversions d names = .ok (reportOn d families) := by
  have asked := Family.requested_eq_ok_iff.mpr requested
  rw [planConversions, asked]
  cases resolve d <;> rfl

end IntegerEnum
