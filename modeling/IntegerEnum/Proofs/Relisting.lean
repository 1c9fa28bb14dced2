import IntegerEnum.Proofs.Congruence
import IntegerEnum.Proofs.Interchange
import IntegerEnum.Proofs.Multiplicity

/-! # Listing the same integers otherwise

A declaration may list the integers of a variant in other ranges and in another order, and it may
order the variants otherwise as long as they keep their canonical values. As nothing is listed more
or less often than before, resolution accepts the one declaration exactly when it accepts the other,
and the mappings are interchangeable. -/
set_option autoImplicit false

namespace IntegerEnum
open ValueRange

namespace MappedVariant

theorem isMatch_iff_timesIn {v : MappedVariant} {n : Int} :
    v.isMatch n = true ↔ 0 < timesIn n v.matched := by
  rw [isMatch_iff, timesIn_pos_iff]

/-- Listed alternatives are compared integer by integer. -/
theorem actsLike_of_timesIn {u v : MappedVariant} (name : u.name = v.name)
    (value : u.value = v.value) (isDefault : u.isDefault = v.isDefault)
    (isCatchAll : u.isCatchAll = v.isCatchAll)
    (listed : ∀ n, timesIn n u.alternatives = timesIn n v.alternatives) : u.ActsLike v where
  name := name
  value := value
  isDefault := isDefault
  isCatchAll := isCatchAll
  alternatives := by simp only [eq_nil_iff_timesIn, listed]
  isMatch n := by
    have counted : timesIn n u.matched = timesIn n v.matched := by
      unfold matched
      rw [isCatchAll, value]
      split
      · rfl
      · rw [timesIn_cons, timesIn_cons, listed]
    rw [Bool.eq_iff_iff, isMatch_iff_timesIn, isMatch_iff_timesIn, counted]

end MappedVariant

namespace VariantDecl

/-- The entries of all alternatives modifiers, in order. -/
def alternatives (v : VariantDecl) : List Alternative := v.modifiers.flatMap Modifier.entries

theorem alternativeRanges_eq (v : VariantDecl) :
    v.alternativeRanges = v.alternatives.map Alternative.values := by
  rw [alternativeRanges, alternatives, List.map_flatMap]

/-- The variants list every integer equally often, and the checks tell them apart by their places
only. -/
structure ListsLike (w v : VariantDecl) : Prop where
  name : w.name = v.name
  fieldTypes : w.fieldTypes = v.fieldTypes
  fallbacks : ∀ kind, kind ≠ .alternatives →
    (w.modifiersOf kind).length = (v.modifiersOf kind).length
  bare : w.modifiersOf .alternatives = [] ↔ v.modifiersOf .alternatives = []
  listed : ∀ n, timesIn n w.alternativeRanges = timesIn n v.alternativeRanges

theorem ListsLike.refl (v : VariantDecl) : v.ListsLike v :=
  ⟨rfl, rfl, fun _ _ => rfl, Iff.rfl, fun _ => rfl⟩

section Alike
variable {w v : VariantDecl}

theorem ListsLike.has (alike : w.ListsLike v) {kind : ModifierKind} (marks : kind ≠ .alternatives) :
    w.has kind = v.has kind := by
  rw [Bool.eq_iff_iff, has_eq_true_iff, has_eq_true_iff, ← List.length_pos_iff,
    ← List.length_pos_iff, alike.fallbacks kind marks]

theorem ListsLike.isDefault (alike : w.ListsLike v) : w.isDefault = v.isDefault :=
  alike.has (by decide)

theorem ListsLike.isCatchAll (alike : w.ListsLike v) : w.isCatchAll = v.isCatchAll :=
  alike.has (by decide)

theorem ListsLike.shaped_iff (alike : w.ListsLike v) (t : IntegerType) :
    w.Shaped t ↔ v.Shaped t := by
  unfold Shaped
  rw [alike.isCatchAll, alike.bare, alike.fieldTypes]

theorem alternatives_resolved_perm (plain : v.isCatchAll = false) (value : Int) :
    (v.resolved value).alternatives.Perm v.alternativeRanges := by
  have taken := EnumDecl.taken_resolved_perm (v := v) value fun catchAll => by
    rw [plain] at catchAll
    contradiction
  exact taken.cons_inv

theorem ListsLike.actsLike (alike : w.ListsLike v) (value : Int) :
    (w.resolved value).ActsLike (v.resolved value) := by
  have sameValue : (w.resolved value).value = (v.resolved value).value := rfl
  apply MappedVariant.actsLike_of_timesIn alike.name sameValue alike.isDefault alike.isCatchAll
  intro n
  cases catchAll : v.isCatchAll with
  | true =>
      have wCatchAll := alike.isCatchAll.trans catchAll
      rw [resolved, resolved, if_pos catchAll, if_pos wCatchAll]
  | false =>
      have wPlain := alike.isCatchAll.trans catchAll
      rw [timesIn_perm (alternatives_resolved_perm wPlain value),
        timesIn_perm (alternatives_resolved_perm catchAll value), alike.listed]

/-- The variants differ in nothing but their places, the order of their modifiers and the
alternatives. -/
structure SameBesideAlternatives (w v : VariantDecl) : Prop where
  name : w.name = v.name
  explicitValue : w.explicitValue = v.explicitValue
  fieldTypes : w.fieldTypes = v.fieldTypes
  fallbacks : (w.modifiers.filter Modifier.isFallback).Perm (v.modifiers.filter Modifier.isFallback)

theorem SameBesideAlternatives.refl (v : VariantDecl) : v.SameBesideAlternatives v :=
  ⟨rfl, rfl, rfl, List.Perm.refl _⟩

theorem SameBesideAlternatives.valueOr (beside : w.SameBesideAlternatives v) (implied : Int) :
    w.valueOr implied = v.valueOr implied := by
  unfold VariantDecl.valueOr
  rw [beside.explicitValue]

theorem modifiersOf_filter_isFallback (v : VariantDecl) {kind : ModifierKind}
    (marks : kind ≠ .alternatives) :
    (v.modifiers.filter Modifier.isFallback).filter (fun m => m.kind = kind) =
      v.modifiersOf kind := by
  rw [List.filter_filter, modifiersOf]
  apply List.filter_congr
  intro m _
  cases kind with
  | alternatives => contradiction
  | byDefault => cases m <;> rfl
  | catchAll => cases m <;> rfl

/-- An alternatives modifier of a valid variant lists something. -/
theorem modifiersOf_alternatives_eq_nil_iff (valid : v.Valid) :
    v.modifiersOf .alternatives = [] ↔ v.alternativeRanges = [] := by
  constructor
  · exact alternativeRanges_eq_nil
  · intro unlisted
    apply List.eq_nil_iff_forall_not_mem.mpr
    intro m found
    obtain ⟨member, isAlternatives⟩ := List.mem_filter.mp found
    have nonempty := (valid.modifiers m member).nonempty (of_decide_eq_true isAlternatives)
    obtain ⟨e, listed⟩ := List.exists_mem_of_ne_nil _ nonempty
    have inRanges : e.values ∈ v.alternativeRanges :=
      List.mem_flatMap.mpr ⟨m, member, List.mem_map_of_mem listed⟩
    rw [unlisted] at inRanges
    cases inRanges

theorem SameBesideAlternatives.listsLike (beside : w.SameBesideAlternatives v) (wValid : w.Valid)
    (valid : v.Valid) (listed : ∀ n, timesIn n w.alternativeRanges = timesIn n v.alternativeRanges) :
    w.ListsLike v where
  name := beside.name
  fieldTypes := beside.fieldTypes
  fallbacks kind marks := by
    have carried := beside.fallbacks.filter fun m => m.kind = kind
    rw [modifiersOf_filter_isFallback _ marks, modifiersOf_filter_isFallback _ marks] at carried
    exact carried.length_eq
  bare := by
    rw [modifiersOf_alternatives_eq_nil_iff wValid, modifiersOf_alternatives_eq_nil_iff valid]
    simp only [eq_nil_iff_timesIn, listed]
  listed := listed

end Alike

end VariantDecl

namespace EnumDecl

/-- The variants, in some order, list like those of the declaration at the same values. -/
def RelistedBy (d : EnumDecl) (variants : List VariantDecl) : Prop :=
  ∃ pairs, pairs.Perm (d.withVariants variants).valued ∧
    List.Forall₂ (fun x y => x.1.ListsLike y.1 ∧ x.2 = y.2) pairs d.valued

theorem listedRanges_eq (d : EnumDecl) :
    d.listedRanges = d.valued.flatMap fun x => .single x.2 :: x.1.alternativeRanges := by
  rw [valued_eq, List.flatMap_map]
  rfl

theorem modifierCount_eq (d : EnumDecl) (kind : ModifierKind) :
    modifierCount kind d.variants = (d.valued.map fun x => (x.1.modifiersOf kind).length).sum := by
  have firsts : (d.valued.map fun x => (x.1.modifiersOf kind).length) =
      d.variants.map fun v => (v.modifiersOf kind).length := by
    rw [← d.map_fst_valued, List.map_map]
    rfl
  rw [modifierCount, List.length_flatMap, firsts]

/-- Variants that list the same integers otherwise, one by one, relist the declaration. -/
theorem relistedBy_of_forall₂ {d : EnumDecl} {variants : List VariantDecl} (valid : d.Valid)
    (otherValid : (d.withVariants variants).Valid) {R : VariantDecl → VariantDecl → Prop}
    (beside : ∀ w v, R w v → w.SameBesideAlternatives v)
    (listed : ∀ w v, R w v → ∀ n, timesIn n w.alternativeRanges = timesIn n v.alternativeRanges)
    (related : List.Forall₂ R variants d.variants) : d.RelistedBy variants := by
  have members := forall₂_of_members related otherValid.variants valid.variants
  refine ⟨_, List.Perm.refl _, (forall₂_valued ?_ members).imp ?_⟩
  · intro w v related
    exact (beside w v related.2.2).valueOr
  · intro x y paired
    obtain ⟨⟨wValid, vValid, related⟩, sameValue⟩ := paired
    have same := (beside _ _ related).listsLike wValid vValid (listed _ _ related)
    exact ⟨same, sameValue⟩

theorem forall_valued_iff {d : EnumDecl} {p : VariantDecl → Prop} :
    (∀ x ∈ d.valued, p x.1) ↔ ∀ v ∈ d.variants, p v := by
  rw [← d.map_fst_valued, List.forall_mem_map]

namespace RelistedBy
variable {d : EnumDecl} {variants : List VariantDecl} (relisted : d.RelistedBy variants)
include relisted

theorem onward : ∀ y ∈ d.valued,
    ∃ x ∈ (d.withVariants variants).valued, x.1.ListsLike y.1 ∧ x.2 = y.2 := by
  intro y member
  obtain ⟨pairs, order, alike⟩ := relisted
  obtain ⟨x, inPairs, same⟩ := exists_of_forall₂ alike y member
  exact ⟨x, order.mem_iff.mp inPairs, same⟩

theorem back : ∀ x ∈ (d.withVariants variants).valued,
    ∃ y ∈ d.valued, x.1.ListsLike y.1 ∧ x.2 = y.2 := by
  intro x member
  obtain ⟨pairs, order, alike⟩ := relisted
  exact exists_of_forall₂ alike.flip x (order.mem_iff.mpr member)

/-- What is added up over all variants is the same when it is the same for variants that list
alike. -/
theorem sum_eq {f : VariantDecl × Int → Nat}
    (same : ∀ w v value, w.ListsLike v → f (w, value) = f (v, value)) :
    ((d.withVariants variants).valued.map f).sum = (d.valued.map f).sum := by
  obtain ⟨pairs, order, alike⟩ := relisted
  have sums : pairs.map f = d.valued.map f := by
    apply map_eq_of_forall₂ alike
    rintro ⟨w, value⟩ ⟨v, _⟩ ⟨listsLike, rfl⟩
    exact same w v value listsLike
  rw [← sums]
  exact ((order.map f).sum_eq).symm

theorem timesIn_listedRanges (n : Int) :
    timesIn n (d.withVariants variants).listedRanges = timesIn n d.listedRanges := by
  rw [listedRanges_eq, listedRanges_eq, timesIn_flatMap, timesIn_flatMap]
  apply relisted.sum_eq
  intro w v value alike
  rw [timesIn_cons, timesIn_cons, alike.listed]

theorem fallbackCount : (d.withVariants variants).fallbackCount = d.fallbackCount := by
  have counts : ∀ kind, kind ≠ .alternatives →
      modifierCount kind (d.withVariants variants).variants = modifierCount kind d.variants := by
    intro kind marks
    rw [modifierCount_eq, modifierCount_eq]
    apply relisted.sum_eq
    intro w v value alike
    exact alike.fallbacks kind marks
  unfold EnumDecl.fallbackCount
  rw [counts .byDefault (by decide), counts .catchAll (by decide)]

theorem forall_shaped_iff (t : IntegerType) :
    (∀ w ∈ (d.withVariants variants).variants, w.Shaped t) ↔ ∀ v ∈ d.variants, v.Shaped t := by
  rw [← forall_valued_iff, ← forall_valued_iff]
  constructor
  · intro shaped y member
    obtain ⟨x, found, alike, _⟩ := relisted.onward y member
    exact (alike.shaped_iff t).mp (shaped x found)
  · intro shaped x member
    obtain ⟨y, found, alike, _⟩ := relisted.back x member
    exact (alike.shaped_iff t).mpr (shaped y found)

theorem wellFormed_iff : (d.withVariants variants).WellFormed ↔ d.WellFormed := by
  -- what is asked of a declaration are counts, and shapes of its variants one by one
  rw [wellFormed_iff_timesIn, wellFormed_iff_timesIn]
  simp only [relisted.timesIn_listedRanges, relisted.fallbackCount]
  have shapes := relisted.forall_shaped_iff d.integerType
  exact and_congr Iff.rfl (and_congr Iff.rfl (and_congr shapes Iff.rfl))

theorem interchanges (wMarks marks : Marks) :
    ((d.withVariants variants).mapping wMarks).Interchanges (d.mapping marks) where
  enumName := rfl
  integerType := rfl
  errorType := rfl
  onward := by
    intro v member
    obtain ⟨y, found, rfl⟩ := List.mem_map.mp member
    obtain ⟨x, inOther, alike, same⟩ := relisted.onward y found
    exact ⟨x.1.resolved x.2, List.mem_map_of_mem inOther, same ▸ alike.actsLike x.2⟩
  back := by
    intro u member
    obtain ⟨x, found, rfl⟩ := List.mem_map.mp member
    obtain ⟨y, inThis, alike, same⟩ := relisted.back x found
    exact ⟨y.1.resolved y.2, List.mem_map_of_mem inThis, same ▸ alike.actsLike x.2⟩

theorem accepted_iff :
    (∃ w, resolve (d.withVariants variants) = .ok w) ↔ ∃ m, resolve d = .ok m := by
  rw [exists_resolve_iff_wellFormed, exists_resolve_iff_wellFormed]
  exact relisted.wellFormed_iff

theorem interchanges_of_resolve {w m : Mapping}
    (wSuccess : resolve (d.withVariants variants) = .ok w) (success : resolve d = .ok m) :
    w.Interchanges m := by
  obtain ⟨_, rfl⟩ := resolve_eq_ok_iff.mp wSuccess
  obtain ⟨_, rfl⟩ := resolve_eq_ok_iff.mp success
  exact relisted.interchanges _ _

theorem variantNames_perm : (d.withVariants variants).variantNames.Perm d.variantNames := by
  obtain ⟨pairs, order, alike⟩ := relisted
  have names : pairs.map (fun x => x.1.name) = d.valued.map fun x => x.1.name :=
    map_eq_of_forall₂ alike fun _ _ same => same.1.name
  have ordered := order.map fun x => x.1.name
  rw [names] at ordered
  unfold variantNames
  rw [← d.map_fst_valued, ← map_fst_valued (d.withVariants variants), List.map_map, List.map_map]
  exact ordered.symm

theorem convertsLike (valid : d.Valid) {w m : Mapping}
    (wSuccess : resolve (d.withVariants variants) = .ok w) (success : resolve d = .ok m) :
    w.ConvertsLike m := by
  have same := relisted.interchanges_of_resolve wSuccess success
  have distinct : m.names.Nodup := Mapping.names_of_resolve success ▸ valid.distinct
  have wDistinct : w.names.Nodup := by
    rw [Mapping.names_of_resolve wSuccess]
    exact relisted.variantNames_perm.nodup_iff.mpr valid.distinct
  exact same.convertsLike (sound_of_resolve wSuccess) (sound_of_resolve success) wDistinct distinct

end RelistedBy

end EnumDecl

end IntegerEnum
