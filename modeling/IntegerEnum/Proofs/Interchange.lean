import IntegerEnum.Proofs.Noninterference
import IntegerEnum.Proofs.ReadBack
import IntegerEnum.Proofs.Unchecked

/-! # Mappings that no conversion tells apart

Conversions look at a variant's name, value and marks and at the integers that it matches, not at
the ranges in which it lists them. As an integer has one owner at most, they do not look at the
order of the variants either. Two mappings whose variants have counterparts in each other, in
whatever order, therefore offer the same families, and their plans evaluate alike. -/
set_option autoImplicit false

namespace IntegerEnum

/-- The variants agree in all but the text and the ranges in which values are listed. -/
structure MappedVariant.ActsLike (u v : MappedVariant) : Prop where
  name : u.name = v.name
  value : u.value = v.value
  isDefault : u.isDefault = v.isDefault
  isCatchAll : u.isCatchAll = v.isCatchAll
  alternatives : u.alternatives = [] ↔ v.alternatives = []
  isMatch : ∀ n, u.isMatch n = v.isMatch n

/-- The variants agree in all but the integers that they list. -/
structure MappedVariant.MarkedLike (u v : MappedVariant) : Prop where
  name : u.name = v.name
  value : u.value = v.value
  isDefault : u.isDefault = v.isDefault
  isCatchAll : u.isCatchAll = v.isCatchAll

theorem MappedVariant.ActsLike.markedLike {u v : MappedVariant} (acts : u.ActsLike v) :
    u.MarkedLike v :=
  ⟨acts.name, acts.value, acts.isDefault, acts.isCatchAll⟩

namespace Mapping

/-- Every variant of either mapping is related to one of the other, of the same name, value and
marks. -/
structure Pairs (related : MappedVariant → MappedVariant → Prop) (w m : Mapping) : Prop where
  onward : ∀ v ∈ m.variants, ∃ u ∈ w.variants, related u v
  back : ∀ u ∈ w.variants, ∃ v ∈ m.variants, related u v
  marked : ∀ {u v : MappedVariant}, related u v → u.MarkedLike v

/-- Every variant of either mapping has a counterpart in the other. -/
structure Interchanges (w m : Mapping) : Prop where
  enumName : w.enumName = m.enumName
  integerType : w.integerType = m.integerType
  errorType : w.errorType = m.errorType
  onward : ∀ v ∈ m.variants, ∃ u ∈ w.variants, u.ActsLike v
  back : ∀ u ∈ w.variants, ∃ v ∈ m.variants, u.ActsLike v

/-- The same families can be derived of both mappings, and their plans find the same variants and
evaluate alike. -/
def ConvertsLike (w m : Mapping) : Prop :=
  ∀ family, ((∃ q, derive w family = .ok q) ↔ ∃ p, derive m family = .ok p) ∧
    ∀ q p, derive w family = .ok q → derive m family = .ok p →
      (∀ n, (q.lookup n).map TableRow.variant = (p.lookup n).map TableRow.variant) ∧
        q.EvaluatesLike p

section Rows
variable {m : Mapping}

theorem lookup_name_eq_some_iff (sound : m.Sound) {n : Int} {name : String} :
    (m.lookup n).map MappedVariant.name = some name ↔
      ∃ v ∈ m.variants, v.isMatch n = true ∧ v.name = name := by
  simp only [Option.map_eq_some_iff, sound.lookup_eq_some_iff, and_assoc]

/-- The value that stands in a table under a name is that of a variant which is no catch-all. -/
theorem value_eq_some_iff (distinct : m.names.Nodup) {name : String} {value : Int} :
    (m.toIntegerPlan.rowOf? name).map TableRow.value = some value ↔
      ∃ v ∈ m.variants, v.isCatchAll = false ∧ v.name = name ∧ v.value = value := by
  rw [Option.map_eq_some_iff]
  constructor
  · intro found
    obtain ⟨row, found, same⟩ := found
    obtain ⟨v, inTable, rfl⟩ := List.mem_map.mp (List.mem_of_find?_eq_some found)
    obtain ⟨member, plain⟩ := List.mem_filter.mp inTable
    have named := List.find?_some found
    exact ⟨v, member, by simpa using plain, of_decide_eq_true named, same⟩
  · intro declared
    obtain ⟨v, member, plain, rfl, same⟩ := declared
    exact ⟨v.row, rowOf?_toIntegerPlan distinct member plain, same⟩

theorem derive_defaultValue_eq_ok_iff {p : Plan} :
    derive m .defaultValue = .ok p ↔
      m.defaultVariant.isSome = true ∧ m.basePlan .defaultValue = p := by
  rw [derive]
  cases m.defaultVariant <;> simp

end Rows

namespace Pairs
variable {related : MappedVariant → MappedVariant → Prop} {w m : Mapping}

/-- What some variant satisfies, one that it is related to satisfies. -/
theorem exists_iff (pairs : w.Pairs related m) {p q : MappedVariant → Prop}
    (alike : ∀ {u v : MappedVariant}, related u v → (q u ↔ p v)) :
    (∃ u ∈ w.variants, q u) ↔ ∃ v ∈ m.variants, p v := by
  constructor
  · intro found
    obtain ⟨u, uMember, holds⟩ := found
    obtain ⟨v, vMember, counterpart⟩ := pairs.back u uMember
    exact ⟨v, vMember, (alike counterpart).mp holds⟩
  · intro found
    obtain ⟨v, vMember, holds⟩ := found
    obtain ⟨u, uMember, counterpart⟩ := pairs.onward v vMember
    exact ⟨u, uMember, (alike counterpart).mpr holds⟩

theorem forall_iff (pairs : w.Pairs related m) {p q : MappedVariant → Prop}
    (alike : ∀ {u v : MappedVariant}, related u v → (q u ↔ p v)) :
    (∀ u ∈ w.variants, q u) ↔ ∀ v ∈ m.variants, p v := by
  have failing := pairs.exists_iff (p := fun v => ¬ p v) (q := fun u => ¬ q u)
    fun counterpart => not_congr (alike counterpart)
  rw [← not_iff_not]
  simpa using failing

theorem value (pairs : w.Pairs related m) (wDistinct : w.names.Nodup) (distinct : m.names.Nodup)
    (name : String) :
    (w.toIntegerPlan.rowOf? name).map TableRow.value =
      (m.toIntegerPlan.rowOf? name).map TableRow.value := by
  apply Option.ext
  intro value
  rw [value_eq_some_iff wDistinct, value_eq_some_iff distinct]
  apply pairs.exists_iff
  intro u v counterpart
  have marked := pairs.marked counterpart
  rw [marked.isCatchAll, marked.name, marked.value]

section Searches
variable (pairs : w.Pairs related m) (wSound : w.Sound) (sound : m.Sound)
include pairs wSound sound

theorem lookup_name {n : Int}
    (alike : ∀ {u v : MappedVariant}, related u v → u.isMatch n = v.isMatch n) :
    (w.lookup n).map MappedVariant.name = (m.lookup n).map MappedVariant.name := by
  apply Option.ext
  intro name
  rw [lookup_name_eq_some_iff wSound, lookup_name_eq_some_iff sound]
  apply pairs.exists_iff
  intro u v counterpart
  rw [alike counterpart, (pairs.marked counterpart).name]

theorem defaultVariant : w.defaultVariant = m.defaultVariant := by
  apply Option.ext
  intro name
  rw [wSound.defaultVariant_iff, sound.defaultVariant_iff]
  apply pairs.exists_iff
  intro u v counterpart
  have marked := pairs.marked counterpart
  rw [marked.isDefault, marked.name]

theorem catchAllVariant : w.catchAllVariant = m.catchAllVariant := by
  apply Option.ext
  intro name
  rw [wSound.catchAllVariant_iff, sound.catchAllVariant_iff]
  apply pairs.exists_iff
  intro u v counterpart
  have marked := pairs.marked counterpart
  rw [marked.isCatchAll, marked.name]

end Searches

end Pairs

namespace Interchanges
variable {w m : Mapping}

theorem pairs (same : w.Interchanges m) : w.Pairs MappedVariant.ActsLike m :=
  ⟨same.onward, same.back, MappedVariant.ActsLike.markedLike⟩

section Searches
variable (same : w.Interchanges m) (wSound : w.Sound) (sound : m.Sound)
include same wSound sound

theorem lookup_name (n : Int) :
    (w.lookup n).map MappedVariant.name = (m.lookup n).map MappedVariant.name :=
  same.pairs.lookup_name wSound sound fun acts => acts.isMatch n

theorem lookup_eq_none_iff (n : Int) : w.lookup n = none ↔ m.lookup n = none := by
  rw [← Option.map_eq_none_iff (f := MappedVariant.name), same.lookup_name wSound sound n,
    Option.map_eq_none_iff]

theorem isExhaustive : w.isExhaustive = m.isExhaustive := by
  rw [Bool.eq_iff_iff, wSound.isExhaustive_iff, sound.isExhaustive_iff, same.integerType]
  simp only [Ne, same.lookup_eq_none_iff wSound sound]

/-- The matched integers are the same, and neither mapping lists one of them twice. -/
theorem valueCount : w.valueCount = m.valueCount := by
  have matched : w.matchedIntegers.Perm m.matchedIntegers := by
    apply (List.perm_ext_iff_of_nodup wSound.nodup_matchedIntegers sound.nodup_matchedIntegers).mpr
    intro n
    rw [mem_matchedIntegers, mem_matchedIntegers, Ne, same.lookup_eq_none_iff wSound sound]
  rw [← length_matchedIntegers, ← length_matchedIntegers, matched.length_eq]

theorem defaultVariant : w.defaultVariant = m.defaultVariant :=
  same.pairs.defaultVariant wSound sound

theorem catchAllVariant : w.catchAllVariant = m.catchAllVariant :=
  same.pairs.catchAllVariant wSound sound

theorem fallback? : w.fallback? = m.fallback? := by
  unfold Mapping.fallback?
  rw [same.isExhaustive wSound sound, same.defaultVariant wSound sound,
    same.catchAllVariant wSound sound]

theorem offers_iff (family : Family) : w.Offers family ↔ m.Offers family := by
  cases family with
  | toInteger => exact Iff.rfl
  | fromIntegerFallible => exact Iff.rfl
  | fromIntegerTotal =>
      unfold Offers
      rw [same.isExhaustive wSound sound]
      apply or_congr Iff.rfl
      apply or_congr
      · exact same.pairs.exists_iff fun acts => by rw [acts.isDefault]
      · exact same.pairs.exists_iff fun acts => by rw [acts.isCatchAll]
  | fromIntegerUnchecked =>
      apply same.pairs.forall_iff
      intro u v acts
      rw [acts.isDefault, acts.isCatchAll, acts.alternatives]
  | defaultValue => exact same.pairs.exists_iff fun acts => by rw [acts.isDefault]

theorem basePlan (wDistinct : w.names.Nodup) (distinct : m.names.Nodup) (family : Family) :
    (w.basePlan family).DecidesLike (m.basePlan family) where
  enumName := same.enumName
  integerType := same.integerType
  family := rfl
  fallback := rfl
  defaultVariant := same.defaultVariant wSound sound
  catchAllVariant := same.catchAllVariant wSound sound
  error := rfl
  variant n := by
    have ofRows : ∀ k : Mapping, ((k.basePlan family).lookup n).map TableRow.variant =
        (k.lookup n).map MappedVariant.name := by
      intro k
      have found : (k.basePlan family).lookup n = _ := k.lookup_table n
      rw [found, Option.map_map]
      rfl
    rw [ofRows, ofRows]
    exact same.lookup_name wSound sound n
  value := same.pairs.value wDistinct distinct

/-- The plans of a family differ from its base plan alike in both mappings. -/
theorem decidesLike (wDistinct : w.names.Nodup) (distinct : m.names.Nodup) {family : Family}
    {q p : Plan} (wDerived : derive w family = .ok q) (derived : derive m family = .ok p) :
    q.DecidesLike p := by
  have base := same.basePlan wSound sound wDistinct distinct family
  cases family with
  | toInteger =>
      cases wDerived
      cases derived
      exact { base with }
  | fromIntegerTotal =>
      obtain ⟨fallback, chosen, rfl⟩ := derive_total_eq_ok_iff.mp derived
      obtain ⟨other, wChosen, rfl⟩ := derive_total_eq_ok_iff.mp wDerived
      rw [same.fallback? wSound sound, chosen] at wChosen
      cases wChosen
      exact { base with fallback := rfl }
  | fromIntegerFallible =>
      cases wDerived
      cases derived
      have policy : some (w.fallback?.getD .returnError) = some (m.fallback?.getD .returnError) := by
        rw [same.fallback? wSound sound]
      have recipe : some (ErrorRecipe.ofErrorType w.errorType) = some (.ofErrorType m.errorType) := by
        rw [same.errorType]
      exact { base with fallback := policy, error := recipe }
  | fromIntegerUnchecked =>
      obtain ⟨_, rfl⟩ := derive_unchecked_eq_ok_iff.mp derived
      obtain ⟨_, rfl⟩ := derive_unchecked_eq_ok_iff.mp wDerived
      exact { base with }
  | defaultValue =>
      obtain ⟨_, rfl⟩ := derive_defaultValue_eq_ok_iff.mp derived
      obtain ⟨_, rfl⟩ := derive_defaultValue_eq_ok_iff.mp wDerived
      exact base

theorem convertsLike (wDistinct : w.names.Nodup) (distinct : m.names.Nodup) : w.ConvertsLike m := by
  intro family
  constructor
  · rw [wSound.derives_iff, sound.derives_iff, same.offers_iff wSound sound]
  · intro q p wDerived derived
    have alike := same.decidesLike wSound sound wDistinct distinct wDerived derived
    exact ⟨alike.variant, alike.evaluatesLike⟩

end Searches

end Interchanges

end Mapping

end IntegerEnum
