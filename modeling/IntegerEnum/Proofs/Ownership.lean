import IntegerEnum.Proofs.Resolution
import Mathlib.Data.List.Perm.Basic

/-! # Who owns an integer

`Sound` collects what resolution guarantees of a mapping without reference to the declaration: all
values taken up lie in the type and are pairwise apart, and the fallback variants are the marked
ones. On a sound mapping an integer has one owner at most, so looking it up finds every variant
that matches it, and the value of a catch-all is taken but never matched. -/
set_option autoImplicit false

namespace IntegerEnum

theorem IntegerType.Holds.contains {t : IntegerType} {r : ValueRange} (holds : t.Holds r) {n : Int}
    (inside : r.contains n = true) : t.contains n = true := by
  have first := IntegerType.contains_iff.mp holds.1
  have last := IntegerType.contains_iff.mp holds.2
  have bounds := ValueRange.contains_iff.mp inside
  exact IntegerType.contains_iff.mpr (by omega)

namespace MappedVariant

/-- All that a variant takes up, whether it matches it or, as a catch-all, does not. -/
def taken (v : MappedVariant) : List ValueRange := .single v.value :: v.alternatives

theorem matched_of_no_catchAll {v : MappedVariant} (plain : v.isCatchAll = false) :
    v.matched = v.taken := by
  rw [matched, plain]
  rfl

theorem matched_of_catchAll {v : MappedVariant} (catchAll : v.isCatchAll = true) :
    v.matched = [] := by
  rw [matched, catchAll]
  rfl

theorem isMatch_iff {v : MappedVariant} {n : Int} :
    v.isMatch n = true ↔ ∃ r ∈ v.matched, r.contains n = true := List.any_eq_true

theorem matched_sublist_taken (v : MappedVariant) : v.matched.Sublist v.taken := by
  cases kind : v.isCatchAll with
  | true => rw [matched_of_catchAll kind]; exact List.nil_sublist _
  | false => rw [matched_of_no_catchAll kind]

theorem isMatch_value {v : MappedVariant} (plain : v.isCatchAll = false) :
    v.isMatch v.value = true := by
  refine isMatch_iff.mpr ⟨.single v.value, ?_, ValueRange.contains_single.mpr rfl⟩
  rw [matched_of_no_catchAll plain]
  exact List.mem_cons_self ..

theorem no_catchAll_of_isMatch {v : MappedVariant} {n : Int} (isMatch : v.isMatch n = true) :
    v.isCatchAll = false := by
  obtain ⟨r, member, _⟩ := isMatch_iff.mp isMatch
  rw [← Bool.not_eq_true]
  intro catchAll
  rw [matched_of_catchAll catchAll] at member
  cases member

end MappedVariant

namespace Mapping

def taken (m : Mapping) : List ValueRange := m.variants.flatMap MappedVariant.taken

structure Sound (m : Mapping) : Prop where
  inType : ∀ r ∈ m.taken, m.integerType.Holds r
  apart : m.taken.Pairwise ValueRange.Apart
  exhaustive_iff : m.isExhaustive = true ↔ m.valueCount = m.integerType.cardinality
  defaultVariant_iff : ∀ name, m.defaultVariant = some name ↔
    ∃ v ∈ m.variants, v.isDefault = true ∧ v.name = name
  catchAllVariant_iff : ∀ name, m.catchAllVariant = some name ↔
    ∃ v ∈ m.variants, v.isCatchAll = true ∧ v.name = name
  oneFallback : m.defaultVariant = none ∨ m.catchAllVariant = none

section Lookup
variable {m : Mapping} {v w : MappedVariant} {n : Int}

theorem mem_taken (member : v ∈ m.variants) {r : ValueRange} (inVariant : r ∈ v.taken) :
    r ∈ m.taken := List.mem_flatMap.mpr ⟨v, member, inVariant⟩

theorem Sound.eq_of_taken (sound : m.Sound) (vMember : v ∈ m.variants) (wMember : w ∈ m.variants)
    {r s : ValueRange} (inV : r ∈ v.taken) (inW : s ∈ w.taken)
    (inFirst : r.contains n = true) (inSecond : s.contains n = true) : v = w := by
  by_contra different
  have separate := (List.pairwise_flatMap.mp sound.apart).2
  have symmetric : Std.Symm fun a b : MappedVariant =>
      ∀ x ∈ a.taken, ∀ y ∈ b.taken, x.Apart y :=
    ⟨fun _ _ apart y yMember x xMember => (apart x xMember y yMember).symm⟩
  have outside := separate.forall vMember wMember different r inV s inW n inFirst
  rw [inSecond] at outside
  contradiction

theorem Sound.eq_of_isMatch (sound : m.Sound) (vMember : v ∈ m.variants) (wMember : w ∈ m.variants)
    (vMatch : v.isMatch n = true) (wMatch : w.isMatch n = true) : v = w := by
  obtain ⟨r, inV, inFirst⟩ := MappedVariant.isMatch_iff.mp vMatch
  obtain ⟨s, inW, inSecond⟩ := MappedVariant.isMatch_iff.mp wMatch
  exact sound.eq_of_taken vMember wMember (v.matched_sublist_taken.subset inV)
    (w.matched_sublist_taken.subset inW) inFirst inSecond

theorem lookup_eq_none_iff : m.lookup n = none ↔ ∀ v ∈ m.variants, v.isMatch n = false := by
  simp [lookup]

theorem mem_of_lookup (found : m.lookup n = some v) : v ∈ m.variants ∧ v.isMatch n = true := by
  have isMatch := List.find?_some found
  exact ⟨List.mem_of_find?_eq_some found, isMatch⟩

theorem Sound.lookup_eq_some_iff (sound : m.Sound) :
    m.lookup n = some v ↔ v ∈ m.variants ∧ v.isMatch n = true := by
  refine ⟨mem_of_lookup, ?_⟩
  rintro ⟨member, isMatch⟩
  cases found : m.lookup n with
  | none =>
      rw [lookup_eq_none_iff.mp found v member] at isMatch
      contradiction
  | some w =>
      obtain ⟨wMember, wMatch⟩ := mem_of_lookup found
      rw [sound.eq_of_isMatch wMember member wMatch isMatch]

theorem Sound.lookup_value (sound : m.Sound) (member : v ∈ m.variants)
    (plain : v.isCatchAll = false) : m.lookup v.value = some v :=
  sound.lookup_eq_some_iff.mpr ⟨member, MappedVariant.isMatch_value plain⟩

theorem Sound.contains_value (sound : m.Sound) (member : v ∈ m.variants) :
    m.integerType.contains v.value = true :=
  IntegerType.holds_single.mp (sound.inType _ (mem_taken member (List.mem_cons_self ..)))

theorem Sound.contains_of_lookup (sound : m.Sound) (found : m.lookup n = some v) :
    m.integerType.contains n = true := by
  obtain ⟨member, isMatch⟩ := mem_of_lookup found
  obtain ⟨r, inMatched, inside⟩ := MappedVariant.isMatch_iff.mp isMatch
  have holds := sound.inType r (mem_taken member (v.matched_sublist_taken.subset inMatched))
  exact holds.contains inside

/-- The value of a catch-all is out of reach for every match. -/
theorem Sound.lookup_catchAll_value (sound : m.Sound) (member : v ∈ m.variants)
    (catchAll : v.isCatchAll = true) : m.lookup v.value = none := by
  rw [lookup_eq_none_iff]
  intro w wMember
  rw [← Bool.not_eq_true]
  intro wMatch
  obtain ⟨r, inMatched, inside⟩ := MappedVariant.isMatch_iff.mp wMatch
  have same : v = w := sound.eq_of_taken member wMember (List.mem_cons_self ..)
    (w.matched_sublist_taken.subset inMatched) (ValueRange.contains_single.mpr rfl) inside
  rw [same, MappedVariant.no_catchAll_of_isMatch wMatch] at catchAll
  contradiction

end Lookup

end Mapping

/-! ## Resolution yields sound mappings -/

namespace EnumDecl

theorem taken_resolved_perm {v : VariantDecl} (value : Int)
    (bare : v.isCatchAll = true → v.alternativeRanges = []) :
    (v.resolved value).taken.Perm (.single value :: v.alternativeRanges) := by
  refine List.Perm.cons _ ?_
  rw [VariantDecl.resolved]
  by_cases catchAll : v.isCatchAll = true
  · rw [if_pos catchAll, bare catchAll]
  · rw [if_neg catchAll, VariantDecl.values_alternativeEntries]
    exact List.mergeSort_perm ..

theorem taken_mapping_perm {d : EnumDecl} (wellFormed : d.WellFormed) (marks : Marks) :
    (d.mapping marks).taken.Perm d.listedRanges := by
  change (d.resolvedVariants.flatMap MappedVariant.taken).Perm _
  rw [resolvedVariants_eq, List.flatMap_map, listedRanges]
  refine List.Perm.flatMap_left _ ?_
  rintro ⟨v, i⟩ member
  have isVariant := List.mem_of_getElem? (List.mem_zipIdx_iff_getElem?.mp member)
  refine taken_resolved_perm (d.chainValue i) fun catchAll => ?_
  exact VariantDecl.alternativeRanges_eq_nil (wellFormed.catchAllShape v isVariant catchAll).1

/-- A modifier that occurs at most once is found on the only variant that carries it. -/
theorem find?_reverse_eq_some_iff {d : EnumDecl} (kind : ModifierKind)
    (few : modifierCount kind d.variants ≤ 1) {name : String} :
    (d.variants.reverse.find? fun v => v.has kind).map VariantDecl.name = some name ↔
      ∃ v ∈ d.variants, v.has kind = true ∧ v.name = name := by
  rw [Option.map_eq_some_iff]
  constructor
  · rintro ⟨v, found, named⟩
    have carries := List.find?_some found
    exact ⟨v, List.mem_reverse.mp (List.mem_of_find?_eq_some found), carries, named⟩
  · rintro ⟨v, member, carries, named⟩
    cases found : d.variants.reverse.find? fun v => v.has kind with
    | none =>
        have absent := List.find?_eq_none.mp found v (List.mem_reverse.mpr member)
        contradiction
    | some w =>
        have wMember := List.mem_reverse.mp (List.mem_of_find?_eq_some found)
        have wCarries := List.find?_some found
        exact ⟨w, rfl, eq_of_modifierCount_le_one few v member w wMember carries wCarries ▸ named⟩

theorem exists_resolved_iff {d : EnumDecl} {marks : Marks} {p : VariantDecl → Prop}
    {q : MappedVariant → Prop} (same : ∀ v value, q (v.resolved value) ↔ p v) :
    (∃ w ∈ (d.mapping marks).variants, q w) ↔ ∃ v ∈ d.variants, p v := by
  constructor
  · rintro ⟨w, member, holds⟩
    obtain ⟨i, v, place, rfl⟩ := mem_resolvedVariants.mp member
    exact ⟨v, List.mem_of_getElem? place, (same _ _).mp holds⟩
  · rintro ⟨v, member, holds⟩
    obtain ⟨i, place⟩ := List.mem_iff_getElem?.mp member
    exact ⟨_, mem_resolvedVariants.mpr ⟨i, v, place, rfl⟩, (same _ _).mpr holds⟩

theorem sound_mapping {d : EnumDecl} (wellFormed : d.WellFormed) : (d.mapping d.marks).Sound := by
  have perm := taken_mapping_perm wellFormed d.marks
  have few := wellFormed.oneFallback
  rw [countP_isFallback] at few
  refine ⟨?_, ?_, decide_eq_true_iff, ?_, ?_, ?_⟩
  · intro r member
    exact holds_listedRanges_iff.mpr ⟨wellFormed.explicitInType, wellFormed.alternativesInType⟩ r
      (perm.mem_iff.mp member)
  · exact (perm.pairwise_iff ValueRange.Apart.symm).mpr wellFormed.apart
  · intro name
    rw [exists_resolved_iff (p := fun v => v.isDefault = true ∧ v.name = name) fun _ _ => Iff.rfl]
    change d.marks.byDefault = some name ↔ _
    rw [byDefault_marks]
    exact find?_reverse_eq_some_iff .byDefault (by omega)
  · intro name
    rw [exists_resolved_iff (p := fun v => v.isCatchAll = true ∧ v.name = name) fun _ _ => Iff.rfl]
    change d.marks.catchAll.map Prod.fst = some name ↔ _
    rw [catchAll_marks]
    exact find?_reverse_eq_some_iff .catchAll (by omega)
  · change d.marks.byDefault = none ∨ d.marks.catchAll.map Prod.fst = none
    rw [Option.map_eq_none_iff, byDefault_marks_eq_none_iff, catchAll_marks_eq_none_iff]
    omega

end EnumDecl

theorem sound_of_resolve {d : EnumDecl} {m : Mapping} (success : resolve d = .ok m) : m.Sound := by
  obtain ⟨wellFormed, rfl⟩ := resolve_eq_ok_iff.mp success
  exact EnumDecl.sound_mapping wellFormed

end IntegerEnum
