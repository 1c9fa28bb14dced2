import IntegerEnum.Proofs.Relisting
import IntegerEnum.Proofs.Reports

/-! # One alternative more

A variant gains an entry in one of its alternatives modifiers or in a new one. When the declaration
still resolves, the integers of the entry had no owner before, and they now convert to the variant.
For every other integer the conversions stay as they were, although the entry may close the last gap
and so turn a fallback into one that is never taken. -/
set_option autoImplicit false

namespace IntegerEnum
open ValueRange

/-! ## Variants -/

/-- The variant with the entry added, in an alternatives modifier that it has or in a new one. -/
inductive VariantDecl.Gains (e : Alternative) (v : VariantDecl) : VariantDecl → Prop
  | inModifier {front back : List Modifier} {entries more : List Alternative}
      {span : Option SourceSpan}
      (place : v.modifiers = front ++ .alternatives (entries ++ more) span :: back) :
      Gains e v { v with modifiers := front ++ .alternatives (entries ++ e :: more) span :: back }
  | inNew {front back : List Modifier} (span : Option SourceSpan)
      (place : v.modifiers = front ++ back) :
      Gains e v { v with modifiers := front ++ .alternatives [e] span :: back }

namespace VariantDecl.Gains
variable {e : Alternative} {v w : VariantDecl}

theorem name (gains : v.Gains e w) : w.name = v.name := by cases gains <;> rfl

theorem valueOr (gains : v.Gains e w) (implied : Int) : w.valueOr implied = v.valueOr implied := by
  cases gains <;> rfl

theorem has (gains : v.Gains e w) {kind : ModifierKind} (marks : kind ≠ .alternatives) :
    w.has kind = v.has kind := by
  have other : ∀ {entries span},
      decide ((Modifier.alternatives entries span).kind = kind) = false :=
    decide_eq_false marks.symm
  cases gains with
  | inModifier place => simp only [VariantDecl.has, place, List.any_append, List.any_cons, other]
  | inNew span place =>
      simp only [VariantDecl.has, place, List.any_append, List.any_cons, other, Bool.false_or]

theorem carries (gains : v.Gains e w) : w.modifiersOf .alternatives ≠ [] := by
  cases gains <;> simp [modifiersOf, Modifier.kind]

/-- The entry stands somewhere among those of the variant. -/
theorem alternatives_eq (gains : v.Gains e w) :
    ∃ front back, v.alternatives = front ++ back ∧ w.alternatives = front ++ e :: back := by
  cases gains with
  | @inModifier front back entries more span place =>
      refine ⟨front.flatMap Modifier.entries ++ entries,
        more ++ back.flatMap Modifier.entries, ?_, ?_⟩
      · simp [alternatives, place, Modifier.entries]
      · simp [alternatives, Modifier.entries]
  | @inNew front back span place =>
      refine ⟨front.flatMap Modifier.entries, back.flatMap Modifier.entries, ?_, ?_⟩
      · rw [alternatives, place, List.flatMap_append]
      · simp [alternatives, Modifier.entries]

theorem alternativeRanges_perm (gains : v.Gains e w) :
    w.alternativeRanges.Perm (e.values :: v.alternativeRanges) := by
  obtain ⟨front, back, before, after⟩ := gains.alternatives_eq
  rw [alternativeRanges_eq, alternativeRanges_eq, before, after, ← List.map_cons]
  exact List.perm_middle.map Alternative.values

/-- A variant that gains an entry and is still shaped as it must be is no catch-all. -/
theorem plain (gains : v.Gains e w) {t : IntegerType} (shaped : w.Shaped t) :
    w.isCatchAll = false := by
  rw [← Bool.not_eq_true]
  intro catchAll
  exact gains.carries ((shaped_of_catchAll catchAll).mp shaped).1

end VariantDecl.Gains

/-! ## Mappings -/

/-- How a variant stands in the mapping after its owner gained a range: the owner takes the range
up in addition, every other variant is the same. -/
inductive MappedVariant.GrowsInto (owner : String) (r : ValueRange) :
    MappedVariant → MappedVariant → Prop
  | other (v : MappedVariant) (named : v.name ≠ owner) : GrowsInto owner r v v
  | owner {v u : MappedVariant} (named : v.name = owner) (name : u.name = v.name)
      (value : u.value = v.value) (isDefault : u.isDefault = v.isDefault)
      (plain : v.isCatchAll = false) (grownPlain : u.isCatchAll = false)
      (taken : u.taken.Perm (r :: v.taken)) : GrowsInto owner r v u

namespace MappedVariant.GrowsInto
variable {owner : String} {r : ValueRange} {v u : MappedVariant}

theorem markedLike (grows : v.GrowsInto owner r u) : u.MarkedLike v := by
  cases grows with
  | other => exact ⟨rfl, rfl, rfl, rfl⟩
  | owner _ name value isDefault plain grownPlain =>
      exact ⟨name, value, isDefault, grownPlain.trans plain.symm⟩

theorem isMatch_iff (grows : v.GrowsInto owner r u) {n : Int} :
    u.isMatch n = true ↔ v.isMatch n = true ∨ v.name = owner ∧ r.contains n = true := by
  cases grows with
  | other named => simp [named]
  | owner named _ _ _ plain grownPlain taken =>
      rw [MappedVariant.isMatch_iff, MappedVariant.isMatch_iff, matched_of_no_catchAll plain,
        matched_of_no_catchAll grownPlain]
      simp only [taken.mem_iff, List.exists_mem_cons_iff, named, true_and]
      exact or_comm

theorem isMatch_eq (grows : v.GrowsInto owner r u) {n : Int} (outside : r.contains n = false) :
    u.isMatch n = v.isMatch n := by
  rw [Bool.eq_iff_iff, grows.isMatch_iff, outside]
  simp

end MappedVariant.GrowsInto

theorem VariantDecl.Gains.growsInto {e : Alternative} {v w : VariantDecl} (gains : v.Gains e w)
    (plain : w.isCatchAll = false) (value : Int) :
    (v.resolved value).GrowsInto v.name e.values (w.resolved value) := by
  have wasPlain : v.isCatchAll = false := (gains.has (by decide)).symm.trans plain
  have isDefault : w.isDefault = v.isDefault := gains.has (by decide)
  refine .owner rfl gains.name rfl isDefault wasPlain plain ?_
  calc (w.resolved value).taken
    _ |>.Perm (.single value :: w.alternativeRanges) :=
        (alternatives_resolved_perm plain value).cons _
    _ |>.Perm (.single value :: e.values :: v.alternativeRanges) :=
        gains.alternativeRanges_perm.cons _
    _ |>.Perm (e.values :: .single value :: v.alternativeRanges) := .swap ..
    _ |>.Perm (e.values :: (v.resolved value).taken) :=
        ((alternatives_resolved_perm wasPlain value).symm.cons _).cons _

namespace Mapping

/-- The mapping after the owner gained a range. -/
structure GrowsInto (m : Mapping) (owner : String) (r : ValueRange) (grown : Mapping) : Prop where
  enumName : grown.enumName = m.enumName
  integerType : grown.integerType = m.integerType
  errorType : grown.errorType = m.errorType
  variants : List.Forall₂ (fun u v => v.GrowsInto owner r u) grown.variants m.variants

section Growing
variable {m grown : Mapping} {owner : String} {r : ValueRange} {n : Int}

theorem GrowsInto.pairs (grows : m.GrowsInto owner r grown) :
    grown.Pairs (fun u v => v.GrowsInto owner r u) m where
  onward := exists_of_forall₂ grows.variants
  back := exists_of_forall₂ grows.variants.flip
  marked := MappedVariant.GrowsInto.markedLike

theorem GrowsInto.names (grows : m.GrowsInto owner r grown) : grown.names = m.names :=
  map_eq_of_forall₂ grows.variants fun _ _ related => related.markedLike.name

section Sound
variable (grows : m.GrowsInto owner r grown) (sound : m.Sound) (grownSound : grown.Sound)

include grows grownSound in
/-- The integers of the range had no owner before, not even the one that they have now: its ranges
are still apart after it took this one up. -/
theorem GrowsInto.lookup_eq_none (owned : ∃ v ∈ m.variants, v.name = owner)
    (inside : r.contains n = true) : m.lookup n = none := by
  obtain ⟨v, vMember, named⟩ := owned
  obtain ⟨u, uMember, related⟩ := grows.pairs.onward v vMember
  have uMatch : u.isMatch n = true := related.isMatch_iff.mpr (Or.inr ⟨named, inside⟩)
  apply lookup_eq_none_iff.mpr
  intro x xMember
  rw [← Bool.not_eq_true]
  intro xMatch
  obtain ⟨y, yMember, xRelated⟩ := grows.pairs.onward x xMember
  have yMatch : y.isMatch n = true := xRelated.isMatch_iff.mpr (Or.inl xMatch)
  have same : y = u := grownSound.eq_of_isMatch yMember uMember yMatch uMatch
  cases xRelated with
  | other other => exact other (by rw [same, related.markedLike.name, named])
  | owner _ _ _ _ plain _ taken =>
      have apart := (List.pairwise_flatMap.mp grownSound.apart).1 y yMember
      rw [taken.pairwise_iff ValueRange.Apart.symm, List.pairwise_cons] at apart
      obtain ⟨s, inMatched, alsoInside⟩ := MappedVariant.isMatch_iff.mp xMatch
      rw [MappedVariant.matched_of_no_catchAll plain] at inMatched
      have free := apart.1 s inMatched n inside
      rw [alsoInside] at free
      contradiction

include grows grownSound in
theorem GrowsInto.exists_lookup (owned : ∃ v ∈ m.variants, v.name = owner)
    (inside : r.contains n = true) : ∃ u, grown.lookup n = some u ∧ u.name = owner := by
  obtain ⟨v, member, named⟩ := owned
  obtain ⟨u, grownMember, related⟩ := grows.pairs.onward v member
  have isMatch : u.isMatch n = true := related.isMatch_iff.mpr (Or.inr ⟨named, inside⟩)
  exact ⟨u, grownSound.lookup_eq_some_iff.mpr ⟨grownMember, isMatch⟩,
    related.markedLike.name.trans named⟩

include grows sound grownSound

theorem GrowsInto.convert?_eq (outside : r.contains n = false) :
    grown.convert? n = m.convert? n :=
  convert?_congr
    (grows.pairs.lookup_name grownSound sound fun related => related.isMatch_eq outside)
    (grows.pairs.defaultVariant grownSound sound) (grows.pairs.catchAllVariant grownSound sound)

theorem GrowsInto.toInteger_eq (distinct : m.names.Nodup) (value : VariantValue) :
    grown.toIntegerPlan.toInteger value = m.toIntegerPlan.toInteger value := by
  have grownDistinct : grown.names.Nodup := grows.names ▸ distinct
  have catchAll := grows.pairs.catchAllVariant grownSound sound
  have family : grown.toIntegerPlan.family = m.toIntegerPlan.family := rfl
  exact Plan.toInteger_congr grows.enumName grows.integerType family catchAll value
    (grows.pairs.value grownDistinct distinct value.name)

/-- What makes a total conversion possible is not lost: what was matched is still matched. -/
theorem GrowsInto.offers_total (offered : m.Offers .fromIntegerTotal) :
    grown.Offers .fromIntegerTotal := by
  rcases offered with exhaustive | byDefault | catchAll
  · refine Or.inl (sound.isExhaustive_of_kept grownSound grows.integerType ?_ exhaustive)
    intro n unmatched
    apply lookup_eq_none_iff.mpr
    intro v member
    rw [← Bool.not_eq_true]
    intro isMatch
    obtain ⟨u, grownMember, related⟩ := grows.pairs.onward v member
    have still := related.isMatch_iff.mpr (Or.inl isMatch)
    rw [lookup_eq_none_iff.mp unmatched u grownMember] at still
    contradiction
  · refine Or.inr (Or.inl ((grows.pairs.exists_iff ?_).mpr byDefault))
    intro u v related
    rw [related.markedLike.isDefault]
  · refine Or.inr (Or.inr ((grows.pairs.exists_iff ?_).mpr catchAll))
    intro u v related
    rw [related.markedLike.isCatchAll]

theorem GrowsInto.defaultValue_eq :
    (derive grown .defaultValue).map Plan.defaultValue =
      (derive m .defaultValue).map Plan.defaultValue := by
  have byDefault := grows.pairs.defaultVariant grownSound sound
  have sameValue : (grown.basePlan .defaultValue).defaultValue =
      (m.basePlan .defaultValue).defaultValue := by
    unfold Plan.defaultValue Plan.requireFamily basePlan
    rw [byDefault, grows.enumName]
  rw [derive, derive, byDefault, grows.enumName]
  split
  · exact congrArg Except.ok sameValue
  · rfl

end Sound

end Growing

end Mapping

/-! ## Declarations -/

namespace EnumDecl
variable {d : EnumDecl} {before after : List VariantDecl} {v w : VariantDecl} {e : Alternative}

/-- Variant by variant, the declarations differ in the owner only. -/
theorem forall₂_of_place (distinct : d.variantNames.Nodup)
    (place : d.variants = before ++ v :: after) (w : VariantDecl) :
    List.Forall₂ (fun y x => y = x ∧ x.name ≠ v.name ∨ x = v ∧ y = w) (before ++ w :: after)
      d.variants := by
  rw [variantNames, place, List.map_append, List.map_cons, List.nodup_append, List.nodup_cons]
    at distinct
  obtain ⟨_, ⟨fresh, _⟩, apart⟩ := distinct
  have first : ∀ x ∈ before, x.name ≠ v.name := fun x member =>
    apart x.name (List.mem_map_of_mem member) v.name (List.mem_cons_self ..)
  have last : ∀ x ∈ after, x.name ≠ v.name := fun x member same =>
    fresh (same ▸ List.mem_map_of_mem member)
  rw [place]
  refine List.rel_append ?_ (.cons (Or.inr ⟨rfl, rfl⟩) ?_)
  · exact List.forall₂_same.mpr fun x member => Or.inl ⟨rfl, first x member⟩
  · exact List.forall₂_same.mpr fun x member => Or.inl ⟨rfl, last x member⟩

theorem growsInto_of_resolve {m grown : Mapping} (distinct : d.variantNames.Nodup)
    (place : d.variants = before ++ v :: after) (gains : v.Gains e w)
    (success : resolve d = .ok m)
    (again : resolve (d.withVariants (before ++ w :: after)) = .ok grown) :
    m.GrowsInto v.name e.values grown := by
  obtain ⟨_, rfl⟩ := resolve_eq_ok_iff.mp success
  obtain ⟨wellFormed, rfl⟩ := resolve_eq_ok_iff.mp again
  have plain : w.isCatchAll = false := by
    have member : w ∈ (d.withVariants (before ++ w :: after)).variants :=
      List.mem_append_right _ (List.mem_cons_self ..)
    exact gains.plain ((wellFormed_iff_timesIn.mp wellFormed).2.2.1 w member)
  refine ⟨rfl, rfl, rfl, ?_⟩
  have alike := forall₂_valued ?_ (forall₂_of_place distinct place w)
  · apply List.forall₂_map_left_iff.mpr
    apply List.forall₂_map_right_iff.mpr
    apply alike.imp
    intro y x related
    obtain ⟨y, value⟩ := y
    obtain ⟨x, other⟩ := x
    obtain ⟨related, same⟩ := related
    cases same
    rcases related with ⟨rfl, named⟩ | ⟨rfl, rfl⟩
    · exact .other _ named
    · exact gains.growsInto plain value
  · intro y x related implied
    rcases related with ⟨rfl, _⟩ | ⟨rfl, rfl⟩
    · rfl
    · exact gains.valueOr implied

end EnumDecl

/-- What sets the mapping `grown` of a declaration in which `v` gains the entry `e` off from the
mapping `m` before: `q` and `t` are the fallible plan of `m` and the plan that writes its values,
`qGrown` and `tGrown` those of the grown mapping. -/
structure VariantDecl.GainsOnly (v : VariantDecl) (e : Alternative) (m grown : Mapping)
    (q t qGrown tGrown : Plan) : Prop where
  fallible : derive m .fromIntegerFallible = .ok q
  writing : derive m .toInteger = .ok t
  grownFallible : derive grown .fromIntegerFallible = .ok qGrown
  grownWriting : derive grown .toInteger = .ok tGrown
  inside : ∀ n, e.values.contains n = true →
    m.lookup n = none ∧
      (∀ (ε : Type) (registry : Registry ε),
        qGrown.tryFromInteger n registry = .ok (.success ⟨v.name, none⟩)) ∧
      ∀ pGrown, derive grown .fromIntegerTotal = .ok pGrown →
        pGrown.fromIntegerTotal n = .ok ⟨v.name, none⟩
  outside : ∀ n, e.values.contains n = false → ∀ (ε : Type) (registry : Registry ε),
    qGrown.tryFromInteger n registry = q.tryFromInteger n registry
  total : ∀ p, derive m .fromIntegerTotal = .ok p →
    ∃ pGrown, derive grown .fromIntegerTotal = .ok pGrown ∧
      ∀ n, e.values.contains n = false → pGrown.fromIntegerTotal n = p.fromIntegerTotal n
  written : ∀ value, tGrown.toInteger value = t.toInteger value
  byDefault : (derive grown .defaultValue).map Plan.defaultValue =
    (derive m .defaultValue).map Plan.defaultValue

/-- A declaration in which a variant gains an entry and that still resolves converts the integers of
the entry to that variant; they had no owner before. Everything else stays: the fallible and the
total outcome of every other integer, a total conversion that there was, the integers that
enumeration values are written as, and the default value. -/
theorem added_alternative_is_local {d : EnumDecl} {before after : List VariantDecl}
    {v w : VariantDecl} {e : Alternative} {m grown : Mapping} (valid : d.Valid)
    (place : d.variants = before ++ v :: after) (gains : v.Gains e w)
    (success : resolve d = .ok m)
    (again : resolve (d.withVariants (before ++ w :: after)) = .ok grown) :
    ∃ q t qGrown tGrown, v.GainsOnly e m grown q t qGrown tGrown := by
  have grows := EnumDecl.growsInto_of_resolve valid.distinct place gains success again
  have sound := sound_of_resolve success
  have grownSound := sound_of_resolve again
  have distinct : m.names.Nodup := Mapping.names_of_resolve success ▸ valid.distinct
  have owned : ∃ x ∈ m.variants, x.name = v.name := by
    have named : v.name ∈ m.names := by
      rw [Mapping.names_of_resolve success, EnumDecl.variantNames, place]
      simp
    exact List.mem_map.mp named
  refine ⟨_, _, _, _, rfl, rfl, rfl, rfl, ?inside, ?outside, ?total,
    grows.toInteger_eq sound grownSound distinct, grows.defaultValue_eq sound grownSound⟩
  case inside =>
    intro n inside
    obtain ⟨u, found, named⟩ := grows.exists_lookup grownSound owned inside
    have inType := grownSound.contains_of_lookup found
    have converts : grown.Converts n ⟨v.name, none⟩ := named ▸ Mapping.converts_of_lookup found
    exact ⟨grows.lookup_eq_none grownSound owned inside,
      fun _ registry => grownSound.tryFromInteger_of_converts registry inType converts,
      fun p available => grownSound.fromIntegerTotal_of_converts available inType converts⟩
  case outside =>
    intro n outside ε registry
    exact Mapping.tryFromInteger_congr grownSound sound grows.integerType
      (grows.convert?_eq sound grownSound outside) grows.enumName grows.errorType registry
  case total =>
    intro p available
    have offered := grows.offers_total sound grownSound ((sound.derives_iff _).mp ⟨p, available⟩)
    obtain ⟨pGrown, grownAvailable⟩ := (grownSound.derives_iff .fromIntegerTotal).mpr offered
    refine ⟨pGrown, grownAvailable, fun n outside => ?_⟩
    exact Mapping.fromIntegerTotal_congr grownSound sound grows.integerType
      (grows.convert?_eq sound grownSound outside) grownAvailable available

def VariantDecl.low : VariantDecl where
  name := "Low"
  modifiers := [.byDefault none, .alternatives [.range ⟨1, 100, true, by decide⟩] none]

def VariantDecl.high : VariantDecl where
  name := "High"
  explicitValue := some ⟨101, none⟩
  modifiers := [.alternatives [.range ⟨102, 255, false, by decide⟩] none]

/-- The upper variant with the byte that was left over. -/
def VariantDecl.filledHigh : VariantDecl :=
  { VariantDecl.high with
    modifiers :=
      [.alternatives [.range ⟨102, 255, false, by decide⟩, .constant ⟨255, none⟩] none] }

/-- Bytes below and above a threshold, with one of them left to the default variant. -/
def EnumDecl.nearlyFull : EnumDecl where
  name := "Level"
  integerType := ⟨.u8, .bits64⟩
  variants := [.low, .high]

def Mapping.nearlyFull : Mapping where
  enumName := "Level"
  integerType := ⟨.u8, .bits64⟩
  variants :=
    [{ name := "Low", value := 0, alternatives := [.closed 1 100 (by decide)], isDefault := true },
      { name := "High", value := 101, alternatives := [.closed 102 254 (by decide)] }]
  defaultVariant := some "Low"

def Mapping.full : Mapping :=
  { Mapping.nearlyFull with
    variants :=
      [{ name := "Low", value := 0, alternatives := [.closed 1 100 (by decide)],
         isDefault := true },
        { name := "High", value := 101
          alternatives := [.closed 102 254 (by decide), .single 255] }]
    isExhaustive := true }

/-- The byte that is added closes the last gap, so the default variant is no longer reached. -/
theorem added_alternative_is_local_level :
    EnumDecl.nearlyFull.Valid ∧ resolve EnumDecl.nearlyFull = .ok Mapping.nearlyFull ∧
      resolve (EnumDecl.nearlyFull.withVariants [.low, .filledHigh]) = .ok Mapping.full ∧
      Mapping.nearlyFull.fallback? = some (.defaultVariant "Low") ∧
      Mapping.full.fallback? = some .unreachable ∧
      Mapping.nearlyFull.lookup 255 = none ∧
      (∀ registry : Registry String,
        Mapping.full.falliblePlan.tryFromInteger 255 registry = .ok (.success ⟨"High", none⟩)) ∧
      (∀ registry : Registry String,
        Mapping.full.falliblePlan.tryFromInteger 254 registry =
          Mapping.nearlyFull.falliblePlan.tryFromInteger 254 registry) ∧
      ∃ pGrown, derive Mapping.full .fromIntegerTotal = .ok pGrown ∧
        pGrown.fromIntegerTotal 100 =
          (Mapping.nearlyFull.totalPlan (.defaultVariant "Low")).fromIntegerTotal 100 := by
  have valid : EnumDecl.nearlyFull.Valid := by decide
  have success : resolve EnumDecl.nearlyFull = .ok Mapping.nearlyFull := by cbv
  have again : resolve (EnumDecl.nearlyFull.withVariants [.low, .filledHigh]) =
      .ok Mapping.full := by cbv
  have gains : VariantDecl.high.Gains (.constant ⟨255, none⟩) .filledHigh :=
    @VariantDecl.Gains.inModifier _ _ [] [] [.range ⟨102, 255, false, by decide⟩] [] none rfl
  have place : EnumDecl.nearlyFull.variants = [.low] ++ .high :: [] := rfl
  obtain ⟨q, t, qGrown, tGrown, gained⟩ :=
    added_alternative_is_local valid place gains success again
  cases gained.fallible
  cases gained.grownFallible
  obtain ⟨unmatched, high, _⟩ := gained.inside 255 (by decide)
  obtain ⟨pGrown, available, same⟩ := gained.total _ rfl
  exact ⟨valid, success, again, rfl, rfl, unmatched, high String,
    gained.outside 254 (by decide) String, pGrown, available, same 100 (by decide)⟩

end IntegerEnum
