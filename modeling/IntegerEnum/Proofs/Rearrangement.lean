import IntegerEnum.Proofs.DeclaredMapping
import IntegerEnum.Proofs.Relisting
import IntegerEnum.Proofs.ValueProblems

/-! # Order and spelling of alternatives

Alternatives may be listed in any order, in one modifier or in several, and every entry may be
written in any way that denotes the same integers. Accepted declarations keep their mapping, as
ranges that are apart have one ascending order only. Where nothing but the writing of entries
changes, a declaration that fails keeps its problem as well. -/
set_option autoImplicit false

namespace IntegerEnum

namespace ValueRange

/-- With the end inside there is one way to write a range. -/
theorem eq_of_contains {r s : ValueRange} (rInclusive : r.inclusive = true)
    (sInclusive : s.inclusive = true) (same : ∀ n, r.contains n = s.contains n) : r = s := by
  have rStart := contains_iff.mp ((same r.start).symm.trans r.contains_start)
  have rLast := contains_iff.mp ((same r.last).symm.trans r.contains_last)
  have sStart := contains_iff.mp ((same s.start).trans s.contains_start)
  have sLast := contains_iff.mp ((same s.last).trans s.contains_last)
  have starts : r.start = s.start := by omega
  have lasts : r.last = s.last := by omega
  rw [← normalized_of_inclusive rInclusive, ← normalized_of_inclusive sInclusive]
  unfold normalized
  simp only [starts, lasts]

/-- Ranges that are apart have one ascending order. -/
theorem mergeSort_eq_of_perm {ranges others : List ValueRange} (apart : ranges.Pairwise Apart)
    (same : others.Perm ranges) :
    (others.mergeSort fun a b => a.start ≤ b.start) =
      ranges.mergeSort fun a b => a.start ≤ b.start := by
  apply List.Perm.eq_of_pairwise _ (sorted_by_start others) (sorted_by_start ranges)
  · exact (List.mergeSort_perm ..).trans (same.trans (List.mergeSort_perm ..).symm)
  · intro a b aMember bMember first second
    have aListed := same.mem_iff.mp (List.mem_mergeSort.mp aMember)
    have bListed := List.mem_mergeSort.mp bMember
    by_contra different
    -- ranges that are apart and begin together would be empty
    have before := (apart.forall aListed bListed different).before first
    have nonempty := a.start_le_last
    omega

end ValueRange

namespace Alternative

/-- The entries denote the same integers, however they are written. -/
def SameIntegers (a b : Alternative) : Prop := ∀ n, a.values.contains n = b.values.contains n

theorem inclusive_values (a : Alternative) : a.values.inclusive = true := by
  cases a <;> rfl

theorem SameIntegers.values_eq {a b : Alternative} (same : a.SameIntegers b) :
    a.values = b.values :=
  ValueRange.eq_of_contains a.inclusive_values b.inclusive_values same

end Alternative

/-! ## Another order -/

namespace VariantDecl

/-- The modifiers stand in another order, and the alternatives, written otherwise, in another order
and other modifiers. -/
structure Rearranges (w v : VariantDecl) : Prop extends w.SameBesideAlternatives v where
  alternatives : ∃ reordered : List Alternative, reordered.Perm v.alternatives ∧
    List.Forall₂ Alternative.SameIntegers w.alternatives reordered

theorem Rearranges.refl (v : VariantDecl) : v.Rearranges v :=
  ⟨.refl v, v.alternatives, .refl _, List.forall₂_same.mpr fun _ _ _ => rfl⟩

section Rearranged
variable {w v : VariantDecl}

theorem Rearranges.perm (rearranged : w.Rearranges v) :
    w.alternativeRanges.Perm v.alternativeRanges := by
  obtain ⟨reordered, order, same⟩ := rearranged.alternatives
  have rewritten : w.alternatives.map Alternative.values = reordered.map Alternative.values :=
    map_eq_of_forall₂ same fun _ _ => Alternative.SameIntegers.values_eq
  rw [alternativeRanges_eq, alternativeRanges_eq, rewritten]
  exact order.map _

theorem Rearranges.timesIn_eq (rearranged : w.Rearranges v) (n : Int) :
    ValueRange.timesIn n w.alternativeRanges = ValueRange.timesIn n v.alternativeRanges :=
  ValueRange.timesIn_perm rearranged.perm n

theorem Rearranges.resolved_eq (rearranged : w.Rearranges v) (wValid : w.Valid) (valid : v.Valid)
    (apart : v.alternativeRanges.Pairwise ValueRange.Apart) (value : Int) :
    w.resolved value = v.resolved value := by
  have alike := rearranged.listsLike wValid valid rearranged.timesIn_eq
  have sorted := ValueRange.mergeSort_eq_of_perm apart rearranged.perm
  unfold resolved
  simp only [values_alternativeEntries, sorted, alike.isCatchAll, alike.isDefault, rearranged.name,
    rearranged.explicitValue]

end Rearranged

end VariantDecl

namespace EnumDecl

theorem apart_alternativeRanges {d : EnumDecl} (wellFormed : d.WellFormed) {v : VariantDecl}
    (member : v ∈ d.variants) : v.alternativeRanges.Pairwise ValueRange.Apart := by
  have apart := wellFormed.apart
  rw [listedRanges_eq] at apart
  rw [← d.map_fst_valued] at member
  obtain ⟨x, found, rfl⟩ := List.mem_map.mp member
  exact (List.pairwise_cons.mp ((List.pairwise_flatMap.mp apart).1 x found)).2

section Rearranged
variable {d : EnumDecl} {variants : List VariantDecl} (valid : d.Valid)
  (otherValid : (d.withVariants variants).Valid)
  (rearranged : List.Forall₂ VariantDecl.Rearranges variants d.variants)
include valid otherValid rearranged

theorem relistedBy_of_rearranged : d.RelistedBy variants := by
  apply relistedBy_of_forall₂ valid otherValid _ _ rearranged
  · intro w v same
    exact same.toSameBesideAlternatives
  · intro w v same
    exact same.timesIn_eq

/-- As the sorted alternatives are the same, nothing in the mapping differs. -/
theorem mapping_of_rearranged (wellFormed : d.WellFormed) :
    (d.withVariants variants).mapping (d.withVariants variants).marks = d.mapping d.marks := by
  have relisted := relistedBy_of_rearranged valid otherValid rearranged
  have sameVariants : (d.withVariants variants).resolvedVariants = d.resolvedVariants := by
    have members := forall₂_of_members rearranged otherValid.variants
      (q := fun v => v.Valid ∧ v ∈ d.variants) fun v member => ⟨valid.variants v member, member⟩
    have paired := forall₂_valued (fun _ _ same => same.2.2.valueOr) members
    apply map_eq_of_forall₂ paired
    rintro ⟨w, value⟩ ⟨v, _⟩ ⟨⟨wValid, ⟨vValid, member⟩, same⟩, rfl⟩
    exact same.resolved_eq wValid vValid (apart_alternativeRanges wellFormed member) value
  have sound := sound_mapping wellFormed
  have otherSound := sound_mapping (relisted.wellFormed_iff.mpr wellFormed)
  have same := relisted.interchanges (d.withVariants variants).marks d.marks
  have sameDefault : (d.withVariants variants).marks.byDefault = d.marks.byDefault :=
    same.defaultVariant otherSound sound
  have sameCatchAll : (d.withVariants variants).marks.catchAll.map Prod.fst =
      d.marks.catchAll.map Prod.fst := same.catchAllVariant otherSound sound
  unfold mapping
  rw [sameVariants, sameDefault, sameCatchAll]
  rfl

end Rearranged

end EnumDecl

/-! ## Another spelling -/

namespace Modifier

/-- The modifier without its entries: the checks of modifiers look at no more of it. -/
def outline : Modifier → Modifier
  | alternatives _ span => .alternatives [] span
  | m => m

@[simp] theorem kind_outline (m : Modifier) : m.outline.kind = m.kind := by cases m <;> rfl

@[simp] theorem span_outline (m : Modifier) : m.outline.span = m.span := by cases m <;> rfl

theorem outline_of_ne {m : Modifier} (marks : m.kind ≠ .alternatives) : m.outline = m := by
  cases m with
  | alternatives entries span => exact (marks rfl).elim
  | byDefault span => rfl
  | catchAll span => rfl

/-- The modifier stands at the same place with the same entries, written otherwise. -/
structure Respells (k m : Modifier) : Prop where
  outline : k.outline = m.outline
  entries : List.Forall₂ Alternative.SameIntegers k.entries m.entries

end Modifier

namespace VariantDecl

/-- Nothing but the writing of entries differs. -/
structure Respells (w v : VariantDecl) : Prop where
  name : w.name = v.name
  explicitValue : w.explicitValue = v.explicitValue
  fieldTypes : w.fieldTypes = v.fieldTypes
  span : w.span = v.span
  modifiers : List.Forall₂ Modifier.Respells w.modifiers v.modifiers

def outline (v : VariantDecl) : VariantDecl :=
  { v with modifiers := v.modifiers.map Modifier.outline }

section Outlined
variable (v : VariantDecl) (t : IntegerType) (earlier : Marks)

theorem has_outline (kind : ModifierKind) : v.outline.has kind = v.has kind := by
  simp [has, outline, Function.comp_def]

theorem modifiersOf_outline (kind : ModifierKind) :
    v.outline.modifiersOf kind = (v.modifiersOf kind).map Modifier.outline := by
  simp [modifiersOf, outline, List.filter_map, Function.comp_def]

theorem modifiersOf_outline_of_ne {kind : ModifierKind} (marks : kind ≠ .alternatives) :
    v.outline.modifiersOf kind = v.modifiersOf kind := by
  have unchanged : ∀ m ∈ v.modifiersOf kind, m.outline = id m := by
    intro m found
    have ofKind : m.kind = kind := of_decide_eq_true (List.mem_filter.mp found).2
    exact Modifier.outline_of_ne (ofKind ▸ marks)
  rw [modifiersOf_outline, List.map_congr_left unchanged, List.map_id]

theorem catchAllFault?_outline (mark : Modifier) :
    v.outline.catchAllFault? t earlier mark = v.catchAllFault? t earlier mark := by
  unfold catchAllFault?
  rw [modifiersOf_outline]
  cases earlier.catchAll with
  | some first => rfl
  | none =>
      cases v.modifiersOf .alternatives with
      | nil => rfl
      | cons values rest =>
          simp only [List.map_cons, Modifier.span_outline]
          rfl

theorem checksLike_outline : v.outline.ChecksLike v where
  fault? t earlier := by
    unfold fault?
    rw [modifiersOf_outline_of_ne v (by decide : ModifierKind.byDefault ≠ .alternatives),
      modifiersOf_outline_of_ne v (by decide : ModifierKind.catchAll ≠ .alternatives)]
    simp only [catchAllFault?_outline]
    rfl
  addMarks earlier := by
    unfold addMarks isDefault
    rw [has_outline,
      modifiersOf_outline_of_ne v (by decide : ModifierKind.catchAll ≠ .alternatives)]
    rfl

end Outlined

section Respelled
variable {w v : VariantDecl} (respelled : w.Respells v)
include respelled

theorem Respells.outline_eq : w.outline = v.outline := by
  have outlines : w.modifiers.map Modifier.outline = v.modifiers.map Modifier.outline :=
    map_eq_of_forall₂ respelled.modifiers fun _ _ same => same.outline
  unfold outline
  rw [respelled.name, respelled.explicitValue, respelled.fieldTypes, respelled.span, outlines]

theorem Respells.checksLike : w.ChecksLike v where
  fault? t earlier := by
    rw [← w.checksLike_outline.fault?, respelled.outline_eq, v.checksLike_outline.fault?]
  addMarks earlier := by
    rw [← w.checksLike_outline.addMarks, respelled.outline_eq, v.checksLike_outline.addMarks]

theorem Respells.has_eq (kind : ModifierKind) : w.has kind = v.has kind := by
  rw [← w.has_outline, respelled.outline_eq, v.has_outline]

/-- Only the integers of an entry are claimed, at the place of its modifier. -/
theorem Respells.alternativeEntries_eq : w.alternativeEntries = v.alternativeEntries := by
  apply flatMap_eq_of_forall₂ respelled.modifiers
  intro k m same
  have samePlace : k.span = m.span := by
    rw [← k.span_outline, same.outline, m.span_outline]
  apply map_eq_of_forall₂ same.entries
  intro a b integers
  rw [respelled.name, integers.values_eq, samePlace]

theorem Respells.resolvesLike (value : Int) : w.ResolvesLike value v where
  toChecksLike := respelled.checksLike
  entries := by
    unfold entries isCatchAll
    rw [respelled.name, respelled.span, respelled.has_eq, respelled.alternativeEntries_eq]
  resolved := by
    unfold resolved isCatchAll isDefault
    rw [respelled.name, respelled.explicitValue, respelled.has_eq, respelled.has_eq,
      respelled.alternativeEntries_eq]

end Respelled

end VariantDecl

theorem EnumDecl.resolve_of_respelled {d : EnumDecl} {variants : List VariantDecl}
    (respelled : List.Forall₂ VariantDecl.Respells variants d.variants) :
    resolve (d.withVariants variants) = resolve d := by
  apply resolve_withVariants
  apply (forall₂_valued _ respelled).imp
  · intro x y paired
    exact ⟨paired.1.resolvesLike y.2, paired.2⟩
  · intro w v same implied
    unfold VariantDecl.valueOr
    rw [same.explicitValue]

/-- Neither the order of modifiers and alternatives nor the way in which an entry is written changes
the outcome of resolution: the same declarations are accepted, with the same mapping. Where entries
are only written otherwise, the others are refused with the same problem at the same place. -/
theorem order_and_spelling_decide_nothing {d : EnumDecl} {variants : List VariantDecl}
    (valid : d.Valid) (otherValid : (d.withVariants variants).Valid) :
    (List.Forall₂ VariantDecl.Rearranges variants d.variants →
      ∀ m, resolve (d.withVariants variants) = .ok m ↔ resolve d = .ok m) ∧
    (List.Forall₂ VariantDecl.Respells variants d.variants →
      resolve (d.withVariants variants) = resolve d) := by
  constructor
  · intro rearranged m
    have relisted := EnumDecl.relistedBy_of_rearranged valid otherValid rearranged
    rw [resolve_eq_ok_iff, resolve_eq_ok_iff, relisted.wellFormed_iff]
    apply and_congr_right
    intro wellFormed
    rw [EnumDecl.mapping_of_rearranged valid otherValid rearranged wellFormed]
  · exact EnumDecl.resolve_of_respelled

/-- The replies with the aliases in ascending order, each in a modifier of its own. -/
def EnumDecl.rearrangedReply : EnumDecl :=
  EnumDecl.reply.withVariants
    [{ name := "Ready"
       modifiers := [.alternatives [.range ⟨1, 2, false, by decide⟩] (some { line := some 3 }),
         .alternatives [.range ⟨2, 9, true, by decide⟩] none] },
      { name := "Busy", explicitValue := some ⟨200, some "BUSY"⟩ },
      { name := "Other", modifiers := [.catchAll none], fieldTypes := ["u8"] }]

/-- The colliding levels with all ends on the other side of the bound. -/
def EnumDecl.respelledLevel : EnumDecl :=
  EnumDecl.straddling.withVariants
    [{ name := "Low"
       explicitValue := some ⟨-5, none⟩
       modifiers := [.alternatives [.range ⟨10, 21, false, by decide⟩] none] },
      { name := "High"
        modifiers := [.alternatives [.range ⟨3, 4, false, by decide⟩,
          .range ⟨8, 12, true, by decide⟩] none] }]

theorem VariantDecl.rearranges_reply :
    List.Forall₂ VariantDecl.Rearranges EnumDecl.rearrangedReply.variants
      EnumDecl.reply.variants := by
  refine .cons ⟨⟨rfl, rfl, rfl, .refl _⟩, ?_⟩ (.cons (.refl _) (.cons (.refl _) .nil))
  refine ⟨[.constant ⟨1, none⟩, .range ⟨2, 10, false, by decide⟩], .swap _ _ _, ?_⟩
  exact .cons (fun _ => rfl) (.cons (fun _ => rfl) .nil)

theorem VariantDecl.respells_level :
    List.Forall₂ VariantDecl.Respells EnumDecl.respelledLevel.variants
      EnumDecl.straddling.variants :=
  .cons ⟨rfl, rfl, rfl, rfl, .cons ⟨rfl, .cons (fun _ => rfl) .nil⟩ .nil⟩
    (.cons ⟨rfl, rfl, rfl, rfl,
      .cons ⟨rfl, .cons (fun _ => rfl) (.cons (fun _ => rfl) .nil)⟩ .nil⟩ .nil)

theorem order_and_spelling_decide_nothing_reply :
    EnumDecl.reply.Valid ∧ EnumDecl.rearrangedReply.Valid ∧
      resolve EnumDecl.rearrangedReply = .ok Mapping.reply ∧
      EnumDecl.straddling.Valid ∧ EnumDecl.respelledLevel.Valid ∧
      resolve EnumDecl.respelledLevel = .error ⟨.collision 10 "Low" "High", none⟩ := by
  have rearrangedValid : EnumDecl.rearrangedReply.Valid := by decide
  have straddlingValid : EnumDecl.straddling.Valid := by decide
  have respelledValid : EnumDecl.respelledLevel.Valid := by decide
  have collision : resolve EnumDecl.straddling = .error ⟨.collision 10 "Low" "High", none⟩ := by
    decide
  obtain ⟨order, _⟩ := order_and_spelling_decide_nothing EnumDecl.valid_reply rearrangedValid
  obtain ⟨_, spelling⟩ := order_and_spelling_decide_nothing straddlingValid respelledValid
  have accepted := (order VariantDecl.rearranges_reply _).mpr resolve_reply
  have refused := (spelling VariantDecl.respells_level).trans collision
  exact ⟨EnumDecl.valid_reply, rearrangedValid, accepted, straddlingValid, respelledValid, refused⟩

end IntegerEnum
