import IntegerEnum.Proofs.Relisting

/-! # Ranges in pieces

An entry of the alternatives may be cut into pieces, which may stand anywhere among the alternatives
of the variant. Whether the declaration is accepted does not change, and although the mapping then
lists other ranges, no conversion and no count tells. -/
set_option autoImplicit false

namespace IntegerEnum
open ValueRange

namespace VariantDecl

/-- Every entry of the alternatives is cut into pieces, or kept as its only piece, and the pieces
stand in any order and in any alternatives modifiers. -/
structure Splits (w v : VariantDecl) : Prop extends w.SameBesideAlternatives v where
  pieces : ∃ pieces : List (List Alternative), pieces.flatten.Perm w.alternatives ∧
    List.Forall₂ (fun parts e => e.values.Partition (parts.map Alternative.values))
      pieces v.alternatives

theorem timesIn_alternativeRanges (v : VariantDecl) (n : Int) :
    timesIn n v.alternativeRanges = (v.alternatives.map fun e => timesIn n [e.values]).sum := by
  have listed : v.alternativeRanges = v.alternatives.flatMap fun e => [e.values] := by
    rw [alternativeRanges_eq, List.map_eq_flatMap]
  rw [listed, timesIn_flatMap]

theorem Splits.timesIn_eq {w v : VariantDecl} (splits : w.Splits v) (n : Int) :
    timesIn n w.alternativeRanges = timesIn n v.alternativeRanges := by
  obtain ⟨pieces, order, partitions⟩ := splits.pieces
  have listed : (pieces.flatMap fun parts => parts.map Alternative.values).Perm
      w.alternativeRanges := by
    rw [alternativeRanges_eq, List.flatMap_def, ← List.map_flatten]
    exact order.map _
  have counts : (pieces.map fun parts => timesIn n (parts.map Alternative.values)) =
      v.alternatives.map fun e => timesIn n [e.values] :=
    map_eq_of_forall₂ partitions fun _ _ partition => partition.timesIn_eq n
  rw [← timesIn_perm listed, timesIn_flatMap, counts, timesIn_alternativeRanges]

end VariantDecl

theorem EnumDecl.values_of_splits {d : EnumDecl} {variants : List VariantDecl}
    (split : List.Forall₂ VariantDecl.Splits variants d.variants) :
    ((d.withVariants variants).resolvedVariants.map fun v => (v.name, v.value)) =
      d.resolvedVariants.map fun v => (v.name, v.value) := by
  have paired := forall₂_valued (fun _ _ same => same.valueOr) split
  have sameNames : ((d.withVariants variants).valued.map fun x => (x.1.name, x.2)) =
      d.valued.map fun x => (x.1.name, x.2) := by
    apply map_eq_of_forall₂ paired
    intro x y same
    rw [same.1.name, same.2]
  have ofValued : ∀ e : EnumDecl, (e.resolvedVariants.map fun v => (v.name, v.value)) =
      e.valued.map fun x => (x.1.name, x.2) := fun e => List.map_map
  rw [ofValued, ofValued, sameNames]

/-- Cutting alternatives into pieces changes neither whether a declaration is accepted nor the
values of its variants, the number of values, the families that can be derived, or any result of
their plans. -/
theorem splitting_ranges_keeps_conversions {d : EnumDecl} {variants : List VariantDecl}
    (valid : d.Valid) (otherValid : (d.withVariants variants).Valid)
    (split : List.Forall₂ VariantDecl.Splits variants d.variants) :
    ((∃ w, resolve (d.withVariants variants) = .ok w) ↔ ∃ m, resolve d = .ok m) ∧
    ∀ w m, resolve (d.withVariants variants) = .ok w → resolve d = .ok m →
      w.valueCount = m.valueCount ∧ w.isExhaustive = m.isExhaustive ∧
      (w.variants.map fun v => (v.name, v.value)) = (m.variants.map fun v => (v.name, v.value)) ∧
      w.ConvertsLike m := by
  have relisted : d.RelistedBy variants := by
    apply EnumDecl.relistedBy_of_forall₂ valid otherValid _ _ split
    · intro w v same
      exact same.toSameBesideAlternatives
    · intro w v same
      exact same.timesIn_eq
  constructor
  · exact relisted.accepted_iff
  · intro w m wSuccess success
    have same := relisted.interchanges_of_resolve wSuccess success
    have wSound := sound_of_resolve wSuccess
    have sound := sound_of_resolve success
    have conversions := relisted.convertsLike valid wSuccess success
    have values := EnumDecl.values_of_splits split
    obtain ⟨_, rfl⟩ := resolve_eq_ok_iff.mp wSuccess
    obtain ⟨_, rfl⟩ := resolve_eq_ok_iff.mp success
    exact ⟨same.valueCount wSound sound, same.isExhaustive wSound sound, values, conversions⟩

def EnumDecl.splitReply : EnumDecl :=
  EnumDecl.reply.withVariants
    [{ name := "Ready"
       modifiers := [.alternatives [.constant ⟨9, some "LAST"⟩, .range ⟨2, 4, true, by decide⟩] none,
         .alternatives [.constant ⟨1, none⟩, .range ⟨5, 9, false, by decide⟩] none] },
      { name := "Busy", explicitValue := some ⟨200, some "BUSY"⟩ },
      { name := "Other", modifiers := [.catchAll none], fieldTypes := ["u8"] }]

theorem VariantDecl.splits_reply :
    List.Forall₂ VariantDecl.Splits EnumDecl.splitReply.variants EnumDecl.reply.variants := by
  have kept : ∀ v : VariantDecl, v.alternatives = [] → v.Splits v := by
    intro v bare
    refine ⟨.refl v, [], ?_, ?_⟩
    · rw [bare]
      exact .nil
    · rw [bare]
      exact .nil
  refine .cons ⟨⟨rfl, rfl, rfl, .refl _⟩, ?_⟩ (.cons (kept _ rfl) (.cons (kept _ rfl) .nil))
  refine ⟨[[.range ⟨2, 4, true, by decide⟩, .range ⟨5, 9, false, by decide⟩,
    .constant ⟨9, some "LAST"⟩], [.constant ⟨1, none⟩]], by decide, .cons ?_ (.cons (.self _) .nil)⟩
  have middle : (closed 5 9 (by decide)).Partition [closed 5 8 (by decide), .single 9] :=
    (Partition.self (.single 9)).cons rfl rfl rfl
  exact middle.cons rfl rfl rfl

theorem splitting_ranges_keeps_conversions_reply :
    EnumDecl.reply.Valid ∧ EnumDecl.splitReply.Valid ∧
      List.Forall₂ VariantDecl.Splits EnumDecl.splitReply.variants EnumDecl.reply.variants ∧
      resolve EnumDecl.reply = .ok Mapping.reply ∧
      ∃ w, resolve EnumDecl.splitReply = .ok w ∧ w.valueCount = 11 ∧
        w.ConvertsLike Mapping.reply := by
  have splitValid : EnumDecl.splitReply.Valid := by decide
  obtain ⟨accepted, same⟩ :=
    splitting_ranges_keeps_conversions EnumDecl.valid_reply splitValid VariantDecl.splits_reply
  obtain ⟨w, success⟩ := accepted.mpr ⟨_, resolve_reply⟩
  obtain ⟨counted, _, _, conversions⟩ := same w Mapping.reply success resolve_reply
  have total : Mapping.reply.valueCount = 11 := by decide
  exact ⟨EnumDecl.valid_reply, splitValid, VariantDecl.splits_reply, resolve_reply, w, success,
    counted.trans total, conversions⟩

end IntegerEnum
