import IntegerEnum.Proofs.Relisting
import IntegerEnum.Proofs.WrittenOut

/-! # The order of the variants

A variant with an explicit value does not look at the variants before it. Where all have one, the
variants may be declared in any order: the values are claimed and the marks are met in another order,
but the same declarations are accepted, and the mappings are interchangeable. -/
set_option autoImplicit false

namespace IntegerEnum

namespace EnumDecl

theorem relistedBy_of_perm {d : EnumDecl} {variants : List VariantDecl}
    (isExplicit : ∀ v ∈ d.variants, v.explicitValue ≠ none) (reordered : variants.Perm d.variants) :
    d.RelistedBy variants := by
  have otherExplicit : ∀ v ∈ (d.withVariants variants).variants, v.explicitValue ≠ none := by
    intro v member
    exact isExplicit v (reordered.mem_iff.mp member)
  refine ⟨d.valued, ?_, List.forall₂_same.mpr fun x _ => ⟨.refl x.1, rfl⟩⟩
  rw [valued_of_explicit isExplicit, valued_of_explicit otherExplicit]
  exact (reordered.map _).symm

end EnumDecl

/-- Where every variant has an explicit value, the order of the variants decides neither whether the
declaration is accepted nor who owns an integer, which variants are fallbacks, which families can be
derived and what their plans return. -/
theorem declaration_order_decides_nothing {d : EnumDecl} {variants : List VariantDecl}
    (valid : d.Valid) (isExplicit : ∀ v ∈ d.variants, v.explicitValue ≠ none)
    (reordered : variants.Perm d.variants) :
    ((∃ w, resolve (d.withVariants variants) = .ok w) ↔ ∃ m, resolve d = .ok m) ∧
    ∀ w m, resolve (d.withVariants variants) = .ok w → resolve d = .ok m →
      w.isExhaustive = m.isExhaustive ∧ w.defaultVariant = m.defaultVariant ∧
      w.catchAllVariant = m.catchAllVariant ∧
      (∀ n, (w.lookup n).map MappedVariant.name = (m.lookup n).map MappedVariant.name) ∧
      w.ConvertsLike m := by
  have relisted := EnumDecl.relistedBy_of_perm isExplicit reordered
  constructor
  · exact relisted.accepted_iff
  · intro w m wSuccess success
    have same := relisted.interchanges_of_resolve wSuccess success
    have wSound := sound_of_resolve wSuccess
    have sound := sound_of_resolve success
    exact ⟨same.isExhaustive wSound sound, same.defaultVariant wSound sound,
      same.catchAllVariant wSound sound, same.lookup_name wSound sound,
      relisted.convertsLike valid wSuccess success⟩

def EnumDecl.reversedReply : EnumDecl :=
  EnumDecl.reply.writtenOut.withVariants EnumDecl.reply.writtenOut.variants.reverse

theorem declaration_order_decides_nothing_reply :
    EnumDecl.reply.writtenOut.Valid ∧
      (∀ v ∈ EnumDecl.reply.writtenOut.variants, v.explicitValue ≠ none) ∧
      EnumDecl.reversedReply.variants.Perm EnumDecl.reply.writtenOut.variants ∧
      resolve EnumDecl.reply.writtenOut = .ok Mapping.reply ∧
      ∃ w, resolve EnumDecl.reversedReply = .ok w ∧ w.catchAllVariant = some "Other" ∧
        (w.lookup 9).map MappedVariant.name = some "Ready" ∧ w.ConvertsLike Mapping.reply := by
  have valid := EnumDecl.valid_writtenOut EnumDecl.valid_reply
  have isExplicit := EnumDecl.reply.explicit_writtenOut
  have reversed : EnumDecl.reversedReply.variants.Perm EnumDecl.reply.writtenOut.variants :=
    List.reverse_perm _
  have success := EnumDecl.reply.resolve_writtenOut.trans resolve_reply
  obtain ⟨accepted, same⟩ := declaration_order_decides_nothing valid isExplicit reversed
  obtain ⟨w, wSuccess⟩ := accepted.mpr ⟨_, success⟩
  obtain ⟨_, _, catchAll, lookups, conversions⟩ := same w Mapping.reply wSuccess success
  have ready : (Mapping.reply.lookup 9).map MappedVariant.name = some "Ready" := by decide
  exact ⟨valid, isExplicit, reversed, success, w, wSuccess, catchAll, (lookups 9).trans ready,
    conversions⟩

end IntegerEnum
