import IntegerEnum.Proofs.Claiming
import Mathlib.Data.List.Forall2

/-! # Resolving variant by variant

Resolution looks at a variant beside its canonical value: at what it then claims and is mapped to,
and at what the checks say of it. Declarations that agree in this, variant by variant, have the same
outcome, be it a mapping or a problem. -/
set_option autoImplicit false

namespace IntegerEnum

section Pairing
variable {α β γ : Type} {R : α → β → Prop} {as : List α} {bs : List β}

theorem map_eq_of_forall₂ {f : α → γ} {g : β → γ} (alike : List.Forall₂ R as bs)
    (same : ∀ a b, R a b → f a = g b) : as.map f = bs.map g := by
  induction alike with
  | nil => rfl
  | cons head _ ih => rw [List.map_cons, List.map_cons, same _ _ head, ih]

theorem flatMap_eq_of_forall₂ {f : α → List γ} {g : β → List γ} (alike : List.Forall₂ R as bs)
    (same : ∀ a b, R a b → f a = g b) : as.flatMap f = bs.flatMap g := by
  have lists : as.map f = bs.map g := map_eq_of_forall₂ alike same
  rw [List.flatMap_def, List.flatMap_def, lists]

theorem exists_of_forall₂ (alike : List.Forall₂ R as bs) : ∀ b ∈ bs, ∃ a ∈ as, R a b := by
  induction alike with
  | nil => intro b member; cases member
  | @cons a head as _ related _ ih =>
      intro b member
      rcases List.mem_cons.mp member with rfl | later
      · exact ⟨a, List.mem_cons_self .., related⟩
      · obtain ⟨found, inRest, same⟩ := ih b later
        exact ⟨found, List.mem_cons_of_mem _ inRest, same⟩

theorem forall₂_of_members {p : α → Prop} {q : β → Prop} (alike : List.Forall₂ R as bs) :
    (∀ a ∈ as, p a) → (∀ b ∈ bs, q b) → List.Forall₂ (fun a b => p a ∧ q b ∧ R a b) as bs := by
  induction alike with
  | nil => intro _ _; exact .nil
  | cons related _ ih =>
      intro left right
      obtain ⟨first, others⟩ := List.forall_mem_cons.mp left
      obtain ⟨second, rest⟩ := List.forall_mem_cons.mp right
      exact .cons ⟨first, second, related⟩ (ih others rest)

end Pairing

/-- Related variants that take the same value, whatever value is implied, stand beside equal
values. -/
theorem forall₂_zip_canonicalFrom {R : VariantDecl → VariantDecl → Prop} (t : IntegerType)
    (sameValue : ∀ w v, R w v → ∀ implied, w.valueOr implied = v.valueOr implied) :
    ∀ {ws vs : List VariantDecl}, List.Forall₂ R ws vs → ∀ implied,
      List.Forall₂ (fun x y => R x.1 y.1 ∧ x.2 = y.2)
        (ws.zip (canonicalFrom t implied ws)) (vs.zip (canonicalFrom t implied vs)) := by
  intro ws vs alike
  induction alike with
  | nil => intro implied; exact .nil
  | cons head _ ih =>
      intro implied
      -- the heads take one value, so the same is implied for the variants after them
      rw [canonicalFrom, canonicalFrom, sameValue _ _ head]
      exact .cons ⟨head, rfl⟩ (ih _)

/-- Explicit values do not depend on what stands before them. -/
theorem zip_canonicalFrom_of_explicit (t : IntegerType) : ∀ (variants : List VariantDecl),
    (∀ v ∈ variants, v.explicitValue ≠ none) → ∀ implied,
      variants.zip (canonicalFrom t implied variants) =
        variants.map fun v => (v, v.valueOr 0) := by
  intro variants
  induction variants with
  | nil => intro _ implied; rfl
  | cons v rest ih =>
      intro isExplicit implied
      obtain ⟨first, others⟩ := List.forall_mem_cons.mp isExplicit
      have value : v.valueOr implied = v.valueOr 0 := by
        obtain ⟨e, declared⟩ := Option.ne_none_iff_exists'.mp first
        unfold VariantDecl.valueOr
        rw [declared]
      rw [canonicalFrom, List.zip_cons_cons, List.map_cons, ih others, value]

/-- The checks of modifiers and fields do not tell the variants apart. -/
structure VariantDecl.ChecksLike (w v : VariantDecl) : Prop where
  fault? : ∀ t earlier, w.fault? t earlier = v.fault? t earlier
  addMarks : ∀ earlier, w.addMarks earlier = v.addMarks earlier

theorem checkVariants_congr (t : IntegerType) : ∀ {ws vs : List VariantDecl},
    List.Forall₂ VariantDecl.ChecksLike ws vs → ∀ marks,
      checkVariants t marks ws = checkVariants t marks vs := by
  intro ws vs alike
  induction alike with
  | nil => intro marks; rfl
  | cons head _ ih =>
      intro marks
      rw [checkVariants, checkVariants, head.fault?, head.addMarks, ih]

/-- Resolution does not tell the variants apart when both have the value. -/
structure VariantDecl.ResolvesLike (value : Int) (w v : VariantDecl) : Prop
    extends w.ChecksLike v where
  entries : w.entries value = v.entries value
  resolved : w.resolved value = v.resolved value

namespace EnumDecl

/-- The variants, each with its canonical value. -/
def valued (d : EnumDecl) : List (VariantDecl × Int) := d.variants.zip d.canonicalValues

/-- The declaration with other variants in place of its own. -/
def withVariants (d : EnumDecl) (variants : List VariantDecl) : EnumDecl :=
  { d with variants := variants }

theorem valued_eq (d : EnumDecl) :
    d.valued = d.variants.zipIdx.map fun (v, i) => (v, d.chainValue i) := d.zip_canonicalValues

theorem map_fst_valued (d : EnumDecl) : d.valued.map Prod.fst = d.variants := by
  rw [valued_eq, List.map_map]
  exact List.zipIdx_map_fst ..

theorem valued_of_explicit {d : EnumDecl} (isExplicit : ∀ v ∈ d.variants, v.explicitValue ≠ none) :
    d.valued = d.variants.map fun v => (v, v.valueOr 0) :=
  zip_canonicalFrom_of_explicit d.integerType d.variants isExplicit 0

section Congruence
variable {d : EnumDecl} {variants : List VariantDecl}

theorem forall₂_valued {R : VariantDecl → VariantDecl → Prop}
    (sameValue : ∀ w v, R w v → ∀ implied, w.valueOr implied = v.valueOr implied)
    (alike : List.Forall₂ R variants d.variants) :
    List.Forall₂ (fun x y => R x.1 y.1 ∧ x.2 = y.2) (d.withVariants variants).valued d.valued :=
  forall₂_zip_canonicalFrom d.integerType sameValue alike 0

/-- What is related beside its value is related in the order of the declarations. -/
theorem forall₂_variants {R : VariantDecl → VariantDecl → Prop}
    {S : VariantDecl × Int → VariantDecl × Int → Prop} (weaker : ∀ x y, S x y → R x.1 y.1)
    (alike : List.Forall₂ S (d.withVariants variants).valued d.valued) :
    List.Forall₂ R variants d.variants := by
  have firsts : List.Forall₂ R ((d.withVariants variants).valued.map Prod.fst)
      (d.valued.map Prod.fst) :=
    List.forall₂_map_left_iff.mpr (List.forall₂_map_right_iff.mpr (alike.imp weaker))
  rwa [map_fst_valued, map_fst_valued] at firsts

theorem entries_withVariants
    (alike : List.Forall₂ (fun x y => x.1.ResolvesLike y.2 y.1 ∧ x.2 = y.2)
      (d.withVariants variants).valued d.valued) :
    (d.withVariants variants).entries = d.entries := by
  apply flatMap_eq_of_forall₂ alike
  rintro ⟨w, value⟩ ⟨v, _⟩ ⟨same, rfl⟩
  exact same.entries

/-- Variants that resolution does not tell apart, one by one, bring about the same outcome. -/
theorem resolve_withVariants
    (alike : List.Forall₂ (fun x y => x.1.ResolvesLike y.2 y.1 ∧ x.2 = y.2)
      (d.withVariants variants).valued d.valued) :
    resolve (d.withVariants variants) = resolve d := by
  have sameVariants : (d.withVariants variants).resolvedVariants = d.resolvedVariants := by
    apply map_eq_of_forall₂ alike
    rintro ⟨w, value⟩ ⟨v, _⟩ ⟨same, rfl⟩
    exact same.resolved
  have sameChecks : (d.withVariants variants).checkModifiers = d.checkModifiers := by
    have inStep : List.Forall₂ VariantDecl.ChecksLike variants d.variants :=
      forall₂_variants (fun _ _ same => same.1.toChecksLike) alike
    have pass : checkVariants (d.withVariants variants).integerType {}
        (d.withVariants variants).variants = checkVariants d.integerType {} d.variants :=
      checkVariants_congr d.integerType inStep {}
    unfold checkModifiers
    rw [pass]
    rfl
  have sameMapping : (d.withVariants variants).mapping = d.mapping := by
    funext marks
    unfold mapping
    rw [sameVariants]
    rfl
  rw [resolve_eq, resolve_eq, entries_withVariants alike, sameChecks, sameMapping]
  rfl

end Congruence

end EnumDecl

end IntegerEnum
