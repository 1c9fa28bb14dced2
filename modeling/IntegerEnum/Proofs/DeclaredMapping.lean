import IntegerEnum.Proofs.Coverage

/-! # The mapping of a declaration

A resolved mapping holds what was declared and nothing else. `Represents` compares a variant with
its declaration, field by field; the alternatives of a variant are the declared ones, sorted, and
being apart they ascend strictly. The fallback variants are the marked ones, of which there is one
at most, and an integer is matched at one position at most. -/
set_option autoImplicit false

namespace IntegerEnum

/-- A list of one element at most reads the same from its end and is known by its head. -/
theorem reverse_and_head?_of_short {α : Type} {l : List α} (short : l.length ≤ 1) :
    l.reverse = l ∧ l.head?.toList = l := by
  rcases l with _ | ⟨x, _ | ⟨y, rest⟩⟩
  · exact ⟨rfl, rfl⟩
  · exact ⟨rfl, rfl⟩
  · simp only [List.length_cons] at short
    omega

namespace ValueRange

/-- Of two ranges that are apart, the one that begins first ends before the other begins. -/
theorem Apart.before {r s : ValueRange} (apart : r.Apart s) (first : r.start ≤ s.start) :
    r.last < s.start := by
  have nonempty := s.start_le_last
  rcases apart_iff.mp apart with before | after
  · exact before
  · omega

theorem sorted_by_start (ranges : List ValueRange) :
    (ranges.mergeSort fun a b => a.start ≤ b.start).Pairwise fun a b => a.start ≤ b.start := by
  apply List.Pairwise.imp fun {_ _} order => of_decide_eq_true order
  apply List.pairwise_mergeSort
  · intro a b c first second
    simp only [decide_eq_true_eq] at *
    omega
  · intro a b
    simp only [Bool.or_eq_true, decide_eq_true_eq]
    omega

end ValueRange

/-- What resolution may change of a variant: it settles an implicit value, drops the text of
alternatives and puts them in order. -/
structure VariantDecl.Represents (v : VariantDecl) (w : MappedVariant) : Prop where
  name : w.name = v.name
  text : w.text = v.explicitValue.bind ConstExpr.text
  value : ∀ e, v.explicitValue = some e → w.value = e.value
  isDefault : w.isDefault = true ↔ ∃ mark ∈ v.modifiers, mark.kind = .byDefault
  isCatchAll : w.isCatchAll = true ↔ ∃ mark ∈ v.modifiers, mark.kind = .catchAll
  alternatives : w.alternatives.Perm v.alternativeRanges
  ascending : w.alternatives.Pairwise fun a b => a.last < b.start
  inclusive : ∀ r ∈ w.alternatives, r.inclusive = true

namespace VariantDecl

theorem has_iff {v : VariantDecl} {kind : ModifierKind} :
    v.has kind = true ↔ ∃ mark ∈ v.modifiers, mark.kind = kind := by
  simp [has]

theorem inclusive_alternativeRanges (v : VariantDecl) :
    ∀ r ∈ v.alternativeRanges, r.inclusive = true := by
  intro r member
  obtain ⟨mark, _, listed⟩ := List.mem_flatMap.mp member
  obtain ⟨entry, _, rfl⟩ := List.mem_map.mp listed
  cases entry <;> rfl

theorem alternatives_resolved_sorted (v : VariantDecl) (value : Int) :
    (v.resolved value).alternatives.Pairwise fun a b => a.start ≤ b.start := by
  rw [resolved]
  by_cases catchAll : v.isCatchAll = true
  · rw [if_pos catchAll]
    exact List.Pairwise.nil
  · rw [if_neg catchAll]
    exact ValueRange.sorted_by_start _

end VariantDecl

namespace Mapping

/-- An integer is matched at one position at most. -/
theorem Sound.eq_of_getElem?_isMatch {m : Mapping} (sound : m.Sound) {n : Int} {i j : Nat}
    {v w : MappedVariant} (vPlace : m.variants[i]? = some v) (wPlace : m.variants[j]? = some w)
    (vMatch : v.isMatch n = true) (wMatch : w.isMatch n = true) : i = j := by
  have separate := (List.pairwise_flatMap.mp sound.apart).2
  -- two positions are compared in one order, so both orders refute it alike
  have never : ∀ {i j : Nat} {v w : MappedVariant}, m.variants[i]? = some v →
      m.variants[j]? = some w → v.isMatch n = true → w.isMatch n = true → ¬ i < j := by
    intro i j v w vPlace wPlace vMatch wMatch below
    obtain ⟨r, inV, inFirst⟩ := MappedVariant.isMatch_iff.mp vMatch
    obtain ⟨s, inW, inSecond⟩ := MappedVariant.isMatch_iff.mp wMatch
    obtain ⟨iBound, rfl⟩ := List.getElem?_eq_some_iff.mp vPlace
    obtain ⟨jBound, rfl⟩ := List.getElem?_eq_some_iff.mp wPlace
    have outside := List.pairwise_iff_getElem.mp separate i j iBound jBound below
      r ((MappedVariant.matched_sublist_taken _).subset inV)
      s ((MappedVariant.matched_sublist_taken _).subset inW) n inFirst
    rw [inSecond] at outside
    contradiction
  have notBelow := never vPlace wPlace vMatch wMatch
  have notAbove := never wPlace vPlace wMatch vMatch
  omega

end Mapping

namespace EnumDecl

theorem alternatives_resolved_perm {d : EnumDecl} (wellFormed : d.WellFormed) {v : VariantDecl}
    (member : v ∈ d.variants) (value : Int) :
    (v.resolved value).alternatives.Perm v.alternativeRanges := by
  have perm := taken_resolved_perm value fun catchAll =>
    VariantDecl.alternativeRanges_eq_nil (wellFormed.catchAllShape v member catchAll).1
  exact perm.cons_inv

theorem represents_resolved {d : EnumDecl} (wellFormed : d.WellFormed) {i : Nat} {v : VariantDecl}
    (place : d.variants[i]? = some v) : v.Represents (v.resolved (d.chainValue i)) := by
  have member := List.mem_of_getElem? place
  have perm := alternatives_resolved_perm wellFormed member (d.chainValue i)
  have listed : (v.resolved (d.chainValue i)).taken.Pairwise ValueRange.Apart := by
    have inMapping : v.resolved (d.chainValue i) ∈ (d.mapping d.marks).variants :=
      mem_resolvedVariants.mpr ⟨i, v, place, rfl⟩
    exact (List.pairwise_flatMap.mp (sound_mapping wellFormed).apart).1 _ inMapping
  have ordered := v.alternatives_resolved_sorted (d.chainValue i)
  refine ⟨rfl, rfl, ?_, VariantDecl.has_iff, VariantDecl.has_iff, perm, ?_, ?_⟩
  · intro e isExplicit
    exact chainValue_of_explicit place isExplicit
  · exact ((List.pairwise_cons.mp listed).2.and ordered).imp fun both => both.1.before both.2
  · intro r inVariant
    exact v.inclusive_alternativeRanges r (perm.mem_iff.mp inVariant)

theorem length_filter_has_le (kind : ModifierKind) (variants : List VariantDecl) :
    (variants.filter fun v => v.has kind).length ≤ modifierCount kind variants := by
  induction variants with
  | nil => exact Nat.le_refl _
  | cons v rest ih =>
      rw [modifierCount_cons, List.filter_cons]
      by_cases carries : v.has kind = true
      · have positive := List.length_pos_iff.mpr (VariantDecl.has_eq_true_iff.mp carries)
        rw [if_pos carries, List.length_cons]
        omega
      · rw [if_neg carries]
        omega

/-- A search from the end finds all carriers of a modifier that occurs at most once. -/
theorem filter_has_eq_find? {kind : ModifierKind} {variants : List VariantDecl}
    (few : modifierCount kind variants ≤ 1) :
    (variants.filter fun v => v.has kind) =
      (variants.reverse.find? fun v => v.has kind).toList := by
  obtain ⟨reversed, known⟩ :=
    reverse_and_head?_of_short (Nat.le_trans (length_filter_has_le kind variants) few)
  rw [← List.head?_filter, List.filter_reverse, reversed, known]

theorem names_filter_resolvedVariants (d : EnumDecl) (kind : ModifierKind)
    (flag : MappedVariant → Bool)
    (same : ∀ (v : VariantDecl) (value : Int), flag (v.resolved value) = v.has kind) :
    (d.resolvedVariants.filter flag).map MappedVariant.name =
      (d.variants.filter fun v => v.has kind).map VariantDecl.name := by
  have flags : flag ∘ (fun x : VariantDecl × Nat => x.1.resolved (d.chainValue x.2)) =
      (fun v => v.has kind) ∘ Prod.fst := by
    funext x
    exact same x.1 _
  rw [resolvedVariants_eq, List.filter_map, List.map_map]
  change (d.variants.zipIdx.filter (flag ∘ _)).map (VariantDecl.name ∘ Prod.fst) = _
  rw [flags, ← List.map_map, ← List.filter_map, List.zipIdx_map_fst]

theorem names_of_defaults {d : EnumDecl} (few : modifierCount .byDefault d.variants ≤ 1) :
    (d.resolvedVariants.filter MappedVariant.isDefault).map MappedVariant.name =
      d.marks.byDefault.toList := by
  rw [d.names_filter_resolvedVariants .byDefault _ fun _ _ => rfl, filter_has_eq_find? few,
    byDefault_marks, Option.toList_map]
  rfl

theorem names_of_catchAlls {d : EnumDecl} (few : modifierCount .catchAll d.variants ≤ 1) :
    (d.resolvedVariants.filter MappedVariant.isCatchAll).map MappedVariant.name =
      (d.marks.catchAll.map Prod.fst).toList := by
  rw [d.names_filter_resolvedVariants .catchAll _ fun _ _ => rfl, filter_has_eq_find? few,
    catchAll_marks, Option.toList_map]
  rfl

theorem length_resolvedVariants (d : EnumDecl) :
    d.resolvedVariants.length = d.variants.length := by
  rw [resolvedVariants_eq, List.length_map, List.length_zipIdx]

theorem value_of_place {d : EnumDecl} {i : Nat} {w : MappedVariant}
    (place : d.resolvedVariants[i]? = some w) : w.value = d.chainValue i := by
  rw [getElem?_resolvedVariants] at place
  obtain ⟨v, _, rfl⟩ := Option.map_eq_some_iff.mp place
  rfl

theorem represents_of_place {d : EnumDecl} (wellFormed : d.WellFormed) {i : Nat} {v : VariantDecl}
    {w : MappedVariant} (declared : d.variants[i]? = some v)
    (place : d.resolvedVariants[i]? = some w) : v.Represents w := by
  rw [getElem?_resolvedVariants, declared, Option.map_some] at place
  cases place
  exact represents_resolved wellFormed declared

theorem value_after_explicit {d : EnumDecl} (wellFormed : d.WellFormed) {i j : Nat}
    {v : VariantDecl} {e : ConstExpr} {w : MappedVariant} (declared : d.variants[i]? = some v)
    (isExplicit : v.explicitValue = some e) (implicit : d.Implicit (i + 1) (i + j))
    (place : d.resolvedVariants[i + j]? = some w) :
    w.value = d.integerType.wrap (e.value + j) := by
  have inType := contains_chainValue wellFormed.explicitInType i
  rw [value_of_place place, chainValue_add_of_implicit inType j implicit,
    chainValue_of_explicit declared isExplicit]

/-- What a mapping owes to its declaration. Positions count from zero, so that the `j`-th implicit
variant of a run stands `j` places after the explicit one before it, and one place earlier when the
run begins the declaration. -/
structure Mirrors (d : EnumDecl) (m : Mapping) : Prop where
  enumName : m.enumName = d.name
  integerType : m.integerType = d.integerType
  length : m.variants.length = d.variants.length
  variants : ∀ (i : Nat) (v : VariantDecl) (w : MappedVariant), d.variants[i]? = some v →
    m.variants[i]? = some w → v.Represents w
  afterExplicit : ∀ (i j : Nat) (v : VariantDecl) (e : ConstExpr) (w : MappedVariant),
    d.variants[i]? = some v → v.explicitValue = some e → d.Implicit (i + 1) (i + j) →
      m.variants[i + j]? = some w → w.value = d.integerType.wrap (e.value + j)
  atStart : ∀ (j : Nat) (w : MappedVariant), d.Implicit 0 j → m.variants[j]? = some w →
    w.value = d.integerType.wrap j
  oneOwner : ∀ (n : Int) (i j : Nat) (v w : MappedVariant), m.variants[i]? = some v →
    m.variants[j]? = some w → v.isMatch n = true → w.isMatch n = true → i = j
  inType : ∀ n : Int, ∀ v ∈ m.variants, v.isMatch n = true → d.integerType.contains n = true
  defaultVariant : (m.variants.filter MappedVariant.isDefault).map MappedVariant.name =
    m.defaultVariant.toList
  catchAllVariant : (m.variants.filter MappedVariant.isCatchAll).map MappedVariant.name =
    m.catchAllVariant.toList
  oneFallback : m.defaultVariant = none ∨ m.catchAllVariant = none
  errorType : d.errorTypes = m.errorType.toList

end EnumDecl

/-- Resolution yields the declared mapping: the declared variants in order with their values counted
up, their alternatives sorted, one owner at most for every integer and one fallback at most. -/
theorem mapping_mirrors_declaration {d : EnumDecl} {m : Mapping} (success : resolve d = .ok m) :
    d.Mirrors m := by
  have sound := sound_of_resolve success
  obtain ⟨wellFormed, rfl⟩ := resolve_eq_ok_iff.mp success
  have few := wellFormed.oneFallback
  rw [countP_isFallback] at few
  exact
    { enumName := rfl
      integerType := rfl
      length := d.length_resolvedVariants
      variants := fun _ _ _ declared place =>
        EnumDecl.represents_of_place wellFormed declared place
      afterExplicit := fun _ _ _ _ _ declared isExplicit implicit place =>
        EnumDecl.value_after_explicit wellFormed declared isExplicit implicit place
      atStart := fun _ _ implicit place =>
        (EnumDecl.value_of_place place).trans (EnumDecl.chainValue_of_implicit implicit)
      oneOwner := fun _ _ _ _ _ vPlace wPlace vMatch wMatch =>
        sound.eq_of_getElem?_isMatch vPlace wPlace vMatch wMatch
      inType := fun _ _ member isMatch =>
        sound.contains_of_lookup (sound.lookup_eq_some_iff.mpr ⟨member, isMatch⟩)
      defaultVariant := EnumDecl.names_of_defaults (by omega)
      catchAllVariant := EnumDecl.names_of_catchAlls (by omega)
      oneFallback := sound.oneFallback
      errorType := (reverse_and_head?_of_short wellFormed.oneErrorType).2.symm }

theorem mapping_mirrors_declaration_reply :
    resolve EnumDecl.reply = .ok Mapping.reply ∧ EnumDecl.reply.Implicit 2 2 ∧
      EnumDecl.reply.Mirrors Mapping.reply ∧
        Mapping.reply.variants[2]?.map MappedVariant.value =
          some (EnumDecl.reply.integerType.wrap (200 + 1)) := by
  have mirrors := mapping_mirrors_declaration resolve_reply
  have implicit : EnumDecl.reply.Implicit 2 2 := by
    intro k v lower upper place
    obtain rfl : k = 2 := by omega
    cases place
    rfl
  have counted := mirrors.afterExplicit 1 1 _ _ _ rfl rfl implicit rfl
  exact ⟨resolve_reply, implicit, mirrors, congrArg some counted⟩

end IntegerEnum
