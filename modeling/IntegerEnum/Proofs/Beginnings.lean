import IntegerEnum.Proofs.Congruence
import IntegerEnum.Proofs.ValueProblems

/-! # Declarations that begin alike

Values are claimed in the order of the declaration, so what variants claim does not depend on those
after them. A problem of values told of one variant is therefore fixed by the variants up to it, and
of these by what they claim: the variants before it have no such problem, and nothing that stands
after it or is checked later can hide or change it. -/
set_option autoImplicit false

namespace IntegerEnum

namespace EnumDecl

/-- The declaration with more variants after its own. -/
def followedBy (d : EnumDecl) (more : List VariantDecl) : EnumDecl :=
  { d with variants := d.variants ++ more }

/-- The declaration cut to its first variants. -/
def upTo (d : EnumDecl) (i : Nat) : EnumDecl := { d with variants := d.variants.take i }

theorem followedBy_upTo (d : EnumDecl) (i : Nat) :
    (d.upTo i).followedBy (d.variants.drop i) = d := by
  rw [followedBy, upTo, List.take_append_drop]

section Growing
variable (d : EnumDecl) (more : List VariantDecl)

theorem explicitAt_followedBy {i : Nat} (inside : i < d.variants.length) :
    (d.followedBy more).explicitAt i = d.explicitAt i := by
  unfold explicitAt followedBy
  rw [List.getElem?_append_left inside]

theorem chainValue_followedBy : ∀ {i : Nat}, i < d.variants.length →
    (d.followedBy more).chainValue i = d.chainValue i := by
  intro i
  induction i with
  | zero =>
      intro inside
      rw [chainValue, chainValue, explicitAt_followedBy d more inside]
  | succ i ih =>
      intro inside
      rw [chainValue, chainValue, explicitAt_followedBy d more inside, ih (by omega)]
      rfl

/-- The added variants, each with its canonical value. -/
def valuesAfter : List (VariantDecl × Int) :=
  (more.zipIdx d.variants.length).map fun (v, i) => (v, (d.followedBy more).chainValue i)

theorem zip_canonicalValues_followedBy :
    (d.followedBy more).variants.zip (d.followedBy more).canonicalValues =
      d.variants.zip d.canonicalValues ++ d.valuesAfter more := by
  have split : (d.followedBy more).variants.zipIdx =
      d.variants.zipIdx ++ more.zipIdx d.variants.length := by
    simp [followedBy, List.zipIdx_append]
  rw [zip_canonicalValues, zip_canonicalValues, split, List.map_append]
  congr 1
  apply List.map_congr_left
  rintro ⟨v, i⟩ member
  have inside : i < d.variants.length := by
    obtain ⟨bound, _⟩ := List.getElem?_eq_some_iff.mp (List.mem_zipIdx_iff_getElem?.mp member)
    exact bound
  simp only [chainValue_followedBy d more inside]

theorem entries_followedBy :
    (d.followedBy more).entries =
      d.entries ++ (d.valuesAfter more).flatMap fun (v, value) => v.entries value := by
  rw [entries, zip_canonicalValues_followedBy, List.flatMap_append]
  rfl

theorem resolvedVariants_followedBy :
    (d.followedBy more).resolvedVariants =
      d.resolvedVariants ++ (d.valuesAfter more).map fun (v, value) => v.resolved value := by
  rw [resolvedVariants, zip_canonicalValues_followedBy, List.map_append]
  rfl

theorem mem_of_mem_valuesAfter {d : EnumDecl} {more : List VariantDecl} {v : VariantDecl}
    {value : Int} (member : (v, value) ∈ d.valuesAfter more) : v ∈ more := by
  obtain ⟨⟨w, i⟩, inMore, same⟩ := List.mem_map.mp member
  cases same
  exact List.fst_mem_of_mem_zipIdx inMore

end Growing

/-! ## Who owns an entry -/

theorem owner_mem_variantNames {d : EnumDecl} {e : Entry} (member : e ∈ d.entries) :
    e.owner ∈ d.variantNames := by
  obtain ⟨⟨v, value⟩, paired, inVariant⟩ := List.mem_flatMap.mp member
  rw [VariantDecl.owner_of_mem_entries inVariant]
  exact List.mem_map_of_mem (List.of_mem_zip paired).1

theorem owner_mem_of_mem_later {d : EnumDecl} {more : List VariantDecl} {e : Entry}
    (member : e ∈ (d.valuesAfter more).flatMap fun (v, value) => v.entries value) :
    e.owner ∈ more.map VariantDecl.name := by
  obtain ⟨⟨v, value⟩, paired, inVariant⟩ := List.mem_flatMap.mp member
  rw [VariantDecl.owner_of_mem_entries inVariant]
  exact List.mem_map_of_mem (mem_of_mem_valuesAfter paired)

theorem position_unique {d : EnumDecl} (distinct : d.variantNames.Nodup) {i j : Nat}
    {v w : VariantDecl} (vPlace : d.variants[i]? = some v) (wPlace : d.variants[j]? = some w)
    (same : v.name = w.name) : i = j := by
  have bound : i < d.variantNames.length := by
    obtain ⟨bound, _⟩ := List.getElem?_eq_some_iff.mp vPlace
    rwa [variantNames, List.length_map]
  apply (List.getElem?_inj bound distinct).mp
  rw [variantNames, List.getElem?_map, List.getElem?_map, vPlace, wPlace, Option.map_some,
    Option.map_some, same]

/-- A name declared at a position is declared neither before it nor after it. -/
theorem name_only_at {d : EnumDecl} (distinct : d.variantNames.Nodup) {i : Nat} {v : VariantDecl}
    (place : d.variants[i]? = some v) :
    v.name ∉ (d.upTo i).variantNames ∧ v.name ∉ (d.variants.drop (i + 1)).map VariantDecl.name := by
  obtain ⟨bound, rfl⟩ := List.getElem?_eq_some_iff.mp place
  have split : d.variantNames = (d.upTo i).variantNames ++
      d.variants[i].name :: (d.variants.drop (i + 1)).map VariantDecl.name := by
    rw [variantNames, variantNames, upTo, ← List.map_cons, ← List.map_append,
      List.getElem_cons_drop, List.take_append_drop]
  rw [split, List.nodup_append] at distinct
  obtain ⟨_, fromHere, apart⟩ := distinct
  constructor
  · intro earlier
    exact apart _ earlier _ (List.mem_cons_self ..) rfl
  · exact (List.nodup_cons.mp fromHere).1

end EnumDecl

/-! ## Runs over the first entries -/

theorem claimAll_append (t : IntegerType) (before after : List Entry) :
    claimAll t (before ++ after) =
      match claimAll t before with
      | .error problem => .error problem
      | .ok index => after.foldlM (claimEntry t) index := by
  rw [claimAll, List.foldlM_append, claimAll]
  cases before.foldlM (claimEntry t) [] <;> rfl

/-- A run that fails tells of the owner of one of its own entries. -/
theorem foldlM_claimEntry_names_owner {t : IntegerType} {problem : Diagnostic} :
    ∀ (entries : List Entry) {index : ValueIndex},
      entries.foldlM (claimEntry t) index = .error problem →
        ∃ e ∈ entries, problem.variant = some e.owner := by
  intro entries
  induction entries with
  | nil => intro index failure; cases failure
  | cons e rest ih =>
      intro index failure
      rw [foldlM_claimEntry_cons] at failure
      cases step : claimEntry t index e with
      | error found =>
          rw [step] at failure
          cases failure
          refine ⟨e, List.mem_cons_self .., ?_⟩
          rcases claimEntry_eq_error_iff.mp step with ⟨n, _, rfl⟩ | ⟨_, n, owner, _, rfl⟩ <;> rfl
      | ok next =>
          rw [step] at failure
          obtain ⟨owning, member, named⟩ := ih failure
          exact ⟨owning, List.mem_cons_of_mem _ member, named⟩

namespace EnumDecl

/-- The claims fail at the variant that the problem names: the variants before it pass, and its own
entries bring the problem about whatever follows. -/
theorem claimAll_stops_at {d : EnumDecl} {problem : Diagnostic} (distinct : d.variantNames.Nodup)
    {i : Nat} {v : VariantDecl} (place : d.variants[i]? = some v)
    (named : problem.variant = some v.name)
    (failure : claimAll d.integerType d.entries = .error problem) :
    (∃ index, claimAll d.integerType (d.upTo i).entries = .ok index) ∧
      claimAll d.integerType (d.upTo (i + 1)).entries = .error problem := by
  obtain ⟨notBefore, notAfter⟩ := name_only_at distinct place
  have run : ∀ k, claimAll d.integerType d.entries =
      match claimAll d.integerType (d.upTo k).entries with
      | .error found => .error found
      | .ok index => (((d.upTo k).valuesAfter (d.variants.drop k)).flatMap
          fun (v, value) => v.entries value).foldlM (claimEntry d.integerType) index := by
    intro k
    rw [← claimAll_append, ← entries_followedBy, followedBy_upTo]
  constructor
  · cases cut : claimAll d.integerType (d.upTo i).entries with
    | ok index => exact ⟨index, rfl⟩
    | error found =>
        rw [run i, cut] at failure
        cases failure
        obtain ⟨e, member, owned⟩ := foldlM_claimEntry_names_owner _ cut
        rw [named, Option.some.injEq] at owned
        exact (notBefore (owned ▸ owner_mem_variantNames member)).elim
  · rw [run (i + 1)] at failure
    cases cut : claimAll d.integerType (d.upTo (i + 1)).entries with
    | error found =>
        rw [cut] at failure
        exact failure
    | ok index =>
        rw [cut] at failure
        obtain ⟨e, member, owned⟩ := foldlM_claimEntry_names_owner _ failure
        rw [named, Option.some.injEq] at owned
        exact (notAfter (owned ▸ owner_mem_of_mem_later member)).elim

end EnumDecl

/-! ## What the claims depend on -/

/-- Two variants agree in all that claiming their values looks at. Default modifiers, fields, the
number of catch-all modifiers and the text of an explicit value may differ. -/
structure VariantDecl.ClaimsAlike (v w : VariantDecl) : Prop where
  name : v.name = w.name
  span : v.span = w.span
  explicitValue : v.explicitValue.map ConstExpr.value = w.explicitValue.map ConstExpr.value
  isCatchAll : v.isCatchAll = w.isCatchAll
  alternatives : v.modifiersOf .alternatives = w.modifiersOf .alternatives

namespace VariantDecl

theorem valueOr_eq (v : VariantDecl) (implied : Int) :
    v.valueOr implied = (v.explicitValue.map ConstExpr.value).getD implied := by
  unfold valueOr
  cases v.explicitValue <;> rfl

/-- Only alternatives modifiers have entries. -/
theorem alternativeEntries_eq (v : VariantDecl) :
    v.alternativeEntries = (v.modifiersOf .alternatives).flatMap fun m =>
      m.entries.map fun e => ⟨v.name, e.values, m.span⟩ := by
  unfold alternativeEntries modifiersOf
  induction v.modifiers with
  | nil => rfl
  | cons m rest ih =>
      rw [List.flatMap_cons, ih, List.filter_cons]
      cases m <;> rfl

theorem ClaimsAlike.valueOr {v w : VariantDecl} (alike : v.ClaimsAlike w) (implied : Int) :
    v.valueOr implied = w.valueOr implied := by
  rw [valueOr_eq, valueOr_eq, alike.explicitValue]

theorem ClaimsAlike.entries {v w : VariantDecl} (alike : v.ClaimsAlike w) (value : Int) :
    v.entries value = w.entries value := by
  unfold VariantDecl.entries
  rw [alternativeEntries_eq, alternativeEntries_eq, alike.name, alike.span, alike.isCatchAll,
    alike.alternatives]

end VariantDecl

theorem EnumDecl.entries_congr {d other : EnumDecl} (sameType : d.integerType = other.integerType)
    (alike : List.Forall₂ VariantDecl.ClaimsAlike d.variants other.variants) :
    d.entries = other.entries := by
  unfold EnumDecl.entries EnumDecl.canonicalValues
  rw [sameType]
  apply flatMap_eq_of_forall₂ (forall₂_zip_canonicalFrom other.integerType
    (fun _ _ same => same.valueOr) alike 0)
  rintro ⟨v, value⟩ ⟨w, _⟩ ⟨same, rfl⟩
  exact same.entries value

/-- A declaration that claims like another one up to a variant meets the same problem there. -/
theorem EnumDecl.resolve_error_of_alike {d other : EnumDecl} {problem : Diagnostic} {i : Nat}
    (stopped : claimAll d.integerType (d.upTo (i + 1)).entries = .error problem)
    (sameType : other.integerType = d.integerType)
    (alike : List.Forall₂ VariantDecl.ClaimsAlike (d.upTo (i + 1)).variants
      (other.upTo (i + 1)).variants) :
    resolve other = .error problem := by
  have same : (d.upTo (i + 1)).entries = (other.upTo (i + 1)).entries :=
    entries_congr sameType.symm alike
  refine resolve_eq_error_iff.mpr (Or.inl ?_)
  rw [← other.followedBy_upTo (i + 1), entries_followedBy, claimAll_append]
  change (match claimAll other.integerType (other.upTo (i + 1)).entries with
    | .error problem => _
    | .ok index => _) = _
  rw [sameType, ← same, stopped]

theorem not_value_problem_of_claimAll_ok {d : EnumDecl} {index : ValueIndex}
    (claimed : claimAll d.integerType d.entries = .ok index) {found : Diagnostic}
    (failure : resolve d = .error found) : found.kind ≠ .collision ∧ found.kind ≠ .outOfRange := by
  rw [← not_or]
  intro ofValues
  rw [claimAll_of_resolve_error failure ofValues] at claimed
  cases claimed

theorem exists_variant_of_value_problem {d : EnumDecl} {problem : Diagnostic}
    (failure : claimAll d.integerType d.entries = .error problem) :
    ∃ (i : Nat) (v : VariantDecl), d.variants[i]? = some v ∧
      problem.variant = some v.name := by
  obtain ⟨e, member, owned⟩ := foldlM_claimEntry_names_owner _ failure
  obtain ⟨v, isVariant, named⟩ := List.mem_map.mp (EnumDecl.owner_mem_variantNames member)
  obtain ⟨i, place⟩ := List.mem_iff_getElem?.mp isVariant
  exact ⟨i, v, place, by rw [owned, named]⟩

/-- A problem of values tells of one position. The declaration cut before it has no such problem,
and every declaration over the same type that claims alike up to it fails with the same problem,
whatever its other modifiers, fields, error types and later variants are. -/
theorem value_problem_depends_on_beginning {d : EnumDecl} {problem : Diagnostic} (valid : d.Valid)
    (failure : resolve d = .error problem)
    (ofValues : problem.kind = .collision ∨ problem.kind = .outOfRange) :
    ∃ (i : Nat) (v : VariantDecl), d.variants[i]? = some v ∧ problem.variant = some v.name ∧
      (∀ j w, d.variants[j]? = some w → problem.variant = some w.name → j = i) ∧
      (∀ found, resolve (d.upTo i) = .error found →
        found.kind ≠ .collision ∧ found.kind ≠ .outOfRange) ∧
      ∀ other : EnumDecl, other.integerType = d.integerType →
        List.Forall₂ VariantDecl.ClaimsAlike (d.variants.take (i + 1))
          (other.variants.take (i + 1)) →
        resolve other = .error problem := by
  have claims := claimAll_of_resolve_error failure ofValues
  obtain ⟨i, v, place, named⟩ := exists_variant_of_value_problem claims
  obtain ⟨⟨index, passed⟩, stopped⟩ :=
    EnumDecl.claimAll_stops_at valid.distinct place named claims
  refine ⟨i, v, place, named, ?_, ?_, ?_⟩
  · intro j w otherPlace otherNamed
    have same : w.name = v.name := Option.some.inj (otherNamed.symm.trans named)
    exact EnumDecl.position_unique valid.distinct otherPlace place same
  · intro found cut
    exact not_value_problem_of_claimAll_ok passed cut
  · intro other sameType alike
    exact EnumDecl.resolve_error_of_alike stopped sameType alike

/-- The claims of `straddling` under modifiers, fields, error types and a later variant that are all
out of order. -/
def EnumDecl.disordered : EnumDecl where
  name := "Disordered"
  integerType := ⟨.i8, .bits64⟩
  variants :=
    EnumDecl.straddling.variants.map (fun v =>
      { v with
        modifiers := .byDefault none :: v.modifiers ++ [.byDefault none]
        fieldTypes := ["u8"] }) ++
    [{ name := "Other", explicitValue := some ⟨10, none⟩, modifiers := [.catchAll none] }]
  errorTypes :=
    [{ name := "Bad", constructor := "bad" }, { name := "Worse", constructor := "worse" }]

theorem value_problem_depends_on_beginning_level :
    EnumDecl.straddling.Valid ∧
      resolve EnumDecl.straddling = .error ⟨.collision 10 "Low" "High", none⟩ ∧
      List.Forall₂ VariantDecl.ClaimsAlike (EnumDecl.straddling.variants.take 2)
        (EnumDecl.disordered.variants.take 2) ∧
      resolve EnumDecl.disordered = .error ⟨.collision 10 "Low" "High", none⟩ ∧
      ∀ found, resolve (EnumDecl.straddling.upTo 1) = .error found →
        found.kind ≠ .collision ∧ found.kind ≠ .outOfRange := by
  have valid : EnumDecl.straddling.Valid := by decide
  have failure : resolve EnumDecl.straddling = .error ⟨.collision 10 "Low" "High", none⟩ := by
    decide
  obtain ⟨i, v, _, named, unique, cut, same⟩ :=
    value_problem_depends_on_beginning valid failure (Or.inl rfl)
  obtain rfl : 1 = i := unique 1 _ rfl rfl
  have alike : List.Forall₂ VariantDecl.ClaimsAlike (EnumDecl.straddling.variants.take 2)
      (EnumDecl.disordered.variants.take 2) :=
    .cons ⟨rfl, rfl, rfl, rfl, rfl⟩ (.cons ⟨rfl, rfl, rfl, rfl, rfl⟩ .nil)
  exact ⟨valid, failure, alike, same EnumDecl.disordered rfl alike, cut⟩

end IntegerEnum
