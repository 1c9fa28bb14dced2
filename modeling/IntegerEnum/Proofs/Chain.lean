import IntegerEnum.Resolution
import IntegerEnum.Proofs.IntegerType
import IntegerEnum.Proofs.Ranges

/-! # The chain of canonical values

`chainValue` gives the canonical value of every position of a declaration: the explicit value where
one is declared, otherwise 0 at the first position and the successor in the integer type later on.
The values that resolution settles are those of the chain, and all of them lie in the type once the
explicit ones do. -/
set_option autoImplicit false

namespace IntegerEnum

namespace VariantDecl

def alternativeRanges (v : VariantDecl) : List ValueRange :=
  v.modifiers.flatMap fun m => m.entries.map Alternative.values

theorem values_alternativeEntries (v : VariantDecl) :
    v.alternativeEntries.map Entry.values = v.alternativeRanges := by
  simp only [alternativeEntries, alternativeRanges, List.map_flatMap, List.map_map]
  rfl

/-- What the variant claims, given its canonical value. A catch-all claims nothing more. -/
def entries (v : VariantDecl) (value : Int) : List Entry :=
  ⟨v.name, .single value, v.span⟩ :: (if v.isCatchAll then [] else v.alternativeEntries)

theorem values_entries (v : VariantDecl) (value : Int) :
    (v.entries value).map Entry.values =
      .single value :: (if v.isCatchAll then [] else v.alternativeRanges) := by
  rw [entries, List.map_cons]
  split
  · rfl
  · rw [values_alternativeEntries]

end VariantDecl

namespace EnumDecl

/-- Every claim of the declaration, in the order in which they are made. -/
def entries (d : EnumDecl) : List Entry :=
  (d.variants.zip d.canonicalValues).flatMap fun (v, value) => v.entries value

def explicitAt (d : EnumDecl) (i : Nat) : Option Int :=
  d.variants[i]?.bind fun v => v.explicitValue.map ConstExpr.value

def chainValue (d : EnumDecl) : Nat → Int
  | 0 => (d.explicitAt 0).getD 0
  | i + 1 => (d.explicitAt (i + 1)).getD (d.integerType.wrappingAdd (d.chainValue i) 1)

def impliedAt (d : EnumDecl) : Nat → Int
  | 0 => 0
  | i + 1 => d.integerType.wrappingAdd (d.chainValue i) 1

theorem chainValue_eq (d : EnumDecl) (i : Nat) :
    d.chainValue i = (d.explicitAt i).getD (d.impliedAt i) := by
  cases i <;> rfl

theorem valueOr_impliedAt {d : EnumDecl} {i : Nat} {v : VariantDecl}
    (place : d.variants[i]? = some v) : v.valueOr (d.impliedAt i) = d.chainValue i := by
  rw [chainValue_eq, explicitAt, place, Option.bind_some, VariantDecl.valueOr]
  cases v.explicitValue <;> rfl

theorem zip_canonicalFrom {d : EnumDecl} : ∀ (rest before : List VariantDecl),
    d.variants = before ++ rest →
      rest.zip (canonicalFrom d.integerType (d.impliedAt before.length) rest) =
        (rest.zipIdx before.length).map fun (v, i) => (v, d.chainValue i) := by
  intro rest
  induction rest with
  | nil => intro before _; rfl
  | cons v rest ih =>
      intro before split
      have place : d.variants[before.length]? = some v := by simp [split]
      have next := ih (before ++ [v]) (by simp [split])
      rw [List.length_append, List.length_singleton] at next
      rw [canonicalFrom, valueOr_impliedAt place, List.zip_cons_cons, List.zipIdx_cons,
        List.map_cons, ← next]
      rfl

theorem zip_canonicalValues (d : EnumDecl) :
    d.variants.zip d.canonicalValues = d.variants.zipIdx.map fun (v, i) => (v, d.chainValue i) :=
  zip_canonicalFrom d.variants [] rfl

theorem resolvedVariants_eq (d : EnumDecl) :
    d.resolvedVariants = d.variants.zipIdx.map fun (v, i) => v.resolved (d.chainValue i) := by
  rw [resolvedVariants, zip_canonicalValues, List.map_map]
  rfl

theorem getElem?_resolvedVariants (d : EnumDecl) (i : Nat) :
    d.resolvedVariants[i]? = d.variants[i]?.map fun v => v.resolved (d.chainValue i) := by
  rw [resolvedVariants_eq, List.getElem?_map, List.getElem?_zipIdx, Option.map_map, Nat.zero_add]
  rfl

theorem mem_resolvedVariants {d : EnumDecl} {w : MappedVariant} :
    w ∈ d.resolvedVariants ↔
      ∃ i, ∃ v : VariantDecl, d.variants[i]? = some v ∧ v.resolved (d.chainValue i) = w := by
  rw [List.mem_iff_getElem?]
  simp only [getElem?_resolvedVariants, Option.map_eq_some_iff]

theorem chainValue_of_explicit {d : EnumDecl} {i : Nat} {v : VariantDecl} {e : ConstExpr}
    (place : d.variants[i]? = some v) (isExplicit : v.explicitValue = some e) :
    d.chainValue i = e.value := by
  rw [chainValue_eq, explicitAt, place, Option.bind_some, isExplicit]
  rfl

/-- Every explicit value lies in the integer type. -/
def ExplicitInType (d : EnumDecl) : Prop :=
  ∀ v ∈ d.variants, ∀ e ∈ v.explicitValue, d.integerType.contains e.value = true

/-- An implied value always lies in the type, whatever was declared before it. -/
theorem contains_chainValue_of_undeclared {d : EnumDecl} {i : Nat}
    (undeclared : d.explicitAt i = none) : d.integerType.contains (d.chainValue i) = true := by
  rw [chainValue_eq, undeclared, Option.getD_none]
  cases i with
  | zero => exact d.integerType.contains_zero
  | succ i => exact d.integerType.contains_wrappingAdd _ _

theorem contains_chainValue {d : EnumDecl} (explicitInType : d.ExplicitInType) (i : Nat) :
    d.integerType.contains (d.chainValue i) = true := by
  cases declared : d.explicitAt i with
  | none => exact contains_chainValue_of_undeclared declared
  | some value =>
      rw [chainValue_eq, declared, Option.getD_some]
      obtain ⟨v, place, declared⟩ := Option.bind_eq_some_iff.mp declared
      obtain ⟨e, isExplicit, rfl⟩ := Option.map_eq_some_iff.mp declared
      exact explicitInType v (List.mem_of_getElem? place) e isExplicit

/-- No variant at the positions from `first` to `last` declares a value. -/
def Implicit (d : EnumDecl) (first last : Nat) : Prop :=
  ∀ k v, first ≤ k → k ≤ last → d.variants[k]? = some v → v.explicitValue = none

theorem explicitAt_of_implicit {d : EnumDecl} {first last k : Nat}
    (implicit : d.Implicit first last) (lower : first ≤ k) (upper : k ≤ last) :
    d.explicitAt k = none := by
  rw [explicitAt, Option.bind_eq_none_iff]
  intro v place
  rw [implicit k v lower upper place]
  rfl

/-- Along implicit variants the chain counts up in the arithmetic of the type. -/
theorem chainValue_add_of_implicit {d : EnumDecl} {i : Nat}
    (inType : d.integerType.contains (d.chainValue i) = true) :
    ∀ j : Nat, d.Implicit (i + 1) (i + j) →
      d.chainValue (i + j) = d.integerType.wrap (d.chainValue i + j) := by
  intro j
  induction j with
  | zero =>
      intro _
      rw [Int.natCast_zero, Int.add_zero]
      exact (IntegerType.wrap_of_contains inType).symm
  | succ j ih =>
      intro implicit
      have shorter : d.Implicit (i + 1) (i + j) :=
        fun k v lower upper => implicit k v lower (by omega)
      have undeclared := explicitAt_of_implicit implicit (k := i + j + 1) (by omega) (by omega)
      rw [← Nat.add_assoc, chainValue, undeclared, Option.getD_none, ih shorter,
        IntegerType.wrappingAdd, IntegerType.wrap_wrap_add, Int.natCast_add, Int.add_assoc]
      rfl

theorem chainValue_of_implicit {d : EnumDecl} {j : Nat} (implicit : d.Implicit 0 j) :
    d.chainValue j = d.integerType.wrap j := by
  have zero : d.chainValue 0 = 0 := by
    rw [chainValue, explicitAt_of_implicit implicit (Nat.le_refl 0) (Nat.zero_le j)]
    rfl
  have later : d.Implicit (0 + 1) (0 + j) :=
    fun k v lower upper => implicit k v (by omega) (by omega)
  have counted := chainValue_add_of_implicit (zero ▸ d.integerType.contains_zero) j later
  rwa [zero, Nat.zero_add, Int.zero_add] at counted

/-- What a declaration lists, occurrence by occurrence: for every variant its canonical value, then
its alternatives. -/
def listedRanges (d : EnumDecl) : List ValueRange :=
  d.variants.zipIdx.flatMap fun (v, i) => .single (d.chainValue i) :: v.alternativeRanges

theorem mem_listedRanges {d : EnumDecl} {r : ValueRange} :
    r ∈ d.listedRanges ↔
      ∃ i v, d.variants[i]? = some v ∧
        (r = .single (d.chainValue i) ∨ r ∈ v.alternativeRanges) := by
  rw [listedRanges, List.mem_flatMap]
  constructor
  · rintro ⟨⟨v, i⟩, member, listed⟩
    exact ⟨i, v, List.mem_zipIdx_iff_getElem?.mp member, List.mem_cons.mp listed⟩
  · rintro ⟨i, v, place, listed⟩
    exact ⟨(v, i), List.mem_zipIdx_iff_getElem?.mpr place, List.mem_cons.mpr listed⟩

/-- A catch-all claims its canonical value only, so all that is listed is claimed when no catch-all
lists alternatives. -/
theorem values_entries_of_bare_catchAll {d : EnumDecl}
    (bare : ∀ v ∈ d.variants, v.isCatchAll = true → v.alternativeRanges = []) :
    d.entries.map Entry.values = d.listedRanges := by
  rw [entries, zip_canonicalValues, List.flatMap_map, List.map_flatMap, listedRanges]
  refine List.flatMap_congr ?_
  rintro ⟨v, i⟩ member
  have isVariant := List.mem_of_getElem? (List.mem_zipIdx_iff_getElem?.mp member)
  change (v.entries (d.chainValue i)).map Entry.values =
    .single (d.chainValue i) :: v.alternativeRanges
  rw [VariantDecl.values_entries]
  by_cases catchAll : v.isCatchAll = true
  · rw [if_pos catchAll, bare v isVariant catchAll]
  · rw [if_neg catchAll]

end EnumDecl

end IntegerEnum
