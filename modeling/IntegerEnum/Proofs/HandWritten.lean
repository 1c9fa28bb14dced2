import IntegerEnum.Proofs.Documents
import IntegerEnum.Proofs.Interchange

/-! # Plans of hand-written mappings

A mapping can be read from a document that no declaration resolves to: its ranges may overlap, its
names repeat and its flags contradict the names of its fallbacks. Derivation holds up on all of
them. Whatever plan it yields is one that the reader of plans accepts, and its rows answer every
lookup as the variants of the mapping do. -/
set_option autoImplicit false

namespace IntegerEnum

def DiagnosticKind.ofDerivation : List DiagnosticKind :=
  [.missingFallback, .missingDefault, .uncheckedUnavailable]

section AnyMapping
variable {m : Mapping} {family : Family} {p : Plan}

theorem derive_error_kind {problem : Diagnostic} (failure : derive m family = .error problem) :
    problem.kind ∈ DiagnosticKind.ofDerivation := by
  cases family with
  | toInteger => cases failure
  | fromIntegerFallible => cases failure
  | _ =>
      simp only [derive] at failure
      split at failure
      · contradiction
      · cases failure
        simp [DiagnosticKind.ofDerivation, Diagnostic.kind, Cause.kind]

theorem table_of_derive (derived : derive m family = .ok p) : p.table = m.table := by
  cases family with
  | toInteger => cases derived; rfl
  | fromIntegerFallible => cases derived; rfl
  | fromIntegerTotal =>
      obtain ⟨fallback, _, rfl⟩ := Mapping.derive_total_eq_ok_iff.mp derived
      rfl
  | fromIntegerUnchecked =>
      obtain ⟨_, rfl⟩ := Mapping.derive_unchecked_eq_ok_iff.mp derived
      rfl
  | defaultValue =>
      obtain ⟨_, rfl⟩ := Mapping.derive_defaultValue_eq_ok_iff.mp derived
      rfl

theorem lookup_of_derive (derived : derive m family = .ok p) (n : Int) :
    p.lookup n = (m.lookup n).map MappedVariant.row := by
  rw [Plan.lookup, table_of_derive derived, m.lookup_table]

/-- The row of a variant that is found matches its canonical value and its alternatives. -/
theorem matched_row_of_lookup {n : Int} {v : MappedVariant} (found : m.lookup n = some v) :
    v.row.matched = .single v.value :: v.alternatives := by
  have isMatch := (Mapping.mem_of_lookup found).2
  exact MappedVariant.matched_of_no_catchAll (MappedVariant.no_catchAll_of_isMatch isMatch)

end AnyMapping

/-- On every mapping that a document is read as, consistent or not, derivation yields a plan that
meets every rule for plans or says that the family is unavailable, and the plan finds what the
mapping finds. -/
theorem derivation_safe_and_faithful {m : Mapping} (valid : m.Valid) (family : Family) :
    ((∃ p, derive m family = .ok p ∧ p.Valid ∧ Plan.read p.toJson = .accepted p) ∨
      ∃ problem, derive m family = .error problem ∧
        problem.kind ∈ DiagnosticKind.ofDerivation) ∧
    ∀ p, derive m family = .ok p → ∀ n,
      (p.lookup n = none ↔ m.lookup n = none) ∧
      ∀ v, m.lookup n = some v → ∃ row, p.lookup n = some row ∧ row.variant = v.name ∧
        row.value = v.value ∧ row.matched = .single v.value :: v.alternatives := by
  constructor
  · cases outcome : derive m family with
    | ok p =>
        have planValid := Plan.valid_of_derive valid outcome
        exact Or.inl ⟨p, rfl, planValid, Plan.lossless.complete p planValid⟩
    | error problem => exact Or.inr ⟨problem, rfl, derive_error_kind outcome⟩
  · intro p derived n
    rw [lookup_of_derive derived]
    constructor
    · exact Option.map_eq_none_iff
    · intro v found
      rw [found]
      exact ⟨v.row, rfl, rfl, rfl, matched_row_of_lookup found⟩

/-- Two variants of one name that overlap, a catch-all that is not marked as the fallback, a default
that no variant has, and a claim to be exhaustive. -/
def Mapping.tangled : Mapping where
  enumName := "Reply"
  integerType := ⟨.u8, .bits64⟩
  variants :=
    [{ name := "Other", value := 7, isCatchAll := true },
      { name := "Busy", value := 3, alternatives := [⟨5, 12, false, by decide⟩] },
      { name := "Busy", value := 7, alternatives := [⟨300, 400, true, by decide⟩] }]
  isExhaustive := true
  defaultVariant := some "Nobody"

theorem derivation_safe_and_faithful_tangled :
    Mapping.tangled.Valid ∧
      (∃ p, derive Mapping.tangled .fromIntegerTotal = .ok p ∧
        Plan.read p.toJson = .accepted p ∧
        (∃ row, p.lookup 7 = some row ∧ row.variant = "Busy" ∧ row.value = 3) ∧
        p.lookup 4 = none) ∧
      ∃ problem, derive Mapping.tangled .fromIntegerUnchecked = .error problem ∧
        problem.kind ∈ DiagnosticKind.ofDerivation := by
  have valid : Mapping.tangled.Valid := nofun
  obtain ⟨total, faithful⟩ := derivation_safe_and_faithful valid .fromIntegerTotal
  have unchecked := (derivation_safe_and_faithful valid .fromIntegerUnchecked).1
  refine ⟨valid, ?_, ?_⟩
  · rcases total with ⟨p, derived, _, accepted⟩ | ⟨problem, failure, _⟩
    · obtain ⟨_, found⟩ := faithful p derived 7
      obtain ⟨row, isRow, named, value, _⟩ := found _ rfl
      exact ⟨p, derived, accepted, ⟨row, isRow, named, value⟩, (faithful p derived 4).1.mpr rfl⟩
    · cases failure
  · rcases unchecked with ⟨p, derived, _⟩ | refused
    · cases derived
    · exact refused

end IntegerEnum
