import IntegerEnum.Proofs.Canonical
import IntegerEnum.Proofs.Failures
import IntegerEnum.Proofs.Reports

/-! # The unchecked conversion

Values may be reinterpreted only where every variant stands for its own value alone. The unchecked
conversion then knows just these values, and as they all lie in the type it needs no check of the
range to refuse every other integer. On the integers of the type it is the fallible conversion.

The refusal tells the integer, so of a foreign integer without a numeral it cannot be told that it
is one. No integer of the type is like that. -/
set_option autoImplicit false

namespace IntegerEnum

namespace Mapping
variable {m : Mapping} {n : Int}

theorem unmarked_of_offers (bare : m.Offers .fromIntegerUnchecked) : m.Unmarked :=
  fun v member => ⟨(bare v member).1, (bare v member).2.1⟩

theorem isMatch_iff_of_offers (bare : m.Offers .fromIntegerUnchecked) {v : MappedVariant}
    (member : v ∈ m.variants) : v.isMatch n = true ↔ v.value = n := by
  obtain ⟨_, plain, noAlternatives⟩ := bare v member
  rw [MappedVariant.isMatch_iff, MappedVariant.matched_of_no_catchAll plain, MappedVariant.taken,
    noAlternatives]
  simp only [List.mem_singleton, exists_eq_left, ValueRange.contains_single]
  exact eq_comm

theorem derive_unchecked_eq_ok_iff {p : Plan} :
    derive m .fromIntegerUnchecked = .ok p ↔ m.uncheckedBlockers = [] ∧ m.uncheckedPlan = p := by
  rw [derive]
  cases m.uncheckedBlockers <;> simp

theorem fromIntegerUnchecked_uncheckedPlan (m : Mapping) (n : Int) :
    m.uncheckedPlan.fromIntegerUnchecked n =
      match m.lookup n with
      | some v => .ok ⟨v.name, none⟩
      | none =>
        .error
          (if Numeral.fits n then .uncheckedPrecondition m.enumName n else .numeralTooLong) := by
  have lookupPlan : m.uncheckedPlan.lookup n = _ := m.lookup_table n
  have family : m.uncheckedPlan.requireFamily .fromIntegerUnchecked = .ok () := rfl
  rw [Plan.fromIntegerUnchecked, family, lookupPlan]
  cases m.lookup n <;> rfl

theorem Sound.fromIntegerUnchecked_eq_ok_iff (sound : m.Sound)
    (bare : m.Offers .fromIntegerUnchecked) {value : VariantValue} :
    m.uncheckedPlan.fromIntegerUnchecked n = .ok value ↔
      ∃ v ∈ m.variants, v.value = n ∧ value = ⟨v.name, none⟩ := by
  rw [fromIntegerUnchecked_uncheckedPlan]
  constructor
  · intro success
    cases found : m.lookup n with
    | none =>
        rw [found] at success
        cases success
    | some v =>
        rw [found] at success
        cases success
        obtain ⟨member, isMatch⟩ := mem_of_lookup found
        exact ⟨v, member, (isMatch_iff_of_offers bare member).mp isMatch, rfl⟩
  · rintro ⟨v, member, canonical, rfl⟩
    have isMatch := (isMatch_iff_of_offers bare member).mpr canonical
    rw [sound.lookup_eq_some_iff.mpr ⟨member, isMatch⟩]

theorem fromIntegerUnchecked_of_foreign (bare : m.Offers .fromIntegerUnchecked)
    (foreign : ∀ v ∈ m.variants, v.value ≠ n) :
    m.uncheckedPlan.fromIntegerUnchecked n =
      .error (if Numeral.fits n then .uncheckedPrecondition m.enumName n else .numeralTooLong) := by
  have unmatched : m.lookup n = none := by
    refine lookup_eq_none_iff.mpr fun v member => ?_
    rw [← Bool.not_eq_true, isMatch_iff_of_offers bare member]
    exact foreign v member
  rw [fromIntegerUnchecked_uncheckedPlan, unmatched]

theorem Sound.fromIntegerUnchecked_eq_error_iff (sound : m.Sound)
    (bare : m.Offers .fromIntegerUnchecked) {problem : EvaluationError} :
    m.uncheckedPlan.fromIntegerUnchecked n = .error problem ↔
      (∀ v ∈ m.variants, v.value ≠ n) ∧
        (if Numeral.fits n then .uncheckedPrecondition m.enumName n else .numeralTooLong) =
          problem := by
  constructor
  · intro refused
    have foreign : ∀ v ∈ m.variants, v.value ≠ n := by
      intro v member canonical
      have reinterpreted :=
        (sound.fromIntegerUnchecked_eq_ok_iff bare).mpr ⟨v, member, canonical, rfl⟩
      rw [reinterpreted] at refused
      contradiction
    rw [fromIntegerUnchecked_of_foreign bare foreign, Except.error.injEq] at refused
    exact ⟨foreign, refused⟩
  · rintro ⟨foreign, rfl⟩
    exact fromIntegerUnchecked_of_foreign bare foreign

/-- What an integer converts into is what it is reinterpreted as. -/
theorem Sound.converts_iff_reinterpreted (sound : m.Sound) (bare : m.Offers .fromIntegerUnchecked)
    {value : VariantValue} :
    m.Converts n value ↔ m.uncheckedPlan.fromIntegerUnchecked n = .ok value := by
  rw [(unmarked_of_offers bare).converts_iff, sound.fromIntegerUnchecked_eq_ok_iff bare]
  constructor
  · rintro ⟨v, member, isMatch, rfl⟩
    exact ⟨v, member, (isMatch_iff_of_offers bare member).mp isMatch, rfl⟩
  · rintro ⟨v, member, canonical, rfl⟩
    exact ⟨v, member, (isMatch_iff_of_offers bare member).mpr canonical, rfl⟩

end Mapping

/-- What the unchecked plan `p` of a mapping makes of an integer, against the fallible plan `q` and
the plan `t` that writes integers. -/
structure Mapping.Reinterprets (m : Mapping) (p q t : Plan) (n : Int) : Prop where
  value : ∀ value, p.fromIntegerUnchecked n = .ok value ↔
    ∃ v ∈ m.variants, v.value = n ∧ value = ⟨v.name, none⟩
  refused : p.fromIntegerUnchecked n = .error (.uncheckedPrecondition m.enumName n) ↔
    (∀ v ∈ m.variants, v.value ≠ n) ∧ Numeral.fits n = true
  untold : p.fromIntegerUnchecked n = .error .numeralTooLong ↔
    (∀ v ∈ m.variants, v.value ≠ n) ∧ Numeral.fits n = false
  outside : m.integerType.contains n = false → ∀ v ∈ m.variants, v.value ≠ n
  inside : m.integerType.contains n = true → Numeral.fits n = true
  fallible : m.integerType.contains n = true →
    ∀ (ε : Type) (registry : Registry ε) (value : VariantValue),
      p.fromIntegerUnchecked n = .ok value ↔ q.tryFromInteger n registry = .ok (.success value)
  writtenBack : ∀ value, p.fromIntegerUnchecked n = .ok value → t.toInteger value = .ok n
  exhaustive : m.isExhaustive = true → m.integerType.contains n = true →
    ∃ value, p.fromIntegerUnchecked n = .ok value

/-- Where it is available, the unchecked conversion turns the values of the variants into them and
refuses every other integer, in or outside the type, unless the integer has no numeral. On the
integers of the type it yields a variant exactly when the fallible conversion does, the same one;
what it yields is written back as the integer; and of an exhaustive enumeration it refuses no
integer of the type. -/
theorem unchecked_agrees_with_fallible {d : EnumDecl} {m : Mapping} {p : Plan}
    (valid : d.Valid) (success : resolve d = .ok m)
    (available : derive m .fromIntegerUnchecked = .ok p) :
    m.enumName = d.name ∧ m.integerType = d.integerType ∧
      ∃ q t, derive m .fromIntegerFallible = .ok q ∧ derive m .toInteger = .ok t ∧
        ∀ n, m.Reinterprets p q t n := by
  have sound := sound_of_resolve success
  have distinct : m.names.Nodup := Mapping.names_of_resolve success ▸ valid.distinct
  obtain ⟨_, rfl⟩ := resolve_eq_ok_iff.mp success
  obtain ⟨unblocked, rfl⟩ := Mapping.derive_unchecked_eq_ok_iff.mp available
  have bare := sound.uncheckedBlockers_eq_nil_iff.mp unblocked
  refine ⟨rfl, rfl, _, _, rfl, rfl, fun n => ?_⟩
  constructor
  case value =>
    intro value
    exact sound.fromIntegerUnchecked_eq_ok_iff bare
  case refused =>
    rw [sound.fromIntegerUnchecked_eq_error_iff bare]
    cases Numeral.fits n <;> simp
  case untold =>
    rw [sound.fromIntegerUnchecked_eq_error_iff bare]
    cases Numeral.fits n <;> simp
  case outside =>
    intro outside v member canonical
    have inType := sound.contains_value member
    rw [canonical, outside] at inType
    contradiction
  case inside => exact IntegerType.fits_of_contains
  case fallible =>
    intro inType ε registry value
    rw [sound.tryFromInteger_eq_success_iff inType, sound.converts_iff_reinterpreted bare]
  case writtenBack =>
    intro value reinterpreted
    obtain ⟨v, member, rfl, rfl⟩ := (sound.fromIntegerUnchecked_eq_ok_iff bare).mp reinterpreted
    exact sound.toInteger_of_plain distinct member (bare v member).2.1 none
  case exhaustive =>
    intro exhaustive inType
    obtain ⟨value, converts⟩ := sound.exists_converts_of_exhaustive exhaustive inType
    exact ⟨value, (sound.converts_iff_reinterpreted bare).mp converts⟩

theorem unchecked_agrees_with_fallible_gear :
    EnumDecl.gear.Valid ∧ resolve EnumDecl.gear = .ok Mapping.gear ∧
      derive Mapping.gear .fromIntegerUnchecked = .ok Mapping.gear.uncheckedPlan ∧
      Mapping.gear.uncheckedPlan.fromIntegerUnchecked 4 = .ok ⟨"Drive", none⟩ ∧
      Mapping.gear.uncheckedPlan.fromIntegerUnchecked 260 =
        .error (.uncheckedPrecondition "Gear" 260) := by
  have valid : EnumDecl.gear.Valid := by decide
  have available : derive Mapping.gear .fromIntegerUnchecked = .ok Mapping.gear.uncheckedPlan := by
    rfl
  obtain ⟨_, _, _, _, _, _, agree⟩ := unchecked_agrees_with_fallible valid resolve_gear available
  have drive := ((agree 4).value _).mpr ⟨{ name := "Drive", value := 4 }, by decide, rfl, rfl⟩
  have foreign := (agree 260).refused.mpr ⟨(agree 260).outside (by decide), by decide⟩
  exact ⟨valid, resolve_gear, available, drive, foreign⟩

/-- An integer beyond the longest numeral is not refused as foreign. -/
theorem foreign_integer_without_numeral :
    resolve EnumDecl.gear = .ok Mapping.gear ∧
      derive Mapping.gear .fromIntegerUnchecked = .ok Mapping.gear.uncheckedPlan ∧
      (∀ v ∈ Mapping.gear.variants, v.value ≠ 10 ^ 4300) ∧
      Mapping.gear.uncheckedPlan.fromIntegerUnchecked (10 ^ 4300) ≠
        .error (.uncheckedPrecondition "Gear" (10 ^ 4300)) := by
  have long : Numeral.fits (10 ^ 4300) = false := by decide +kernel
  have foreign : ∀ v ∈ Mapping.gear.variants, v.value ≠ 10 ^ 4300 := by decide +kernel
  have bare : ∀ v ∈ Mapping.gear.variants,
      v.isDefault = false ∧ v.isCatchAll = false ∧ v.alternatives = [] := by decide
  refine ⟨resolve_gear, rfl, foreign, ?_⟩
  rw [Mapping.fromIntegerUnchecked_of_foreign bare foreign, long]
  exact nofun

end IntegerEnum
