import IntegerEnum.Derivation
import IntegerEnum.Evaluation
import IntegerEnum.Proofs.Coverage

/-! # Converting integers into the enumeration

`Converts` says what an integer of the type becomes: the variant that matches it, otherwise the
default variant or the catch-all with the integer. Every plan into the enumeration that resolution
and derivation yield computes this relation, and a total plan computes it for every integer of the
type. -/
set_option autoImplicit false

namespace IntegerEnum

namespace Plan

theorem requireInRange_of_contains {p : Plan} {n : Int}
    (inType : p.integerType.contains n = true) : p.requireInRange n = .ok () := if_pos inType

theorem requireInRange_of_outside {p : Plan} {n : Int}
    (outside : p.integerType.contains n = false) :
    p.requireInRange n = .error (.outOfRange n p.integerType) := if_neg (by simp [outside])

end Plan

namespace Mapping

inductive Converts (m : Mapping) (n : Int) : VariantValue → Prop where
  | matched {v : MappedVariant} (member : v ∈ m.variants) (isMatch : v.isMatch n = true) :
      Converts m n ⟨v.name, none⟩
  | byDefault {v : MappedVariant} (member : v ∈ m.variants) (isDefault : v.isDefault = true)
      (unmatched : ∀ w ∈ m.variants, w.isMatch n = false) : Converts m n ⟨v.name, none⟩
  | absorbed {v : MappedVariant} (member : v ∈ m.variants) (catchAll : v.isCatchAll = true)
      (unmatched : ∀ w ∈ m.variants, w.isMatch n = false) : Converts m n ⟨v.name, some n⟩

/-- The value for an integer that no variant matches. -/
def fallbackValue? (m : Mapping) (n : Int) : Option VariantValue :=
  match m.defaultVariant, m.catchAllVariant with
  | some name, _ => some ⟨name, none⟩
  | none, some name => some ⟨name, some n⟩
  | none, none => none

def convert? (m : Mapping) (n : Int) : Option VariantValue :=
  match m.lookup n with
  | some v => some ⟨v.name, none⟩
  | none => m.fallbackValue? n

theorem Sound.fallbackValue?_eq_some_iff {m : Mapping} (sound : m.Sound) {n : Int}
    {value : VariantValue} :
    m.fallbackValue? n = some value ↔
      (∃ v ∈ m.variants, v.isDefault = true ∧ value = ⟨v.name, none⟩) ∨
        ∃ v ∈ m.variants, v.isCatchAll = true ∧ value = ⟨v.name, some n⟩ := by
  have defaults := sound.defaultVariant_iff
  have catchAlls := sound.catchAllVariant_iff
  rw [fallbackValue?]
  constructor
  · intro found
    cases byDefault : m.defaultVariant with
    | some name =>
        obtain ⟨v, member, isDefault, rfl⟩ := (defaults name).mp byDefault
        simp only [byDefault, Option.some.injEq] at found
        exact Or.inl ⟨v, member, isDefault, found.symm⟩
    | none =>
        cases catchAll : m.catchAllVariant with
        | some name =>
            obtain ⟨v, member, isCatchAll, rfl⟩ := (catchAlls name).mp catchAll
            simp only [byDefault, catchAll, Option.some.injEq] at found
            exact Or.inr ⟨v, member, isCatchAll, found.symm⟩
        | none => simp [byDefault, catchAll] at found
  · rintro (⟨v, member, isDefault, rfl⟩ | ⟨v, member, isCatchAll, rfl⟩)
    · rw [(defaults v.name).mpr ⟨v, member, isDefault, rfl⟩]
    · have catchAll := (catchAlls v.name).mpr ⟨v, member, isCatchAll, rfl⟩
      have noDefault : m.defaultVariant = none := by
        refine sound.oneFallback.resolve_right ?_
        rw [catchAll]
        simp
      rw [catchAll, noDefault]

theorem Sound.convert?_eq_some_iff {m : Mapping} (sound : m.Sound) {n : Int}
    {value : VariantValue} : m.convert? n = some value ↔ m.Converts n value := by
  rw [convert?]
  cases found : m.lookup n with
  | some v =>
      obtain ⟨member, isMatch⟩ := mem_of_lookup found
      simp only [Option.some.injEq]
      constructor
      · rintro rfl
        exact .matched member isMatch
      · rintro (⟨wMember, wMatch⟩ | ⟨_, _, unmatched⟩ | ⟨_, _, unmatched⟩)
        · rw [sound.eq_of_isMatch member wMember isMatch wMatch]
        · rw [unmatched v member] at isMatch
          contradiction
        · rw [unmatched v member] at isMatch
          contradiction
  | none =>
      have unmatched := lookup_eq_none_iff.mp found
      simp only [sound.fallbackValue?_eq_some_iff]
      constructor
      · rintro (⟨v, member, isDefault, rfl⟩ | ⟨v, member, catchAll, rfl⟩)
        · exact .byDefault member isDefault unmatched
        · exact .absorbed member catchAll unmatched
      · rintro (⟨member, isMatch⟩ | ⟨member, isDefault, _⟩ | ⟨member, catchAll, _⟩)
        · rw [unmatched _ member] at isMatch
          contradiction
        · exact Or.inl ⟨_, member, isDefault, rfl⟩
        · exact Or.inr ⟨_, member, catchAll, rfl⟩

/-! ## The plans of a mapping -/

/-- A row of the table is found exactly where a variant of the mapping is. -/
theorem lookup_table (m : Mapping) (n : Int) :
    (m.table.find? fun row => row.isMatch n) = (m.lookup n).map MappedVariant.row := by
  rw [table, List.find?_map, List.find?_filter, lookup]
  congr 2
  funext v
  change decide ((!v.isCatchAll) = true ∧ v.isMatch n = true) = v.isMatch n
  cases isMatch : v.isMatch n with
  | false => simp
  | true => simp [MappedVariant.no_catchAll_of_isMatch isMatch]

theorem fallbackValue_eq {p : Plan} {m : Mapping} (n : Int) (gaps : m.isExhaustive = false)
    (policy : p.fallback = some (m.fallback?.getD .returnError)) :
    p.fallbackValue n = .ok (m.fallbackValue? n) := by
  rw [Plan.fallbackValue, policy, fallback?, if_neg (by simp [gaps]), fallbackValue?]
  cases m.defaultVariant with
  | some name => rfl
  | none => cases m.catchAllVariant <;> rfl

section Evaluation
variable {m : Mapping} {n : Int}

/-- A plan is asked for a fallback only where its mapping has gaps. -/
theorem Sound.fallbackValue_of_unmatched (sound : m.Sound) {p : Plan}
    (policy : p.fallback = some (m.fallback?.getD .returnError))
    (inType : m.integerType.contains n = true) (unmatched : m.lookup n = none) :
    p.fallbackValue n = .ok (m.convert? n) := by
  have gaps := sound.isExhaustive_eq_false_of_unmatched inType unmatched
  rw [fallbackValue_eq n gaps policy, convert?, unmatched]

theorem Sound.convert?_of_fallback? (sound : m.Sound) {fallback : Fallback}
    (available : m.fallback? = some fallback) (inType : m.integerType.contains n = true) :
    ∃ value, m.convert? n = some value := by
  rw [convert?]
  cases found : m.lookup n with
  | some v => exact ⟨_, rfl⟩
  | none =>
      have gaps := sound.isExhaustive_eq_false_of_unmatched inType found
      rw [fallback?, if_neg (by simp [gaps])] at available
      rw [fallbackValue?]
      cases byDefault : m.defaultVariant with
      | some name => exact ⟨_, rfl⟩
      | none =>
          cases catchAll : m.catchAllVariant with
          | some name => exact ⟨_, rfl⟩
          | none => simp [byDefault, catchAll] at available

theorem Sound.fromIntegerTotal_totalPlan (sound : m.Sound) {fallback : Fallback}
    {value : VariantValue} (available : m.fallback? = some fallback)
    (inType : m.integerType.contains n = true) (converted : m.convert? n = some value) :
    (m.totalPlan fallback).fromIntegerTotal n = .ok value := by
  have lookupPlan : (m.totalPlan fallback).lookup n = _ := m.lookup_table n
  have inRange : (m.totalPlan fallback).requireInRange n = _ :=
    Plan.requireInRange_of_contains inType
  have family : (m.totalPlan fallback).requireFamily .fromIntegerTotal = .ok () := rfl
  rw [Plan.fromIntegerTotal, family, inRange, lookupPlan]
  cases found : m.lookup n with
  | some v =>
      rw [convert?, found] at converted
      exact congrArg Except.ok (Option.some.inj converted)
  | none =>
      have fell := sound.fallbackValue_of_unmatched (p := m.totalPlan fallback)
        (by rw [available]; rfl) inType found
      simp only [Option.map_none, fell, converted]
      rfl

theorem Sound.tryFromInteger_falliblePlan (sound : m.Sound) {ε : Type} (registry : Registry ε)
    (inType : m.integerType.contains n = true) :
    m.falliblePlan.tryFromInteger n registry =
      match m.convert? n with
      | some value => .ok (.success value)
      | none =>
        ((ErrorRecipe.ofErrorType m.errorType).build m.enumName n registry).map .failure := by
  have lookupPlan : m.falliblePlan.lookup n = _ := m.lookup_table n
  have inRange : m.falliblePlan.requireInRange n = _ := Plan.requireInRange_of_contains inType
  have family : m.falliblePlan.requireFamily .fromIntegerFallible = .ok () := rfl
  rw [Plan.tryFromInteger, family, inRange, lookupPlan]
  cases found : m.lookup n with
  | some v =>
      rw [convert?, found]
      rfl
  | none =>
      have fell := sound.fallbackValue_of_unmatched (p := m.falliblePlan) rfl inType found
      simp only [Option.map_none, fell]
      cases m.convert? n <;> rfl

theorem fromIntegerTotal_of_outside (fallback : Fallback)
    (outside : m.integerType.contains n = false) :
    (m.totalPlan fallback).fromIntegerTotal n = .error (.outOfRange n m.integerType) := by
  have family : (m.totalPlan fallback).requireFamily .fromIntegerTotal = .ok () := rfl
  have refused : (m.totalPlan fallback).requireInRange n = _ :=
    Plan.requireInRange_of_outside outside
  rw [Plan.fromIntegerTotal, family, refused]
  rfl

theorem tryFromInteger_of_outside {ε : Type} (registry : Registry ε)
    (outside : m.integerType.contains n = false) :
    m.falliblePlan.tryFromInteger n registry = .error (.outOfRange n m.integerType) := by
  have family : m.falliblePlan.requireFamily .fromIntegerFallible = .ok () := rfl
  have refused : m.falliblePlan.requireInRange n = _ := Plan.requireInRange_of_outside outside
  rw [Plan.tryFromInteger, family, refused]
  rfl

theorem Sound.converts_of_tryFromInteger (sound : m.Sound) {ε : Type} {registry : Registry ε}
    {value : VariantValue}
    (success : m.falliblePlan.tryFromInteger n registry = .ok (.success value)) :
    m.integerType.contains n = true ∧ m.Converts n value := by
  cases inType : m.integerType.contains n with
  | false =>
      rw [tryFromInteger_of_outside registry inType] at success
      contradiction
  | true =>
      rw [sound.tryFromInteger_falliblePlan registry inType] at success
      refine ⟨rfl, sound.convert?_eq_some_iff.mp ?_⟩
      cases converted : m.convert? n with
      | some found =>
          simp only [converted, Except.ok.injEq, Outcome.success.injEq] at success
          rw [success]
      | none =>
          simp only [converted] at success
          cases built : (ErrorRecipe.ofErrorType m.errorType).build m.enumName n registry <;>
            simp [built, Except.map] at success

theorem Sound.tryFromInteger_of_converts (sound : m.Sound) {ε : Type} (registry : Registry ε)
    {value : VariantValue} (inType : m.integerType.contains n = true)
    (converts : m.Converts n value) :
    m.falliblePlan.tryFromInteger n registry = .ok (.success value) := by
  rw [sound.tryFromInteger_falliblePlan registry inType,
    sound.convert?_eq_some_iff.mpr converts]

/-- The default value is the default variant without payload. -/
theorem Sound.defaultValue_of_isDefault (sound : m.Sound) {v : MappedVariant}
    (member : v ∈ m.variants) (isDefault : v.isDefault = true) :
    derive m .defaultValue = .ok (m.basePlan .defaultValue) ∧
      (m.basePlan .defaultValue).defaultValue = .ok ⟨v.name, none⟩ := by
  have named := (sound.defaultVariant_iff v.name).mpr ⟨v, member, isDefault, rfl⟩
  have planned : (m.basePlan .defaultValue).defaultVariant = some v.name := named
  have family : (m.basePlan .defaultValue).requireFamily .defaultValue = .ok () := rfl
  refine ⟨?_, ?_⟩
  · rw [derive, named]
    rfl
  · rw [Plan.defaultValue, family, planned]
    rfl

end Evaluation

theorem derive_total_eq_ok_iff {m : Mapping} {p : Plan} :
    derive m .fromIntegerTotal = .ok p ↔
      ∃ fallback, m.fallback? = some fallback ∧ m.totalPlan fallback = p := by
  rw [derive]
  cases m.fallback? <;> simp

/-! ## Two mappings at one integer -/

section Pointwise
variable {w m : Mapping} {n : Int}

theorem convert?_congr
    (owner : (w.lookup n).map MappedVariant.name = (m.lookup n).map MappedVariant.name)
    (byDefault : w.defaultVariant = m.defaultVariant)
    (catchAll : w.catchAllVariant = m.catchAllVariant) : w.convert? n = m.convert? n := by
  have byName : ∀ k : Mapping, k.convert? n =
      ((k.lookup n).map fun v => (⟨v.name, none⟩ : VariantValue)).or (k.fallbackValue? n) := by
    intro k
    rw [convert?]
    cases k.lookup n <;> rfl
  have sameFallback : w.fallbackValue? n = m.fallbackValue? n := by
    rw [fallbackValue?, fallbackValue?, byDefault, catchAll]
  have sameOwner := congrArg (Option.map fun name => (⟨name, none⟩ : VariantValue)) owner
  rw [Option.map_map, Option.map_map] at sameOwner
  rw [byName, byName, sameFallback]
  exact congrArg (fun found => found.or (m.fallbackValue? n)) sameOwner

section Agreeing
variable (wSound : w.Sound) (sound : m.Sound) (integerType : w.integerType = m.integerType)
  (same : w.convert? n = m.convert? n)
include wSound sound integerType same

/-- What an integer converts to decides its fallible outcome, up to how errors are built. -/
theorem tryFromInteger_congr {ε : Type} (enumName : w.enumName = m.enumName)
    (errorType : w.errorType = m.errorType) (registry : Registry ε) :
    w.falliblePlan.tryFromInteger n registry = m.falliblePlan.tryFromInteger n registry := by
  cases inType : m.integerType.contains n with
  | false =>
      have outside : w.integerType.contains n = false := by rw [integerType, inType]
      rw [tryFromInteger_of_outside registry inType, tryFromInteger_of_outside registry outside,
        integerType]
  | true =>
      have inside : w.integerType.contains n = true := by rw [integerType, inType]
      rw [sound.tryFromInteger_falliblePlan registry inType,
        wSound.tryFromInteger_falliblePlan registry inside, same, errorType, enumName]

/-- Total plans agree on the integer even if they have different fallbacks. -/
theorem fromIntegerTotal_congr {q p : Plan} (wAvailable : derive w .fromIntegerTotal = .ok q)
    (available : derive m .fromIntegerTotal = .ok p) :
    q.fromIntegerTotal n = p.fromIntegerTotal n := by
  obtain ⟨wFallback, wChosen, rfl⟩ := derive_total_eq_ok_iff.mp wAvailable
  obtain ⟨fallback, chosen, rfl⟩ := derive_total_eq_ok_iff.mp available
  cases inType : m.integerType.contains n with
  | false =>
      have outside : w.integerType.contains n = false := by rw [integerType, inType]
      rw [fromIntegerTotal_of_outside fallback inType,
        fromIntegerTotal_of_outside wFallback outside, integerType]
  | true =>
      have inside : w.integerType.contains n = true := by rw [integerType, inType]
      obtain ⟨value, converted⟩ := sound.convert?_of_fallback? chosen inType
      rw [sound.fromIntegerTotal_totalPlan chosen inType converted,
        wSound.fromIntegerTotal_totalPlan wChosen inside (same.trans converted)]

end Agreeing

end Pointwise

end Mapping

/-- Where the total conversion exists it yields a value for every integer of the type, the one that
`Converts` fixes, and the fallible conversion succeeds with it whatever constructors are
registered. Both refuse the integers outside the type. -/
theorem total_agrees_with_fallible {ε : Type} {d : EnumDecl} {m : Mapping} {p : Plan}
    (success : resolve d = .ok m) (available : derive m .fromIntegerTotal = .ok p) :
    ∃ q, derive m .fromIntegerFallible = .ok q ∧
      (∀ n, d.integerType.contains n = true →
        ∃ value, m.Converts n value ∧ (∀ other, m.Converts n other → other = value) ∧
          p.fromIntegerTotal n = .ok value ∧
            ∀ registry : Registry ε, q.tryFromInteger n registry = .ok (.success value)) ∧
      (∀ n, d.integerType.contains n = false →
        p.fromIntegerTotal n = .error (.outOfRange n d.integerType) ∧
          ∀ registry : Registry ε,
            q.tryFromInteger n registry = .error (.outOfRange n d.integerType)) ∧
      ∀ v ∈ m.variants, v.isDefault = true →
        ∃ r, derive m .defaultValue = .ok r ∧ r.defaultValue = .ok ⟨v.name, none⟩ := by
  have sound := sound_of_resolve success
  obtain ⟨_, rfl⟩ := resolve_eq_ok_iff.mp success
  obtain ⟨fallback, isFallback, rfl⟩ := Mapping.derive_total_eq_ok_iff.mp available
  refine ⟨_, rfl, ?_, ?_, fun v member isDefault =>
    ⟨_, sound.defaultValue_of_isDefault member isDefault⟩⟩
  · intro n inType
    obtain ⟨value, converted⟩ := sound.convert?_of_fallback? isFallback inType
    have converts := sound.convert?_eq_some_iff.mp converted
    refine ⟨value, converts, ?_, sound.fromIntegerTotal_totalPlan isFallback inType converted,
      fun registry => sound.tryFromInteger_of_converts registry inType converts⟩
    intro other otherConverts
    rw [sound.convert?_eq_some_iff.mpr otherConverts] at converted
    exact Option.some.inj converted
  · intro n outside
    exact ⟨Mapping.fromIntegerTotal_of_outside fallback outside,
      fun registry => Mapping.tryFromInteger_of_outside registry outside⟩

theorem total_agrees_with_fallible_reply :
    resolve EnumDecl.reply = .ok Mapping.reply ∧
      derive Mapping.reply .fromIntegerTotal = .ok (Mapping.reply.totalPlan (.catchAll "Other")) ∧
        ∃ q, derive Mapping.reply .fromIntegerFallible = .ok q ∧
          (Mapping.reply.totalPlan (.catchAll "Other")).fromIntegerTotal 201 =
              .ok ⟨"Other", some 201⟩ ∧
            (∀ registry : Registry String,
              q.tryFromInteger 201 registry = .ok (.success ⟨"Other", some 201⟩)) ∧
            ∀ registry : Registry String,
              q.tryFromInteger 256 registry = .error (.outOfRange 256 ⟨.u8, .bits64⟩) := by
  have available : derive Mapping.reply .fromIntegerTotal =
      .ok (Mapping.reply.totalPlan (.catchAll "Other")) := rfl
  obtain ⟨q, derived, inside, outside, _⟩ :=
    total_agrees_with_fallible (ε := String) resolve_reply available
  obtain ⟨value, _, unique, total, fallible⟩ := inside 201 (by decide)
  have absorbed : Mapping.reply.Converts 201 ⟨"Other", some 201⟩ :=
    .absorbed (v := { name := "Other", value := 201, isCatchAll := true }) (by decide) rfl
      (by decide)
  rw [← unique _ absorbed] at total fallible
  exact ⟨resolve_reply, available, q, derived, total, fallible, (outside 256 (by decide)).2⟩

end IntegerEnum
