import IntegerEnum.Proofs.Conversion

/-! # Failures of the fallible conversion

Where no variant is a default or a catch-all, nothing stands in for a variant that matches. The
fallible conversion then fails on exactly the unmatched integers of the type, with the error that
the declaration asks for. Only there is a constructor looked up. -/
set_option autoImplicit false

namespace IntegerEnum

namespace ErrorRecipe
variable {ε : Type} {enumName : String} {n : Int} {registry : Registry ε}

theorem build_builtIn :
    (ofErrorType none).build enumName n registry = .ok (.unmatched ⟨n, enumName⟩) := rfl

theorem build_of_registered {e : ErrorType} {make : Int → ε}
    (registered : registry e.constructor = some make) :
    (ofErrorType (some e)).build enumName n registry = .ok (.custom (make n)) := by
  simp only [ofErrorType, build, Option.getD_some, registered]

theorem build_of_unregistered {e : ErrorType} (unregistered : registry e.constructor = none) :
    (ofErrorType (some e)).build enumName n registry =
      .error (.unknownConstructor e.constructor) := by
  simp only [ofErrorType, build, Option.getD_some, unregistered]

end ErrorRecipe

namespace Mapping

/-- No variant is a default or a catch-all. -/
def Unmarked (m : Mapping) : Prop :=
  ∀ v ∈ m.variants, v.isDefault = false ∧ v.isCatchAll = false

section Outcomes
variable {m : Mapping} {n : Int} {value : VariantValue}

theorem Unmarked.converts_iff (unmarked : m.Unmarked) :
    m.Converts n value ↔ ∃ v ∈ m.variants, v.isMatch n = true ∧ value = ⟨v.name, none⟩ := by
  constructor
  · rintro (⟨member, isMatch⟩ | ⟨member, isDefault, _⟩ | ⟨member, catchAll, _⟩)
    · exact ⟨_, member, isMatch, rfl⟩
    · rw [(unmarked _ member).1] at isDefault
      contradiction
    · rw [(unmarked _ member).2] at catchAll
      contradiction
  · rintro ⟨v, member, isMatch, rfl⟩
    exact .matched member isMatch

theorem Sound.tryFromInteger_eq_success_iff (sound : m.Sound) {ε : Type} {registry : Registry ε}
    (inType : m.integerType.contains n = true) :
    m.falliblePlan.tryFromInteger n registry = .ok (.success value) ↔ m.Converts n value :=
  ⟨fun success => (sound.converts_of_tryFromInteger success).2,
    sound.tryFromInteger_of_converts registry inType⟩

theorem Sound.exists_converts_of_exhaustive (sound : m.Sound) (exhaustive : m.isExhaustive = true)
    (inType : m.integerType.contains n = true) : ∃ value, m.Converts n value := by
  have matched := sound.isExhaustive_iff.mp exhaustive n inType
  obtain ⟨v, found⟩ := Option.ne_none_iff_exists'.mp matched
  obtain ⟨member, isMatch⟩ := mem_of_lookup found
  exact ⟨_, .matched member isMatch⟩

/-- An unmatched integer is left to the recipe for errors. -/
theorem Sound.tryFromInteger_of_unmatched (sound : m.Sound) (unmarked : m.Unmarked) {ε : Type}
    (registry : Registry ε) (inType : m.integerType.contains n = true)
    (unmatched : ∀ v ∈ m.variants, v.isMatch n = false) :
    m.falliblePlan.tryFromInteger n registry =
      ((ErrorRecipe.ofErrorType m.errorType).build m.enumName n registry).map .failure := by
  rw [sound.tryFromInteger_falliblePlan registry inType]
  cases converted : m.convert? n with
  | none => rfl
  | some value =>
      have converts := sound.convert?_eq_some_iff.mp converted
      obtain ⟨v, member, isMatch, _⟩ := unmarked.converts_iff.mp converts
      rw [unmatched v member] at isMatch
      contradiction

end Outcomes

end Mapping

namespace EnumDecl

theorem unmarked_mapping {d : EnumDecl} {marks : Marks}
    (unmarked : ∀ v ∈ d.variants, v.isDefault = false ∧ v.isCatchAll = false) :
    (d.mapping marks).Unmarked := by
  intro w member
  obtain ⟨i, v, place, rfl⟩ := mem_resolvedVariants.mp member
  exact unmarked v (List.mem_of_getElem? place)

theorem errorType_mapping {d : EnumDecl} {marks : Marks} (wellFormed : d.WellFormed)
    {e : ErrorType} (declared : e ∈ d.errorTypes) : (d.mapping marks).errorType = some e := by
  have single := wellFormed.oneErrorType
  change d.errorTypes.head? = some e
  cases types : d.errorTypes with
  | nil =>
      rw [types] at declared
      cases declared
  | cons first others =>
      rw [types, List.length_cons] at single
      have alone : others = [] := List.eq_nil_of_length_eq_zero (by omega)
      rw [types, alone] at declared
      rw [List.mem_singleton.mp declared]
      rfl

end EnumDecl

/-- Without a default and a catch-all, the fallible conversion of an integer of the type succeeds
with the variant that matches it, whatever constructors are registered. Where none does, it fails
with the built-in error, or with what the registered constructor of the declared error type makes
of the integer; it has no outcome when that constructor is not registered. -/
theorem fallible_fails_on_unmatched {ε : Type} {d : EnumDecl} {m : Mapping}
    (success : resolve d = .ok m)
    (unmarked : ∀ v ∈ d.variants, v.isDefault = false ∧ v.isCatchAll = false) :
    ∃ q, derive m .fromIntegerFallible = .ok q ∧
      ∀ n, d.integerType.contains n = true → ∀ registry : Registry ε,
        (∀ value, q.tryFromInteger n registry = .ok (.success value) ↔
          ∃ v ∈ m.variants, v.isMatch n = true ∧ value = ⟨v.name, none⟩) ∧
        ((∀ v ∈ m.variants, v.isMatch n = false) →
          (d.errorTypes = [] →
            q.tryFromInteger n registry = .ok (.failure (.unmatched ⟨n, d.name⟩))) ∧
          ∀ e ∈ d.errorTypes,
            (∀ make, registry e.constructor = some make →
              q.tryFromInteger n registry = .ok (.failure (.custom (make n)))) ∧
            (registry e.constructor = none →
              q.tryFromInteger n registry = .error (.unknownConstructor e.constructor))) ∧
        (m.isExhaustive = true →
          ∃ value, q.tryFromInteger n registry = .ok (.success value)) := by
  have sound := sound_of_resolve success
  obtain ⟨wellFormed, rfl⟩ := resolve_eq_ok_iff.mp success
  have noneMarked : (d.mapping d.marks).Unmarked := EnumDecl.unmarked_mapping unmarked
  refine ⟨_, rfl, fun n inType registry => ⟨?_, ?_, ?_⟩⟩
  · intro value
    rw [sound.tryFromInteger_eq_success_iff inType, noneMarked.converts_iff]
  · intro unmatched
    rw [sound.tryFromInteger_of_unmatched noneMarked registry inType unmatched]
    constructor
    · intro undeclared
      have builtIn : (d.mapping d.marks).errorType = none := by
        change d.errorTypes.head? = none
        rw [undeclared]
        rfl
      rw [builtIn, ErrorRecipe.build_builtIn]
      rfl
    · intro e declared
      rw [EnumDecl.errorType_mapping wellFormed declared]
      constructor
      · intro make registered
        rw [ErrorRecipe.build_of_registered registered]
        rfl
      · intro unregistered
        rw [ErrorRecipe.build_of_unregistered unregistered]
        rfl
  · intro exhaustive
    obtain ⟨value, converts⟩ := sound.exists_converts_of_exhaustive exhaustive inType
    exact ⟨value, sound.tryFromInteger_of_converts registry inType converts⟩

/-- Gears of one byte with an error type of their own. -/
def EnumDecl.gear : EnumDecl where
  name := "Gear"
  integerType := ⟨.u8, .bits64⟩
  variants :=
    [{ name := "Park" },
      { name := "Drive", explicitValue := some ⟨4, none⟩ },
      { name := "Reverse" }]
  errorTypes := [{ name := "GearError", constructor := "GearError::unknown" }]

def Mapping.gear : Mapping where
  enumName := "Gear"
  integerType := ⟨.u8, .bits64⟩
  variants :=
    [{ name := "Park", value := 0 }, { name := "Drive", value := 4 },
      { name := "Reverse", value := 5 }]
  errorType := some { name := "GearError", constructor := "GearError::unknown" }

theorem resolve_gear : resolve EnumDecl.gear = .ok Mapping.gear := by cbv

theorem fallible_fails_on_unmatched_gear :
    resolve EnumDecl.gear = .ok Mapping.gear ∧
      ∃ q, derive Mapping.gear .fromIntegerFallible = .ok q ∧
        (∀ registry : Registry Int,
          q.tryFromInteger 5 registry = .ok (.success ⟨"Reverse", none⟩)) ∧
        q.tryFromInteger 6 (fun path => if path = "GearError::unknown" then some (- ·) else none) =
          .ok (.failure (.custom (-6))) ∧
        q.tryFromInteger 6 (Registry.empty (ε := Int)) =
          .error (.unknownConstructor "GearError::unknown") := by
  have unmarked : ∀ v ∈ EnumDecl.gear.variants, v.isDefault = false ∧ v.isCatchAll = false := by
    decide
  obtain ⟨q, derived, outcome⟩ := fallible_fails_on_unmatched (ε := Int) resolve_gear unmarked
  have unmatched : ∀ v ∈ Mapping.gear.variants, v.isMatch 6 = false := by decide
  refine ⟨resolve_gear, q, derived, fun registry => ?_, ?_, ?_⟩
  · refine ((outcome 5 (by decide) registry).1 _).mpr
      ⟨{ name := "Reverse", value := 5 }, by decide, by decide, rfl⟩
  · exact (((outcome 6 (by decide) _).2.1 unmatched).2 _ (List.mem_singleton_self _)).1 _ rfl
  · exact (((outcome 6 (by decide) _).2.1 unmatched).2 _ (List.mem_singleton_self _)).2 rfl

end IntegerEnum
