import IntegerEnum.Proofs.Conversion

/-! # Canonical integers

An integer that converts into the enumeration comes back as its canonical form: the canonical value
of the variant that matches it, the one of the default variant when none does, or the integer
itself when a catch-all absorbs it. Names decide which row an enumeration value is written with, so
the way back needs them to be distinct. -/
set_option autoImplicit false

namespace IntegerEnum

namespace Mapping

def names (m : Mapping) : List String := m.variants.map MappedVariant.name

/-- The integer that `n` is brought to by converting it and writing the result back. -/
def canonical (m : Mapping) (n : Int) : Int :=
  match m.lookup n with
  | some v => v.value
  | none =>
    match m.variants.find? MappedVariant.isDefault with
    | some v => v.value
    | none => n

section Names
variable {m : Mapping} {v w : MappedVariant}

theorem eq_of_name (distinct : m.names.Nodup) (vMember : v ∈ m.variants) (wMember : w ∈ m.variants)
    (same : v.name = w.name) : v = w := List.inj_on_of_nodup_map distinct vMember wMember same

theorem rowOf?_toIntegerPlan (distinct : m.names.Nodup) (member : v ∈ m.variants)
    (plain : v.isCatchAll = false) : m.toIntegerPlan.rowOf? v.name = some v.row := by
  change (m.table.find? fun row => row.variant = v.name) = _
  rw [table, List.find?_map, List.find?_filter, Option.map_eq_some_iff]
  refine ⟨v, ?_, rfl⟩
  generalize search : m.variants.find? _ = found
  cases found with
  | none =>
      have absent := List.find?_eq_none.mp search v member
      simp [plain, MappedVariant.row] at absent
  | some w =>
      have hit := List.find?_some search
      have same : w.name = v.name := of_decide_eq_true (of_decide_eq_true hit).2
      rw [eq_of_name distinct (List.mem_of_find?_eq_some search) member same]

theorem Sound.catchAllVariant_ne (sound : m.Sound) (distinct : m.names.Nodup)
    (member : v ∈ m.variants) (plain : v.isCatchAll = false) :
    m.catchAllVariant ≠ some v.name := by
  intro named
  obtain ⟨c, cMember, catchAll, same⟩ := (sound.catchAllVariant_iff v.name).mp named
  rw [eq_of_name distinct cMember member same, plain] at catchAll
  contradiction

theorem Sound.not_default_and_catchAll (sound : m.Sound) (vMember : v ∈ m.variants)
    (wMember : w ∈ m.variants) (isDefault : v.isDefault = true) (catchAll : w.isCatchAll = true) :
    False := by
  have named := (sound.defaultVariant_iff v.name).mpr ⟨v, vMember, isDefault, rfl⟩
  have absorbing := (sound.catchAllVariant_iff w.name).mpr ⟨w, wMember, catchAll, rfl⟩
  rcases sound.oneFallback with none | none
  · rw [none] at named
    contradiction
  · rw [none] at absorbing
    contradiction

theorem Sound.no_catchAll_of_isDefault (sound : m.Sound) (member : v ∈ m.variants)
    (isDefault : v.isDefault = true) : v.isCatchAll = false := by
  rw [← Bool.not_eq_true]
  intro catchAll
  exact sound.not_default_and_catchAll member member isDefault catchAll

/-! ## Writing enumeration values -/

/-- A variant that is no catch-all is written as its canonical value; a payload is not looked at. -/
theorem Sound.toInteger_of_plain (sound : m.Sound) (distinct : m.names.Nodup)
    (member : v ∈ m.variants) (plain : v.isCatchAll = false) (payload : Option Int) :
    m.toIntegerPlan.toInteger ⟨v.name, payload⟩ = .ok v.value := by
  have family : m.toIntegerPlan.requireFamily .toInteger = .ok () := rfl
  have row := rowOf?_toIntegerPlan distinct member plain
  have other : ¬ m.toIntegerPlan.catchAllVariant = some v.name :=
    sound.catchAllVariant_ne distinct member plain
  rw [Plan.toInteger, family]
  simp only [if_neg other, row]
  rfl

theorem Sound.toInteger_of_catchAll (sound : m.Sound) (member : v ∈ m.variants)
    (catchAll : v.isCatchAll = true) {n : Int} (inType : m.integerType.contains n = true) :
    m.toIntegerPlan.toInteger ⟨v.name, some n⟩ = .ok n := by
  have family : m.toIntegerPlan.requireFamily .toInteger = .ok () := rfl
  have named : m.toIntegerPlan.catchAllVariant = some v.name :=
    (sound.catchAllVariant_iff v.name).mpr ⟨v, member, catchAll, rfl⟩
  have inRange : m.toIntegerPlan.requireInRange n = _ := Plan.requireInRange_of_contains inType
  rw [Plan.toInteger, family]
  simp only [if_pos named, inRange]
  rfl

end Names

/-! ## The canonical form -/

namespace Sound
variable {m : Mapping} {n : Int} {v : MappedVariant}

theorem canonical_of_isMatch (sound : m.Sound) (member : v ∈ m.variants)
    (isMatch : v.isMatch n = true) : m.canonical n = v.value := by
  rw [canonical, sound.lookup_eq_some_iff.mpr ⟨member, isMatch⟩]

theorem canonical_of_default (sound : m.Sound) (distinct : m.names.Nodup)
    (member : v ∈ m.variants) (isDefault : v.isDefault = true) (unmatched : m.lookup n = none) :
    m.canonical n = v.value := by
  rw [canonical, unmatched]
  cases found : m.variants.find? MappedVariant.isDefault with
  | none =>
      have absent := List.find?_eq_none.mp found v member
      contradiction
  | some w =>
      have wMember := List.mem_of_find?_eq_some found
      have wNamed := (sound.defaultVariant_iff w.name).mpr ⟨w, wMember, List.find?_some found, rfl⟩
      have named := (sound.defaultVariant_iff v.name).mpr ⟨v, member, isDefault, rfl⟩
      rw [wNamed] at named
      rw [eq_of_name distinct wMember member (Option.some.inj named)]

theorem canonical_of_absorbed (sound : m.Sound) (member : v ∈ m.variants)
    (catchAll : v.isCatchAll = true) (unmatched : m.lookup n = none) : m.canonical n = n := by
  rw [canonical, unmatched]
  cases found : m.variants.find? MappedVariant.isDefault with
  | none => rfl
  | some w =>
      exact (sound.not_default_and_catchAll (List.mem_of_find?_eq_some found) member
        (List.find?_some found) catchAll).elim

theorem toInteger_of_converts (sound : m.Sound) (distinct : m.names.Nodup) {value : VariantValue}
    (inType : m.integerType.contains n = true) (converts : m.Converts n value) :
    m.toIntegerPlan.toInteger value = .ok (m.canonical n) := by
  cases converts with
  | matched member isMatch =>
      rw [sound.canonical_of_isMatch member isMatch]
      have plain := MappedVariant.no_catchAll_of_isMatch isMatch
      exact sound.toInteger_of_plain distinct member plain _
  | @byDefault v member isDefault unmatched =>
      rw [sound.canonical_of_default distinct member isDefault (lookup_eq_none_iff.mpr unmatched)]
      have plain := sound.no_catchAll_of_isDefault member isDefault
      exact sound.toInteger_of_plain distinct member plain _
  | absorbed member catchAll unmatched =>
      rw [sound.canonical_of_absorbed member catchAll (lookup_eq_none_iff.mpr unmatched)]
      exact sound.toInteger_of_catchAll member catchAll inType

/-- The canonical form is the value of a variant that matches it, or the integer was absorbed. -/
theorem canonical_of_converts (sound : m.Sound) (distinct : m.names.Nodup) {value : VariantValue}
    (converts : m.Converts n value) :
    (∃ v ∈ m.variants, v.isCatchAll = false ∧ m.canonical n = v.value) ∨
      (∃ v ∈ m.variants, v.isCatchAll = true) ∧ m.lookup n = none ∧ m.canonical n = n := by
  cases converts with
  | @matched v member isMatch =>
      exact Or.inl ⟨v, member, MappedVariant.no_catchAll_of_isMatch isMatch,
        sound.canonical_of_isMatch member isMatch⟩
  | @byDefault v member isDefault unmatched =>
      have none := lookup_eq_none_iff.mpr unmatched
      exact Or.inl ⟨v, member, sound.no_catchAll_of_isDefault member isDefault,
        sound.canonical_of_default distinct member isDefault none⟩
  | @absorbed v member catchAll unmatched =>
      have none := lookup_eq_none_iff.mpr unmatched
      exact Or.inr ⟨⟨v, member, catchAll⟩, none, sound.canonical_of_absorbed member catchAll none⟩

theorem canonical_value (sound : m.Sound) (member : v ∈ m.variants) (plain : v.isCatchAll = false) :
    m.canonical v.value = v.value := by
  rw [canonical, sound.lookup_value member plain]

theorem canonical_canonical (sound : m.Sound) (distinct : m.names.Nodup) {value : VariantValue}
    (converts : m.Converts n value) : m.canonical (m.canonical n) = m.canonical n := by
  rcases sound.canonical_of_converts distinct converts with ⟨v, member, plain, same⟩ | ⟨_, _, same⟩
  · rw [same, sound.canonical_value member plain]
  · rw [same, same]

theorem contains_canonical (sound : m.Sound) (distinct : m.names.Nodup) {value : VariantValue}
    (inType : m.integerType.contains n = true) (converts : m.Converts n value) :
    m.integerType.contains (m.canonical n) = true := by
  rcases sound.canonical_of_converts distinct converts with ⟨v, member, _, same⟩ | ⟨_, _, same⟩
  · rw [same]
    exact sound.contains_value member
  · rw [same]
    exact inType

theorem converts_canonical (sound : m.Sound) (distinct : m.names.Nodup) {value : VariantValue}
    (converts : m.Converts n value) : ∃ back, m.Converts (m.canonical n) back := by
  rcases sound.canonical_of_converts distinct converts with ⟨v, member, plain, same⟩ | ⟨_, _, same⟩
  · rw [same]
    exact ⟨_, .matched member (MappedVariant.isMatch_value plain)⟩
  · rw [same]
    exact ⟨_, converts⟩

theorem canonical_eq_self_iff (sound : m.Sound) (distinct : m.names.Nodup) {value : VariantValue}
    (converts : m.Converts n value) :
    m.canonical n = n ↔
      (∃ v ∈ m.variants, v.isCatchAll = false ∧ v.value = n) ∨
        (m.lookup n = none ∧ ∃ v ∈ m.variants, v.isCatchAll = true) := by
  constructor
  · intro fixed
    rcases sound.canonical_of_converts distinct converts with
      ⟨v, member, plain, same⟩ | ⟨catchAll, unmatched, _⟩
    · exact Or.inl ⟨v, member, plain, same.symm.trans fixed⟩
    · exact Or.inr ⟨unmatched, catchAll⟩
  · rintro (⟨v, member, plain, rfl⟩ | ⟨unmatched, v, member, catchAll⟩)
    · exact sound.canonical_value member plain
    · exact sound.canonical_of_absorbed member catchAll unmatched

end Sound

theorem names_of_resolve {d : EnumDecl} {m : Mapping} (success : resolve d = .ok m) :
    m.names = d.variantNames := by
  obtain ⟨_, rfl⟩ := resolve_eq_ok_iff.mp success
  change d.resolvedVariants.map MappedVariant.name = d.variants.map VariantDecl.name
  rw [EnumDecl.resolvedVariants_eq, List.map_map]
  conv_rhs => rw [← List.zipIdx_map_fst 0 d.variants, List.map_map]
  rfl

end Mapping

/-- An integer that the fallible conversion accepts is written back as its canonical form. That
form lies in the type, converts again and is its own canonical form; an integer is canonical
exactly when it is the value of a variant that is no catch-all, or when a catch-all absorbs it. The
own value of a catch-all is absorbed as well. -/
theorem write_back_is_canonical {ε : Type} {d : EnumDecl} {m : Mapping} (valid : d.Valid)
    (success : resolve d = .ok m) :
    ∃ q t, derive m .fromIntegerFallible = .ok q ∧ derive m .toInteger = .ok t ∧
      (∀ (n : Int) (registry : Registry ε) (value : VariantValue),
        q.tryFromInteger n registry = .ok (.success value) →
          t.toInteger value = .ok (m.canonical n) ∧
            d.integerType.contains (m.canonical n) = true ∧
            (∃ back, ∀ other : Registry ε,
              q.tryFromInteger (m.canonical n) other = .ok (.success back)) ∧
            m.canonical (m.canonical n) = m.canonical n ∧
            (m.canonical n = n ↔
              (∃ v ∈ m.variants, v.isCatchAll = false ∧ v.value = n) ∨
                (m.lookup n = none ∧ ∃ v ∈ m.variants, v.isCatchAll = true))) ∧
      ∀ v ∈ m.variants, v.isCatchAll = true →
        m.canonical v.value = v.value ∧
          ∀ registry : Registry ε,
            q.tryFromInteger v.value registry = .ok (.success ⟨v.name, some v.value⟩) := by
  have sound := sound_of_resolve success
  have distinct : m.names.Nodup := Mapping.names_of_resolve success ▸ valid.distinct
  obtain ⟨_, rfl⟩ := resolve_eq_ok_iff.mp success
  refine ⟨_, _, rfl, rfl, ?_, ?_⟩
  · intro n registry value converted
    obtain ⟨inType, converts⟩ := sound.converts_of_tryFromInteger converted
    have canonicalInType := sound.contains_canonical distinct inType converts
    obtain ⟨back, backConverts⟩ := sound.converts_canonical distinct converts
    exact ⟨sound.toInteger_of_converts distinct inType converts, canonicalInType,
      ⟨back, fun other => sound.tryFromInteger_of_converts other canonicalInType backConverts⟩,
      sound.canonical_canonical distinct converts, sound.canonical_eq_self_iff distinct converts⟩
  · intro v member catchAll
    have unmatched := sound.lookup_catchAll_value member catchAll
    refine ⟨sound.canonical_of_absorbed member catchAll unmatched, fun registry => ?_⟩
    exact sound.tryFromInteger_of_converts registry (sound.contains_value member)
      (.absorbed member catchAll (Mapping.lookup_eq_none_iff.mp unmatched))

theorem EnumDecl.valid_reply : EnumDecl.reply.Valid := by decide

theorem write_back_is_canonical_reply :
    EnumDecl.reply.Valid ∧ resolve EnumDecl.reply = .ok Mapping.reply ∧
      Mapping.reply.falliblePlan.tryFromInteger 5 (Registry.empty (ε := String)) =
          .ok (.success ⟨"Ready", none⟩) ∧
        Mapping.reply.toIntegerPlan.toInteger ⟨"Ready", none⟩ = .ok 0 ∧
          Mapping.reply.canonical (Mapping.reply.canonical 5) = 0 ∧
            Mapping.reply.canonical 201 = 201 := by
  obtain ⟨q, t, fallible, written, canonical, catchAll⟩ :=
    write_back_is_canonical (ε := String) EnumDecl.valid_reply resolve_reply
  cases fallible
  cases written
  have converted : Mapping.reply.falliblePlan.tryFromInteger 5 (Registry.empty (ε := String)) =
      .ok (.success ⟨"Ready", none⟩) := by rfl
  obtain ⟨back, _, _, again, _⟩ := canonical 5 Registry.empty ⟨"Ready", none⟩ converted
  have ready : Mapping.reply.canonical 5 = 0 := by decide
  have other : ({ name := "Other", value := 201, isCatchAll := true } : MappedVariant) ∈
      Mapping.reply.variants := by decide
  rw [ready] at back again
  exact ⟨EnumDecl.valid_reply, resolve_reply, converted, back, by rw [ready, again],
    (catchAll _ other rfl).1⟩

end IntegerEnum
