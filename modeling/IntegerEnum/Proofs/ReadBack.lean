import IntegerEnum.Proofs.Canonical

/-! # Reading back what was written

`StandsFor` says which integer an enumeration value stands for and `Refuses` why it stands for none.
One of them holds of every value, and the plan of the conversion computes them. What is written is
read back as the same variant without a stray payload, except for a catch-all whose payload some
other variant matches. On the values in their proper form writing is therefore injective. -/
set_option autoImplicit false

namespace IntegerEnum

/-- The errors that refuse what a conversion was asked, as opposed to a plan that contradicts
itself, a constructor that is not registered or a precondition that was not met. -/
def EvaluationError.isArgumentError : EvaluationError → Bool
  | wrongFamily .. | outOfRange .. | missingPayload _ | unknownVariant .. => true
  | _ => false

namespace Mapping

/-- A payload counts on the catch-all only. -/
inductive StandsFor (m : Mapping) : VariantValue → Int → Prop where
  | plain {v : MappedVariant} {payload : Option Int} (member : v ∈ m.variants)
      (plain : v.isCatchAll = false) : StandsFor m ⟨v.name, payload⟩ v.value
  | payload {v : MappedVariant} {n : Int} (member : v ∈ m.variants)
      (catchAll : v.isCatchAll = true) (inType : m.integerType.contains n = true) :
      StandsFor m ⟨v.name, some n⟩ n

inductive Refuses (m : Mapping) : VariantValue → EvaluationError → Prop where
  | unknown {w : VariantValue} (absent : w.name ∉ m.names) :
      Refuses m w (.unknownVariant m.enumName w.name)
  | missing {v : MappedVariant} (member : v ∈ m.variants) (catchAll : v.isCatchAll = true) :
      Refuses m ⟨v.name, none⟩ (.missingPayload v.name)
  | outside {v : MappedVariant} {n : Int} (member : v ∈ m.variants)
      (catchAll : v.isCatchAll = true) (outside : m.integerType.contains n = false) :
      Refuses m ⟨v.name, some n⟩ (.outOfRange n m.integerType)

/-- The form in which a value is read: the catch-all with a payload that no variant matches, or
another variant without payload. -/
inductive Proper (m : Mapping) : VariantValue → Prop where
  | plain {v : MappedVariant} (member : v ∈ m.variants) (plain : v.isCatchAll = false) :
      Proper m ⟨v.name, none⟩
  | absorbed {v : MappedVariant} {n : Int} (member : v ∈ m.variants)
      (catchAll : v.isCatchAll = true) (inType : m.integerType.contains n = true)
      (unmatched : m.lookup n = none) : Proper m ⟨v.name, some n⟩

section Writing
variable {m : Mapping} {w : VariantValue} {k : Int}

theorem standsFor_or_refuses (w : VariantValue) : (∃ k, m.StandsFor w k) ∨ ∃ e, m.Refuses w e := by
  obtain ⟨name, payload⟩ := w
  by_cases declared : name ∈ m.names
  · obtain ⟨v, member, rfl⟩ := List.mem_map.mp declared
    cases catchAll : v.isCatchAll with
    | false => exact Or.inl ⟨_, .plain member catchAll⟩
    | true =>
        cases payload with
        | none => exact Or.inr ⟨_, .missing member catchAll⟩
        | some n =>
            cases inType : m.integerType.contains n with
            | true => exact Or.inl ⟨_, .payload member catchAll inType⟩
            | false => exact Or.inr ⟨_, .outside member catchAll inType⟩
  · exact Or.inr ⟨_, .unknown declared⟩

theorem Refuses.isArgumentError {e : EvaluationError} (refused : m.Refuses w e) :
    e.isArgumentError = true := by
  cases refused <;> rfl

theorem rowOf?_of_unknown {name : String} (absent : name ∉ m.names) :
    m.toIntegerPlan.rowOf? name = none := by
  change (m.table.find? fun row => row.variant = name) = none
  apply List.find?_eq_none.mpr
  intro row member
  obtain ⟨v, inTable, rfl⟩ := List.mem_map.mp member
  have named : v.name ∈ m.names := List.mem_map_of_mem (List.mem_of_mem_filter inTable)
  intro same
  have equal : v.name = name := of_decide_eq_true same
  exact absent (equal ▸ named)

theorem Sound.catchAllVariant_of_member (sound : m.Sound) {v : MappedVariant}
    (member : v ∈ m.variants) (catchAll : v.isCatchAll = true) :
    m.toIntegerPlan.catchAllVariant = some v.name :=
  (sound.catchAllVariant_iff v.name).mpr ⟨v, member, catchAll, rfl⟩

theorem Sound.toInteger_of_standsFor (sound : m.Sound) (distinct : m.names.Nodup)
    (written : m.StandsFor w k) : m.toIntegerPlan.toInteger w = .ok k := by
  cases written with
  | plain member plain => exact sound.toInteger_of_plain distinct member plain _
  | payload member catchAll inType => exact sound.toInteger_of_catchAll member catchAll inType

theorem Sound.toInteger_of_refuses (sound : m.Sound) {e : EvaluationError}
    (refused : m.Refuses w e) : m.toIntegerPlan.toInteger w = .error e := by
  have family : m.toIntegerPlan.requireFamily .toInteger = .ok () := rfl
  rw [Plan.toInteger, family]
  cases refused with
  | unknown absent =>
      have other : ¬ m.toIntegerPlan.catchAllVariant = some w.name := by
        intro named
        obtain ⟨v, member, _, same⟩ := (sound.catchAllVariant_iff w.name).mp named
        exact absent (same ▸ List.mem_map_of_mem member)
      simp only [if_neg other, rowOf?_of_unknown absent]
      rfl
  | missing member catchAll =>
      simp only [if_pos (sound.catchAllVariant_of_member member catchAll)]
      rfl
  | outside member catchAll outside =>
      have refused : m.toIntegerPlan.requireInRange _ = _ := Plan.requireInRange_of_outside outside
      simp only [if_pos (sound.catchAllVariant_of_member member catchAll), refused]
      rfl

theorem Sound.toInteger_eq_error_iff (sound : m.Sound) (distinct : m.names.Nodup)
    {e : EvaluationError} : m.toIntegerPlan.toInteger w = .error e ↔ m.Refuses w e := by
  refine ⟨?_, sound.toInteger_of_refuses⟩
  intro failure
  rcases m.standsFor_or_refuses w with ⟨n, written⟩ | ⟨other, refused⟩
  · rw [sound.toInteger_of_standsFor distinct written] at failure
    contradiction
  · rw [sound.toInteger_of_refuses refused] at failure
    cases failure
    exact refused

theorem refuses_iff :
    (∃ e, m.Refuses w e) ↔
      w.name ∉ m.names ∨ ∃ v ∈ m.variants, v.isCatchAll = true ∧ v.name = w.name ∧
        ∀ n, w.payload = some n → m.integerType.contains n = false := by
  constructor
  · rintro ⟨e, absent | ⟨member, catchAll⟩ | ⟨member, catchAll, outside⟩⟩
    · exact Or.inl absent
    · exact Or.inr ⟨_, member, catchAll, rfl, by simp⟩
    · refine Or.inr ⟨_, member, catchAll, rfl, ?_⟩
      rintro n ⟨⟩
      exact outside
  · rintro (absent | ⟨v, member, catchAll, named, outside⟩)
    · exact ⟨_, .unknown absent⟩
    · obtain ⟨name, payload⟩ := w
      cases named
      cases payload with
      | none => exact ⟨_, .missing member catchAll⟩
      | some n => exact ⟨_, .outside member catchAll (outside n rfl)⟩

end Writing

/-! ## What was written converts again -/

section ReadingBack
variable {m : Mapping} {n k : Int} {w u : VariantValue}

theorem Sound.eq_of_converts (sound : m.Sound) {a b : VariantValue} (first : m.Converts n a)
    (second : m.Converts n b) : a = b := by
  have found := sound.convert?_eq_some_iff.mpr first
  rw [sound.convert?_eq_some_iff.mpr second] at found
  exact (Option.some.inj found).symm

theorem Sound.fromIntegerTotal_of_converts (sound : m.Sound) {p : Plan}
    (available : derive m .fromIntegerTotal = .ok p) (inType : m.integerType.contains n = true)
    (converts : m.Converts n u) : p.fromIntegerTotal n = .ok u := by
  obtain ⟨fallback, isFallback, rfl⟩ := derive_total_eq_ok_iff.mp available
  exact sound.fromIntegerTotal_totalPlan isFallback inType
    (sound.convert?_eq_some_iff.mpr converts)

theorem Sound.contains_of_standsFor (sound : m.Sound) (written : m.StandsFor w k) :
    m.integerType.contains k = true := by
  cases written with
  | plain member _ => exact sound.contains_value member
  | payload _ _ inType => exact inType

theorem converts_of_lookup {v : MappedVariant} (found : m.lookup n = some v) :
    m.Converts n ⟨v.name, none⟩ := by
  obtain ⟨member, isMatch⟩ := mem_of_lookup found
  exact .matched member isMatch

theorem Proper.standsFor_and_converts (proper : m.Proper w) :
    ∃ k, m.StandsFor w k ∧ m.Converts k w := by
  cases proper with
  | plain member plain =>
      exact ⟨_, .plain member plain, .matched member (MappedVariant.isMatch_value plain)⟩
  | absorbed member catchAll inType unmatched =>
      exact ⟨_, .payload member catchAll inType,
        .absorbed member catchAll (lookup_eq_none_iff.mp unmatched)⟩

/-- Two proper values that are written alike are read back as one. -/
theorem Sound.eq_of_proper (sound : m.Sound) (distinct : m.names.Nodup) {a b : VariantValue}
    (aProper : m.Proper a) (bProper : m.Proper b)
    (aWritten : m.toIntegerPlan.toInteger a = .ok k)
    (bWritten : m.toIntegerPlan.toInteger b = .ok k) : a = b := by
  obtain ⟨i, aStands, aConverts⟩ := aProper.standsFor_and_converts
  obtain ⟨j, bStands, bConverts⟩ := bProper.standsFor_and_converts
  rw [sound.toInteger_of_standsFor distinct aStands] at aWritten
  rw [sound.toInteger_of_standsFor distinct bStands] at bWritten
  cases aWritten
  cases bWritten
  exact sound.eq_of_converts aConverts bConverts

/-- What is written converts into the variant that was named, unless that is a catch-all whose
payload belongs to another variant. -/
theorem converts_of_standsFor (distinct : m.names.Nodup) (written : m.StandsFor w k) :
    ∃ u, m.Converts k u ∧
      (∀ v ∈ m.variants, v.name = w.name → v.isCatchAll = false → u = ⟨w.name, none⟩) ∧
      ∀ v ∈ m.variants, v.name = w.name → v.isCatchAll = true →
        w.payload = some k ∧ (m.lookup k = none → u = w) ∧
          ∀ r, m.lookup k = some r → u = ⟨r.name, none⟩ := by
  cases written with
  | plain member plain =>
      refine ⟨_, .matched member (MappedVariant.isMatch_value plain), fun _ _ _ _ => rfl, ?_⟩
      intro v vMember named catchAll
      rw [eq_of_name distinct vMember member named, plain] at catchAll
      contradiction
  | @payload c k member catchAll inType =>
      have notPlain : ∀ v ∈ m.variants, v.name = c.name → v.isCatchAll = false → False := by
        intro v vMember named plain
        rw [eq_of_name distinct vMember member named, catchAll] at plain
        contradiction
      -- the payload belongs to the catch-all exactly where the lookup fails
      cases found : m.lookup k with
      | none =>
          refine ⟨_, .absorbed member catchAll (lookup_eq_none_iff.mp found), ?_, ?_⟩
          · intro v vMember named plain
            exact (notPlain v vMember named plain).elim
          · exact fun _ _ _ _ => ⟨rfl, fun _ => rfl, by simp⟩
      | some r =>
          refine ⟨_, converts_of_lookup found, ?_, ?_⟩
          · intro v vMember named plain
            exact (notPlain v vMember named plain).elim
          · refine fun _ _ _ _ => ⟨rfl, by simp, ?_⟩
            rintro other ⟨⟩
            rfl

end ReadingBack

end Mapping

namespace EnumDecl

/-- The value names no declared variant, or the catch-all without a payload of the type. -/
def Unwritable (d : EnumDecl) (w : VariantValue) : Prop :=
  w.name ∉ d.variantNames ∨
    ∃ v ∈ d.variants, v.isCatchAll = true ∧ v.name = w.name ∧
      ∀ n, w.payload = some n → d.integerType.contains n = false

theorem refuses_mapping_iff {d : EnumDecl} {w : VariantValue}
    (names : (d.mapping d.marks).names = d.variantNames) :
    (∃ e, (d.mapping d.marks).Refuses w e) ↔ d.Unwritable w := by
  rw [Mapping.refuses_iff, names, Unwritable]
  refine or_congr Iff.rfl ?_
  exact exists_resolved_iff
    (p := fun v => v.isCatchAll = true ∧ v.name = w.name ∧
      ∀ n, w.payload = some n → d.integerType.contains n = false) fun _ _ => Iff.rfl

theorem exists_resolved_of_member {d : EnumDecl} {v : VariantDecl} (member : v ∈ d.variants) :
    ∃ w ∈ (d.mapping d.marks).variants, w.name = v.name ∧ w.isCatchAll = v.isCatchAll :=
  (exists_resolved_iff (p := fun x => x.name = v.name ∧ x.isCatchAll = v.isCatchAll)
    fun _ _ => Iff.rfl).mpr ⟨v, member, rfl, rfl⟩

end EnumDecl

/-- Writing refuses exactly the values that name no variant or leave the catch-all without a payload
of the type. Any other value becomes an integer of the type that both conversions read back: as the
variant that was named, or as the variant that a catch-all's payload belongs to. No two proper
values are written as one integer. -/
theorem written_value_reads_back {ε : Type} {d : EnumDecl} {m : Mapping} (valid : d.Valid)
    (success : resolve d = .ok m) :
    ∃ t q, derive m .toInteger = .ok t ∧ derive m .fromIntegerFallible = .ok q ∧
      (∀ w, (∃ e, t.toInteger w = .error e ∧ e.isArgumentError = true) ↔ d.Unwritable w) ∧
      (∀ w, ¬ d.Unwritable w →
        ∃ k u, t.toInteger w = .ok k ∧ d.integerType.contains k = true ∧
          (∀ registry : Registry ε, q.tryFromInteger k registry = .ok (.success u)) ∧
          (∀ p, derive m .fromIntegerTotal = .ok p → p.fromIntegerTotal k = .ok u) ∧
          (∀ v ∈ d.variants, v.name = w.name → v.isCatchAll = false → u = ⟨w.name, none⟩) ∧
          ∀ v ∈ d.variants, v.name = w.name → v.isCatchAll = true →
            w.payload = some k ∧ (m.lookup k = none → u = w) ∧
              ∀ r, m.lookup k = some r → u = ⟨r.name, none⟩) ∧
      ∀ a b k, m.Proper a → m.Proper b → t.toInteger a = .ok k → t.toInteger b = .ok k → a = b := by
  have sound := sound_of_resolve success
  have names := Mapping.names_of_resolve success
  have distinct : m.names.Nodup := names ▸ valid.distinct
  obtain ⟨_, rfl⟩ := resolve_eq_ok_iff.mp success
  refine ⟨_, _, rfl, rfl, ?_, ?_, ?_⟩
  · intro w
    rw [← EnumDecl.refuses_mapping_iff names]
    constructor
    · rintro ⟨e, failure, _⟩
      exact ⟨e, (sound.toInteger_eq_error_iff distinct).mp failure⟩
    · rintro ⟨e, refused⟩
      exact ⟨e, sound.toInteger_of_refuses refused, refused.isArgumentError⟩
  · intro w writable
    rw [← EnumDecl.refuses_mapping_iff names] at writable
    obtain ⟨k, written⟩ := (Mapping.standsFor_or_refuses w).resolve_right writable
    have inType := sound.contains_of_standsFor written
    obtain ⟨u, converts, plain, catchAll⟩ := Mapping.converts_of_standsFor distinct written
    refine ⟨k, u, sound.toInteger_of_standsFor distinct written, inType,
      fun registry => sound.tryFromInteger_of_converts registry inType converts,
      fun p available => sound.fromIntegerTotal_of_converts available inType converts, ?_, ?_⟩
    · intro v member named isPlain
      obtain ⟨r, rMember, rNamed, same⟩ := EnumDecl.exists_resolved_of_member member
      exact plain r rMember (rNamed.trans named) (same.trans isPlain)
    · intro v member named isCatchAll
      obtain ⟨r, rMember, rNamed, same⟩ := EnumDecl.exists_resolved_of_member member
      exact catchAll r rMember (rNamed.trans named) (same.trans isCatchAll)
  · intro a b k aProper bProper aWritten bWritten
    exact sound.eq_of_proper distinct aProper bProper aWritten bWritten

theorem written_value_reads_back_reply :
    EnumDecl.reply.Valid ∧ resolve EnumDecl.reply = .ok Mapping.reply ∧
      (∃ e, Mapping.reply.toIntegerPlan.toInteger ⟨"Other", some 300⟩ = .error e) ∧
        Mapping.reply.toIntegerPlan.toInteger ⟨"Other", some 5⟩ = .ok 5 ∧
          ∀ registry : Registry String,
            Mapping.reply.falliblePlan.tryFromInteger 5 registry =
              .ok (.success ⟨"Ready", none⟩) := by
  obtain ⟨t, q, written, fallible, refused, readBack, _⟩ :=
    written_value_reads_back (ε := String) EnumDecl.valid_reply resolve_reply
  cases written
  cases fallible
  have outside : EnumDecl.reply.Unwritable ⟨"Other", some 300⟩ := by
    refine Or.inr ⟨{ name := "Other", modifiers := [.catchAll none], fieldTypes := ["u8"] },
      by decide, by decide, rfl, ?_⟩
    rintro n ⟨⟩
    decide
  have inside : ¬ EnumDecl.reply.Unwritable ⟨"Other", some 5⟩ := by
    rintro (absent | ⟨v, _, _, _, outside⟩)
    · exact absent (by decide)
    · exact absurd (outside 5 rfl) (by decide)
  obtain ⟨e, failure, _⟩ := (refused _).mpr outside
  obtain ⟨k, u, success, _, converted, _, _, catchAll⟩ := readBack _ inside
  obtain ⟨payload, _, matched⟩ := catchAll
    { name := "Other", modifiers := [.catchAll none], fieldTypes := ["u8"] } (by decide) rfl
    (by decide)
  cases payload
  have ready := matched
    { name := "Ready", value := 0, alternatives := [.single 1, .closed 2 9 (by decide)] }
    (by decide)
  exact ⟨EnumDecl.valid_reply, resolve_reply, ⟨e, failure⟩, success, ready ▸ converted⟩

end IntegerEnum
