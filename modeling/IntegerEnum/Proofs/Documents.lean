import IntegerEnum.Derivation
import IntegerEnum.Document.Plan
import IntegerEnum.Proofs.Canonical
import IntegerEnum.Proofs.Readers

/-! # Documents give back what was written

The readers of declarations, mappings and plans are lossless, each from the readers of its fields:
they accept exactly the valid ones, and read every valid one back from its document. Resolution and
derivation yield valid mappings and plans of valid ones. -/
set_option autoImplicit false

namespace IntegerEnum

open Json Reading

/-! ## Names are told apart -/

theorem IntegerKind.ofName?_name (kind : IntegerKind) : ofName? kind.name = some kind := by
  cases kind <;> rfl

theorem Family.ofName?_name (family : Family) : ofName? family.name = some family := by
  cases family <;> rfl

theorem FallbackPolicy.ofName?_name (policy : FallbackPolicy) :
    ofName? policy.name = some policy := by
  cases policy <;> rfl

theorem ToIntegerStrategy.ofName?_name (strategy : ToIntegerStrategy) :
    ofName? strategy.name = some strategy := by
  cases strategy <;> rfl

theorem ErrorKind.ofName?_name (kind : ErrorKind) : ofName? kind.name = some kind := by
  cases kind <;> rfl

/-! ## Declarations -/

theorem IntegerType.lossless : Lossless read toJson fun _ => True where
  complete t _ := by
    have kind := lossless_named (IntegerKind.all.map IntegerKind.name) IntegerKind.ofName?_name
    rw [eq_accepted_iff, read]
    simp only [accepts_object, accepts_seq, accepts_map]
    refine ⟨_, rfl, t.kind, ?_, t.pointerWidth, ?_, rfl⟩
    · exact kind.required rfl trivial
    · exact lossless_pointerWidth.optional rfl trivial
  sound _ _ _ := trivial

theorem SourceSpan.lossless : Lossless read toJson Valid where
  complete s valid := by
    have positive := lossless_positive.nullable nofun
    rw [eq_accepted_iff, read]
    simp only [accepts_object, accepts_seq, accepts_map]
    refine ⟨_, rfl, s.file, ?_, s.line, ?_, s.column, ?_, rfl⟩
    · exact lossless_textOrNull.optional rfl trivial
    · exact positive.optional rfl valid.line
    · exact positive.optional rfl valid.column
  sound p s accepted := by
    have positive := lossless_positive.nullable nofun
    rw [eq_accepted_iff, read] at accepted
    simp only [accepts_object, accepts_seq, accepts_map] at accepted
    obtain ⟨fields, _, file, _, line, readLine, column, readColumn, rfl⟩ := accepted
    exact ⟨positive.good_of_optional readLine nofun, positive.good_of_optional readColumn nofun⟩

theorem SourceSpan.lossless_orNull :
    Lossless (nullable read) (ofOption toJson) fun o => ∀ s ∈ o, s.Valid :=
  lossless.nullable nofun

theorem ConstExpr.lossless : Lossless read toJson Valid where
  complete e valid := by
    have text := lossless_nonemptyText.nullable nofun
    rw [eq_accepted_iff, read]
    simp only [accepts_object, accepts_seq, accepts_map]
    refine ⟨_, rfl, e.value, ?_, e.text, ?_, rfl⟩
    · exact lossless_integer.required rfl trivial
    · apply text.optional rfl
      rintro s found rfl
      exact valid found
  sound p e accepted := by
    have text := lossless_nonemptyText.nullable nofun
    rw [eq_accepted_iff, read] at accepted
    simp only [accepts_object, accepts_seq, accepts_map] at accepted
    obtain ⟨fields, _, value, _, written, readText, rfl⟩ := accepted
    intro empty
    exact text.good_of_optional readText nofun "" empty rfl

theorem ValueRange.lossless : Lossless read toJson fun _ => True where
  complete r _ := by
    rw [eq_accepted_iff, read]
    simp only [accepts_object, accepts_seq, accepts_map, accepts_next]
    refine ⟨_, rfl, r.start, ?_, r.stop, ?_, r.inclusive, ?_, r, ?_, rfl⟩
    · exact lossless_integer.required rfl trivial
    · exact lossless_integer.required rfl trivial
    · exact lossless_boolean.optional rfl trivial
    · exact dif_pos r.nonempty
  sound _ _ _ := trivial

namespace Alternative

/-- The two kinds of entries have no required field in common, so neither is read as the other. -/
theorem range_refuses_constant (e : ConstExpr) :
    ∃ first others, ValueRange.read e.toJson = .refused first others :=
  ⟨_, _, rfl⟩

theorem constant_refuses_range (r : ValueRange) :
    ∃ first others, ConstExpr.read r.toJson = .refused first others :=
  ⟨_, _, rfl⟩

theorem lossless (form : Form) : Lossless (read form) toJson Valid where
  complete a valid := by
    cases a with
    | constant e =>
        obtain ⟨first, others, refused⟩ := range_refuses_constant e
        rw [read, toJson, ConstExpr.lossless.complete e valid, refused]
    | range r =>
        obtain ⟨first, others, refused⟩ := constant_refuses_range r
        rw [read, toJson, ValueRange.lossless.complete r trivial, refused]
  sound p a accepted := by
    unfold read at accepted
    cases asConstant : ConstExpr.read p with
    | accepted e =>
        have valid := ConstExpr.lossless.sound p e asConstant
        cases asRange : ValueRange.read p with
        | accepted r =>
            rw [asConstant, asRange] at accepted
            cases accepted
            split
            · trivial
            · exact valid
        | refused first others =>
            rw [asConstant, asRange] at accepted
            cases accepted
            exact valid
    | refused first others =>
        cases asRange : ValueRange.read p with
        | accepted r =>
            rw [asConstant, asRange] at accepted
            cases accepted
            trivial
        | refused first others =>
            rw [asConstant, asRange] at accepted
            cases accepted

end Alternative

namespace Modifier
variable {form : Form} {p : Json} {m : Modifier}

theorem readKindField_of_name {kind : ModifierKind} {fields : Members}
    (found : lookup "kind" fields = some (.str kind.name)) :
    readKindField kind fields = .accepted () := by
  unfold readKindField Json.optional
  rw [found]
  simp [readLiteral, within]

theorem readOf_complete (form : Form) (valid : m.Valid) :
    readOf form m.kind m.toJson = .accepted m := by
  cases m with
  | byDefault span =>
      rw [eq_accepted_iff]
      simp only [kind, readOf, readDefault, accepts_object, accepts_seq, accepts_map]
      refine ⟨_, rfl, (), readKindField_of_name rfl, span, ?_, rfl⟩
      exact SourceSpan.lossless_orNull.optional rfl valid.span
  | catchAll span =>
      rw [eq_accepted_iff]
      simp only [kind, readOf, readCatchAll, accepts_object, accepts_seq, accepts_map]
      refine ⟨_, rfl, (), readKindField_of_name rfl, span, ?_, rfl⟩
      exact SourceSpan.lossless_orNull.optional rfl valid.span
  | alternatives entries span =>
      have list := (Alternative.lossless form).list.nonempty .emptyList
      rw [eq_accepted_iff]
      simp only [kind, readOf, readAlternatives, accepts_object, accepts_seq, accepts_map]
      refine ⟨_, rfl, (), readKindField_of_name rfl, entries, ?_, span, ?_, rfl⟩
      · exact list.required rfl ⟨valid.entries, valid.nonempty rfl⟩
      · exact SourceSpan.lossless_orNull.optional rfl valid.span

theorem readOf_sound {kind : ModifierKind} (accepted : readOf form kind p = .accepted m) :
    m.Valid := by
  rw [eq_accepted_iff] at accepted
  cases kind with
  | byDefault =>
      simp only [readOf, readDefault, accepts_object, accepts_seq, accepts_map] at accepted
      obtain ⟨fields, _, _, _, span, readSpan, rfl⟩ := accepted
      exact ⟨SourceSpan.lossless_orNull.good_of_optional readSpan nofun, nofun, nofun⟩
  | catchAll =>
      simp only [readOf, readCatchAll, accepts_object, accepts_seq, accepts_map] at accepted
      obtain ⟨fields, _, _, _, span, readSpan, rfl⟩ := accepted
      exact ⟨SourceSpan.lossless_orNull.good_of_optional readSpan nofun, nofun, nofun⟩
  | alternatives =>
      have list := (Alternative.lossless form).list.nonempty .emptyList
      simp only [readOf, readAlternatives, accepts_object, accepts_seq, accepts_map] at accepted
      obtain ⟨fields, _, _, _, entries, readEntries, span, readSpan, rfl⟩ := accepted
      obtain ⟨valid, nonempty⟩ := list.good_of_required readEntries
      exact ⟨SourceSpan.lossless_orNull.good_of_optional readSpan nofun, valid, fun _ => nonempty⟩

/-- A modifier is read by the kind that its document names. -/
theorem read_toJson (form : Form) (m : Modifier) :
    read form m.toJson = (readOf form m.kind m.toJson).within (.choice m.kind.name) := by
  cases m <;> rfl

theorem lossless (form : Form) : Lossless (read form) toJson Valid where
  complete m valid := by
    rw [read_toJson, readOf_complete form valid]
    rfl
  sound p m accepted := by
    cases p with
    | obj fields =>
        cases found : lookup "kind" fields with
        | none =>
            simp only [read, found] at accepted
            cases accepted
        | some tag =>
            cases named : kindOfTag? tag with
            | none =>
                simp only [read, found, named] at accepted
                cases accepted
            | some kind =>
                simp only [read, found, named] at accepted
                exact readOf_sound (within_eq_accepted.mp accepted)
    | _ => cases accepted

end Modifier

theorem ne_empty_of_isIdentifier {name : String} (identifier : isIdentifier name = true) :
    name ≠ "" := by
  rintro rfl
  cases identifier

theorem VariantDecl.nameFault?_eq_none_iff {v : VariantDecl} :
    v.nameFault? = none ↔ isIdentifier v.name = true := by
  simp [nameFault?]

theorem VariantDecl.lossless (form : Form) : Lossless (read form) toJson Valid where
  complete v valid := by
    have explicit := ConstExpr.lossless.nullable nofun
    have modifiers := (Modifier.lossless form).list
    have name := ne_empty_of_isIdentifier valid.name
    rw [eq_accepted_iff, read]
    simp only [accepts_object, accepts_ensure, accepts_seq, accepts_map]
    refine ⟨_, rfl, v.name, ?_, v.explicitValue, ?_, v.modifiers, ?_, v.fieldTypes, ?_, v.span, ?_,
      nameFault?_eq_none_iff.mpr valid.name, rfl⟩
    · exact lossless_nonemptyText.required rfl name
    · exact explicit.optional rfl valid.explicitValue
    · exact modifiers.optional rfl valid.modifiers
    · exact lossless_text.list.optional rfl fun _ _ => trivial
    · exact SourceSpan.lossless_orNull.optional rfl valid.span
  sound p v accepted := by
    have explicit := ConstExpr.lossless.nullable nofun
    have modifiers := (Modifier.lossless form).list
    rw [eq_accepted_iff, read] at accepted
    simp only [accepts_object, accepts_ensure, accepts_seq, accepts_map] at accepted
    obtain ⟨fields, _, name, _, value, readValue, marks, readMarks, types, _, span, readSpan,
      identifier, rfl⟩ := accepted
    exact ⟨nameFault?_eq_none_iff.mp identifier, explicit.good_of_optional readValue nofun,
      modifiers.good_of_optional readMarks nofun,
      SourceSpan.lossless_orNull.good_of_optional readSpan nofun⟩

theorem ErrorType.lossless : Lossless read toJson Valid where
  complete e valid := by
    rw [eq_accepted_iff, read]
    simp only [accepts_object, accepts_seq, accepts_map]
    refine ⟨_, rfl, e.name, ?_, e.constructor, ?_, e.span, ?_, rfl⟩
    · exact lossless_nonemptyText.required rfl valid.name
    · exact lossless_nonemptyText.required rfl valid.constructor
    · exact SourceSpan.lossless_orNull.optional rfl valid.span
  sound p e accepted := by
    rw [eq_accepted_iff, read] at accepted
    simp only [accepts_object, accepts_seq, accepts_map] at accepted
    obtain ⟨fields, _, name, readName, path, readPath, span, readSpan, rfl⟩ := accepted
    exact ⟨lossless_nonemptyText.good_of_required readName,
      lossless_nonemptyText.good_of_required readPath,
      SourceSpan.lossless_orNull.good_of_optional readSpan nofun⟩

namespace EnumDecl

theorem firstRepeated?_eq_none_iff : ∀ {names seen : List String},
    firstRepeated? seen names = none ↔ names.Nodup ∧ ∀ name ∈ names, name ∉ seen := by
  intro names
  induction names with
  | nil => simp [firstRepeated?]
  | cons name rest ih =>
      intro seen
      by_cases repeated : name ∈ seen
      · simp [firstRepeated?, repeated]
      · rw [firstRepeated?, if_neg repeated, ih]
        simp only [List.nodup_cons, List.mem_cons, not_or, forall_eq_or_imp]
        constructor
        · rintro ⟨distinct, fresh⟩
          exact ⟨⟨fun member => (fresh name member).1 rfl, distinct⟩, repeated,
            fun other member => (fresh other member).2⟩
        · rintro ⟨⟨once, distinct⟩, _, fresh⟩
          refine ⟨distinct, fun other member => ⟨?_, fresh other member⟩⟩
          rintro rfl
          exact once member

theorem nameFault?_eq_none_iff {d : EnumDecl} :
    d.nameFault? = none ↔ isIdentifier d.name = true ∧ d.variantNames.Nodup := by
  unfold nameFault?
  split
  · simp [firstRepeated?_eq_none_iff, *]
  · simp [*]

theorem lossless (form : Form) : Lossless (read form) toJson Valid where
  complete d valid := by
    have variants := (VariantDecl.lossless form).list.nonempty .emptyList
    have name := ne_empty_of_isIdentifier valid.name
    rw [eq_accepted_iff, read]
    simp only [accepts_object, accepts_ensure, accepts_seq, accepts_map]
    refine ⟨_, rfl, d.name, ?_, d.integerType, ?_, d.variants, ?_, d.errorTypes, ?_,
      nameFault?_eq_none_iff.mpr ⟨valid.name, valid.distinct⟩, rfl⟩
    · exact lossless_nonemptyText.required rfl name
    · exact IntegerType.lossless.required rfl trivial
    · exact variants.required rfl ⟨valid.variants, valid.nonempty⟩
    · exact ErrorType.lossless.list.optional rfl valid.errorTypes
  sound p d accepted := by
    have variants := (VariantDecl.lossless form).list.nonempty .emptyList
    rw [eq_accepted_iff, read] at accepted
    simp only [accepts_object, accepts_ensure, accepts_seq, accepts_map] at accepted
    obtain ⟨fields, _, name, _, t, _, vs, readVariants, es, readErrors, named, rfl⟩ := accepted
    obtain ⟨identifier, distinct⟩ := nameFault?_eq_none_iff.mp named
    obtain ⟨valid, nonempty⟩ := variants.good_of_required readVariants
    exact ⟨identifier, nonempty, valid, distinct,
      ErrorType.lossless.list.good_of_optional readErrors nofun⟩

end EnumDecl

/-! ## Mappings and plans -/

theorem MappedVariant.lossless : Lossless read toJson fun _ => True where
  complete v _ := by
    rw [eq_accepted_iff, read]
    simp only [accepts_object, accepts_seq, accepts_map]
    refine ⟨_, rfl, v.name, ?_, v.value, ?_, v.text, ?_, v.alternatives, ?_, v.isDefault, ?_,
      v.isCatchAll, ?_, rfl⟩
    · exact lossless_text.required rfl trivial
    · exact lossless_integer.required rfl trivial
    · exact lossless_textOrNull.optional rfl trivial
    · exact ValueRange.lossless.fixedList.optional rfl fun _ _ => trivial
    · exact lossless_boolean.optional rfl trivial
    · exact lossless_boolean.optional rfl trivial
  sound _ _ _ := trivial

/-- What a reader promises of a mapping. -/
def Mapping.Valid (m : Mapping) : Prop := ∀ e ∈ m.errorType, e.Valid

theorem Mapping.lossless : Lossless read toJson Valid where
  complete m valid := by
    have errorType := ErrorType.lossless.nullable nofun
    rw [eq_accepted_iff, read]
    simp only [accepts_object, accepts_seq, accepts_map]
    refine ⟨_, rfl, m.enumName, ?_, m.integerType, ?_, m.variants, ?_, m.isExhaustive, ?_,
      m.defaultVariant, ?_, m.catchAllVariant, ?_, m.errorType, ?_, rfl⟩
    · exact lossless_text.required rfl trivial
    · exact IntegerType.lossless.required rfl trivial
    · exact MappedVariant.lossless.fixedList.required rfl fun _ _ => trivial
    · exact lossless_boolean.optional rfl trivial
    · exact lossless_textOrNull.optional rfl trivial
    · exact lossless_textOrNull.optional rfl trivial
    · exact errorType.optional rfl valid
  sound p m accepted := by
    have errorType := ErrorType.lossless.nullable nofun
    rw [eq_accepted_iff, read] at accepted
    simp only [accepts_object, accepts_seq, accepts_map] at accepted
    obtain ⟨fields, _, name, _, t, _, variants, _, exhaustive, _, byDefault, _, catchAll, _, error,
      readError, rfl⟩ := accepted
    exact errorType.good_of_optional readError nofun

theorem TableRow.lossless : Lossless read toJson fun row => row.matched ≠ [] where
  complete row matched := by
    have ranges := ValueRange.lossless.fixedList.nonempty .emptyFixedList
    rw [eq_accepted_iff, read]
    simp only [accepts_object, accepts_seq, accepts_map]
    refine ⟨_, rfl, row.variant, ?_, row.value, ?_, row.text, ?_, row.matched, ?_, rfl⟩
    · exact lossless_text.required rfl trivial
    · exact lossless_integer.required rfl trivial
    · exact lossless_textOrNull.optional rfl trivial
    · exact ranges.required rfl ⟨fun _ _ => trivial, matched⟩
  sound p row accepted := by
    have ranges := ValueRange.lossless.fixedList.nonempty .emptyFixedList
    rw [eq_accepted_iff, read] at accepted
    simp only [accepts_object, accepts_seq, accepts_map] at accepted
    obtain ⟨fields, _, variant, _, value, _, text, _, matched, readMatched, rfl⟩ := accepted
    exact (ranges.good_of_required readMatched).2

theorem ErrorRecipe.lossless : Lossless read toJson fun e => e.typeName ≠ "" where
  complete e typeName := by
    have kind := lossless_literal (ErrorKind.all.map ErrorKind.name) ErrorKind.ofName?_name
    rw [eq_accepted_iff, read]
    simp only [accepts_object, accepts_seq, accepts_map]
    refine ⟨_, rfl, e.kind, ?_, e.typeName, ?_, e.constructor, ?_, rfl⟩
    · exact kind.optional rfl trivial
    · exact lossless_nonemptyText.optional rfl typeName
    · exact lossless_textOrNull.optional rfl trivial
  sound p e accepted := by
    rw [eq_accepted_iff, read] at accepted
    simp only [accepts_object, accepts_seq, accepts_map] at accepted
    obtain ⟨fields, _, kind, _, typeName, readName, constructor, _, rfl⟩ := accepted
    exact lossless_nonemptyText.good_of_optional readName (by decide)

theorem Fallback.join_eq_ok_iff {policy : Option FallbackPolicy} {variant : Option String}
    {fallback : Option Fallback} :
    Fallback.join policy variant = .ok fallback ↔
      policy = fallback.map Fallback.policy ∧ variant = fallback.bind Fallback.variant? := by
  rcases fallback with _ | _ | _ | _ | _ <;> rcases policy with _ | _ | _ | _ | _ <;>
    cases variant <;> simp [Fallback.join, Fallback.policy, Fallback.variant?]

namespace Plan

theorem withFallback_eq_accepted_iff {input : Json} {policy : Option FallbackPolicy}
    {variant : Option String} {p q : Plan} :
    withFallback input policy variant p = .accepted q ↔
      ∃ fallback, Fallback.join policy variant = .ok fallback ∧
        (fallback = some .returnError → p.error ≠ none) ∧ q = { p with fallback := fallback } := by
  unfold withFallback
  cases Fallback.join policy variant with
  | error reason => simp [fail]
  | ok fallback =>
      by_cases missing : fallback = some .returnError ∧ p.error = none
      · simp only [if_pos missing]
        constructor
        · intro accepted
          cases accepted
        · rintro ⟨other, same, needed, _⟩
          cases same
          exact absurd missing.2 (needed missing.1)
      · simp only [if_neg missing]
        constructor
        · intro accepted
          cases accepted
          exact ⟨fallback, rfl, fun returns absent => missing ⟨returns, absent⟩, rfl⟩
        · rintro ⟨other, same, _, rfl⟩
          cases same
          rfl

theorem lossless : Lossless read toJson Valid where
  complete p valid := by
    have family := lossless_named (Family.all.map Family.name) Family.ofName?_name
    have policy := lossless_named (FallbackPolicy.all.map FallbackPolicy.name)
      FallbackPolicy.ofName?_name
    have strategy := lossless_named (ToIntegerStrategy.all.map ToIntegerStrategy.name)
      ToIntegerStrategy.ofName?_name
    have recipe := ErrorRecipe.lossless.nullable nofun
    rw [eq_accepted_iff, read]
    simp only [accepts_object, accepts_seq, accepts_map, accepts_next]
    -- the document holds the fallback in two fields, and reading joins them
    refine ⟨_, rfl, p.enumName, ?_, p.integerType, ?_, p.family, ?_, p.table, ?_,
      p.fallback.map Fallback.policy, ?_, p.fallback.bind Fallback.variant?, ?_,
      p.defaultVariant, ?_, p.catchAllVariant, ?_, p.error, ?_, p.strategy, ?_,
      p.hasConstForm, ?_, p.needsAcknowledgement, ?_, p, ?_, rfl⟩
    · exact lossless_text.required rfl trivial
    · exact IntegerType.lossless.required rfl trivial
    · exact family.required rfl trivial
    · exact TableRow.lossless.fixedList.required rfl valid.rows
    · apply (policy.nullable_total nofun).optional _ trivial
      cases p.fallback <;> rfl
    · exact lossless_textOrNull.optional rfl trivial
    · exact lossless_textOrNull.optional rfl trivial
    · exact lossless_textOrNull.optional rfl trivial
    · exact recipe.optional rfl valid.typeName
    · exact (strategy.nullable_total nofun).optional rfl trivial
    · exact lossless_boolean.optional rfl trivial
    · exact lossless_boolean.optional rfl trivial
    · apply withFallback_eq_accepted_iff.mpr
      exact ⟨p.fallback, Fallback.join_eq_ok_iff.mpr ⟨rfl, rfl⟩, valid.error, rfl⟩
  sound p plan accepted := by
    have recipe := ErrorRecipe.lossless.nullable nofun
    rw [eq_accepted_iff, read] at accepted
    simp only [accepts_object, accepts_seq, accepts_map, accepts_next] at accepted
    obtain ⟨fields, _, name, _, t, _, family, _, table, readTable, policy, _, variant, _,
      byDefault, _, catchAll, _, error, readError, strategy, _, constForm, _, acknowledged, _, plan,
      checked, rfl⟩ := accepted
    obtain ⟨fallback, _, needed, rfl⟩ := withFallback_eq_accepted_iff.mp checked
    exact ⟨TableRow.lossless.fixedList.good_of_required readTable, needed,
      recipe.good_of_optional readError nofun⟩

end Plan

theorem Mapping.valid_of_resolve {d : EnumDecl} {m : Mapping} (valid : d.Valid)
    (success : resolve d = .ok m) : m.Valid := by
  obtain ⟨_, rfl⟩ := resolve_eq_ok_iff.mp success
  intro e found
  exact valid.errorTypes e (List.mem_of_mem_head? found)

namespace Mapping
variable {m : Mapping}

/-- The table leaves the catch-all out, and every other variant matches its own value. -/
theorem matched_ne_nil_of_mem_table : ∀ row ∈ m.table, row.matched ≠ [] := by
  intro row member
  obtain ⟨v, kept, rfl⟩ := List.mem_map.mp member
  have plain : v.isCatchAll = false := by simpa using (List.mem_filter.mp kept).2
  rw [MappedVariant.row, MappedVariant.matched_of_no_catchAll plain]
  exact List.cons_ne_nil _ _

theorem fallback?_ne_returnError : m.fallback? ≠ some .returnError := by
  unfold fallback?
  split
  · nofun
  · split <;> nofun

theorem Valid.typeName_ne (valid : m.Valid) :
    (ErrorRecipe.ofErrorType m.errorType).typeName ≠ "" := by
  cases declared : m.errorType with
  | none => decide
  | some e => exact (valid e declared).name

end Mapping

/-- A plan that never returns errors need not tell how to build them. -/
theorem Plan.valid_of_no_error {p : Plan} (rows : ∀ row ∈ p.table, row.matched ≠ [])
    (total : p.fallback ≠ some .returnError) (silent : p.error = none) : p.Valid where
  rows := rows
  error returns := absurd returns total
  typeName e found := by
    rw [silent] at found
    cases found

theorem Plan.valid_of_derive {m : Mapping} {family : Family} {p : Plan} (valid : m.Valid)
    (derived : derive m family = .ok p) : p.Valid := by
  have rows := m.matched_ne_nil_of_mem_table
  have none_ne : none ≠ some Fallback.returnError := (Option.some_ne_none _).symm
  cases family with
  | toInteger =>
      cases derived
      exact valid_of_no_error rows none_ne rfl
  | fromIntegerTotal =>
      obtain ⟨fallback, offered, rfl⟩ := Mapping.derive_total_eq_ok_iff.mp derived
      apply valid_of_no_error rows _ rfl
      intro returns
      exact Mapping.fallback?_ne_returnError (offered.trans returns)
  | fromIntegerFallible =>
      cases derived
      refine ⟨rows, fun _ => Option.some_ne_none _, ?_⟩
      intro e found
      cases found
      exact valid.typeName_ne
  | fromIntegerUnchecked =>
      simp only [derive] at derived
      split at derived
      · cases derived
        exact valid_of_no_error rows none_ne rfl
      · cases derived
  | defaultValue =>
      simp only [derive] at derived
      split at derived
      · cases derived
        exact valid_of_no_error rows none_ne rfl
      · cases derived

/-- What is read of documents that come in one form is read back from documents of the other. -/
structure Form.ReadsBack (form again : Form) : Prop where
  declarations : ∀ p d, EnumDecl.read form p = .accepted d →
    EnumDecl.read again d.toJson = .accepted d
  mappings : ∀ p m, Mapping.read p = .accepted m → Mapping.read m.toJson = .accepted m
  plans : ∀ p plan, Plan.read p = .accepted plan → Plan.read plan.toJson = .accepted plan
  resolved : ∀ d m, d.Valid → resolve d = .ok m → Mapping.read m.toJson = .accepted m
  derived : ∀ m family plan, m.Valid → derive m family = .ok plan →
    Plan.read plan.toJson = .accepted plan
  alternatives : ∀ p a, Alternative.read form p = .accepted a →
    Alternative.read again a.toJson = .accepted a
  modifiers : ∀ p m, Modifier.read form p = .accepted m → Modifier.read again m.toJson = .accepted m

/-- Whatever is read as a declaration, a mapping or a plan is read back the same from its document,
however the documents come, and so are the mappings of resolution and the plans of derivation.
Within a declaration, an entry of an alternatives modifier and a modifier keep their kind. -/
theorem documents_read_back (form again : Form) : form.ReadsBack again := by
  constructor
  case declarations =>
    intro p d accepted
    exact (EnumDecl.lossless again).complete d ((EnumDecl.lossless form).sound p d accepted)
  case mappings =>
    intro p m accepted
    exact Mapping.lossless.read_back accepted
  case plans =>
    intro p plan accepted
    exact Plan.lossless.read_back accepted
  case resolved =>
    intro d m valid success
    exact Mapping.lossless.complete m (Mapping.valid_of_resolve valid success)
  case derived =>
    intro m family plan valid derived
    exact Plan.lossless.complete plan (Plan.valid_of_derive valid derived)
  case alternatives =>
    intro p a accepted
    exact (Alternative.lossless again).complete a ((Alternative.lossless form).sound p a accepted)
  case modifiers =>
    intro p m accepted
    exact (Modifier.lossless again).complete m ((Modifier.lossless form).sound p m accepted)

/-- The replies as a hand-written document: defaults are left out, and two integers come in other
guises. -/
def EnumDecl.replyDocument : Json :=
  .obj [("name", .str "Reply"), ("underlying_type", .obj [("kind", .str "u8")]),
    ("variants", .arr
      [.obj [("name", .str "Ready"), ("modifiers", .arr [.obj [("kind", .str "alternatives"),
        ("values", .arr [.obj [("start", .int 2), ("end", .int 10), ("inclusive", .bool false)],
          .obj [("value", .bool true)]])]])],
      .obj [("name", .str "Busy"),
        ("explicit_value", .obj [("value", .str "200"), ("text", .str "BUSY")])],
      .obj [("name", .str "Other"), ("modifiers", .arr [.obj [("kind", .str "catch_all")]]),
        ("field_types", .arr [.str "u8"])]])]

theorem documents_read_back_reply :
    EnumDecl.read .text EnumDecl.replyDocument = .accepted .reply ∧
      EnumDecl.read .value EnumDecl.reply.toJson = .accepted .reply ∧
      Mapping.read Mapping.reply.toJson = .accepted .reply ∧
      Plan.read Mapping.reply.falliblePlan.toJson = .accepted Mapping.reply.falliblePlan ∧
      Alternative.read .value (Alternative.toJson (.constant ⟨1, none⟩)) =
        .accepted (.constant ⟨1, none⟩) ∧
      Modifier.read .value (Modifier.toJson (.catchAll none)) = .accepted (.catchAll none) := by
  have readsBack := documents_read_back .text .value
  have accepted : EnumDecl.read .text EnumDecl.replyDocument = .accepted .reply := by rfl
  have valid : Mapping.reply.Valid := nofun
  exact ⟨accepted, readsBack.declarations _ _ accepted,
    readsBack.resolved _ _ EnumDecl.valid_reply resolve_reply,
    readsBack.derived Mapping.reply .fromIntegerFallible _ valid rfl,
    readsBack.alternatives (.obj [("value", .bool true)]) _ rfl,
    readsBack.modifiers (.obj [("kind", .str "catch_all")]) _ rfl⟩

end IntegerEnum
