import IntegerEnum.Conformance.Check
import IntegerEnum.Proofs.Documents
import IntegerEnum.Proofs.Readability

/-! # Contracts leave little to the readers

A tidy document that its contract admits can be read, but for the rules that relate several fields
to each other, which no contract tells. It is shown part by part of the contracts. -/
set_option autoImplicit false

namespace IntegerEnum

open Json Reading

/-! ## Declarations -/

theorem IntegerKind.readable :
    Suffices Contract.integerKind.Admits (readNamed (all.map name) ofName?) := by
  intro value tidy admitted
  exact suffices_named ofName?_name value tidy (Contract.admits_integerKind.mp admitted)

theorem IntegerType.readable : Suffices Contract.integerType.Admits read := by
  intro value tidy admitted
  obtain ⟨fields, rfl, kind, width⟩ := Contract.admits_integerType.mp admitted
  simp only [read, succeeds_object, succeeds_seq, succeeds_map]
  refine ⟨fields, rfl, ?_, ?_⟩
  · exact IntegerKind.readable.required tidy kind
  · exact suffices_pointerWidth.optional tidy width

theorem SourceSpan.readable : Suffices Contract.sourceSpan.Admits read := by
  intro value tidy admitted
  obtain ⟨fields, rfl, file, line, column⟩ := Contract.admits_sourceSpan.mp admitted
  simp only [read, succeeds_object, succeeds_seq, succeeds_map, and_assoc]
  refine ⟨fields, rfl, ?_, ?_, ?_⟩
  · exact suffices_textOrNull.optional tidy file
  · exact suffices_positive.nullable.optional tidy line
  · exact suffices_positive.nullable.optional tidy column

theorem SourceSpan.readable_field {fields : Members} (tidy : Tidy (.obj fields))
    (span : MayHave "span" (OrNull Contract.sourceSpan.Admits) fields) :
    (readField fields).Succeeds :=
  readable.nullable.optional tidy span

theorem ConstExpr.readable : Suffices Contract.constExpr.Admits read := by
  intro value tidy admitted
  obtain ⟨fields, rfl, number, text⟩ := Contract.admits_constExpr.mp admitted
  simp only [read, succeeds_object, succeeds_seq, succeeds_map]
  refine ⟨fields, rfl, ?_, ?_⟩
  · exact suffices_integer.required tidy number
  · exact suffices_nonemptyText.nullable.optional tidy text

namespace ValueRange

/-- A tidy range has an integer to hold. -/
theorem start_le_lastOf {fields : Members} {start stop : Int} {inclusive : Bool}
    (tidy : Tidy (.obj fields)) (first : lookup "start" fields = some (.int start))
    (last : lookup "end" fields = some (.int stop)) (bound : MayHave "inclusive" IsTruth fields)
    (accepted : Json.optional "inclusive" true readBoolean fields = .accepted inclusive) :
    start ≤ lastOf stop inclusive := by
  have held := (tidy _ (mem_parts_self _)).2
  unfold isEmptyRange at held
  unfold Json.optional at accepted
  cases found : lookup "inclusive" fields with
  | none =>
      simp only [get?, first, last, found, decide_eq_false_iff_not, Int.not_lt] at held
      rw [found] at accepted
      cases accepted
      exact held
  | some member =>
      obtain ⟨b, rfl⟩ := bound member found
      simp only [get?, first, last, found, decide_eq_false_iff_not, Int.not_lt] at held
      rw [found] at accepted
      cases accepted
      exact held

theorem readable : Suffices Contract.valueRange.Admits read := by
  intro value tidy admitted
  obtain ⟨fields, rfl, ⟨first, foundFirst, firstInt⟩, ⟨last, foundLast, lastInt⟩, bound⟩ :=
    Contract.admits_valueRange.mp admitted
  obtain ⟨start, rfl⟩ := (tidy.member foundFirst).eq_int firstInt
  obtain ⟨stop, rfl⟩ := (tidy.member foundLast).eq_int lastInt
  obtain ⟨inclusive, readInclusive⟩ := suffices_truth.optional (d := true) tidy bound
  simp only [read, succeeds_object, succeeds_next, accepts_seq, accepts_map]
  refine ⟨fields, rfl, start, ?_, stop, ?_, inclusive, readInclusive, ?_⟩
  · exact lossless_integer.required foundFirst trivial
  · exact lossless_integer.required foundLast trivial
  · exact ⟨_, dif_pos (start_le_lastOf tidy foundFirst foundLast bound readInclusive)⟩

end ValueRange

namespace Alternative

theorem succeeds_iff {form : Form} {value : Json} :
    (read form value).Succeeds ↔
      (ConstExpr.read value).Succeeds ∨ (ValueRange.read value).Succeeds := by
  unfold read
  cases ConstExpr.read value <;> cases ValueRange.read value <;> simp [Succeeds]

theorem readable (form : Form) :
    Suffices (fun item => Contract.constExpr.Admits item ∨ Contract.valueRange.Admits item)
      (read form) := by
  intro value tidy admitted
  exact succeeds_iff.mpr (admitted.imp (ConstExpr.readable value tidy)
    (ValueRange.readable value tidy))

end Alternative

theorem ModifierKind.ofName?_name (kind : ModifierKind) : ofName? kind.name = some kind := by
  cases kind <;> rfl

namespace Modifier
variable {form : Form} {kind : ModifierKind} {fields : Members}

/-- A modifier that does not name its kind could be of two, and no contract admits that. -/
theorem kind_of_admits {value : Json} (admitted : Contract.modifier.Admits value) :
    ∃ kind fields, value = .obj fields ∧ lookup "kind" fields = some (.str kind.name) ∧
      (Contract.modifierOf kind).Admits value := by
  obtain ⟨kind, admitted, alone⟩ := Contract.admits_modifier.mp admitted
  obtain ⟨fields, rfl, named, _, span⟩ := Contract.admits_modifierOf.mp admitted
  refine ⟨kind, fields, rfl, ?_, admitted⟩
  cases found : lookup "kind" fields with
  | some tag => rw [named tag found]
  | none =>
      have anonymous (other : ModifierKind) (simple : other ≠ .alternatives) : other = kind := by
        refine alone other (Contract.admits_modifierOf.mpr ⟨fields, rfl, ?_, ?_, span⟩)
        · intro tag named
          rw [found] at named
          cases named
        · exact fun same => absurd same simple
      have same : ModifierKind.byDefault = .catchAll :=
        (anonymous .byDefault nofun).trans (anonymous .catchAll nofun).symm
      cases same

theorem readOf_succeeds (tidy : Tidy (.obj fields))
    (named : lookup "kind" fields = some (.str kind.name))
    (admitted : (Contract.modifierOf kind).Admits (.obj fields)) :
    (readOf form kind (.obj fields)).Succeeds := by
  obtain ⟨_, ⟨⟩, _, entries, span⟩ := Contract.admits_modifierOf.mp admitted
  have ownName := succeeds_of_eq (readKindField_of_name named)
  have readSpan := SourceSpan.readable_field tidy span
  cases kind with
  | byDefault =>
      simp only [readOf, readDefault, succeeds_object, succeeds_seq, succeeds_map]
      exact ⟨fields, rfl, ownName, readSpan⟩
  | catchAll =>
      simp only [readOf, readCatchAll, succeeds_object, succeeds_seq, succeeds_map]
      exact ⟨fields, rfl, ownName, readSpan⟩
  | alternatives =>
      simp only [readOf, readAlternatives, succeeds_object, succeeds_seq, succeeds_map, and_assoc]
      refine ⟨fields, rfl, ownName, ?_, readSpan⟩
      exact (Alternative.readable form).nonemptyList.required tidy (entries rfl)

theorem readable (form : Form) : Suffices Contract.modifier.Admits (read form) := by
  intro value tidy admitted
  obtain ⟨kind, fields, rfl, named, admittedKind⟩ := kind_of_admits admitted
  have known : kindOfTag? (.str kind.name) = some kind := kind.ofName?_name
  simp only [read, named, known]
  exact succeeds_within.mpr (readOf_succeeds tidy named admittedKind)

end Modifier

theorem VariantDecl.readable (form : Form) : Suffices Contract.variantSpec.Admits (read form) := by
  intro value tidy admitted
  obtain ⟨fields, rfl, ⟨_, foundName, name, rfl, identifier⟩, explicit, modifiers, types, span⟩ :=
    Contract.admits_variantSpec.mp admitted
  have nonempty := ne_empty_of_isIdentifier identifier
  obtain ⟨explicitValue, readExplicit⟩ :=
    ConstExpr.readable.nullable.optional (d := none) tidy explicit
  obtain ⟨marks, readMarks⟩ := (Modifier.readable form).list.optional (d := []) tidy modifiers
  obtain ⟨fieldTypes, readTypes⟩ := suffices_text.list.optional (d := []) tidy types
  obtain ⟨place, readPlace⟩ := SourceSpan.readable_field tidy span
  simp only [read, succeeds_object, succeeds_ensure, accepts_seq, accepts_map]
  refine ⟨fields, rfl, name, ?_, explicitValue, readExplicit, marks, readMarks, fieldTypes,
    readTypes, place, readPlace, nameFault?_eq_none_iff.mpr identifier⟩
  exact lossless_nonemptyText.required foundName nonempty

theorem ErrorType.readable : Suffices Contract.customErrorType.Admits read := by
  intro value tidy admitted
  obtain ⟨fields, rfl, name, constructor, span⟩ := Contract.admits_customErrorType.mp admitted
  simp only [read, succeeds_object, succeeds_seq, succeeds_map, and_assoc]
  refine ⟨fields, rfl, ?_, ?_, ?_⟩
  · exact suffices_nonemptyText.required tidy name
  · exact suffices_nonemptyText.required tidy constructor
  · exact SourceSpan.readable_field tidy span

/-! ## Mappings and plans -/

theorem MappedVariant.readable : Suffices Contract.resolvedVariant.Admits read := by
  intro value tidy admitted
  obtain ⟨fields, rfl, name, number, text, alternatives, isDefault, isCatchAll⟩ :=
    Contract.admits_resolvedVariant.mp admitted
  simp only [read, succeeds_object, succeeds_seq, succeeds_map, and_assoc]
  refine ⟨fields, rfl, ?_, ?_, ?_, ?_, ?_, ?_⟩
  · exact suffices_text.required tidy name
  · exact suffices_integer.required tidy number
  · exact suffices_textOrNull.optional tidy text
  · exact ValueRange.readable.fixedList.optional tidy alternatives
  · exact suffices_truth.optional tidy isDefault
  · exact suffices_truth.optional tidy isCatchAll

theorem Mapping.readable : Suffices Contract.mappings.Admits read := by
  intro value tidy admitted
  obtain ⟨fields, rfl, name, integerType, variants, exhaustive, byDefault, catchAll, error⟩ :=
    Contract.admits_mappings.mp admitted
  simp only [read, succeeds_object, succeeds_seq, succeeds_map, and_assoc]
  refine ⟨fields, rfl, ?_, ?_, ?_, ?_, ?_, ?_, ?_⟩
  · exact suffices_text.required tidy name
  · exact IntegerType.readable.required tidy integerType
  · exact MappedVariant.readable.fixedList.required tidy variants
  · exact suffices_truth.optional tidy exhaustive
  · exact suffices_textOrNull.optional tidy byDefault
  · exact suffices_textOrNull.optional tidy catchAll
  · exact ErrorType.readable.nullable.optional tidy error

theorem TableRow.readable : Suffices Contract.mappingEntry.Admits read := by
  intro value tidy admitted
  obtain ⟨fields, rfl, variant, number, text, matched⟩ := Contract.admits_mappingEntry.mp admitted
  simp only [read, succeeds_object, succeeds_seq, succeeds_map, and_assoc]
  refine ⟨fields, rfl, ?_, ?_, ?_, ?_⟩
  · exact suffices_text.required tidy variant
  · exact suffices_integer.required tidy number
  · exact suffices_textOrNull.optional tidy text
  · exact ValueRange.readable.nonemptyFixedList.required tidy matched

theorem ErrorRecipe.readable : Suffices Contract.errorConstruction.Admits read := by
  intro value tidy admitted
  obtain ⟨fields, rfl, kind, typeName, constructor⟩ :=
    Contract.admits_errorConstruction.mp admitted
  simp only [read, succeeds_object, succeeds_seq, succeeds_map, and_assoc]
  refine ⟨fields, rfl, ?_, ?_, ?_⟩
  · exact (suffices_literal ErrorKind.ofName?_name).optional tidy kind
  · exact suffices_nonemptyText.optional tidy typeName
  · exact suffices_textOrNull.optional tidy constructor

theorem Family.readable :
    Suffices Contract.conversionFamily.Admits (readNamed (all.map name) ofName?) := by
  intro value tidy admitted
  exact suffices_named ofName?_name value tidy (Contract.admits_conversionFamily.mp admitted)

theorem FallbackPolicy.readable :
    Suffices Contract.fallbackPolicy.Admits (readNamed (all.map name) ofName?) := by
  intro value tidy admitted
  exact suffices_named ofName?_name value tidy (Contract.admits_fallbackPolicy.mp admitted)

theorem ToIntegerStrategy.readable :
    Suffices Contract.toIntegerStrategy.Admits (readNamed (all.map name) ofName?) := by
  intro value tidy admitted
  exact suffices_named ofName?_name value tidy (Contract.admits_toIntegerStrategy.mp admitted)

/-! ## What contracts do not tell -/

theorem nameText_of_required {key : String} {fields : Members} {s : String}
    (accepted : required key readNonemptyText fields = .accepted s) :
    lookup key fields = some (.str s) := by
  unfold required at accepted
  cases found : lookup key fields with
  | none =>
      rw [found] at accepted
      cases accepted
  | some member =>
      rw [found] at accepted
      obtain ⟨t, isText, checked⟩ := next_eq_accepted.mp (within_eq_accepted.mp accepted)
      cases member with
      | str u =>
          cases isText
          split at checked
          · cases checked
          · cases checked
            rfl
      | _ => cases isText

theorem VariantDecl.get?_name_of_read {form : Form} {value : Json} {v : VariantDecl}
    (accepted : read form value = .accepted v) : value.get? "name" = some (.str v.name) := by
  rw [eq_accepted_iff, read] at accepted
  simp only [accepts_object, accepts_ensure, accepts_seq, accepts_map] at accepted
  obtain ⟨fields, rfl, name, readName, _, _, _, _, _, _, _, _, _, rfl⟩ := accepted
  exact nameText_of_required readName

theorem VariantDecl.nodup_names_of_readItems {form : Form} {items : List Json} {n : Nat}
    {vs : List VariantDecl} (accepted : readItems (read form) n items = .accepted vs) :
    (items.map (Json.get? "name")).Nodup ↔ (vs.map name).Nodup := by
  have same : items.map (Json.get? "name") = (vs.map name).map fun name => some (.str name) := by
    rw [List.map_map, ← List.forall₂_eq_eq_eq, List.forall₂_map_left_iff,
      List.forall₂_map_right_iff]
    exact (readItems_eq_accepted_iff.mp accepted).imp fun item v => get?_name_of_read
  rw [same, List.nodup_map_iff]
  intro s t equal
  injection equal with equal
  injection equal

namespace EnumDecl

/-- No two variants of the document have the same name. -/
def NamesDiffer (document : Json) : Prop :=
  ∀ items, document.get? "variants" = some (.arr items) → (items.map (Json.get? "name")).Nodup

theorem read_succeeds_iff {form : Form} {value : Json} (tidy : value.Tidy)
    (admitted : Contract.declarations.Admits value) :
    (read form value).Succeeds ↔ NamesDiffer value := by
  obtain ⟨fields, rfl, ⟨_, foundName, name, rfl, identifier⟩, integerType,
    ⟨_, foundVariants, items, rfl, hasItems, each⟩, errorTypes⟩ :=
    Contract.admits_declarations.mp admitted
  obtain ⟨vs, readItems, hasVariants⟩ :=
    (VariantDecl.readable form).nonemptyItems (tidy.member foundVariants) each hasItems
  obtain ⟨t, readType⟩ := IntegerType.readable.required tidy integerType
  obtain ⟨es, readErrors⟩ := ErrorType.readable.list.optional (d := []) tidy errorTypes
  have readName := lossless_nonemptyText.required foundName (ne_empty_of_isIdentifier identifier)
  have readList : readList (VariantDecl.read form) (.arr items) = .accepted vs := readItems
  have readVariants : required "variants"
      (nonempty .emptyList (Json.readList (VariantDecl.read form))) fields = .accepted vs := by
    rw [required, foundVariants]
    exact within_eq_accepted.mpr (nonempty_eq_accepted_iff.mpr ⟨readList, hasVariants⟩)
  have unchecked : read form (.obj fields) =
      (Reading.accepted ⟨name, t, vs, es⟩).ensure (.obj fields) nameFault? := by
    rw [read, readObject, readName, readType, readVariants, readErrors]
    rfl
  have differ : NamesDiffer (.obj fields) ↔ (items.map (Json.get? "name")).Nodup := by
    simp [NamesDiffer, get?, foundVariants]
  rw [unchecked, succeeds_ensure, accepts_accepted, nameFault?_eq_none_iff, differ,
    VariantDecl.nodup_names_of_readItems readItems]
  exact and_iff_right identifier

end EnumDecl

/-- The document has a member of that key, and that is not null. -/
def Json.IsGiven (key : String) (document : Json) : Prop :=
  ∃ member, document.get? key = some member ∧ member ≠ .null

theorem ne_none_iff_isGiven {α : Type} {key : String} {read : Json → Reading α}
    {fields : Members} {o : Option α}
    (accepted : Json.optional key none (nullable read) fields = .accepted o) :
    o ≠ none ↔ IsGiven key (.obj fields) := by
  unfold Json.optional at accepted
  cases found : lookup key fields with
  | none =>
      rw [found] at accepted
      cases accepted
      simp [IsGiven, get?, found]
  | some member =>
      simp only [found, within_eq_accepted] at accepted
      simp only [IsGiven, get?, found, Option.some.injEq, exists_eq_left']
      unfold nullable at accepted
      split at accepted
      · cases accepted
        simp
      · rename_i notNull
        obtain ⟨x, _, rfl⟩ := map_eq_accepted.mp accepted
        exact iff_of_true (Option.some_ne_none x) notNull

theorem FallbackPolicy.name_eq_iff {f g : FallbackPolicy} : f.name = g.name ↔ f = g := by
  cases f <;> cases g <;> decide

theorem FallbackPolicy.eq_some_iff_named {fields : Members} {policy : Option FallbackPolicy}
    (accepted : Json.optional "fallback" none (nullable (readNamed (all.map name) ofName?)) fields =
      .accepted policy)
    (demanded : MayHave "fallback" (OrNull Contract.fallbackPolicy.Admits) fields)
    (f : FallbackPolicy) :
    policy = some f ↔ lookup "fallback" fields = some (.str f.name) := by
  unfold Json.optional at accepted
  cases found : lookup "fallback" fields with
  | none =>
      rw [found] at accepted
      cases accepted
      simp
  | some member =>
      simp only [found, within_eq_accepted] at accepted
      rcases demanded member found with admitted | rfl
      · obtain ⟨s, listed, rfl⟩ := Contract.admits_fallbackPolicy.mp admitted
        obtain ⟨g, _, rfl⟩ := List.mem_map.mp listed
        simp only [nullable, readNamed, ofName?_name, map_accepted, Reading.accepted.injEq]
          at accepted
        rw [← accepted, Option.some.injEq, Option.some.injEq, Json.str.injEq, name_eq_iff]
      · cases accepted
        simp

/-- Policy and variant agree when those policies that need a variant are given one, and only
those. -/
theorem Fallback.exists_join_iff {policy : Option FallbackPolicy} {variant : Option String}
    {hasError : Prop} :
    (∃ fallback, join policy variant = .ok fallback ∧
      (fallback = some .returnError → hasError)) ↔
      (variant ≠ none ↔ policy = some .defaultVariant ∨ policy = some .catchAll) ∧
        (policy = some .returnError → hasError) := by
  rcases policy with _ | _ | _ | _ | _ <;> cases variant <;> simp [join]

namespace Plan

/-- A variant is given for just those fallbacks that name one, and an error where one is
returned. -/
structure FieldsAgree (document : Json) : Prop where
  variant : document.IsGiven "fallback_variant" ↔
    document.get? "fallback" = some (.str FallbackPolicy.defaultVariant.name) ∨
      document.get? "fallback" = some (.str FallbackPolicy.catchAll.name)
  error : document.get? "fallback" = some (.str FallbackPolicy.returnError.name) →
    document.IsGiven "error"

theorem withFallback_succeeds_iff {input : Json} {policy : Option FallbackPolicy}
    {variant : Option String} {p : Plan} :
    (withFallback input policy variant p).Succeeds ↔
      (variant ≠ none ↔ policy = some .defaultVariant ∨ policy = some .catchAll) ∧
        (policy = some .returnError → p.error ≠ none) := by
  rw [← Fallback.exists_join_iff]
  simp [Succeeds, withFallback_eq_accepted_iff]

theorem read_succeeds_iff {value : Json} (tidy : value.Tidy)
    (admitted : Contract.plans.Admits value) : (read value).Succeeds ↔ FieldsAgree value := by
  obtain ⟨fields, rfl, enumName, integerType, family, mapping, fallback, variant, byDefault,
    catchAll, error, strategy, constForm, acknowledgement⟩ := Contract.admits_plans.mp admitted
  obtain ⟨enumName, readName⟩ := suffices_text.required tidy enumName
  obtain ⟨t, readType⟩ := IntegerType.readable.required tidy integerType
  obtain ⟨family, readFamily⟩ := Family.readable.required tidy family
  obtain ⟨table, readTable⟩ := TableRow.readable.fixedList.required tidy mapping
  obtain ⟨policy, readPolicy⟩ :=
    FallbackPolicy.readable.nullable.optional (d := none) tidy fallback
  obtain ⟨variant, readVariant⟩ := suffices_textOrNull.optional (d := none) tidy variant
  obtain ⟨byDefault, readDefault⟩ := suffices_textOrNull.optional (d := none) tidy byDefault
  obtain ⟨catchAll, readCatchAll⟩ := suffices_textOrNull.optional (d := none) tidy catchAll
  obtain ⟨error, readError⟩ := ErrorRecipe.readable.nullable.optional (d := none) tidy error
  obtain ⟨strategy, readStrategy⟩ :=
    ToIntegerStrategy.readable.nullable.optional (d := none) tidy strategy
  obtain ⟨constForm, readConstForm⟩ := suffices_truth.optional (d := true) tidy constForm
  obtain ⟨acknowledgement, readAcknowledgement⟩ :=
    suffices_truth.optional (d := false) tidy acknowledgement
  have unjoined : read (.obj fields) = withFallback (.obj fields) policy variant
      ⟨enumName, t, family, table, none, byDefault, catchAll, error, strategy, constForm,
        acknowledgement⟩ := by
    rw [read, readObject, readName, readType, readFamily, readTable, readPolicy, readVariant,
      readDefault, readCatchAll, readError, readStrategy, readConstForm, readAcknowledgement]
    rfl
  have named := FallbackPolicy.eq_some_iff_named readPolicy fallback
  rw [unjoined, withFallback_succeeds_iff, ne_none_iff_isGiven readVariant,
    ne_none_iff_isGiven readError, named, named, named]
  constructor
  · rintro ⟨variant, error⟩
    exact ⟨variant, error⟩
  · intro agree
    exact ⟨agree.variant, agree.error⟩

end Plan

/-- What no contract tells about documents of the kind, and their reader insists on. -/
def DocumentKind.CrossFieldRules : DocumentKind → Json → Prop
  | declaration, document => EnumDecl.NamesDiffer document
  | mapping, _ => True
  | plan, document => Plan.FieldsAgree document

/-- Of the tidy documents that its contract admits, a reader refuses just those that break the
rules that relate several fields to each other. -/
theorem admitted_documents_are_read (kind : DocumentKind) (document : Json)
    (admitted : kind.contract.check document = []) (tidy : document.Tidy) :
    kind.violations document = [] ↔ kind.CrossFieldRules document := by
  cases kind with
  | declaration =>
      exact violations_eq_nil_iff.trans (EnumDecl.read_succeeds_iff tidy admitted)
  | mapping =>
      exact violations_eq_nil_iff.trans
        (iff_of_true (Mapping.readable document tidy admitted) trivial)
  | plan => exact violations_eq_nil_iff.trans (Plan.read_succeeds_iff tidy admitted)

/-- A plan as a hand-written document, without the fields that may be left out. -/
def Plan.replyDocument : Json :=
  .obj [("enum_name", .str "Reply"), ("integer_type", .obj [("kind", .str "u8")]),
    ("family", .str "from_integer_total"), ("mapping", .arr
      [.obj [("variant", .str "Ready"), ("canonical_value", .int 1), ("matched_values", .arr
        [.obj [("start", .int 1), ("end", .int 1)],
          .obj [("start", .int 2), ("end", .int 10), ("inclusive", .bool false)]])]]),
    ("fallback", .str "catch_all"), ("fallback_variant", .str "Other")]

theorem admitted_documents_are_read_reply :
    DocumentKind.plan.contract.check Plan.replyDocument = [] ∧ Plan.replyDocument.Tidy ∧
      DocumentKind.plan.CrossFieldRules Plan.replyDocument ∧
      DocumentKind.plan.violations Plan.replyDocument = [] := by
  have admitted : DocumentKind.plan.contract.check Plan.replyDocument = [] := by rfl
  have tidy : Plan.replyDocument.Tidy := by unfold Tidy; decide
  have rules : DocumentKind.plan.CrossFieldRules Plan.replyDocument := by
    refine ⟨iff_of_true ⟨.str "Other", rfl, nofun⟩ (Or.inr rfl), fun returns => ?_⟩
    have other : "catch_all" = "return_error" := Json.str.inj (Option.some.inj returns)
    exact absurd other (by decide)
  exact ⟨admitted, tidy, rules, (admitted_documents_are_read .plan _ admitted tidy).mpr rules⟩

end IntegerEnum
