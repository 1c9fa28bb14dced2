import IntegerEnum.Proofs.Relisting
import IntegerEnum.Proofs.Sufficiency

/-! # What readers promise

Later stages rely on what a reader has checked: `InOrder` collects it for declarations, mappings and
plans, over every part of them. Ranges, pointer widths and fallbacks cannot be out of order by their
types, so it is also told of the documents: of the one that is read, which a reader refuses when its
width or its fallback is none of these, and of the one that is written for the result, in which
there are no empty ranges. -/
set_option autoImplicit false

namespace IntegerEnum

open Json Reading

/-! ## Written documents are tidy -/

namespace Json.Tidy

theorem of_scalar {value : Json} (alone : value.parts = [value]) (number : value.isFloat = false)
    (range : value.isEmptyRange = false) : value.Tidy := by
  intro part inside
  rw [alone, List.mem_singleton] at inside
  rw [inside]
  exact ⟨number, range⟩

@[simp] theorem null : Tidy .null := of_scalar rfl rfl rfl

@[simp] theorem str (s : String) : Tidy (.str s) := of_scalar rfl rfl rfl

@[simp] theorem int (n : Int) : Tidy (.int n) := of_scalar rfl rfl rfl

@[simp] theorem bool (b : Bool) : Tidy (.bool b) := of_scalar rfl rfl rfl

theorem obj {fields : Members} (range : isEmptyRange (.obj fields) = false)
    (each : ∀ field ∈ fields, field.2.Tidy) : Tidy (.obj fields) :=
  tidy_obj_iff.mpr ⟨range, each⟩

section Writers
variable {α : Type} {write : α → Json}

theorem ofOption (tidy : ∀ x, (write x).Tidy) (o : Option α) : Tidy (Json.ofOption write o) := by
  cases o with
  | none => exact null
  | some x => exact tidy x

theorem list (tidy : ∀ x, (write x).Tidy) (xs : List α) : Tidy (.arr (xs.map write)) := by
  apply tidy_arr_iff.mpr
  intro item member
  obtain ⟨x, _, rfl⟩ := List.mem_map.mp member
  exact tidy x

end Writers

end Json.Tidy

theorem IntegerType.tidy_toJson (t : IntegerType) : t.toJson.Tidy := by
  apply Tidy.obj rfl
  simp

theorem SourceSpan.tidy_toJson (s : SourceSpan) : s.toJson.Tidy := by
  apply Tidy.obj rfl
  simp [Tidy.ofOption]

theorem ConstExpr.tidy_toJson (e : ConstExpr) : e.toJson.Tidy := by
  apply Tidy.obj rfl
  simp [Tidy.ofOption]

/-- A range is written with bounds between which there is an integer. -/
theorem ValueRange.tidy_toJson (r : ValueRange) : r.toJson.Tidy := by
  refine Tidy.obj ?_ (by simp)
  have held : ¬ lastOf r.stop r.inclusive < r.start := Int.not_lt.mpr r.nonempty
  exact decide_eq_false held

theorem Alternative.tidy_toJson (a : Alternative) : a.toJson.Tidy := by
  cases a with
  | constant e => exact e.tidy_toJson
  | range r => exact r.tidy_toJson

theorem Modifier.tidy_toJson (m : Modifier) : m.toJson.Tidy := by
  cases m with
  | byDefault span =>
      apply Tidy.obj rfl
      simp [Tidy.ofOption SourceSpan.tidy_toJson]
  | catchAll span =>
      apply Tidy.obj rfl
      simp [Tidy.ofOption SourceSpan.tidy_toJson]
  | alternatives entries span =>
      apply Tidy.obj rfl
      simp [Tidy.ofOption SourceSpan.tidy_toJson, Tidy.list Alternative.tidy_toJson]

theorem VariantDecl.tidy_toJson (v : VariantDecl) : v.toJson.Tidy := by
  apply Tidy.obj rfl
  simp [Tidy.ofOption SourceSpan.tidy_toJson, Tidy.ofOption ConstExpr.tidy_toJson,
    Tidy.list Modifier.tidy_toJson, Tidy.list Tidy.str]

theorem ErrorType.tidy_toJson (e : ErrorType) : e.toJson.Tidy := by
  apply Tidy.obj rfl
  simp [Tidy.ofOption SourceSpan.tidy_toJson]

theorem EnumDecl.tidy_toJson (d : EnumDecl) : d.toJson.Tidy := by
  apply Tidy.obj rfl
  simp [IntegerType.tidy_toJson, Tidy.list VariantDecl.tidy_toJson,
    Tidy.list ErrorType.tidy_toJson]

theorem MappedVariant.tidy_toJson (v : MappedVariant) : v.toJson.Tidy := by
  apply Tidy.obj rfl
  simp [Tidy.ofOption, Tidy.list ValueRange.tidy_toJson]

theorem Mapping.tidy_toJson (m : Mapping) : m.toJson.Tidy := by
  apply Tidy.obj rfl
  simp [IntegerType.tidy_toJson, Tidy.ofOption, Tidy.ofOption ErrorType.tidy_toJson,
    Tidy.list MappedVariant.tidy_toJson]

theorem TableRow.tidy_toJson (row : TableRow) : row.toJson.Tidy := by
  apply Tidy.obj rfl
  simp [Tidy.ofOption, Tidy.list ValueRange.tidy_toJson]

theorem ErrorRecipe.tidy_toJson (e : ErrorRecipe) : e.toJson.Tidy := by
  apply Tidy.obj rfl
  simp [Tidy.ofOption]

theorem Plan.tidy_toJson (p : Plan) : p.toJson.Tidy := by
  apply Tidy.obj rfl
  simp [IntegerType.tidy_toJson, Tidy.ofOption, Tidy.ofOption ErrorRecipe.tidy_toJson,
    Tidy.list TableRow.tidy_toJson]

/-! ## Pointer widths -/

theorem PointerWidth.toNat_mem (width : PointerWidth) : width.toNat ∈ [16, 32, 64] := by
  cases width <;> decide

theorem PointerWidth.toNat_of_ofInt? {n : Int} {width : PointerWidth}
    (known : ofInt? n = some width) : (width.toNat : Int) = n := by
  rw [ofInt?] at known
  simpa using List.find?_some known

theorem PointerWidth.number_of_accepted {number : Option Int} {width : PointerWidth}
    {fault : Fault} {value : Json}
    (accepted : (match number.bind ofInt? with
      | some width => Reading.accepted width
      | none => fail fault value) = Reading.accepted width) :
    number = some (width.toNat : Int) := by
  split at accepted
  · rename_i found known
    cases accepted
    obtain ⟨n, rfl, isWidth⟩ := Option.bind_eq_some_iff.mp known
    rw [toNat_of_ofInt? isWidth]
  · cases accepted

/-- A width is accepted only where the document has that number. -/
theorem isEqualTo_of_readPointerWidth {value : Json} {width : PointerWidth}
    (accepted : readPointerWidth value = .accepted width) :
    (Contract.Constant.integer width.toNat).isEqualTo value = true := by
  cases value with
  | int n =>
      have same := PointerWidth.number_of_accepted accepted
      exact decide_eq_true (Option.some.inj same)
  | float x => exact decide_eq_true (PointerWidth.number_of_accepted accepted)
  | _ => cases accepted

/-- The document has an integer type under the key, of this width wherever one is given. -/
def IntegerType.WidthFrom (t : IntegerType) (key : String) (document : Json) : Prop :=
  ∃ part, document.get? key = some part ∧ ∀ width, part.get? "pointer_width" = some width →
    (Contract.Constant.integer t.pointerWidth.toNat).isEqualTo width = true

theorem IntegerType.widthFrom_of_read {key : String} {fields : Members} {t : IntegerType}
    (accepted : required key read fields = .accepted t) : t.WidthFrom key (.obj fields) := by
  unfold required at accepted
  cases found : lookup key fields with
  | none =>
      rw [found] at accepted
      cases accepted
  | some part =>
      rw [found, within_eq_accepted, eq_accepted_iff, read] at accepted
      simp only [accepts_object, accepts_seq, accepts_map] at accepted
      obtain ⟨members, rfl, kind, _, width, readWidth, rfl⟩ := accepted
      refine ⟨_, found, fun given present => ?_⟩
      rw [Json.optional, show lookup "pointer_width" members = some given from present,
        within_eq_accepted] at readWidth
      exact isEqualTo_of_readPointerWidth readWidth

/-! ## Declarations -/

namespace Alternative

def constant? : Alternative → Option ConstExpr
  | constant expr => some expr
  | range _ => none

def range? : Alternative → Option ValueRange
  | constant _ => none
  | range values => some values

end Alternative

namespace VariantDecl

/-- The explicit value and the constants among the alternatives. -/
def constants (v : VariantDecl) : List ConstExpr :=
  v.explicitValue.toList ++ v.alternatives.filterMap Alternative.constant?

/-- The ranges among the alternatives, as declared. -/
def declaredRanges (v : VariantDecl) : List ValueRange :=
  v.alternatives.filterMap Alternative.range?

def spans (v : VariantDecl) : List SourceSpan :=
  v.span.toList ++ v.modifiers.filterMap Modifier.span

theorem Valid.text_ne {v : VariantDecl} (valid : v.Valid) {e : ConstExpr}
    (member : e ∈ v.constants) : e.text ≠ some "" := by
  rcases List.mem_append.mp member with explicit | listed
  · exact valid.explicitValue e (Option.mem_toList.mp explicit)
  · obtain ⟨entry, inVariant, isConstant⟩ := List.mem_filterMap.mp listed
    obtain ⟨mark, marked, inMark⟩ := List.mem_flatMap.mp inVariant
    have entryValid := (valid.modifiers mark marked).entries entry inMark
    cases entry with
    | constant expr =>
        cases isConstant
        exact entryValid
    | range values => cases isConstant

theorem Valid.span_valid {v : VariantDecl} (valid : v.Valid) {s : SourceSpan}
    (member : s ∈ v.spans) : s.Valid := by
  rcases List.mem_append.mp member with own | ofModifier
  · exact valid.span s (Option.mem_toList.mp own)
  · obtain ⟨mark, marked, place⟩ := List.mem_filterMap.mp ofModifier
    exact (valid.modifiers mark marked).span s place

end VariantDecl

namespace EnumDecl

def spans (d : EnumDecl) : List SourceSpan :=
  d.variants.flatMap VariantDecl.spans ++ d.errorTypes.filterMap ErrorType.span

/-- What resolution may rely on. -/
structure InOrder (d : EnumDecl) : Prop where
  variants : d.variants ≠ []
  distinct : d.variantNames.Nodup
  names : ∀ name ∈ d.name :: d.variantNames, isIdentifier name = true
  modifiers : ∀ v ∈ d.variants, ∀ m ∈ v.modifiers, m.kind = .alternatives → m.entries ≠ []
  ranges : ∀ v ∈ d.variants, ∀ r ∈ v.declaredRanges, r.start ≤ lastOf r.stop r.inclusive
  texts : ∀ v ∈ d.variants, ∀ e ∈ v.constants, e.text ≠ some ""
  errorTypes : ∀ e ∈ d.errorTypes, e.name ≠ "" ∧ e.constructor ≠ ""
  spans : ∀ s ∈ d.spans, (∀ n ∈ s.line, 1 ≤ n) ∧ ∀ n ∈ s.column, 1 ≤ n
  pointerWidth : d.integerType.pointerWidth.toNat ∈ [16, 32, 64]

theorem Valid.inOrder {d : EnumDecl} (valid : d.Valid) : d.InOrder where
  variants := valid.nonempty
  distinct := valid.distinct
  names name member := by
    rcases List.mem_cons.mp member with rfl | ofVariant
    · exact valid.name
    · obtain ⟨v, listed, rfl⟩ := List.mem_map.mp ofVariant
      exact (valid.variants v listed).name
  modifiers v member m marked := ((valid.variants v member).modifiers m marked).nonempty
  ranges _ _ r _ := r.nonempty
  texts v member e listed := (valid.variants v member).text_ne listed
  errorTypes e member := ⟨(valid.errorTypes e member).name, (valid.errorTypes e member).constructor⟩
  spans s member := by
    have place : s.Valid := by
      rcases List.mem_append.mp member with ofVariant | ofError
      · obtain ⟨v, listed, inVariant⟩ := List.mem_flatMap.mp ofVariant
        exact (valid.variants v listed).span_valid inVariant
      · obtain ⟨e, listed, isSpan⟩ := List.mem_filterMap.mp ofError
        exact (valid.errorTypes e listed).span s isSpan
    exact ⟨place.line, place.column⟩
  pointerWidth := PointerWidth.toNat_mem _

theorem widthFrom_of_read {form : Form} {p : Json} {d : EnumDecl}
    (accepted : read form p = .accepted d) : d.integerType.WidthFrom "underlying_type" p := by
  rw [eq_accepted_iff, read] at accepted
  simp only [accepts_object, accepts_ensure, accepts_seq, accepts_map] at accepted
  obtain ⟨fields, rfl, name, _, t, readType, _, _, _, _, _, rfl⟩ := accepted
  exact IntegerType.widthFrom_of_read readType

end EnumDecl

/-! ## Mappings -/

namespace Mapping

/-- What derivation may rely on. -/
structure InOrder (m : Mapping) : Prop where
  ranges : ∀ v ∈ m.variants, ∀ r ∈ v.alternatives, r.start ≤ lastOf r.stop r.inclusive
  errorType : ∀ e ∈ m.errorType, e.name ≠ "" ∧ e.constructor ≠ "" ∧
    ∀ s ∈ e.span, (∀ n ∈ s.line, 1 ≤ n) ∧ ∀ n ∈ s.column, 1 ≤ n
  pointerWidth : m.integerType.pointerWidth.toNat ∈ [16, 32, 64]

theorem Valid.inOrder {m : Mapping} (valid : m.Valid) : m.InOrder where
  ranges _ _ r _ := r.nonempty
  errorType e found := by
    have named := valid e found
    refine ⟨named.name, named.constructor, fun s isSpan => ?_⟩
    exact ⟨(named.span s isSpan).line, (named.span s isSpan).column⟩
  pointerWidth := PointerWidth.toNat_mem _

theorem widthFrom_of_read {p : Json} {m : Mapping} (accepted : read p = .accepted m) :
    m.integerType.WidthFrom "integer_type" p := by
  rw [eq_accepted_iff, read] at accepted
  simp only [accepts_object, accepts_seq, accepts_map] at accepted
  obtain ⟨fields, rfl, name, _, t, readType, _, _, _, _, _, _, _, _, _, _, rfl⟩ := accepted
  exact IntegerType.widthFrom_of_read readType

end Mapping

/-! ## Plans -/

theorem FallbackPolicy.name_of_ofName? {s : String} {policy : FallbackPolicy}
    (known : ofName? s = some policy) : policy.name = s := by
  rw [ofName?] at known
  simpa using List.find?_some known

theorem FallbackPolicy.admits_of_read {value : Json} {policy : FallbackPolicy}
    (accepted : readNamed (all.map name) ofName? value = .accepted policy) :
    Contract.fallbackPolicy.Admits value := by
  cases value with
  | str s =>
      rw [readNamed] at accepted
      split at accepted
      · rename_i found known
        refine Contract.admits_fallbackPolicy.mpr ⟨s, ?_, rfl⟩
        rw [← name_of_ofName? known]
        exact List.mem_map_of_mem (List.mem_of_find?_eq_some known)
      · cases accepted
  | _ => cases accepted

theorem FallbackPolicy.mayHave_of_read {fields : Members} {policy : Option FallbackPolicy}
    (accepted : Json.optional "fallback" none (nullable (readNamed (all.map name) ofName?)) fields =
      .accepted policy) :
    MayHave "fallback" (OrNull Contract.fallbackPolicy.Admits) fields := by
  intro member found
  rw [Json.optional, found, within_eq_accepted] at accepted
  unfold nullable at accepted
  split at accepted
  · exact Or.inr rfl
  · obtain ⟨f, named, _⟩ := map_eq_accepted.mp accepted
    exact Or.inl (admits_of_read named)

namespace Plan

/-- What evaluation may rely on. -/
structure InOrder (p : Plan) : Prop where
  rows : ∀ row ∈ p.table, row.matched ≠ []
  ranges : ∀ row ∈ p.table, ∀ r ∈ row.matched, r.start ≤ lastOf r.stop r.inclusive
  variant : p.fallback.bind Fallback.variant? ≠ none ↔
    p.fallback.map Fallback.policy = some .defaultVariant ∨
      p.fallback.map Fallback.policy = some .catchAll
  error : p.fallback = some .returnError → p.error ≠ none

theorem Valid.inOrder {p : Plan} (valid : p.Valid) : p.InOrder where
  rows := valid.rows
  ranges _ _ r _ := r.nonempty
  variant := by
    rcases p.fallback with _ | _ | _ | _ | _ <;> simp [Fallback.policy, Fallback.variant?]
  error := valid.error

/-- A plan is read only from fields that agree. -/
theorem fieldsAgree_of_read {p : Json} {plan : Plan} (accepted : read p = .accepted plan) :
    FieldsAgree p := by
  rw [eq_accepted_iff, read] at accepted
  simp only [accepts_object, accepts_seq, accepts_map, accepts_next] at accepted
  obtain ⟨fields, rfl, _, _, _, _, _, _, _, _, policy, readPolicy, variant, readVariant, _, _, _, _,
    error, readError, _, _, _, _, _, _, plan, checked, rfl⟩ := accepted
  have agree := withFallback_succeeds_iff.mp ⟨plan, checked⟩
  have named := FallbackPolicy.eq_some_iff_named readPolicy
    (FallbackPolicy.mayHave_of_read readPolicy)
  rw [ne_none_iff_isGiven readVariant, named, named, named, ne_none_iff_isGiven readError] at agree
  exact ⟨agree.1, agree.2⟩

end Plan

/-- Whatever document is accepted as a declaration, a mapping or a plan, what is read from it is in
order, and so is the document that is written for it. -/
theorem accepted_documents_are_in_order (p : Json) :
    (∀ form d, EnumDecl.read form p = .accepted d →
      d.InOrder ∧ d.toJson.Tidy ∧ d.integerType.WidthFrom "underlying_type" p) ∧
    (∀ m, Mapping.read p = .accepted m →
      m.InOrder ∧ m.toJson.Tidy ∧ m.integerType.WidthFrom "integer_type" p) ∧
    ∀ plan, Plan.read p = .accepted plan →
      plan.InOrder ∧ plan.toJson.Tidy ∧ Plan.FieldsAgree p ∧ Plan.FieldsAgree plan.toJson := by
  refine ⟨?_, ?_, ?_⟩
  · intro form d accepted
    have valid := (EnumDecl.lossless form).sound p d accepted
    exact ⟨valid.inOrder, d.tidy_toJson, EnumDecl.widthFrom_of_read accepted⟩
  · intro m accepted
    have valid := Mapping.lossless.sound p m accepted
    exact ⟨valid.inOrder, m.tidy_toJson, Mapping.widthFrom_of_read accepted⟩
  · intro plan accepted
    have valid := Plan.lossless.sound p plan accepted
    exact ⟨valid.inOrder, plan.tidy_toJson, Plan.fieldsAgree_of_read accepted,
      Plan.fieldsAgree_of_read (Plan.lossless.read_back accepted)⟩

theorem accepted_documents_are_in_order_reply :
    (EnumDecl.read .text EnumDecl.replyDocument = .accepted .reply ∧ EnumDecl.reply.InOrder ∧
      EnumDecl.reply.toJson.Tidy) ∧
      (Mapping.read Mapping.reply.toJson = .accepted .reply ∧ Mapping.reply.InOrder) ∧
      ∃ plan, Plan.read Plan.replyDocument = .accepted plan ∧ plan.InOrder ∧
        Plan.FieldsAgree Plan.replyDocument := by
  have declared : EnumDecl.read .text EnumDecl.replyDocument = .accepted .reply := by rfl
  have mapped : Mapping.read Mapping.reply.toJson = .accepted .reply := by rfl
  obtain ⟨plan, planned⟩ : ∃ plan, Plan.read Plan.replyDocument = .accepted plan := ⟨_, rfl⟩
  obtain ⟨inOrder, tidy, _⟩ := (accepted_documents_are_in_order _).1 .text _ declared
  obtain ⟨mappingInOrder, _⟩ := (accepted_documents_are_in_order _).2.1 _ mapped
  obtain ⟨planInOrder, _, agree, _⟩ := (accepted_documents_are_in_order _).2.2 _ planned
  exact ⟨⟨declared, inOrder, tidy⟩, ⟨mapped, mappingInOrder⟩, plan, planned, planInOrder, agree⟩

end IntegerEnum
