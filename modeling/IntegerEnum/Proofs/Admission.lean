import IntegerEnum.Contract.Parts

/-! # What contracts admit

A contract admits a value when it finds nothing wrong with it. Where in a document the value stands
enters the findings but not whether there are any, so that a container is admitted part by part.
One rule for each keyword says what it admits, and `admits_record` what a contract of objects
admits. -/
set_option autoImplicit false

namespace IntegerEnum

namespace Contract

mutual
theorem Keyword.findings_eq_nil_of_place (keyword : Keyword) (value : Json) (p q : Place)
    (clean : keyword.findings value p = []) : keyword.findings value q = [] := by
  cases keyword with
  | reference name target => exact findings_eq_nil_of_place target value p q clean
  | items each =>
      cases value with
      | arr items =>
          simp only [Keyword.findings, List.flatMap_eq_nil_iff] at clean ⊢
          intro item member
          exact findings_eq_nil_of_place each item.1 _ _ (clean item member)
      | _ => rfl
  | properties fields =>
      cases value with
      | obj object => exact fieldFindings_eq_nil_of_place fields object _ _ clean
      | _ => rfl
  | required names =>
      cases value with
      | obj object =>
          simp only [Keyword.findings, List.map_eq_nil_iff] at clean ⊢
          exact clean
      | _ => rfl
  | note key value => rfl
  | _ =>
      -- no part of the value is looked at, so the place is only copied
      unfold Keyword.findings at clean ⊢
      split at clean <;> simp_all

theorem findings_eq_nil_of_place (contract : List Keyword) (value : Json) (p q : Place)
    (clean : findings contract value p = []) : findings contract value q = [] := by
  cases contract with
  | nil => rfl
  | cons keyword rest =>
      obtain ⟨head, tail⟩ := List.append_eq_nil_iff.mp clean
      exact List.append_eq_nil_iff.mpr ⟨Keyword.findings_eq_nil_of_place keyword value p q head,
        findings_eq_nil_of_place rest value p q tail⟩

theorem fieldFindings_eq_nil_of_place (fields : List (String × List Keyword))
    (object : Json.Members) (p q : Place) (clean : fieldFindings fields object p = []) :
    fieldFindings fields object q = [] := by
  cases fields with
  | nil => rfl
  | cons field rest =>
      obtain ⟨name, contract⟩ := field
      obtain ⟨head, tail⟩ := List.append_eq_nil_iff.mp clean
      refine List.append_eq_nil_iff.mpr ⟨?_, fieldFindings_eq_nil_of_place rest object p q tail⟩
      cases found : Json.lookup name object with
      | none => rfl
      | some value =>
          rw [found] at head
          exact findings_eq_nil_of_place contract value _ _ head
end

def Admits (contract : Contract) (value : Json) : Prop := contract.check value = []

def Keyword.Admits (keyword : Keyword) (value : Json) : Prop := keyword.findings value {} = []

section Rules
variable {value : Json}

theorem findings_eq_nil_iff {contract : Contract} {p : Place} :
    findings contract value p = [] ↔ contract.Admits value :=
  ⟨findings_eq_nil_of_place contract value p {}, findings_eq_nil_of_place contract value {} p⟩

@[simp] theorem admits_nil : Admits [] value := rfl

@[simp] theorem admits_cons {keyword : Keyword} {rest : Contract} :
    Admits (keyword :: rest) value ↔ keyword.Admits value ∧ Admits rest value :=
  List.append_eq_nil_iff

theorem accepting_eq_filter (options : List Contract) :
    accepting options value = options.filter fun option => (check option value).isEmpty := by
  induction options with
  | nil => rfl
  | cons option rest ih =>
      rw [accepting, List.filter_cons, ih]
      rfl

theorem fieldFindings_eq_nil_iff {fields : List (String × Contract)} {object : Json.Members}
    {p : Place} :
    fieldFindings fields object p = [] ↔
      ∀ field ∈ fields, ∀ member, Json.lookup field.1 object = some member →
        Admits field.2 member := by
  induction fields with
  | nil => simp [fieldFindings]
  | cons field rest ih =>
      obtain ⟨name, contract⟩ := field
      rw [fieldFindings, List.append_eq_nil_iff, ih, List.forall_mem_cons]
      refine and_congr_left fun _ => ?_
      cases Json.lookup name object with
      | none => simp
      | some member => simp [findings_eq_nil_iff]

namespace Keyword

@[simp] theorem admits_reference {name : String} {target : Contract} :
    (reference name target).Admits value ↔ Contract.Admits target value := Iff.rfl

@[simp] theorem admits_anyOf {options : List Contract} :
    (anyOf options).Admits value ↔ ∃ option ∈ options, Contract.Admits option value := by
  rw [Admits, findings, accepting_eq_filter]
  simp [Contract.Admits]

theorem admits_oneOf {options : List Contract} :
    (oneOf options).Admits value ↔
      (options.filter fun option => (check option value).isEmpty).length = 1 := by
  rw [Admits, findings, accepting_eq_filter]
  rcases options.filter fun option => (check option value).isEmpty with _ | ⟨first, _ | _⟩ <;> simp

@[simp] theorem admits_const {expected : Constant} :
    (const expected).Admits value ↔ expected.isEqualTo value = true := by
  simp [Admits, findings]

@[simp] theorem admits_oneFrom {values : List Constant} :
    (oneFrom values).Admits value ↔ ∃ constant ∈ values, constant.isEqualTo value = true := by
  simp [Admits, findings]

@[simp] theorem admits_items {each : Contract} :
    (items each).Admits value ↔
      ∀ list, value = .arr list → ∀ item ∈ list, Contract.Admits each item := by
  cases value with
  | arr list =>
      simp only [Admits, findings, List.flatMap_eq_nil_iff, findings_eq_nil_iff, Json.arr.injEq,
        forall_eq']
      constructor
      · intro clean item member
        obtain ⟨i, place⟩ := List.mem_iff_getElem?.mp member
        exact clean (item, i) (List.mem_zipIdx_iff_getElem?.mpr place)
      · intro clean item member
        exact clean item.1 (List.mem_of_getElem? (List.mem_zipIdx_iff_getElem?.mp member))
  | _ => simp [Admits, findings]

@[simp] theorem admits_minItems {least : Nat} :
    (minItems least).Admits value ↔ ∀ list, value = .arr list → least ≤ list.length := by
  cases value <;> simp [Admits, findings]

@[simp] theorem admits_minLength {least : Nat} :
    (minLength least).Admits value ↔ ∀ s, value = .str s → least ≤ s.length := by
  cases value <;> simp [Admits, findings]

@[simp] theorem admits_minimum {least : Int} :
    (minimum least).Admits value ↔ isBelow least value = false := by
  simp [Admits, findings]

@[simp] theorem admits_identifier :
    identifier.Admits value ↔ ∀ s, value = .str s → isIdentifier s = true := by
  cases value <;> simp [Admits, findings]

theorem admits_properties {fields : List (String × Contract)} {object : Json.Members} :
    (properties fields).Admits (.obj object) ↔
      ∀ field ∈ fields, ∀ member, Json.lookup field.1 object = some member →
        Contract.Admits field.2 member :=
  fieldFindings_eq_nil_iff

theorem admits_required {names : List String} {object : Json.Members} :
    (required names).Admits (.obj object) ↔ ∀ name ∈ names, Json.lookup name object ≠ none := by
  simp [Admits, findings]

@[simp] theorem admits_type {type : TypeName} :
    (Keyword.type type).Admits value ↔ type.accepts value = true := by
  simp [Admits, findings]

@[simp] theorem admits_note {key : String} {noted : Json} : (note key noted).Admits value := rfl

end Keyword

@[simp] theorem admits_titled {text : String} : (titled text).Admits value :=
  Keyword.admits_note

@[simp] theorem admits_described {text : String} : (described text).Admits value :=
  Keyword.admits_note

@[simp] theorem admits_absent {noted : Json} : (absent noted).Admits value :=
  Keyword.admits_note

@[simp] theorem admits_refer {name : String} {target : Contract} :
    (refer name target).Admits value ↔ target.Admits value := Keyword.admits_reference

@[simp] theorem accepts_null_iff : TypeName.null.accepts value = true ↔ value = .null := by
  cases value <;> simp [TypeName.accepts]

@[simp] theorem accepts_object_iff :
    TypeName.object.accepts value = true ↔ ∃ object, value = .obj object := by
  cases value <;> simp [TypeName.accepts]

@[simp] theorem isEqualTo_text_iff {s : String} :
    (Constant.text s).isEqualTo value = true ↔ value = .str s := by
  cases value <;> simp [Constant.isEqualTo]

end Rules

end Contract

/-! ## Objects -/

namespace Json

/-- The object has a member of that key, and it is as demanded. -/
def Has (key : String) (demand : Json → Prop) (object : Members) : Prop :=
  ∃ member, lookup key object = some member ∧ demand member

/-- If the object has a member of that key, it is as demanded. -/
def MayHave (key : String) (demand : Json → Prop) (object : Members) : Prop :=
  ∀ member, lookup key object = some member → demand member

theorem has_iff {key : String} {demand : Json → Prop} {object : Members} :
    Has key demand object ↔ MayHave key demand object ∧ lookup key object ≠ none := by
  cases found : lookup key object <;> simp [Has, MayHave, found]

end Json

namespace Contract

/-- The members that the contract names are as their contracts demand, and those that it requires
are there. -/
theorem admits_record {about title : String} {fields : List (String × Contract)}
    {names : List String} {value : Json} (declared : ∀ name ∈ names, name ∈ fields.map Prod.fst) :
    Admits [described about, .properties fields, .required names, titled title, .type .object]
        value ↔
      ∃ object, value = .obj object ∧ ∀ field ∈ fields,
        if field.1 ∈ names then Json.Has field.1 (Admits field.2) object
        else Json.MayHave field.1 (Admits field.2) object := by
  cases value with
  | obj object =>
      simp only [admits_cons, admits_described, admits_titled, admits_nil,
        Keyword.admits_properties, Keyword.admits_required, Keyword.admits_type,
        accepts_object_iff, Json.obj.injEq, exists_eq', exists_eq_left', true_and, and_true]
      constructor
      · rintro ⟨members, present⟩ field declaredField
        split
        · exact Json.has_iff.mpr ⟨members field declaredField, present _ ‹_›⟩
        · exact members field declaredField
      · intro demands
        constructor
        · intro field declaredField
          have demanded := demands field declaredField
          split at demanded
          · exact (Json.has_iff.mp demanded).1
          · exact demanded
        · intro name required
          obtain ⟨field, declaredField, rfl⟩ := List.mem_map.mp (declared name required)
          have demanded := demands field declaredField
          rw [if_pos required] at demanded
          exact (Json.has_iff.mp demanded).2
  | _ => simp

/-- As `admits_record`, where nothing is required. -/
theorem admits_openRecord {about title : String} {fields : List (String × Contract)}
    {value : Json} :
    Admits [described about, .properties fields, titled title, .type .object] value ↔
      ∃ object, value = .obj object ∧
        ∀ field ∈ fields, Json.MayHave field.1 (Admits field.2) object := by
  cases value with
  | obj object =>
      simp only [admits_cons, admits_described, admits_titled, admits_nil,
        Keyword.admits_properties, Keyword.admits_type, accepts_object_iff, Json.obj.injEq,
        exists_eq', exists_eq_left', true_and, and_true]
      rfl
  | _ => simp

end Contract

end IntegerEnum
