import IntegerEnum.Contract.Publication
import IntegerEnum.Proofs.Admission

/-! # What the published contracts demand

For each part of the published contracts, the values that it admits, in words of their own: which
members an object must have and which it may have, and what stands in each. A contract that others
refer to is left standing by its name. A modifier is admitted when it is one of exactly one kind. -/
set_option autoImplicit false

namespace IntegerEnum

namespace Json

def OrNull (demand : Json → Prop) (value : Json) : Prop := demand value ∨ value = .null

def IsText (value : Json) : Prop := ∃ s, value = .str s

def IsNonemptyText (value : Json) : Prop := ∃ s, value = .str s ∧ s ≠ ""

def IsIdentifierText (value : Json) : Prop := ∃ s, value = .str s ∧ isIdentifier s = true

def IsName (names : List String) (value : Json) : Prop := ∃ s ∈ names, value = .str s

def IsTruth (value : Json) : Prop := ∃ b, value = .bool b

/-- A double without a fraction is an integer to a contract. -/
def IsInteger (value : Json) : Prop := Contract.TypeName.integer.accepts value = true

def IsPositive (value : Json) : Prop := Contract.isBelow 1 value = false ∧ value.IsInteger

def IsPointerWidth (value : Json) : Prop :=
  ∃ width : PointerWidth, (Contract.Constant.integer width.toNat).isEqualTo value = true

def IsList (demand : Json → Prop) (value : Json) : Prop :=
  ∃ items, value = .arr items ∧ ∀ item ∈ items, demand item

def IsNonemptyList (demand : Json → Prop) (value : Json) : Prop :=
  ∃ items, value = .arr items ∧ items ≠ [] ∧ ∀ item ∈ items, demand item

end Json

theorem ModifierKind.mem_all (kind : ModifierKind) : kind ∈ ModifierKind.all := by
  cases kind <;> decide

namespace Contract

open Json

variable {value : Json}

/-! ## Scalars and lists -/

@[simp] theorem accepts_integer_iff : TypeName.integer.accepts value = true ↔ value.IsInteger :=
  Iff.rfl

@[simp] theorem accepts_boolean_iff : TypeName.boolean.accepts value = true ↔ value.IsTruth := by
  cases value <;> simp [TypeName.accepts, IsTruth]

@[simp] theorem accepts_string_iff : TypeName.string.accepts value = true ↔ value.IsText := by
  cases value <;> simp [TypeName.accepts, IsText]

@[simp] theorem accepts_array_iff :
    TypeName.array.accepts value = true ↔ ∃ items, value = .arr items := by
  cases value <;> simp [TypeName.accepts]

@[simp] theorem nonemptyText_iff :
    (∀ s, value = .str s → 1 ≤ s.length) ∧ value.IsText ↔ value.IsNonemptyText := by
  cases value <;> simp [IsText, IsNonemptyText, Nat.one_le_iff_ne_zero]

@[simp] theorem identifierText_iff :
    (∀ s, value = .str s → 1 ≤ s.length) ∧ (∀ s, value = .str s → isIdentifier s = true) ∧
        value.IsText ↔ value.IsIdentifierText := by
  cases value with
  | str s =>
      simp only [Json.str.injEq, forall_eq', IsText, exists_eq', and_true, IsIdentifierText,
        exists_eq_left', and_iff_right_iff_imp]
      intro identifier
      cases empty : s.toList with
      | nil => simp [isIdentifier, empty] at identifier
      | cons c rest => simp [← String.length_toList, empty]
  | _ => simp [IsText, IsIdentifierText]

@[simp] theorem list_iff {demand : Json → Prop} :
    (∀ items, value = .arr items → ∀ item ∈ items, demand item) ∧ (∃ items, value = .arr items) ↔
      value.IsList demand := by
  cases value <;> simp [IsList]

@[simp] theorem nonemptyList_iff {demand : Json → Prop} :
    (∀ items, value = .arr items → ∀ item ∈ items, demand item) ∧
        (∀ items, value = .arr items → 1 ≤ items.length) ∧ (∃ items, value = .arr items) ↔
      value.IsNonemptyList demand := by
  cases value <;> simp [IsNonemptyList, Nat.one_le_iff_ne_zero, and_comm]

@[simp] theorem admits_orNull {contract : Contract} :
    (orNull contract).Admits value ↔ value.OrNull contract.Admits := by
  simp [orNull, OrNull]

@[simp] theorem admits_names {listed : List String} :
    (names listed).Admits value ↔ value.IsName listed := by
  rw [names, Keyword.admits_oneFrom]
  constructor
  · rintro ⟨constant, listed, equal⟩
    obtain ⟨s, member, rfl⟩ := List.mem_map.mp listed
    exact ⟨s, member, isEqualTo_text_iff.mp equal⟩
  · rintro ⟨s, member, rfl⟩
    exact ⟨.text s, List.mem_map_of_mem member, isEqualTo_text_iff.mpr rfl⟩

@[simp] theorem nameText_iff {listed : List String} :
    value.IsName listed ∧ value.IsText ↔ value.IsName listed := by
  cases value <;> simp [IsName, IsText]

@[simp] theorem constantText_iff {s : String} :
    value = .str s ∧ value.IsText ↔ value = .str s := by
  cases value <;> simp [IsText]

theorem isInteger_of_isEqualTo {n : Int} (equal : (Constant.integer n).isEqualTo value = true) :
    value.IsInteger := by
  cases value with
  | int k => rfl
  | float x =>
      have whole : x.toInt? = some n := of_decide_eq_true equal
      change x.toInt?.isSome = true
      rw [whole]
      rfl
  | _ => simp [Constant.isEqualTo] at equal

@[simp] theorem pointerWidth_iff :
    ((Constant.integer 16).isEqualTo value = true ∨ (Constant.integer 32).isEqualTo value = true ∨
        (Constant.integer 64).isEqualTo value = true) ∧ value.IsInteger ↔
      value.IsPointerWidth := by
  constructor
  · rintro ⟨equal | equal | equal, _⟩
    · exact ⟨.bits16, equal⟩
    · exact ⟨.bits32, equal⟩
    · exact ⟨.bits64, equal⟩
  · rintro ⟨width, equal⟩
    refine ⟨?_, isInteger_of_isEqualTo equal⟩
    cases width with
    | bits16 => exact Or.inl equal
    | bits32 => exact Or.inr (Or.inl equal)
    | bits64 => exact Or.inr (Or.inr equal)

@[simp] theorem errorKind_iff :
    (value = .str "default" ∨ value = .str "custom") ∧ value.IsText ↔
      value.IsName (ErrorKind.all.map ErrorKind.name) := by
  cases value <;> simp [IsName, IsText, ErrorKind.all, ErrorKind.name]

/-! ## Declarations -/

theorem admits_integerKind :
    integerKind.Admits value ↔ value.IsName (IntegerKind.all.map IntegerKind.name) := by
  simp [integerKind]

theorem admits_integerType :
    integerType.Admits value ↔ ∃ fields, value = .obj fields ∧
      Has "kind" integerKind.Admits fields ∧ MayHave "pointer_width" IsPointerWidth fields := by
  rw [integerType, admits_record (by decide)]
  simp [Has, MayHave]

theorem admits_sourceSpan :
    sourceSpan.Admits value ↔ ∃ fields, value = .obj fields ∧
      MayHave "file" (OrNull IsText) fields ∧ MayHave "line" (OrNull IsPositive) fields ∧
        MayHave "column" (OrNull IsPositive) fields := by
  rw [sourceSpan, admits_openRecord]
  simp [MayHave, OrNull, IsPositive]

theorem admits_constExpr :
    constExpr.Admits value ↔ ∃ fields, value = .obj fields ∧
      Has "value" IsInteger fields ∧ MayHave "text" (OrNull IsNonemptyText) fields := by
  rw [constExpr, admits_record (by decide)]
  simp [Has, MayHave, OrNull]

theorem admits_valueRange :
    valueRange.Admits value ↔ ∃ fields, value = .obj fields ∧
      Has "start" IsInteger fields ∧ Has "end" IsInteger fields ∧
        MayHave "inclusive" IsTruth fields := by
  rw [valueRange, admits_record (by decide)]
  simp [Has, MayHave]

/-- The contract of one kind of modifier. -/
def modifierOf : ModifierKind → Contract
  | .byDefault => defaultModifier
  | .catchAll => catchAllModifier
  | .alternatives => alternativesModifier

/-- No kind of modifier must name itself, and an entry may be both a constant and a range. -/
theorem admits_modifierOf {kind : ModifierKind} :
    (modifierOf kind).Admits value ↔ ∃ fields, value = .obj fields ∧
      MayHave "kind" (· = .str kind.name) fields ∧
        (kind = .alternatives → Has "values"
          (IsNonemptyList fun item => constExpr.Admits item ∨ valueRange.Admits item) fields) ∧
          MayHave "span" (OrNull sourceSpan.Admits) fields := by
  cases kind with
  | byDefault =>
      rw [modifierOf, defaultModifier, admits_openRecord]
      simp [MayHave, OrNull, ModifierKind.name]
  | catchAll =>
      rw [modifierOf, catchAllModifier, admits_openRecord]
      simp [MayHave, OrNull, ModifierKind.name]
  | alternatives =>
      rw [modifierOf, alternativesModifier, admits_record (by decide)]
      simp [Has, MayHave, OrNull, ModifierKind.name]

@[simp] theorem admits_byKind {choices : List (String × String)} :
    (byKind choices).Admits value := Keyword.admits_note

theorem check_refer {name : String} {target : Contract} :
    check [refer name target] value = target.check value := List.append_nil _

def modifierTitle : ModifierKind → String
  | .byDefault => "DefaultModifier"
  | .catchAll => "CatchAllModifier"
  | .alternatives => "AlternativesModifier"

/-- The kinds exclude each other, so one of them is met alone. -/
theorem admits_modifier :
    modifier.Admits value ↔
      ∃ kind, (modifierOf kind).Admits value ∧
        ∀ other, (modifierOf other).Admits value → other = kind := by
  have options : modifier = [byKind [("alternatives", "AlternativesModifier"),
      ("catch_all", "CatchAllModifier"), ("default", "DefaultModifier")],
      .oneOf (ModifierKind.all.map fun kind => [refer (modifierTitle kind) (modifierOf kind)])] :=
    rfl
  rw [options, admits_cons, admits_cons, Keyword.admits_oneOf, List.filter_map, List.length_map,
    List.length_eq_one_iff]
  simp only [admits_byKind, admits_nil, true_and, and_true, Function.comp_def, check_refer]
  constructor
  · rintro ⟨kind, alone⟩
    have only : ∀ other, (modifierOf other).Admits value ↔ other = kind := by
      intro other
      rw [← List.mem_singleton, ← alone, List.mem_filter, List.isEmpty_iff]
      exact (and_iff_right other.mem_all).symm
    exact ⟨kind, (only kind).mpr rfl, fun other => (only other).mp⟩
  · rintro ⟨kind, admitted, alone⟩
    have only : ModifierKind.all.filter (fun other => ((modifierOf other).check value).isEmpty) =
        ModifierKind.all.filter (· = kind) := by
      refine List.filter_congr fun other _ => ?_
      rw [Bool.eq_iff_iff, List.isEmpty_iff, decide_eq_true_iff]
      exact ⟨alone other, fun same => same ▸ admitted⟩
    rw [only]
    cases kind <;> exact ⟨_, rfl⟩

theorem admits_variantSpec :
    variantSpec.Admits value ↔ ∃ fields, value = .obj fields ∧
      Has "name" IsIdentifierText fields ∧
        MayHave "explicit_value" (OrNull constExpr.Admits) fields ∧
          MayHave "modifiers" (IsList modifier.Admits) fields ∧
            MayHave "field_types" (IsList IsText) fields ∧
              MayHave "span" (OrNull sourceSpan.Admits) fields := by
  rw [variantSpec, admits_record (by decide)]
  simp [Has, MayHave, OrNull]

theorem admits_customErrorType :
    customErrorType.Admits value ↔ ∃ fields, value = .obj fields ∧
      Has "name" IsNonemptyText fields ∧ Has "constructor" IsNonemptyText fields ∧
        MayHave "span" (OrNull sourceSpan.Admits) fields := by
  rw [customErrorType, admits_record (by decide)]
  simp [Has, MayHave, OrNull]

theorem admits_declarations :
    declarations.Admits value ↔ ∃ fields, value = .obj fields ∧
      Has "name" IsIdentifierText fields ∧ Has "underlying_type" integerType.Admits fields ∧
        Has "variants" (IsNonemptyList variantSpec.Admits) fields ∧
          MayHave "error_types" (IsList customErrorType.Admits) fields := by
  rw [declarations, admits_record (by decide)]
  simp [Has, MayHave]

/-! ## Mappings and plans -/

theorem admits_resolvedVariant :
    resolvedVariant.Admits value ↔ ∃ fields, value = .obj fields ∧
      Has "name" IsText fields ∧ Has "canonical_value" IsInteger fields ∧
        MayHave "canonical_text" (OrNull IsText) fields ∧
          MayHave "alternatives" (IsList valueRange.Admits) fields ∧
            MayHave "is_default" IsTruth fields ∧ MayHave "is_catch_all" IsTruth fields := by
  rw [resolvedVariant, admits_record (by decide)]
  simp [Has, MayHave, OrNull]

theorem admits_mappings :
    mappings.Admits value ↔ ∃ fields, value = .obj fields ∧
      Has "enum_name" IsText fields ∧ Has "integer_type" integerType.Admits fields ∧
        Has "variants" (IsList resolvedVariant.Admits) fields ∧
          MayHave "is_naturally_exhaustive" IsTruth fields ∧
            MayHave "default_variant" (OrNull IsText) fields ∧
              MayHave "catch_all_variant" (OrNull IsText) fields ∧
                MayHave "error_type" (OrNull customErrorType.Admits) fields := by
  rw [mappings, admits_record (by decide)]
  simp [Has, MayHave, OrNull]

theorem admits_mappingEntry :
    mappingEntry.Admits value ↔ ∃ fields, value = .obj fields ∧
      Has "variant" IsText fields ∧ Has "canonical_value" IsInteger fields ∧
        MayHave "canonical_text" (OrNull IsText) fields ∧
          Has "matched_values" (IsNonemptyList valueRange.Admits) fields := by
  rw [mappingEntry, admits_record (by decide)]
  simp [Has, MayHave, OrNull]

theorem admits_conversionFamily :
    conversionFamily.Admits value ↔ value.IsName (Family.all.map Family.name) := by
  simp [conversionFamily]

theorem admits_fallbackPolicy :
    fallbackPolicy.Admits value ↔ value.IsName (FallbackPolicy.all.map FallbackPolicy.name) := by
  simp [fallbackPolicy]

theorem admits_toIntegerStrategy :
    toIntegerStrategy.Admits value ↔
      value.IsName (ToIntegerStrategy.all.map ToIntegerStrategy.name) := by
  simp [toIntegerStrategy]

theorem admits_errorConstruction :
    errorConstruction.Admits value ↔ ∃ fields, value = .obj fields ∧
      MayHave "kind" (IsName (ErrorKind.all.map ErrorKind.name)) fields ∧
        MayHave "type_name" IsNonemptyText fields ∧
          MayHave "constructor" (OrNull IsText) fields := by
  rw [errorConstruction, admits_openRecord]
  simp [MayHave, OrNull]

theorem admits_plans :
    plans.Admits value ↔ ∃ fields, value = .obj fields ∧
      Has "enum_name" IsText fields ∧ Has "integer_type" integerType.Admits fields ∧
        Has "family" conversionFamily.Admits fields ∧
          Has "mapping" (IsList mappingEntry.Admits) fields ∧
            MayHave "fallback" (OrNull fallbackPolicy.Admits) fields ∧
              MayHave "fallback_variant" (OrNull IsText) fields ∧
                MayHave "default_variant" (OrNull IsText) fields ∧
                  MayHave "catch_all_variant" (OrNull IsText) fields ∧
                    MayHave "error" (OrNull errorConstruction.Admits) fields ∧
                      MayHave "to_integer_strategy" (OrNull toIntegerStrategy.Admits) fields ∧
                        MayHave "provides_const_form" IsTruth fields ∧
                          MayHave "requires_unchecked_acknowledgement" IsTruth fields := by
  rw [plans, admits_record (by decide)]
  simp [Has, MayHave, OrNull]

end Contract

end IntegerEnum
