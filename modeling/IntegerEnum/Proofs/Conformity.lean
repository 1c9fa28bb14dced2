import IntegerEnum.Conformance.Check
import IntegerEnum.Proofs.Demands
import IntegerEnum.Proofs.Documents

/-! # Documents keep to their contracts

A writer meets a demand when the document of every good value does. The writers of scalars meet
theirs, and each way of building a writer from others keeps it so; a document of an object has
every member, so it also has those that its contract requires. With the readers lossless, a strict
check of the document of a valid declaration, mapping or plan finds nothing wrong. -/
set_option autoImplicit false

namespace IntegerEnum

open Json

/-- The document of every good value is as demanded. -/
def Meets {α : Type} (demand : Json → Prop) (write : α → Json) (Good : α → Prop) : Prop :=
  ∀ x, Good x → demand (write x)

namespace Meets
variable {α : Type} {demand : Json → Prop} {write : α → Json} {Good : α → Prop}

section Fields
variable {key : String} {fields : Members} {x : α}

theorem has (meets : Meets demand write Good) (found : lookup key fields = some (write x))
    (good : Good x) : Has key demand fields :=
  ⟨write x, found, meets x good⟩

theorem mayHave (meets : Meets demand write Good) (found : lookup key fields = some (write x))
    (good : Good x) : MayHave key demand fields := (has_iff.mp (meets.has found good)).1

end Fields

theorem orNull (meets : Meets demand write Good) :
    Meets (OrNull demand) (ofOption write) fun o => ∀ x ∈ o, Good x := by
  intro o good
  cases o with
  | none => exact Or.inr rfl
  | some x => exact Or.inl (meets x (good x rfl))

theorem list (meets : Meets demand write Good) :
    Meets (IsList demand) (fun xs : List α => .arr (xs.map write)) fun xs => ∀ x ∈ xs, Good x := by
  intro xs good
  refine ⟨_, rfl, fun item member => ?_⟩
  obtain ⟨x, listed, rfl⟩ := List.mem_map.mp member
  exact meets x (good x listed)

theorem nonemptyList (meets : Meets demand write Good) :
    Meets (IsNonemptyList demand) (fun xs : List α => .arr (xs.map write))
      fun xs => (∀ x ∈ xs, Good x) ∧ xs ≠ [] := by
  rintro xs ⟨good, nonempty⟩
  obtain ⟨items, written, each⟩ := meets.list xs good
  cases written
  exact ⟨_, rfl, fun empty => nonempty (List.map_eq_nil_iff.mp empty), each⟩

end Meets

/-! ## Scalars -/

theorem meets_text : Meets IsText .str fun _ => True := fun s _ => ⟨s, rfl⟩

theorem meets_textOrNull : Meets (OrNull IsText) (ofOption .str) fun _ => True :=
  fun o _ => meets_text.orNull o fun _ _ => trivial

theorem meets_nonemptyText : Meets IsNonemptyText .str (· ≠ "") := fun s good => ⟨s, rfl, good⟩

theorem meets_identifier : Meets IsIdentifierText .str (isIdentifier · = true) :=
  fun s good => ⟨s, rfl, good⟩

theorem meets_integer : Meets IsInteger .int fun _ => True := fun _ _ => rfl

theorem meets_positive : Meets IsPositive .int (1 ≤ ·) := by
  intro n positive
  refine ⟨?_, rfl⟩
  rw [Contract.isBelow, decide_eq_false_iff_not]
  omega

theorem meets_truth : Meets IsTruth .bool fun _ => True := fun b _ => ⟨b, rfl⟩

theorem meets_pointerWidth :
    Meets IsPointerWidth (fun width : PointerWidth => .int width.toNat) fun _ => True :=
  fun width _ => ⟨width, decide_eq_true rfl⟩

theorem meets_name {α : Type} {name : α → String} {all : List α} (complete : ∀ x, x ∈ all) :
    Meets (IsName (all.map name)) (fun x => .str (name x)) fun _ => True :=
  fun x _ => ⟨name x, List.mem_map_of_mem (complete x), rfl⟩

/-! ## Declarations -/

theorem IntegerKind.mem_all (kind : IntegerKind) : kind ∈ all := by cases kind <;> decide

theorem IntegerKind.meets :
    Meets Contract.integerKind.Admits (fun kind : IntegerKind => .str kind.name) fun _ => True :=
  fun kind _ => Contract.admits_integerKind.mpr (meets_name mem_all kind trivial)

theorem IntegerType.meets : Meets Contract.integerType.Admits toJson fun _ => True := by
  intro t _
  refine Contract.admits_integerType.mpr ⟨_, rfl, ?_, ?_⟩
  · exact IntegerKind.meets.has rfl trivial
  · exact meets_pointerWidth.mayHave rfl trivial

theorem SourceSpan.meets : Meets Contract.sourceSpan.Admits toJson Valid := by
  intro s valid
  refine Contract.admits_sourceSpan.mpr ⟨_, rfl, ?_, ?_, ?_⟩
  · exact meets_textOrNull.mayHave rfl trivial
  · exact meets_positive.orNull.mayHave rfl valid.line
  · exact meets_positive.orNull.mayHave rfl valid.column

theorem ConstExpr.meets : Meets Contract.constExpr.Admits toJson Valid := by
  intro e valid
  refine Contract.admits_constExpr.mpr ⟨_, rfl, ?_, ?_⟩
  · exact meets_integer.has rfl trivial
  · apply meets_nonemptyText.orNull.mayHave rfl
    rintro s found rfl
    exact valid found

theorem ValueRange.meets : Meets Contract.valueRange.Admits toJson fun _ => True := by
  intro r _
  refine Contract.admits_valueRange.mpr ⟨_, rfl, ?_, ?_, ?_⟩
  · exact meets_integer.has rfl trivial
  · exact meets_integer.has rfl trivial
  · exact meets_truth.mayHave rfl trivial

theorem Alternative.meets :
    Meets (fun item => Contract.constExpr.Admits item ∨ Contract.valueRange.Admits item) toJson
      Valid := by
  intro a valid
  cases a with
  | constant e => exact Or.inl (ConstExpr.meets e valid)
  | range r => exact Or.inr (ValueRange.meets r trivial)

namespace Modifier

theorem lookup_kind (m : Modifier) :
    ∃ fields, m.toJson = .obj fields ∧ lookup "kind" fields = some (.str m.kind.name) := by
  cases m <;> exact ⟨_, rfl, rfl⟩

theorem meets_modifierOf {m : Modifier} (valid : m.Valid) :
    (Contract.modifierOf m.kind).Admits m.toJson := by
  cases m with
  | byDefault span =>
      refine Contract.admits_modifierOf.mpr ⟨_, rfl, ?_, nofun, ?_⟩
      · rintro member ⟨⟩
        rfl
      · exact SourceSpan.meets.orNull.mayHave rfl valid.span
  | catchAll span =>
      refine Contract.admits_modifierOf.mpr ⟨_, rfl, ?_, nofun, ?_⟩
      · rintro member ⟨⟩
        rfl
      · exact SourceSpan.meets.orNull.mayHave rfl valid.span
  | alternatives entries span =>
      refine Contract.admits_modifierOf.mpr ⟨_, rfl, ?_, fun _ => ?_, ?_⟩
      · rintro member ⟨⟩
        rfl
      · exact Alternative.meets.nonemptyList.has rfl ⟨valid.entries, valid.nonempty rfl⟩
      · exact SourceSpan.meets.orNull.mayHave rfl valid.span

/-- The kind that a document names leaves no other one to be. -/
theorem meets : Meets Contract.modifier.Admits toJson Valid := by
  intro m valid
  refine Contract.admits_modifier.mpr ⟨m.kind, meets_modifierOf valid, fun other admitted => ?_⟩
  obtain ⟨fields, written, named⟩ := m.lookup_kind
  obtain ⟨same, shown, kind, _⟩ := Contract.admits_modifierOf.mp admitted
  rw [written] at shown
  cases shown
  have equal : m.kind.name = other.name := Json.str.inj (kind _ named)
  revert equal
  cases m.kind <;> cases other <;> decide

end Modifier

theorem VariantDecl.meets : Meets Contract.variantSpec.Admits toJson Valid := by
  intro v valid
  refine Contract.admits_variantSpec.mpr ⟨_, rfl, ?_, ?_, ?_, ?_, ?_⟩
  · exact meets_identifier.has rfl valid.name
  · exact ConstExpr.meets.orNull.mayHave rfl valid.explicitValue
  · exact Modifier.meets.list.mayHave rfl valid.modifiers
  · exact meets_text.list.mayHave rfl fun _ _ => trivial
  · exact SourceSpan.meets.orNull.mayHave rfl valid.span

theorem ErrorType.meets : Meets Contract.customErrorType.Admits toJson Valid := by
  intro e valid
  refine Contract.admits_customErrorType.mpr ⟨_, rfl, ?_, ?_, ?_⟩
  · exact meets_nonemptyText.has rfl valid.name
  · exact meets_nonemptyText.has rfl valid.constructor
  · exact SourceSpan.meets.orNull.mayHave rfl valid.span

theorem EnumDecl.meets : Meets Contract.declarations.Admits toJson Valid := by
  intro d valid
  refine Contract.admits_declarations.mpr ⟨_, rfl, ?_, ?_, ?_, ?_⟩
  · exact meets_identifier.has rfl valid.name
  · exact IntegerType.meets.has rfl trivial
  · exact VariantDecl.meets.nonemptyList.has rfl ⟨valid.variants, valid.nonempty⟩
  · exact ErrorType.meets.list.mayHave rfl valid.errorTypes

/-! ## Mappings and plans -/

theorem MappedVariant.meets : Meets Contract.resolvedVariant.Admits toJson fun _ => True := by
  intro v _
  refine Contract.admits_resolvedVariant.mpr ⟨_, rfl, ?_, ?_, ?_, ?_, ?_, ?_⟩
  · exact meets_text.has rfl trivial
  · exact meets_integer.has rfl trivial
  · exact meets_textOrNull.mayHave rfl trivial
  · exact ValueRange.meets.list.mayHave rfl fun _ _ => trivial
  · exact meets_truth.mayHave rfl trivial
  · exact meets_truth.mayHave rfl trivial

theorem Mapping.meets : Meets Contract.mappings.Admits toJson Valid := by
  intro m valid
  refine Contract.admits_mappings.mpr ⟨_, rfl, ?_, ?_, ?_, ?_, ?_, ?_, ?_⟩
  · exact meets_text.has rfl trivial
  · exact IntegerType.meets.has rfl trivial
  · exact MappedVariant.meets.list.has rfl fun _ _ => trivial
  · exact meets_truth.mayHave rfl trivial
  · exact meets_textOrNull.mayHave rfl trivial
  · exact meets_textOrNull.mayHave rfl trivial
  · exact ErrorType.meets.orNull.mayHave rfl valid

theorem TableRow.meets :
    Meets Contract.mappingEntry.Admits toJson fun row => row.matched ≠ [] := by
  intro row matched
  refine Contract.admits_mappingEntry.mpr ⟨_, rfl, ?_, ?_, ?_, ?_⟩
  · exact meets_text.has rfl trivial
  · exact meets_integer.has rfl trivial
  · exact meets_textOrNull.mayHave rfl trivial
  · exact ValueRange.meets.nonemptyList.has rfl ⟨fun _ _ => trivial, matched⟩

theorem Family.mem_all (family : Family) : family ∈ all := by cases family <;> decide

theorem Family.meets :
    Meets Contract.conversionFamily.Admits (fun family : Family => .str family.name)
      fun _ => True :=
  fun family _ => Contract.admits_conversionFamily.mpr (meets_name mem_all family trivial)

theorem FallbackPolicy.mem_all (policy : FallbackPolicy) : policy ∈ all := by
  cases policy <;> decide

/-- A fallback is written as its policy alone. -/
theorem Fallback.meets :
    Meets Contract.fallbackPolicy.Admits (fun fallback : Fallback => .str fallback.policy.name)
      fun _ => True := by
  intro fallback _
  exact Contract.admits_fallbackPolicy.mpr
    (meets_name FallbackPolicy.mem_all fallback.policy trivial)

theorem ToIntegerStrategy.mem_all (strategy : ToIntegerStrategy) : strategy ∈ all := by
  cases strategy <;> decide

theorem ToIntegerStrategy.meets :
    Meets Contract.toIntegerStrategy.Admits
      (fun strategy : ToIntegerStrategy => .str strategy.name) fun _ => True :=
  fun strategy _ => Contract.admits_toIntegerStrategy.mpr (meets_name mem_all strategy trivial)

theorem ErrorKind.mem_all (kind : ErrorKind) : kind ∈ all := by cases kind <;> decide

theorem ErrorRecipe.meets :
    Meets Contract.errorConstruction.Admits toJson fun e => e.typeName ≠ "" := by
  intro e typeName
  refine Contract.admits_errorConstruction.mpr ⟨_, rfl, ?_, ?_, ?_⟩
  · exact (meets_name ErrorKind.mem_all).mayHave rfl trivial
  · exact meets_nonemptyText.mayHave rfl typeName
  · exact meets_textOrNull.mayHave rfl trivial

theorem Plan.meets : Meets Contract.plans.Admits toJson Valid := by
  intro p valid
  refine Contract.admits_plans.mpr
    ⟨_, rfl, ?_, ?_, ?_, ?_, ?_, ?_, ?_, ?_, ?_, ?_, ?_, ?_⟩
  · exact meets_text.has rfl trivial
  · exact IntegerType.meets.has rfl trivial
  · exact Family.meets.has rfl trivial
  · exact TableRow.meets.list.has rfl valid.rows
  · exact Fallback.meets.orNull.mayHave rfl fun _ _ => trivial
  · exact meets_textOrNull.mayHave rfl trivial
  · exact meets_textOrNull.mayHave rfl trivial
  · exact meets_textOrNull.mayHave rfl trivial
  · exact ErrorRecipe.meets.orNull.mayHave rfl valid.typeName
  · exact ToIntegerStrategy.meets.orNull.mayHave rfl fun _ _ => trivial
  · exact meets_truth.mayHave rfl trivial
  · exact meets_truth.mayHave rfl trivial

/-! ## Strict checks -/

/-- A strict check with the contracts at hand finds the document valid: its reader objects to
nothing, and neither does its contract. -/
def DocumentKind.Passes (kind : DocumentKind) (value : Json) : Prop :=
  ∃ c, checkConformance ⟨true, true⟩ kind.name value = .ok c ∧ c.isValid = true ∧
    c.violations = [] ∧ c.findings = some []

theorem DocumentKind.passes_of {kind : DocumentKind} {value : Json}
    (readable : kind.violations value = []) (admitted : kind.contract.Admits value) :
    kind.Passes value := by
  have findings : (conformance kind true value).findings = some [] := congrArg some admitted
  refine ⟨conformance kind true value, ?_, ?_, readable, findings⟩
  · cases kind <;> rfl
  · rw [Conformance.isValid, findings]
    exact congrArg (fun found => found.isEmpty && true) readable

theorem EnumDecl.passes {d : EnumDecl} (valid : d.Valid) :
    DocumentKind.declaration.Passes d.toJson := by
  have read := (lossless .value).complete d valid
  exact DocumentKind.passes_of (congrArg Reading.violations read) (meets d valid)

theorem Mapping.passes {m : Mapping} (valid : m.Valid) :
    DocumentKind.mapping.Passes m.toJson := by
  have read := lossless.complete m valid
  exact DocumentKind.passes_of (congrArg Reading.violations read) (meets m valid)

theorem Plan.passes {p : Plan} (valid : p.Valid) : DocumentKind.plan.Passes p.toJson := by
  have read := lossless.complete p valid
  exact DocumentKind.passes_of (congrArg Reading.violations read) (meets p valid)

/-- The document of a valid declaration, mapping or plan passes a strict check, and so do those of
the mappings of resolution and of the plans of derivation. -/
theorem documents_keep_to_contracts :
    (∀ d : EnumDecl, d.Valid → DocumentKind.declaration.Passes d.toJson) ∧
    (∀ m : Mapping, m.Valid → DocumentKind.mapping.Passes m.toJson) ∧
    (∀ plan : Plan, plan.Valid → DocumentKind.plan.Passes plan.toJson) ∧
    (∀ d m, d.Valid → resolve d = .ok m → DocumentKind.mapping.Passes m.toJson) ∧
    ∀ m family plan, m.Valid → derive m family = .ok plan →
      DocumentKind.plan.Passes plan.toJson := by
  refine ⟨fun d => EnumDecl.passes, fun m => Mapping.passes, fun plan => Plan.passes, ?_, ?_⟩
  · intro d m valid success
    exact Mapping.passes (Mapping.valid_of_resolve valid success)
  · intro m family plan valid derived
    exact Plan.passes (Plan.valid_of_derive valid derived)

theorem documents_keep_to_contracts_reply :
    DocumentKind.declaration.Passes EnumDecl.reply.toJson ∧
      DocumentKind.mapping.Passes Mapping.reply.toJson ∧
      DocumentKind.plan.Passes Mapping.reply.falliblePlan.toJson := by
  obtain ⟨declarations, _, _, resolved, derived⟩ := documents_keep_to_contracts
  have valid : Mapping.reply.Valid := nofun
  exact ⟨declarations _ EnumDecl.valid_reply, resolved _ _ EnumDecl.valid_reply resolve_reply,
    derived Mapping.reply .fromIntegerFallible _ valid rfl⟩

end IntegerEnum
