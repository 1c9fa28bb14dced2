import IntegerEnum.Proofs.Claiming

/-! # Declarations without places and texts

Front ends attach places in the source to declarations, modifiers and error types, and texts to
expressions. The `bare` form of a declaration, of a mapping and of everything in between leaves them
out. Each step of resolution commutes with leaving them out, so the whole of it does. -/
set_option autoImplicit false

namespace IntegerEnum

def ConstExpr.bare (e : ConstExpr) : ConstExpr := { e with text := none }

def Alternative.bare : Alternative → Alternative
  | constant expr => .constant expr.bare
  | range r => .range r

@[simp] theorem Alternative.values_bare (a : Alternative) : a.bare.values = a.values := by
  cases a <;> rfl

namespace Modifier

def bare : Modifier → Modifier
  | byDefault _ => .byDefault none
  | catchAll _ => .catchAll none
  | alternatives entries _ => .alternatives (entries.map Alternative.bare) none

@[simp] theorem kind_bare (m : Modifier) : m.bare.kind = m.kind := by cases m <;> rfl

@[simp] theorem span_bare (m : Modifier) : m.bare.span = none := by cases m <;> rfl

@[simp] theorem entries_bare (m : Modifier) : m.bare.entries = m.entries.map Alternative.bare := by
  cases m <;> rfl

end Modifier

def VariantDecl.bare (v : VariantDecl) : VariantDecl :=
  { v with
    explicitValue := v.explicitValue.map ConstExpr.bare
    modifiers := v.modifiers.map Modifier.bare
    span := none }

def ErrorType.bare (e : ErrorType) : ErrorType := { e with span := none }

def EnumDecl.bare (d : EnumDecl) : EnumDecl :=
  { d with
    variants := d.variants.map VariantDecl.bare
    errorTypes := d.errorTypes.map ErrorType.bare }

@[simp] theorem EnumDecl.integerType_bare (d : EnumDecl) : d.bare.integerType = d.integerType := rfl

@[simp] theorem EnumDecl.variants_bare (d : EnumDecl) :
    d.bare.variants = d.variants.map VariantDecl.bare := rfl

@[simp] theorem EnumDecl.errorTypes_bare (d : EnumDecl) :
    d.bare.errorTypes = d.errorTypes.map ErrorType.bare := rfl

def Diagnostic.bare (d : Diagnostic) : Diagnostic := { d with span := none }

@[simp] theorem Diagnostic.cause_bare (d : Diagnostic) : d.bare.cause = d.cause := rfl

def MappedVariant.bare (v : MappedVariant) : MappedVariant := { v with text := none }

def Mapping.bare (m : Mapping) : Mapping :=
  { m with
    variants := m.variants.map MappedVariant.bare
    errorType := m.errorType.map ErrorType.bare }

def Entry.bare (e : Entry) : Entry := { e with span := none }

@[simp] theorem Entry.values_bare (e : Entry) : e.bare.values = e.values := rfl

@[simp] theorem Entry.owner_bare (e : Entry) : e.bare.owner = e.owner := rfl

def Marks.bare (marks : Marks) : Marks :=
  { marks with catchAll := marks.catchAll.map fun (name, _) => (name, none) }

@[simp] theorem Marks.byDefault_bare (marks : Marks) : marks.bare.byDefault = marks.byDefault := rfl

namespace VariantDecl
variable (v : VariantDecl) (kind : ModifierKind) (value : Int) (t : IntegerType) (earlier : Marks)

@[simp] theorem modifiersOf_bare :
    v.bare.modifiersOf kind = (v.modifiersOf kind).map Modifier.bare := by
  simp [modifiersOf, bare, List.filter_map, Function.comp_def]

@[simp] theorem has_bare : v.bare.has kind = v.has kind := by
  simp [has, bare, Function.comp_def]

@[simp] theorem isDefault_bare : v.bare.isDefault = v.isDefault := v.has_bare .byDefault

@[simp] theorem isCatchAll_bare : v.bare.isCatchAll = v.isCatchAll := v.has_bare .catchAll

@[simp] theorem valueOr_bare : v.bare.valueOr value = v.valueOr value := by
  unfold valueOr bare
  cases v.explicitValue <;> rfl

theorem alternativeEntries_bare :
    v.bare.alternativeEntries = v.alternativeEntries.map Entry.bare := by
  simp [alternativeEntries, bare, Entry.bare, List.map_flatMap, List.flatMap_map,
    Function.comp_def]

theorem entries_bare : v.bare.entries value = (v.entries value).map Entry.bare := by
  unfold entries
  rw [isCatchAll_bare, alternativeEntries_bare]
  split <;> rfl

theorem resolved_bare : v.bare.resolved value = (v.resolved value).bare := by
  have text : v.bare.explicitValue.bind ConstExpr.text = none := by
    unfold bare
    cases v.explicitValue <;> rfl
  have sets : (v.alternativeEntries.map Entry.bare).map Entry.values =
      v.alternativeEntries.map Entry.values := by
    rw [List.map_map]
    rfl
  simp only [resolved, MappedVariant.bare, text, isDefault_bare, isCatchAll_bare,
    alternativeEntries_bare, sets]
  rfl

@[simp] theorem payloadShape_bare : v.bare.payloadShape t = v.payloadShape t := rfl

theorem payloadFault?_bare : v.bare.payloadFault? t = (v.payloadFault? t).map Diagnostic.bare := by
  unfold payloadFault?
  rw [payloadShape_bare]
  split <;> rfl

theorem catchAllFault?_bare (mark : Modifier) :
    v.bare.catchAllFault? t earlier.bare mark.bare =
      (v.catchAllFault? t earlier mark).map Diagnostic.bare := by
  obtain ⟨byDefault, catchAll⟩ := earlier
  unfold catchAllFault? Marks.bare
  rw [modifiersOf_bare, payloadShape_bare]
  cases catchAll with
  | some first => simp [Diagnostic.bare, bare]
  | none =>
      cases v.modifiersOf .alternatives with
      | cons values rest => simp [Diagnostic.bare, bare]
      | nil =>
          simp only [Option.map_none, List.map_nil, Modifier.span_bare]
          split <;> rfl

theorem fault?_bare : v.bare.fault? t earlier.bare = (v.fault? t earlier).map Diagnostic.bare := by
  unfold fault?
  rw [modifiersOf_bare, modifiersOf_bare]
  -- the cases are those of the check itself: how many modifiers there are of either kind
  rcases v.modifiersOf .byDefault with _ | ⟨byDefault, _ | ⟨second, rest⟩⟩
  · rcases v.modifiersOf .catchAll with _ | ⟨catchAll, _ | ⟨second, rest⟩⟩
    · exact v.payloadFault?_bare t
    · exact v.catchAllFault?_bare t earlier catchAll
    · simp [Diagnostic.bare, bare]
  · rcases v.modifiersOf .catchAll with _ | ⟨catchAll, _ | ⟨second, rest⟩⟩
    · simp only [List.map_cons, List.map_nil, Marks.byDefault_bare]
      cases earlier.byDefault with
      | some first => simp [Diagnostic.bare, bare]
      | none => exact v.payloadFault?_bare t
    · simp [Diagnostic.bare, bare]
    · simp [Diagnostic.bare, bare]
  · simp [Diagnostic.bare, bare]

theorem addMarks_bare : v.bare.addMarks earlier.bare = (v.addMarks earlier).bare := by
  unfold addMarks
  rw [isDefault_bare, modifiersOf_bare]
  cases v.modifiersOf .catchAll with
  | nil => rfl
  | cons mark rest =>
      simp only [List.map_cons, Modifier.span_bare]
      rfl

end VariantDecl

theorem canonicalFrom_bare (t : IntegerType) : ∀ (variants : List VariantDecl) (implied : Int),
    canonicalFrom t implied (variants.map VariantDecl.bare) = canonicalFrom t implied variants := by
  intro variants
  induction variants with
  | nil => intro implied; rfl
  | cons v rest ih =>
      intro implied
      simp only [List.map_cons, canonicalFrom, VariantDecl.valueOr_bare, ih]

/-- A step of claiming fails on the same value for the same variant, or adds the same claim. -/
theorem claimEntry_bare (t : IntegerType) (index : ValueIndex) (e : Entry) :
    claimEntry t index e.bare = (claimEntry t index e).mapError Diagnostic.bare := by
  have bounds : e.bare.outside? t = e.outside? t := rfl
  unfold claimEntry claimUnchecked
  rw [bounds, Entry.values_bare, Entry.owner_bare]
  cases e.outside? t with
  | some n => rfl
  | none => cases index.claim ⟨e.values.start, e.values.last, e.owner⟩ <;> rfl

theorem foldlM_claimEntry_bare (t : IntegerType) : ∀ (entries : List Entry) (index : ValueIndex),
    (entries.map Entry.bare).foldlM (claimEntry t) index =
      (entries.foldlM (claimEntry t) index).mapError Diagnostic.bare := by
  intro entries
  induction entries with
  | nil => intro index; rfl
  | cons e rest ih =>
      intro index
      rw [List.map_cons, foldlM_claimEntry_cons, foldlM_claimEntry_cons, claimEntry_bare]
      cases claimEntry t index e with
      | error problem => rfl
      | ok next => exact ih next

theorem checkVariants_bare (t : IntegerType) : ∀ (variants : List VariantDecl) (marks : Marks),
    checkVariants t marks.bare (variants.map VariantDecl.bare) =
      ((checkVariants t marks variants).map Marks.bare).mapError Diagnostic.bare := by
  intro variants
  induction variants with
  | nil => intro marks; rfl
  | cons v rest ih =>
      intro marks
      rw [List.map_cons, checkVariants, checkVariants, VariantDecl.fault?_bare,
        VariantDecl.addMarks_bare]
      cases v.fault? t marks with
      | some problem => rfl
      | none => exact ih (v.addMarks marks)

theorem Mapping.countValues_bare (variants : List MappedVariant) :
    Mapping.countValues (variants.map MappedVariant.bare) = Mapping.countValues variants := by
  unfold Mapping.countValues
  rw [List.flatMap_map]
  rfl

namespace EnumDecl
variable (d : EnumDecl) (marks : Marks)

theorem zip_bare : d.bare.variants.zip d.bare.canonicalValues =
    (d.variants.zip d.canonicalValues).map fun (v, value) => (v.bare, value) := by
  unfold canonicalValues
  rw [variants_bare, integerType_bare, canonicalFrom_bare, List.zip_map_left]
  rfl

theorem entries_bare : d.bare.entries = d.entries.map Entry.bare := by
  unfold entries
  rw [zip_bare, List.flatMap_map, List.map_flatMap]
  simp only [VariantDecl.entries_bare]

theorem resolvedVariants_bare :
    d.bare.resolvedVariants = d.resolvedVariants.map MappedVariant.bare := by
  unfold resolvedVariants
  rw [zip_bare, List.map_map, List.map_map]
  simp only [Function.comp_def, VariantDecl.resolved_bare]

theorem wholeFault?_bare :
    d.bare.wholeFault? marks.bare = (d.wholeFault? marks).map Diagnostic.bare := by
  obtain ⟨byDefault, catchAll⟩ := marks
  unfold wholeFault?
  rw [errorTypes_bare]
  rcases d.errorTypes with _ | ⟨first, _ | ⟨second, rest⟩⟩ <;>
    cases byDefault <;> cases catchAll <;> rfl

theorem checkModifiers_bare :
    d.bare.checkModifiers = (d.checkModifiers.map Marks.bare).mapError Diagnostic.bare := by
  have pass : checkVariants d.integerType {} (d.variants.map VariantDecl.bare) = _ :=
    checkVariants_bare d.integerType d.variants {}
  unfold checkModifiers
  rw [integerType_bare, variants_bare, pass]
  cases checkVariants d.integerType {} d.variants with
  | error problem => rfl
  | ok marks =>
      simp only [Except.map, Except.mapError, wholeFault?_bare]
      cases d.wholeFault? marks <;> rfl

theorem mapping_bare : d.bare.mapping marks.bare = (d.mapping marks).bare := by
  have errorType :
      (d.errorTypes.map ErrorType.bare).head? = d.errorTypes.head?.map ErrorType.bare :=
    List.head?_map ..
  have catchAll : marks.bare.catchAll.map Prod.fst = marks.catchAll.map Prod.fst := by
    unfold Marks.bare
    cases marks.catchAll <;> rfl
  simp only [mapping, Mapping.bare, resolvedVariants_bare, Mapping.countValues_bare, catchAll,
    integerType_bare, errorTypes_bare, errorType, Marks.byDefault_bare]
  rfl

end EnumDecl

/-- Resolution of the bare declaration has the bare outcome. -/
theorem resolve_bare (d : EnumDecl) :
    resolve d.bare = ((resolve d).map Mapping.bare).mapError Diagnostic.bare := by
  have claims : claimAll d.integerType d.bare.entries =
      (claimAll d.integerType d.entries).mapError Diagnostic.bare := by
    rw [EnumDecl.entries_bare]
    exact foldlM_claimEntry_bare d.integerType d.entries []
  rw [resolve_eq, resolve_eq, EnumDecl.integerType_bare, claims, EnumDecl.checkModifiers_bare]
  cases claimAll d.integerType d.entries with
  | error problem => rfl
  | ok index =>
      cases d.checkModifiers with
      | error problem => rfl
      | ok marks => exact congrArg Except.ok (d.mapping_bare marks)

end IntegerEnum
