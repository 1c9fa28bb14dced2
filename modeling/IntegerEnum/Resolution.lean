import IntegerEnum.Diagnostic
import IntegerEnum.Mapping
import IntegerEnum.ValueIndex

/-! # Resolution

`resolve` settles the value of every variant, claims all values in the order of the declaration,
checks the modifiers and yields the mapping, or the first problem found. Problems of values come
before those of modifiers.

A variant without an explicit value takes the successor of the one before it, in the arithmetic of
the integer type; the first takes 0. Only values that are declared are checked against the type.

A problem is raised with its message written, so `resolveOrRaise` ends otherwise when the message
holds a number without a numeral. -/
set_option autoImplicit false

namespace IntegerEnum

structure Entry where
  owner : String
  values : ValueRange
  span : Option SourceSpan
  deriving DecidableEq, Inhabited

namespace VariantDecl

def valueOr (v : VariantDecl) (implied : Int) : Int :=
  match v.explicitValue with
  | none => implied
  | some expr => expr.value

def alternativeEntries (v : VariantDecl) : List Entry :=
  v.modifiers.flatMap fun m => m.entries.map fun e => ⟨v.name, e.values, m.span⟩

def resolved (v : VariantDecl) (value : Int) : MappedVariant where
  name := v.name
  value := value
  text := v.explicitValue.bind ConstExpr.text
  alternatives :=
    if v.isCatchAll then []
    else (v.alternativeEntries.map Entry.values).mergeSort fun a b => a.start ≤ b.start
  isDefault := v.isDefault
  isCatchAll := v.isCatchAll

end VariantDecl

def canonicalFrom (t : IntegerType) (implied : Int) : List VariantDecl → List Int
  | [] => []
  | v :: rest =>
    let value := v.valueOr implied
    value :: canonicalFrom t (t.wrappingAdd value 1) rest

namespace EnumDecl

def canonicalValues (d : EnumDecl) : List Int := canonicalFrom d.integerType 0 d.variants

def resolvedVariants (d : EnumDecl) : List MappedVariant :=
  (d.variants.zip d.canonicalValues).map fun (v, value) => v.resolved value

end EnumDecl

def Entry.outside? (t : IntegerType) (e : Entry) : Option Int :=
  [e.values.start, e.values.last].find? fun n => !t.contains n

/-- Claims an entry that is free, wherever it lies. -/
def claimUnchecked (index : ValueIndex) (e : Entry) : Except Diagnostic ValueIndex :=
  match index.claim ⟨e.values.start, e.values.last, e.owner⟩ with
  | .error (n, owner) => .error ⟨.collision n owner e.owner, e.span⟩
  | .ok index => .ok index

def claimEntry (t : IntegerType) (index : ValueIndex) (e : Entry) : Except Diagnostic ValueIndex :=
  match e.outside? t with
  | some n => .error ⟨.outOfRange n e.owner t.name, e.span⟩
  | none => claimUnchecked index e

namespace VariantDecl

/-- Claims the value of the variant. An implied one is not checked against the type. -/
def claimValue (v : VariantDecl) (t : IntegerType) (value : Int) (index : ValueIndex) :
    Except Diagnostic ValueIndex :=
  match v.explicitValue with
  | some _ => claimEntry t index ⟨v.name, .single value, v.span⟩
  | none => claimUnchecked index ⟨v.name, .single value, v.span⟩

/-- A catch-all claims nothing but its value. -/
def claimAlternatives (v : VariantDecl) (t : IntegerType) (index : ValueIndex) :
    Except Diagnostic ValueIndex :=
  (if v.isCatchAll then [] else v.alternativeEntries).foldlM (claimEntry t) index

end VariantDecl

/-- Claims variant by variant, when the next implied value is `implied`. -/
def claimVariants (t : IntegerType) (implied : Int) (index : ValueIndex) :
    List VariantDecl → Except Diagnostic ValueIndex
  | [] => .ok index
  | v :: rest => do
    let value := v.valueOr implied
    let index ← v.claimValue t value index
    let index ← v.claimAlternatives t index
    claimVariants t (t.wrappingAdd value 1) index rest

/-- The fallback variants met so far; a catch-all with the place of its modifier. -/
structure Marks where
  byDefault : Option String := none
  catchAll : Option (String × Option SourceSpan) := none
  deriving DecidableEq, Inhabited

namespace VariantDecl

def payloadFault? (v : VariantDecl) (t : IntegerType) : Option Diagnostic :=
  if v.payloadShape t = .unit then none else some ⟨.unexpectedPayload v.name v.fieldTypes, v.span⟩

/-- What is wrong with a variant that has a single catch-all modifier and no default one. -/
def catchAllFault? (v : VariantDecl) (t : IntegerType) (earlier : Marks) (mark : Modifier) :
    Option Diagnostic :=
  match earlier.catchAll, v.modifiersOf .alternatives with
  | some (first, _), _ => some ⟨.conflict (.secondCatchAll first) v.name, mark.span⟩
  | none, values :: _ => some ⟨.conflict .catchAllWithAlternatives v.name, values.span⟩
  | none, [] =>
    if v.payloadShape t = .singleInteger then none
    else some ⟨.malformedCatchAll v.name t.name, mark.span⟩

/-- The first problem of a variant's modifiers and fields, given the variants before it. -/
def fault? (v : VariantDecl) (t : IntegerType) (earlier : Marks) : Option Diagnostic :=
  match v.modifiersOf .byDefault, v.modifiersOf .catchAll with
  | _ :: second :: _, _ => some ⟨.conflict .repeatedDefault v.name, second.span⟩
  | _, _ :: second :: _ => some ⟨.conflict .repeatedCatchAll v.name, second.span⟩
  | _ :: _, mark :: _ => some ⟨.conflict .defaultAndCatchAll v.name, mark.span⟩
  | [mark], [] =>
    match earlier.byDefault with
    | some first => some ⟨.conflict (.secondDefault first) v.name, mark.span⟩
    | none => v.payloadFault? t
  | [], [mark] => v.catchAllFault? t earlier mark
  | [], [] => v.payloadFault? t

def addMarks (v : VariantDecl) (earlier : Marks) : Marks where
  byDefault := if v.isDefault then some v.name else earlier.byDefault
  catchAll :=
    match v.modifiersOf .catchAll with
    | [] => earlier.catchAll
    | mark :: _ => some (v.name, mark.span)

end VariantDecl

def checkVariants (t : IntegerType) : Marks → List VariantDecl → Except Diagnostic Marks
  | marks, [] => .ok marks
  | marks, v :: rest =>
    match v.fault? t marks with
    | some problem => .error problem
    | none => checkVariants t (v.addMarks marks) rest

namespace EnumDecl

def wholeFault? (d : EnumDecl) (marks : Marks) : Option Diagnostic :=
  match marks.byDefault, marks.catchAll, d.errorTypes with
  | some first, some (variant, span), _ => some ⟨.conflict (.twoFallbacks first) variant, span⟩
  | _, _, _ :: second :: _ => some ⟨.secondErrorType d.name, second.span⟩
  | _, _, _ => none

def checkModifiers (d : EnumDecl) : Except Diagnostic Marks :=
  match checkVariants d.integerType {} d.variants with
  | .error problem => .error problem
  | .ok marks =>
    match d.wholeFault? marks with
    | some problem => .error problem
    | none => .ok marks

def mapping (d : EnumDecl) (marks : Marks) : Mapping where
  enumName := d.name
  integerType := d.integerType
  variants := d.resolvedVariants
  isExhaustive := Mapping.countValues d.resolvedVariants = d.integerType.cardinality
  defaultVariant := marks.byDefault
  catchAllVariant := marks.catchAll.map Prod.fst
  errorType := d.errorTypes.head?

end EnumDecl

def resolve (d : EnumDecl) : Except Diagnostic Mapping :=
  match claimVariants d.integerType 0 [] d.variants with
  | .error problem => .error problem
  | .ok _ =>
    match d.checkModifiers with
    | .error problem => .error problem
    | .ok marks => .ok (d.mapping marks)

inductive ResolutionError where
  | problem (problem : Diagnostic)
  | numeralTooLong
  deriving DecidableEq, Inhabited

def Diagnostic.raised (problem : Diagnostic) : ResolutionError :=
  if problem.hasMessage then .problem problem else .numeralTooLong

def resolveOrRaise (d : EnumDecl) : Except ResolutionError Mapping :=
  (resolve d).mapError Diagnostic.raised

end IntegerEnum
