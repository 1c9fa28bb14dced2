import IntegerEnum.Numeral
import IntegerEnum.Plan

/-! # Evaluation

Plans executed as a generated conversion behaves. Errors of the user's own types are made by a
registry of constructors, of which only the result type is known here. -/
set_option autoImplicit false

namespace IntegerEnum

/-- An enumeration value: a variant, and the payload of a catch-all. -/
structure VariantValue where
  name : String
  payload : Option Int := none
  deriving DecidableEq, Inhabited

def VariantValue.text (v : VariantValue) : String :=
  match v.payload with
  | none => v.name
  | some n => s!"{v.name}({n})"

/-- The built-in error of the fallible conversion. Its order is that of the numbers. -/
structure Unmatched where
  number : Int
  enumName : String
  deriving DecidableEq, Inhabited

namespace Unmatched

def message (e : Unmatched) : String :=
  s!"No discriminant in enum `{e.enumName}` matches the value `{e.number}`"

def order (a b : Unmatched) : Ordering := compare a.number b.number

/-- In ascending order; errors of one number stay as they are. -/
def sort (errors : List Unmatched) : List Unmatched :=
  errors.mergeSort fun a b => a.number ≤ b.number

end Unmatched

/-- What a fallible conversion returns for an integer without a variant. -/
inductive ConversionError (ε : Type) where
  | unmatched (error : Unmatched)
  | custom (error : ε)
  deriving DecidableEq

inductive Outcome (ε : Type) where
  | success (value : VariantValue)
  | failure (error : ConversionError ε)
  deriving DecidableEq

namespace Outcome

def value {ε : Type} : Outcome ε → Except (ConversionError ε) VariantValue
  | success value => .ok value
  | failure error => .error error

def error {ε : Type} : Outcome ε → Except VariantValue (ConversionError ε)
  | success value => .error value
  | failure error => .ok error

/-- Why there is no error to be had. -/
def succeededMessage (value : VariantValue) : String := s!"conversion succeeded with {value.text}"

end Outcome

inductive EvaluationError where
  | wrongFamily (expected : Family) (enumName : String) (actual : Family)
  | outOfRange (number : Int) (type : IntegerType)
  | missingPayload (variant : String)
  | unknownVariant (enumName name : String)
  | unreachable (enumName : String) (number : Int)
  | noFallback (enumName : String)
  | noErrorRecipe (enumName : String)
  | noDefaultVariant (enumName : String)
  | uncheckedPrecondition (enumName : String) (number : Int)
  | unknownConstructor (path : String)
  | numeralTooLong
  deriving DecidableEq

namespace EvaluationError

def message : EvaluationError → String
  | wrongFamily expected enumName actual =>
    s!"Expected a {expected.name} plan for {enumName}, got {actual.name}"
  | outOfRange number t =>
    if Numeral.fits number then s!"{number} is out of range for {t.name} ({t.least}..={t.greatest})"
    else Numeral.tooLongMessage
  | missingPayload variant => s!"catch-all variant {variant} requires a payload"
  | unknownVariant enumName name => s!"{enumName} has no variant {Text.quote name}"
  | unreachable enumName number => s!"{enumName} is exhaustive but {number} matched no variant"
  | noFallback enumName => s!"{enumName} total conversion has no fallback"
  | noErrorRecipe enumName => s!"{enumName} fallible plan has no error construction"
  | noDefaultVariant enumName => s!"{enumName} default plan has no default variant"
  | uncheckedPrecondition enumName number =>
    s!"Unchecked conversion into `{enumName}` called with `{number}`, " ++
      "which is not a discriminant"
  | unknownConstructor path =>
    s!"No callable registered for error constructor {Text.quote path}"
  | numeralTooLong => Numeral.tooLongMessage

end EvaluationError

/-- The constructors of custom errors by their paths. -/
abbrev Registry (ε : Type) := String → Option (Int → ε)

def Registry.empty {ε : Type} : Registry ε := fun _ => none

namespace ErrorRecipe

/-- Builds the error for an integer that nothing matches. A custom recipe without a path has the
empty path. -/
def build {ε : Type} (recipe : ErrorRecipe) (enumName : String) (number : Int)
    (registry : Registry ε) : Except EvaluationError (ConversionError ε) :=
  match recipe.kind with
  | .builtIn => .ok (.unmatched ⟨number, enumName⟩)
  | .custom =>
    let path := recipe.constructor.getD ""
    match registry path with
    | some make => .ok (.custom (make number))
    | none => .error (.unknownConstructor path)

end ErrorRecipe

namespace Plan

def requireFamily (p : Plan) (family : Family) : Except EvaluationError Unit :=
  if p.family = family then .ok () else .error (.wrongFamily family p.enumName p.family)

def requireInRange (p : Plan) (n : Int) : Except EvaluationError Unit :=
  if p.integerType.contains n then .ok () else .error (.outOfRange n p.integerType)

/-- The value for an integer that no row matches, if the plan has one. -/
def fallbackValue (p : Plan) (n : Int) : Except EvaluationError (Option VariantValue) :=
  match p.fallback with
  | some (.defaultVariant name) => .ok (some ⟨name, none⟩)
  | some (.catchAll name) => .ok (some ⟨name, some n⟩)
  | some .unreachable => .error (.unreachable p.enumName n)
  | some .returnError | none => .ok none

/-- The catch-all gives its payload back, every other variant its canonical value. -/
def toInteger (p : Plan) (v : VariantValue) : Except EvaluationError Int := do
  p.requireFamily .toInteger
  if p.catchAllVariant = some v.name then
    match v.payload with
    | none => .error (.missingPayload v.name)
    | some n =>
      p.requireInRange n
      return n
  else
    match p.rowOf? v.name with
    | none => .error (.unknownVariant p.enumName v.name)
    | some row => return row.value

def fromIntegerTotal (p : Plan) (n : Int) : Except EvaluationError VariantValue := do
  p.requireFamily .fromIntegerTotal
  p.requireInRange n
  match p.lookup n with
  | some row => return ⟨row.variant, none⟩
  | none =>
    match ← p.fallbackValue n with
    | some value => return value
    | none => .error (.noFallback p.enumName)

def tryFromInteger {ε : Type} (p : Plan) (n : Int) (registry : Registry ε) :
    Except EvaluationError (Outcome ε) := do
  p.requireFamily .fromIntegerFallible
  p.requireInRange n
  match p.lookup n with
  | some row => return .success ⟨row.variant, none⟩
  | none =>
    match ← p.fallbackValue n with
    | some value => return .success value
    | none =>
      match p.error with
      | none => .error (.noErrorRecipe p.enumName)
      | some recipe => (recipe.build p.enumName n registry).map .failure

/-- The error for a foreign integer tells it in its message. -/
def fromIntegerUnchecked (p : Plan) (n : Int) : Except EvaluationError VariantValue := do
  p.requireFamily .fromIntegerUnchecked
  match p.lookup n with
  | some row => return ⟨row.variant, none⟩
  | none =>
    .error (if Numeral.fits n then .uncheckedPrecondition p.enumName n else .numeralTooLong)

def defaultValue (p : Plan) : Except EvaluationError VariantValue := do
  p.requireFamily .defaultValue
  match p.defaultVariant with
  | some name => return ⟨name, none⟩
  | none => .error (.noDefaultVariant p.enumName)

end Plan

end IntegerEnum
