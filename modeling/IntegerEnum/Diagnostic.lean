import IntegerEnum.Declaration

/-! # Diagnostics

Why an enumeration is rejected or a conversion cannot be derived. A cause holds what is wrong, its
wording is `Cause.message`, and `render` is the line shown to a user. Each kind has a stable code.
-/
set_option autoImplicit false

namespace IntegerEnum

inductive DiagnosticKind where
  | general
  | collision
  | outOfRange
  | conflictingModifiers
  | malformedCatchAll
  | unexpectedPayload
  | conflictingErrorType
  | unavailable
  | missingFallback
  | missingDefault
  | uncheckedUnavailable
  deriving DecidableEq, Inhabited

namespace DiagnosticKind

def code : DiagnosticKind → String
  | general => "IE000"
  | collision => "IE001"
  | outOfRange => "IE002"
  | conflictingModifiers => "IE003"
  | malformedCatchAll => "IE004"
  | unexpectedPayload => "IE005"
  | conflictingErrorType => "IE006"
  | unavailable => "IE100"
  | missingFallback => "IE101"
  | missingDefault => "IE102"
  | uncheckedUnavailable => "IE103"

/-- The name of the kind in traces. -/
def title : DiagnosticKind → String
  | general => "SchemaError"
  | collision => "DiscriminantCollision"
  | outOfRange => "DiscriminantOutOfRange"
  | conflictingModifiers => "ConflictingModifiers"
  | malformedCatchAll => "MalformedCatchAll"
  | unexpectedPayload => "UnexpectedPayload"
  | conflictingErrorType => "ConflictingErrorType"
  | unavailable => "ConversionUnavailable"
  | missingFallback => "MissingFallback"
  | missingDefault => "MissingDefault"
  | uncheckedUnavailable => "UncheckedConversionUnavailable"

end DiagnosticKind

/-- Modifiers of a variant that may not be combined, within it or with an earlier variant. -/
inductive ModifierConflict where
  | repeatedDefault
  | repeatedCatchAll
  | defaultAndCatchAll
  | secondDefault (first : String)
  | secondCatchAll (first : String)
  | catchAllWithAlternatives
  | twoFallbacks (default : String)
  deriving DecidableEq, Inhabited

inductive Cause where
  /-- A problem in the words of whoever found it. -/
  | stated (kind : DiagnosticKind) (text : String) (variant : Option String)
  | collision (value : Int) (owner variant : String)
  | outOfRange (value : Int) (variant typeName : String)
  | conflict (problem : ModifierConflict) (variant : String)
  | malformedCatchAll (variant typeName : String)
  | unexpectedPayload (variant : String) (fieldTypes : List String)
  | secondErrorType (enumName : String)
  | unavailable (family text : String)
  | missingFallback (family enumName : String)
  | missingDefault (family enumName : String)
  | uncheckedUnavailable (family enumName : String) (reasons : List String)
  deriving DecidableEq, Inhabited

def ModifierConflict.message (variant : String) : ModifierConflict → String
  | repeatedDefault => s!"Variant `{variant}` is marked `default` more than once"
  | repeatedCatchAll => s!"Variant `{variant}` is marked `catch_all` more than once"
  | defaultAndCatchAll =>
    s!"Variant `{variant}` cannot be marked both `default` and `catch_all`"
  | secondDefault first => s!"Multiple variants marked `default`: `{first}` and `{variant}`"
  | secondCatchAll first => s!"Multiple variants marked `catch_all`: `{first}` and `{variant}`"
  | catchAllWithAlternatives =>
    s!"Variant `{variant}` is marked `catch_all` and cannot have alternatives"
  | twoFallbacks first =>
    s!"Variants `{first}` (`default`) and `{variant}` (`catch_all`) are mutually exclusive: " ++
      "an enum has at most one fallback variant"

namespace Cause

def kind : Cause → DiagnosticKind
  | stated kind _ _ => kind
  | collision .. => .collision
  | outOfRange .. => .outOfRange
  | conflict .. => .conflictingModifiers
  | malformedCatchAll .. => .malformedCatchAll
  | unexpectedPayload .. => .unexpectedPayload
  | secondErrorType _ => .conflictingErrorType
  | unavailable .. => .unavailable
  | missingFallback .. => .missingFallback
  | missingDefault .. => .missingDefault
  | uncheckedUnavailable .. => .uncheckedUnavailable

/-- The variant at fault, if it is a single one. -/
def variant : Cause → Option String
  | stated _ _ variant => variant
  | collision _ _ variant | outOfRange _ variant _ | conflict _ variant
  | malformedCatchAll variant _ | unexpectedPayload variant _ => some variant
  | _ => none

def message : Cause → String
  | stated _ text _ => text
  | collision value owner variant =>
    if owner = variant then s!"Variant `{variant}` lists the value `{value}` more than once"
    else s!"Discriminant value `{value}` of variant `{variant}` collides with variant `{owner}`"
  | outOfRange value variant typeName =>
    s!"Value `{value}` of variant `{variant}` is out of range for `{typeName}`"
  | conflict problem variant => problem.message variant
  | malformedCatchAll variant typeName =>
    s!"Variant `{variant}` with `catch_all` must have exactly one field of type `{typeName}`"
  | unexpectedPayload variant fieldTypes =>
    let fields := String.intercalate ", " fieldTypes
    s!"Variant `{variant}` has fields ({fields}); only the catch_all variant may carry a payload"
  | secondErrorType enumName => s!"Enum `{enumName}` must have at most one error_type"
  | unavailable _ text => text
  | missingFallback _ enumName =>
    s!"Total conversion into `{enumName}` requires the enum to be exhaustive, " ++
      "or a variant marked `default` or `catch_all`"
  | missingDefault _ enumName =>
    s!"Default value of `{enumName}` requires a variant marked `default`"
  | uncheckedUnavailable _ enumName reasons =>
    s!"Unchecked conversion into `{enumName}` is unavailable: " ++ String.intercalate "; " reasons

/-- The numbers in the message. -/
def numbers : Cause → List Int
  | collision value _ _ | outOfRange value _ _ => [value]
  | _ => []

end Cause

structure Diagnostic where
  cause : Cause
  span : Option SourceSpan := none
  deriving DecidableEq, Inhabited

namespace Diagnostic

def kind (d : Diagnostic) : DiagnosticKind := d.cause.kind

def code (d : Diagnostic) : String := d.kind.code

def message (d : Diagnostic) : String := d.cause.message

def variant (d : Diagnostic) : Option String := d.cause.variant

/-- Whether the message can be written. -/
def hasMessage (d : Diagnostic) : Bool := d.cause.numbers.all Numeral.fits

/-- Whether the line can be written as well, with the place in it. -/
def hasLine (d : Diagnostic) : Bool := d.hasMessage && d.span.all SourceSpan.hasText

def render (d : Diagnostic) : String :=
  let place := match d.span with
    | none => ""
    | some span => s!" (at {span.text})"
  s!"error[{d.code}]: {d.message}{place}"

end Diagnostic

end IntegerEnum
