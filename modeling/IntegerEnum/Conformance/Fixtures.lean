import IntegerEnum.Diagnostic
import IntegerEnum.Family
import IntegerEnum.Json.Printer

/-! # Fixtures

Documents with what is expected of them, for front ends to test themselves against: some resolve,
some cannot be read, and some can be read but are rejected. -/
set_option autoImplicit false

namespace IntegerEnum

inductive FixtureKind where
  | valid | invalid | rejected
  deriving DecidableEq, Inhabited

namespace FixtureKind

def all : List FixtureKind := [invalid, rejected, valid]

def name : FixtureKind → String
  | valid => "valid"
  | invalid => "invalid"
  | rejected => "rejected"

def ofName? (name : String) : Option FixtureKind := all.find? fun kind => kind.name = name

/-- Whether such documents can be read. -/
def isReadable : FixtureKind → Bool
  | invalid => false
  | valid | rejected => true

/-- Why there are no fixtures of a kind. -/
def unknownMessage (name : String) : String :=
  let known := (Json.arr (all.map fun kind => .str kind.name)).display
  s!"Unknown fixture category: {Text.quote name}. Valid categories: {known}"

end FixtureKind

structure Fixture where
  id : String
  kind : FixtureKind
  payload : Json
  notes : String
  /-- The code of the expected rejection. -/
  code : Option String := none
  /-- The expected canonical values. -/
  values : List (String × Int) := []
  /-- The families that cannot be derived, and why not. -/
  unavailable : List (Family × DiagnosticKind) := []

namespace Fixture

open Json

def value (n : Int) : Json := .obj [("value", .int n)]

def written (n : Int) (text : String) : Json := .obj [("value", .int n), ("text", .str text)]

def closedRange (start stop : Int) : Json := .obj [("start", .int start), ("end", .int stop)]

def openRange (start stop : Int) : Json :=
  .obj [("start", .int start), ("end", .int stop), ("inclusive", .bool false)]

def mark (kind : String) : Json := .obj [("kind", .str kind)]

def listing (kind : String) (values : List Json) : Json :=
  .obj [("kind", .str kind), ("values", .arr values)]

def explicitly (value : Json) : String × Json := ("explicit_value", value)

def modified (modifiers : List Json) : String × Json := ("modifiers", .arr modifiers)

def holding (types : List String) : String × Json := ("field_types", .arr (types.map .str))

def variant (name : String) (traits : Members) : Json := .obj (("name", .str name) :: traits)

def errorType (name constructor : String) : Json :=
  .obj [("name", .str name), ("constructor", .str constructor)]

def failingWith (types : List Json) : String × Json := ("error_types", .arr types)

def document (name kind : String) (variants : List Json) (traits : Members) : Json :=
  .obj ([("name", .str name), ("underlying_type", .obj [("kind", .str kind)]),
    ("variants", .arr variants)] ++ traits)

def valid : List Fixture := [
  { id := "valid-implicit-gaps"
    kind := .valid
    payload := document "Number" "u8" [
      variant "Zero" [],
      variant "Two" [explicitly (value 2)],
      variant "Four" [explicitly (value 4)]] []
    notes := "Implicit values continue from the previous variant, first implicit is 0"
    values := [("Zero", 0), ("Two", 2), ("Four", 4)]
    unavailable := [(.fromIntegerTotal, .missingFallback), (.defaultValue, .missingDefault)] },
  { id := "valid-wrapping-increment"
    kind := .valid
    payload := document "Edge" "u8" [
      variant "Max" [explicitly (value 255)],
      variant "Wrapped" []] []
    notes := "Implicit increment after the type maximum wraps to the minimum"
    values := [("Max", 255), ("Wrapped", 0)]
    unavailable := [(.fromIntegerTotal, .missingFallback), (.defaultValue, .missingDefault)] },
  { id := "valid-default-fallback"
    kind := .valid
    payload := document "Number" "u8" [
      variant "Zero" [],
      variant "NonZero" [modified [mark "default"]],
      variant "Two" []] []
    notes := "Default variant makes the total conversion available"
    values := [("Zero", 0), ("NonZero", 1), ("Two", 2)]
    unavailable := [(.fromIntegerUnchecked, .uncheckedUnavailable)] },
  { id := "valid-catch-all"
    kind := .valid
    payload := document "Number" "u8" [
      variant "Zero" [explicitly (value 0)],
      variant "NonZero" [explicitly (value 1)],
      variant "Other" [modified [mark "catch_all"], holding ["u8"]]] []
    notes := "Catch-all variant takes the next implicit value and carries the raw value"
    values := [("Zero", 0), ("NonZero", 1), ("Other", 2)]
    unavailable := [(.fromIntegerUnchecked, .uncheckedUnavailable),
      (.defaultValue, .missingDefault)] },
  { id := "valid-catch-all-explicit-value"
    kind := .valid
    payload := document "Number" "u8" [
      variant "Zero" [],
      variant "Other" [explicitly (value 10), modified [mark "catch_all"], holding ["u8"]],
      variant "Eleven" []] []
    notes := "An explicit catch-all discriminant continues the implicit chain"
    values := [("Zero", 0), ("Other", 10), ("Eleven", 11)]
    unavailable := [(.fromIntegerUnchecked, .uncheckedUnavailable),
      (.defaultValue, .missingDefault)] },
  { id := "valid-alternatives"
    kind := .valid
    payload := document "Bucket" "u8" [
      variant "Zero" [explicitly (value 0)],
      variant "Small" [explicitly (value 1), modified [listing "alternatives" [openRange 2 6]]],
      variant "Big" [explicitly (written 6 "ONE_HUNDRED - 94"),
        modified [listing "alternatives" [written 100 "ONE_HUNDRED"]]]] []
    notes := "Exclusive range and constant-expression alternatives"
    values := [("Zero", 0), ("Small", 1), ("Big", 6)]
    unavailable := [(.fromIntegerTotal, .missingFallback),
      (.fromIntegerUnchecked, .uncheckedUnavailable), (.defaultValue, .missingDefault)] },
  { id := "valid-signed-i8"
    kind := .valid
    payload := document "Signed" "i8" [
      variant "MinusTwo" [explicitly (value (-2))],
      variant "MinusOne" [],
      variant "Zero" [],
      variant "One" [],
      variant "Two" []] []
    notes := "Implicit values count up from a negative explicit value"
    values := [("MinusTwo", -2), ("MinusOne", -1), ("Zero", 0), ("One", 1), ("Two", 2)]
    unavailable := [(.fromIntegerTotal, .missingFallback), (.defaultValue, .missingDefault)] },
  { id := "valid-exhaustive-range"
    kind := .valid
    payload := document "ZeroOrNot" "u8" [
      variant "Zero" [explicitly (value 0)],
      variant "NonZero" [modified [listing "alternatives" [closedRange 2 255]]]] []
    notes := "Alternatives covering every remaining u8 value make the enum naturally exhaustive"
    values := [("Zero", 0), ("NonZero", 1)]
    unavailable := [(.fromIntegerUnchecked, .uncheckedUnavailable),
      (.defaultValue, .missingDefault)] },
  { id := "valid-custom-error"
    kind := .valid
    payload := document "Flag" "u16" [
      variant "Off" [explicitly (value 1)],
      variant "On" [explicitly (value 2)]]
      [failingWith [errorType "CustomError" "CustomError::new"]]
    notes := "Single custom error type is accepted"
    values := [("Off", 1), ("On", 2)]
    unavailable := [(.fromIntegerTotal, .missingFallback), (.defaultValue, .missingDefault)] },
  { id := "valid-out-of-order"
    kind := .valid
    payload := document "Numbers" "u8" [
      variant "Two" [explicitly (value 2)],
      variant "Zero" [explicitly (value 0)],
      variant "One" []] []
    notes := "Declaration order need not follow value order"
    values := [("Two", 2), ("Zero", 0), ("One", 1)]
    unavailable := [(.fromIntegerTotal, .missingFallback), (.defaultValue, .missingDefault)] }]

def invalid : List Fixture := [
  { id := "invalid-empty-variants"
    kind := .invalid
    payload := document "Empty" "u8" [] []
    notes := "An enumeration needs at least one variant" },
  { id := "invalid-bad-identifier"
    kind := .invalid
    payload := document "1Bad" "u8" [variant "A" []] []
    notes := "Enum name must be an identifier" },
  { id := "invalid-duplicate-variant-name"
    kind := .invalid
    payload := document "Twice" "u8" [variant "A" [], variant "A" []] []
    notes := "Variant names are unique" },
  { id := "invalid-empty-range"
    kind := .invalid
    payload := document "Ranged" "u8" [
      variant "A" [modified [listing "alternatives" [openRange 5 5]]]] []
    notes := "Exclusive range 5..5 contains no values" },
  { id := "invalid-unknown-integer-kind"
    kind := .invalid
    payload := document "Wide" "u128" [variant "A" []] []
    notes := "u128 is not a supported underlying type" },
  { id := "invalid-unknown-modifier-kind"
    kind := .invalid
    payload := document "Legacy" "u8" [variant "A" [modified [listing "alias" [value 3]]]] []
    notes := "Only default, catch_all and alternatives modifiers exist" },
  { id := "invalid-empty-alternatives"
    kind := .invalid
    payload := document "Nothing" "u8" [variant "A" [modified [listing "alternatives" []]]] []
    notes := "An alternatives modifier lists at least one value" }]

def rejected : List Fixture := [
  { id := "rejected-collision"
    kind := .rejected
    payload := document "Number" "u8" [
      variant "Zero" [],
      variant "Two" [explicitly (value 2)],
      variant "Four" [explicitly (value 4)],
      variant "AlsoTwo" [explicitly (value 2)]] []
    notes := "Explicit value 2 is already owned by Two"
    code := some "IE001" },
  { id := "rejected-implicit-collision"
    kind := .rejected
    payload := document "Number" "u8" [
      variant "One" [explicitly (value 1)],
      variant "Zero" [explicitly (value 0)],
      variant "Next" []] []
    notes := "Implicit value after Zero=0 is 1, already owned by One"
    code := some "IE001" },
  { id := "rejected-alternative-own-canonical"
    kind := .rejected
    payload := document "Number" "u8" [
      variant "One" [explicitly (value 1), modified [listing "alternatives" [value 1]]]] []
    notes := "Alternative repeats the variant's own canonical value"
    code := some "IE001" },
  { id := "rejected-alternative-overlap"
    kind := .rejected
    payload := document "Number" "u8" [
      variant "Zero" [explicitly (value 0)],
      variant "Low" [explicitly (value 1), modified [listing "alternatives" [closedRange 2 10]]],
      variant "Five" [explicitly (value 5)]] []
    notes := "Five=5 falls inside Low's alternative range"
    code := some "IE001" },
  { id := "rejected-value-out-of-range"
    kind := .rejected
    payload := document "Byte" "u8" [variant "TooBig" [explicitly (value 256)]] []
    notes := "256 does not fit u8"
    code := some "IE002" },
  { id := "rejected-two-defaults"
    kind := .rejected
    payload := document "Number" "u8" [
      variant "Zero" [modified [mark "default"]],
      variant "One" [modified [mark "default"]]] []
    notes := "At most one default variant"
    code := some "IE003" },
  { id := "rejected-default-and-catch-all"
    kind := .rejected
    payload := document "Number" "u8" [
      variant "Zero" [],
      variant "Other" [modified [mark "default", mark "catch_all"], holding ["u8"]]] []
    notes := "A variant cannot be both default and catch_all"
    code := some "IE003" },
  { id := "rejected-default-with-separate-catch-all"
    kind := .rejected
    payload := document "Number" "u8" [
      variant "Zero" [],
      variant "Fallback" [modified [mark "default"]],
      variant "Other" [modified [mark "catch_all"], holding ["u8"]]] []
    notes := "An enum has either a default or a catch-all variant, never both"
    code := some "IE003" },
  { id := "rejected-alternatives-on-catch-all"
    kind := .rejected
    payload := document "Number" "u8" [
      variant "Zero" [],
      variant "Other" [modified [mark "catch_all", listing "alternatives" [value 7]],
        holding ["u8"]]] []
    notes := "The catch-all variant cannot have alternatives"
    code := some "IE003" },
  { id := "rejected-catch-all-unit"
    kind := .rejected
    payload := document "Number" "u8" [
      variant "Zero" [],
      variant "Other" [modified [mark "catch_all"]]] []
    notes := "The catch-all variant needs one field of the underlying type"
    code := some "IE004" },
  { id := "rejected-catch-all-wrong-type"
    kind := .rejected
    payload := document "Number" "u8" [
      variant "Zero" [],
      variant "Other" [modified [mark "catch_all"], holding ["u16"]]] []
    notes := "Catch-all field type must match the underlying type"
    code := some "IE004" },
  { id := "rejected-payload-on-regular-variant"
    kind := .rejected
    payload := document "Number" "u8" [variant "Zero" [], variant "Pair" [holding ["u8", "u8"]]] []
    notes := "Only the catch-all variant may carry fields"
    code := some "IE005" },
  { id := "rejected-two-error-types"
    kind := .rejected
    payload := document "Number" "u8" [
      variant "Zero" []]
      [failingWith [errorType "FirstError" "FirstError::new",
        errorType "SecondError" "SecondError::new"]]
    notes := "At most one custom error type"
    code := some "IE006" }]

def ofKind : FixtureKind → List Fixture
  | .valid => valid
  | .invalid => invalid
  | .rejected => rejected

end Fixture

end IntegerEnum
