import IntegerEnum.Contract.Schema
import IntegerEnum.Plan

/-! # The parts of the published contracts

One contract for each type that the published contracts have in common. The order of keywords and of
fields is the order in which findings are reported. -/
set_option autoImplicit false

namespace IntegerEnum

namespace Contract

def titled (text : String) : Keyword := .note "title" (.str text)

def described (text : String) : Keyword := .note "description" (.str text)

/-- The value of a field that is absent. -/
def absent (value : Json) : Keyword := .note "default" value

def refer (name : String) (target : Contract) : Keyword := .reference name target

def orNull (contract : Contract) : Keyword := .anyOf [contract, [.type .null]]

def names (values : List String) : Keyword := .oneFrom (values.map .text)

def integerKind : Contract := [
  described "Primitive integer kinds an enumeration may be represented as.",
  names (IntegerKind.all.map IntegerKind.name),
  titled "IntegerKind",
  .type .string]

def integerType : Contract := [
  described (
    "An underlying integer type: width, signedness and value range.\n\nAll discriminant " ++
    "arithmetic is performed modulo the type's range, so\n``wrapping_add`` never fails; " ++
    "it wraps from ``max_value`` back to\n``min_value`` the way a C enum increment would."),
  .properties [
    ("kind", [refer "IntegerKind" integerKind,
      described "Primitive integer kind (e.g. 'u8', 'i32')"]),
    ("pointer_width", [absent (.int 64),
      described "Width used for the pointer-sized kinds 'usize' and 'isize'",
      .oneFrom [.integer 16, .integer 32, .integer 64],
      titled "Pointer Width",
      .type .integer])],
  .required ["kind"],
  titled "IntegerType",
  .type .object]

def sourceSpan : Contract := [
  described (
    "Opaque source location attached by the front end.\n\nThe engine never interprets a " ++
    "span; it only copies it into errors so\nthe host toolchain can point at the " ++
    "offending declaration."),
  .properties [
    ("file", [orNull [.type .string], absent .null, described "Source file path", titled "File"]),
    ("line", [orNull [.minimum 1, .type .integer],
      absent .null,
      described "1-based line number",
      titled "Line"]),
    ("column", [orNull [.minimum 1, .type .integer],
      absent .null,
      described "1-based column number",
      titled "Column"])],
  titled "SourceSpan",
  .type .object]

def constExpr : Contract := [
  described (
    "A constant integer expression folded by the front end.\n\n``value`` is the folded " ++
    "integer used for collision detection and\nwraparound. ``text`` is the expression as " ++
    "written (e.g. ``\"ONE + 1\"``)\nand is passed through to conversion plans untouched."),
  .properties [
    ("value", [described "Folded integer value of the expression",
      titled "Value",
      .type .integer]),
    ("text", [orNull [.minLength 1, .type .string],
      absent .null,
      described "Original expression source, if any",
      titled "Text"])],
  .required ["value"],
  titled "ConstExpr",
  .type .object]

def valueRange : Contract := [
  described (
    "A contiguous range of alternative values.\n\n``inclusive=True`` reads as " ++
    "``start..=end``, ``inclusive=False`` as\n``start..end``. Empty ranges are rejected."),
  .properties [
    ("start", [described "First value in the range", titled "Start", .type .integer]),
    ("end", [described "Upper bound of the range", titled "End", .type .integer]),
    ("inclusive", [absent (.bool true),
      described "Whether ``end`` belongs to the range",
      titled "Inclusive",
      .type .boolean])],
  .required ["start", "end"],
  titled "ValueRange",
  .type .object]

def defaultModifier : Contract := [
  described "Marks the variant returned for unmatched input and as the default value.",
  .properties [
    ("kind", [.const (.text "default"), absent (.str "default"), titled "Kind", .type .string]),
    ("span", [orNull [refer "SourceSpan" sourceSpan], absent .null])],
  titled "DefaultModifier",
  .type .object]

def catchAllModifier : Contract := [
  described "Marks the variant that absorbs unmatched input as its payload.",
  .properties [
    ("kind", [.const (.text "catch_all"), absent (.str "catch_all"), titled "Kind", .type .string]),
    ("span", [orNull [refer "SourceSpan" sourceSpan], absent .null])],
  titled "CatchAllModifier",
  .type .object]

def alternativesModifier : Contract := [
  described "Additional values that also map to the variant.",
  .properties [
    ("kind", [.const (.text "alternatives"),
      absent (.str "alternatives"),
      titled "Kind",
      .type .string]),
    ("values", [described "Alternative values or ranges",
      .items [.anyOf [[refer "ConstExpr" constExpr], [refer "ValueRange" valueRange]]],
      .minItems 1,
      titled "Values",
      .type .array]),
    ("span", [orNull [refer "SourceSpan" sourceSpan], absent .null])],
  .required ["values"],
  titled "AlternativesModifier",
  .type .object]

/-- Tells which contract applies by the name of the kind. -/
def byKind (choices : List (String × String)) : Keyword :=
  .note "discriminator" (.obj [
    ("mapping", .obj (choices.map fun (kind, name) => (kind, .str (referencePath name)))),
    ("propertyName", .str "kind")])

def modifier : Contract := [
  byKind [("alternatives", "AlternativesModifier"), ("catch_all", "CatchAllModifier"),
    ("default", "DefaultModifier")],
  .oneOf [
    [refer "DefaultModifier" defaultModifier],
    [refer "CatchAllModifier" catchAllModifier],
    [refer "AlternativesModifier" alternativesModifier]]]

def variantSpec : Contract := [
  described "One declared case of the enumeration.",
  .properties [
    ("name", [described "Variant identifier, unique within the enumeration",
      .minLength 1,
      .identifier,
      titled "Name",
      .type .string]),
    ("explicit_value", [orNull [refer "ConstExpr" constExpr],
      absent .null,
      described "Declared discriminant (None means implicit)"]),
    ("modifiers", [described "Modifiers attached to the variant",
      .items modifier,
      titled "Modifiers",
      .type .array]),
    ("field_types", [
      described "Type names of the variant's payload fields (empty for a unit variant)",
      .items [.type .string],
      titled "Field Types",
      .type .array]),
    ("span", [orNull [refer "SourceSpan" sourceSpan],
      absent .null,
      described "Location of the variant"])],
  .required ["name"],
  titled "VariantSpec",
  .type .object]

def customErrorType : Contract := [
  described (
    "User-supplied error type for the fallible conversion.\n\n``constructor`` is a unary " ++
    "function taking the raw integer and returning\nan instance of ``name``."),
  .properties [
    ("name", [described "Error type path (e.g. 'CustomError')",
      .minLength 1,
      titled "Name",
      .type .string]),
    ("constructor", [described "Constructor path (e.g. 'CustomError::new')",
      .minLength 1,
      titled "Constructor",
      .type .string]),
    ("span", [orNull [refer "SourceSpan" sourceSpan], absent .null])],
  .required ["name", "constructor"],
  titled "CustomErrorType",
  .type .object]

def resolvedVariant : Contract := [
  described (
    "A variant with its discriminant and alternative values settled.\n\nThe catch-all " ++
    "variant takes a discriminant like any other variant but\nmatches no values of its " ++
    "own: it is reached only as a fallback and never\nappears in a mapping table."),
  .properties [
    ("name", [titled "Name", .type .string]),
    ("canonical_value", [titled "Canonical Value", .type .integer]),
    ("canonical_text", [orNull [.type .string],
      absent .null,
      described "Source text of an explicit discriminant",
      titled "Canonical Text"]),
    ("alternatives", [absent (.arr []),
      described "Alternative values as inclusive ranges, ascending",
      .items [refer "ValueRange" valueRange],
      titled "Alternatives",
      .type .array]),
    ("is_default", [absent (.bool false), titled "Is Default", .type .boolean]),
    ("is_catch_all", [absent (.bool false), titled "Is Catch All", .type .boolean])],
  .required ["name", "canonical_value"],
  titled "ResolvedVariant",
  .type .object]

def mappingEntry : Contract := [
  described "One row of the shared mapping table.",
  .properties [
    ("variant", [titled "Variant", .type .string]),
    ("canonical_value", [titled "Canonical Value", .type .integer]),
    ("canonical_text", [orNull [.type .string], absent .null, titled "Canonical Text"]),
    ("matched_values", [described "Canonical value first, then alternatives",
      .items [refer "ValueRange" valueRange],
      .minItems 1,
      titled "Matched Values",
      .type .array])],
  .required ["variant", "canonical_value", "matched_values"],
  titled "MappingEntry",
  .type .object]

def conversionFamily : Contract := [
  described "Conversion procedures derivable for an enumeration.",
  names (Family.all.map Family.name),
  titled "ConversionFamily",
  .type .string]

def fallbackPolicy : Contract := [
  described "What an integer-to-enum conversion does when no variant matches.",
  names (FallbackPolicy.all.map FallbackPolicy.name),
  titled "FallbackPolicy",
  .type .string]

def toIntegerStrategy : Contract := [
  described "How the enum-to-integer conversion obtains its result.",
  names (ToIntegerStrategy.all.map ToIntegerStrategy.name),
  titled "ToIntegerStrategy",
  .type .string]

def errorConstruction : Contract := [
  described "How the fallible conversion builds its error for an unmatched integer.",
  .properties [
    ("kind", [absent (.str "default"),
      described "Built-in error value or user-supplied constructor",
      .oneFrom [.text "default", .text "custom"],
      titled "Kind",
      .type .string]),
    ("type_name", [absent (.str "TryFromIntegerError"),
      described "Name of the error type",
      .minLength 1,
      titled "Type Name",
      .type .string]),
    ("constructor", [orNull [.type .string],
      absent .null,
      described "Constructor path for custom errors",
      titled "Constructor"])],
  titled "ErrorConstruction",
  .type .object]

end Contract

end IntegerEnum
