import IntegerEnum.Contract.Parts
import IntegerEnum.Json.Printer

/-! # The published contracts

The contracts of declarations, mappings and plans, and of two sets of names, each published under
its name. A published contract carries the contracts it refers to, by name, and its own identity. -/
set_option autoImplicit false

namespace IntegerEnum

namespace Contract

def declarations : Contract := [
  described (
      "Parsed enumeration declaration handed over by the front end.\n\nVariant order is " ++
      "semantically significant: it drives implicit\ndiscriminant inference and the order " ++
      "in which collisions are reported."),
  .properties [
    ("name", [described "Enumeration identifier",
      .minLength 1,
      .identifier,
      titled "Name",
      .type .string]),
    ("underlying_type", [refer "IntegerType" integerType, described "Integer representation"]),
    ("variants", [described "Variants in declaration order",
      .items [refer "VariantSpec" variantSpec],
      .minItems 1,
      titled "Variants",
      .type .array]),
    ("error_types", [described "Every custom error declaration seen (at most one is valid)",
      .items [refer "CustomErrorType" customErrorType],
      titled "Error Types",
      .type .array])],
  .required ["name", "underlying_type", "variants"],
  titled "EnumSchema",
  .type .object]

def mappings : Contract := [
  described "Validated value-to-variant mapping for one enumeration.",
  .properties [
    ("enum_name", [titled "Enum Name", .type .string]),
    ("integer_type", [refer "IntegerType" integerType]),
    ("variants", [.items [refer "ResolvedVariant" resolvedVariant],
      titled "Variants",
      .type .array]),
    ("is_naturally_exhaustive", [absent (.bool false),
      described "Declared values cover every bit pattern of the type",
      titled "Is Naturally Exhaustive",
      .type .boolean]),
    ("default_variant", [orNull [.type .string], absent .null, titled "Default Variant"]),
    ("catch_all_variant", [orNull [.type .string], absent .null, titled "Catch All Variant"]),
    ("error_type", [orNull [refer "CustomErrorType" customErrorType], absent .null])],
  .required ["enum_name", "integer_type", "variants"],
  titled "ResolvedMapping",
  .type .object]

def plans : Contract := [
  described "Decision record for one conversion family of one enumeration.",
  .properties [
    ("enum_name", [titled "Enum Name", .type .string]),
    ("integer_type", [refer "IntegerType" integerType]),
    ("family", [refer "ConversionFamily" conversionFamily]),
    ("mapping", [described "Variants with their matched values, declaration order",
      .items [refer "MappingEntry" mappingEntry],
      titled "Mapping",
      .type .array]),
    ("fallback", [orNull [refer "FallbackPolicy" fallbackPolicy],
      absent .null,
      described "Unmatched-input policy (integer-to-enum families only)"]),
    ("fallback_variant", [orNull [.type .string],
      absent .null,
      described "Variant produced by the default_variant or catch_all fallback",
      titled "Fallback Variant"]),
    ("default_variant", [orNull [.type .string], absent .null, titled "Default Variant"]),
    ("catch_all_variant", [orNull [.type .string], absent .null, titled "Catch All Variant"]),
    ("error", [orNull [refer "ErrorConstruction" errorConstruction],
      absent .null,
      described "Error construction (fallible conversion only)"]),
    ("to_integer_strategy", [orNull [refer "ToIntegerStrategy" toIntegerStrategy], absent .null]),
    ("provides_const_form", [absent (.bool true), titled "Provides Const Form", .type .boolean]),
    ("requires_unchecked_acknowledgement", [absent (.bool false),
      titled "Requires Unchecked Acknowledgement",
      .type .boolean])],
  .required ["enum_name", "integer_type", "family", "mapping"],
  titled "ConversionPlan",
  .type .object]

end Contract

/-- A contract under the name by which it is published. -/
structure Publication where
  name : String
  contract : Contract

namespace Publication

/-- All publications, the input contract first. -/
def all : List Publication := [
  ⟨"enum_schema", Contract.declarations⟩,
  ⟨"resolved_mapping", Contract.mappings⟩,
  ⟨"conversion_plan", Contract.plans⟩,
  ⟨"conversion_family", Contract.conversionFamily⟩,
  ⟨"fallback_policy", Contract.fallbackPolicy⟩]

def find? (name : String) : Option Publication := all.find? fun p => p.name = name

def names : List String := (all.map Publication.name).mergeSort fun a b => a ≤ b

/-- Each contract that is referred to, once. -/
def definitions (p : Publication) : Json.Members :=
  (Contract.definitionsOf p.contract).foldl
    (fun defined (name, target) => Dictionary.put name (.obj (Contract.members target)) defined) []

def toJson (p : Publication) : Json :=
  let definitions := p.definitions
  .obj ((if definitions.isEmpty then [] else [("$defs", .obj definitions)]) ++
    Contract.members p.contract ++
    [("$schema", .str "https://json-schema.org/draft/2020-12/schema"),
      ("$id", .str ("intenum-derive/" ++ p.name))])

/-- The text of the file that holds the publication. -/
def text (p : Publication) : String := p.toJson.indented ++ "\n"

def fileName (p : Publication) : String := p.name ++ ".schema.json"

/-- Why nothing is published under a name. -/
def missingMessage (name : String) : String :=
  s!"No schema found for '{name}'. Available: " ++ (Json.arr (names.map .str)).display

end Publication

end IntegerEnum
