import IntegerEnum.Document.Declaration
import IntegerEnum.Plan

/-! # Mappings and plans as documents

Reader and writer of resolved mappings and of plans. A document of a plan holds the fallback policy
and the variant it needs in two fields, which must agree. -/
set_option autoImplicit false

namespace IntegerEnum

open Json

/-! ## Mappings -/

namespace MappedVariant

def read : Json → Reading MappedVariant := readObject "ResolvedVariant" fun fields =>
  MappedVariant.mk
    <$> required "name" readText fields
    <*> required "canonical_value" readInteger fields
    <*> optional "canonical_text" none (nullable readText) fields
    <*> optional "alternatives" [] (readFixedList ValueRange.read) fields
    <*> optional "is_default" false readBoolean fields
    <*> optional "is_catch_all" false readBoolean fields

def toJson (v : MappedVariant) : Json :=
  .obj [("name", .str v.name), ("canonical_value", .int v.value),
    ("canonical_text", ofOption .str v.text),
    ("alternatives", .arr (v.alternatives.map ValueRange.toJson)),
    ("is_default", .bool v.isDefault), ("is_catch_all", .bool v.isCatchAll)]

end MappedVariant

namespace Mapping

def read : Json → Reading Mapping := readObject "ResolvedMapping" fun fields =>
  Mapping.mk
    <$> required "enum_name" readText fields
    <*> required "integer_type" IntegerType.read fields
    <*> required "variants" (readFixedList MappedVariant.read) fields
    <*> optional "is_naturally_exhaustive" false readBoolean fields
    <*> optional "default_variant" none (nullable readText) fields
    <*> optional "catch_all_variant" none (nullable readText) fields
    <*> optional "error_type" none (nullable ErrorType.read) fields

def toJson (m : Mapping) : Json :=
  .obj [("enum_name", .str m.enumName), ("integer_type", m.integerType.toJson),
    ("variants", .arr (m.variants.map MappedVariant.toJson)),
    ("is_naturally_exhaustive", .bool m.isExhaustive),
    ("default_variant", ofOption .str m.defaultVariant),
    ("catch_all_variant", ofOption .str m.catchAllVariant),
    ("error_type", ofOption ErrorType.toJson m.errorType)]

end Mapping

/-! ## Plans -/

namespace TableRow

def read : Json → Reading TableRow := readObject "MappingEntry" fun fields =>
  TableRow.mk
    <$> required "variant" readText fields
    <*> required "canonical_value" readInteger fields
    <*> optional "canonical_text" none (nullable readText) fields
    <*> required "matched_values" (nonempty .emptyFixedList (readFixedList ValueRange.read)) fields

def toJson (row : TableRow) : Json :=
  .obj [("variant", .str row.variant), ("canonical_value", .int row.value),
    ("canonical_text", ofOption .str row.text),
    ("matched_values", .arr (row.matched.map ValueRange.toJson))]

end TableRow

namespace ErrorRecipe

def read : Json → Reading ErrorRecipe := readObject "ErrorConstruction" fun fields =>
  ErrorRecipe.mk
    <$> optional "kind" .builtIn
      (readLiteral (ErrorKind.all.map ErrorKind.name) ErrorKind.ofName?) fields
    <*> optional "type_name" builtInErrorName readNonemptyText fields
    <*> optional "constructor" none (nullable readText) fields

def toJson (e : ErrorRecipe) : Json :=
  .obj [("kind", .str e.kind.name), ("type_name", .str e.typeName),
    ("constructor", ofOption .str e.constructor)]

end ErrorRecipe

namespace Fallback

/-- Joins a policy with the variant of the other field, or says why they do not agree. -/
def join : Option FallbackPolicy → Option String → Except String (Option Fallback)
  | some .defaultVariant, some name => .ok (some (.defaultVariant name))
  | some .catchAll, some name => .ok (some (.catchAll name))
  | some .defaultVariant, none => .error "fallback default_variant requires fallback_variant"
  | some .catchAll, none => .error "fallback catch_all requires fallback_variant"
  | some .unreachable, none => .ok (some .unreachable)
  | some .returnError, none => .ok (some .returnError)
  | none, none => .ok none
  | _, some _ => .error "fallback_variant is only valid with a variant fallback"

end Fallback

namespace Plan

/-- The plan with its fallback, unless that misses what it needs. -/
def withFallback (input : Json) (policy : Option FallbackPolicy) (variant : Option String)
    (p : Plan) : Reading Plan :=
  match Fallback.join policy variant with
  | .error reason => .fail (.invalid reason) input
  | .ok fallback =>
    if fallback = some .returnError ∧ p.error = none then
      .fail (.invalid "fallback return_error requires an error construction") input
    else .accepted { p with fallback := fallback }

def read : Json → Reading Plan := readObject "ConversionPlan" fun fields =>
  ((fun enumName integerType family table policy variant byDefault catchAll error strategy constForm
      acknowledgement =>
      (policy, variant, (⟨enumName, integerType, family, table, none, byDefault, catchAll, error,
        strategy, constForm, acknowledgement⟩ : Plan)))
    <$> required "enum_name" readText fields
    <*> required "integer_type" IntegerType.read fields
    <*> required "family" (readNamed (Family.all.map Family.name) Family.ofName?) fields
    <*> required "mapping" (readFixedList TableRow.read) fields
    <*> optional "fallback" none
      (nullable (readNamed (FallbackPolicy.all.map FallbackPolicy.name)
        FallbackPolicy.ofName?)) fields
    <*> optional "fallback_variant" none (nullable readText) fields
    <*> optional "default_variant" none (nullable readText) fields
    <*> optional "catch_all_variant" none (nullable readText) fields
    <*> optional "error" none (nullable ErrorRecipe.read) fields
    <*> optional "to_integer_strategy" none
      (nullable (readNamed (ToIntegerStrategy.all.map ToIntegerStrategy.name)
        ToIntegerStrategy.ofName?)) fields
    <*> optional "provides_const_form" true readBoolean fields
    <*> optional "requires_unchecked_acknowledgement" false readBoolean fields).next
      fun (policy, variant, plan) => withFallback (.obj fields) policy variant plan

def toJson (p : Plan) : Json :=
  .obj [("enum_name", .str p.enumName), ("integer_type", p.integerType.toJson),
    ("family", .str p.family.name), ("mapping", .arr (p.table.map TableRow.toJson)),
    ("fallback", ofOption (fun f => .str f.policy.name) p.fallback),
    ("fallback_variant", ofOption .str (p.fallback.bind Fallback.variant?)),
    ("default_variant", ofOption .str p.defaultVariant),
    ("catch_all_variant", ofOption .str p.catchAllVariant),
    ("error", ofOption ErrorRecipe.toJson p.error),
    ("to_integer_strategy", ofOption (fun s => .str s.name) p.strategy),
    ("provides_const_form", .bool p.hasConstForm),
    ("requires_unchecked_acknowledgement", .bool p.needsAcknowledgement)]

end Plan

end IntegerEnum
