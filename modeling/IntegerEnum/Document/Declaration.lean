import IntegerEnum.Declaration
import IntegerEnum.Document.Scalar
import IntegerEnum.Json.Reader

/-! # Declarations as documents

Reader and writer of every type of a declaration. A writer gives every field, absent ones as null.
An entry of an alternatives modifier is read as a constant and as a range; when both succeed, the
one of which more fields are present is taken, then the one that fits more closely, then the
constant. -/
set_option autoImplicit false

namespace IntegerEnum

open Json

namespace IntegerType

def read : Json → Reading IntegerType := readObject "IntegerType" fun fields =>
  IntegerType.mk
    <$> required "kind"
      (readNamed (IntegerKind.all.map IntegerKind.name) IntegerKind.ofName?) fields
    <*> optional "pointer_width" .bits64 readPointerWidth fields

def toJson (t : IntegerType) : Json :=
  .obj [("kind", .str t.kind.name), ("pointer_width", .int t.pointerWidth.toNat)]

end IntegerType

/-- A value that names no integer kind. -/
structure UnknownKind where
  value : Json

def UnknownKind.message (u : UnknownKind) : String :=
  u.value.display ++ " is not a valid IntegerKind"

/-- An integer type from the name of its kind and, if given, a pointer width. The kind is looked at
first. -/
def IntegerType.ofKind (kind : Json) (width : Option Json) :
    Except UnknownKind (Reading IntegerType) :=
  match kind with
  | .str name =>
    if (IntegerKind.ofName? name).isSome then
      .ok (IntegerType.read (.obj (("kind", kind) ::
        width.toList.map fun w => ("pointer_width", w))))
    else .error ⟨kind⟩
  | _ => .error ⟨kind⟩

namespace SourceSpan

def read : Json → Reading SourceSpan := readObject "SourceSpan" fun fields =>
  SourceSpan.mk
    <$> optional "file" none (nullable readText) fields
    <*> optional "line" none (nullable readPositive) fields
    <*> optional "column" none (nullable readPositive) fields

def toJson (s : SourceSpan) : Json :=
  .obj [("file", ofOption .str s.file), ("line", ofOption .int s.line),
    ("column", ofOption .int s.column)]

/-- The field that holds the span of a declaration or a modifier. -/
def readField (fields : Members) : Reading (Option SourceSpan) :=
  optional "span" none (nullable read) fields

end SourceSpan

namespace ConstExpr

def read : Json → Reading ConstExpr := readObject "ConstExpr" fun fields =>
  ConstExpr.mk
    <$> required "value" readInteger fields
    <*> optional "text" none (nullable readNonemptyText) fields

def toJson (e : ConstExpr) : Json :=
  .obj [("value", .int e.value), ("text", ofOption .str e.text)]

def fieldNames : List String := ["value", "text"]

def fit (form : Form) (fields : Members) : Fit :=
  (Fit.ofField "value" Fit.ofInteger fields).worse (Fit.ofField "text" (Fit.ofText form) fields)

end ConstExpr

namespace ValueRange

def ofBounds (input : Json) (start stop : Int) (inclusive : Bool) : Reading ValueRange :=
  if h : start ≤ lastOf stop inclusive then .accepted ⟨start, stop, inclusive, h⟩
  else .fail (.invalid (emptyMessage start stop inclusive)) input

def read : Json → Reading ValueRange := readObject "ValueRange" fun fields =>
  ((fun start stop inclusive => (start, stop, inclusive))
    <$> required "start" readInteger fields
    <*> required "end" readInteger fields
    <*> optional "inclusive" true readBoolean fields).next fun (start, stop, inclusive) =>
      ofBounds (.obj fields) start stop inclusive

def toJson (r : ValueRange) : Json :=
  .obj [("start", .int r.start), ("end", .int r.stop), ("inclusive", .bool r.inclusive)]

def fieldNames : List String := ["start", "end", "inclusive"]

def fit (fields : Members) : Fit :=
  ((Fit.ofField "start" Fit.ofInteger fields).worse (Fit.ofField "end" Fit.ofInteger fields)).worse
    (Fit.ofField "inclusive" Fit.ofBoolean fields)

end ValueRange

namespace Alternative

/-- Whether an object that can be read both ways is rather a range. -/
def prefersRange (form : Form) (fields : Members) : Bool :=
  let asConstant := countPresent ConstExpr.fieldNames fields
  let asRange := countPresent ValueRange.fieldNames fields
  asConstant < asRange ||
    (asConstant = asRange && (ConstExpr.fit form fields).rank < (ValueRange.fit fields).rank)

def fieldsOf : Json → Members
  | .obj fields => fields
  | _ => []

def read (form : Form) (input : Json) : Reading Alternative :=
  match ConstExpr.read input, ValueRange.read input with
  | .accepted e, .accepted r =>
    .accepted (if prefersRange form (fieldsOf input) then .range r else .constant e)
  | .accepted e, .refused _ _ => .accepted (.constant e)
  | .refused _ _, .accepted r => .accepted (.range r)
  | .refused a as, .refused b bs =>
    let constant := Step.choice "ConstExpr"
    let range := Step.choice "function-after[_check_not_empty(), ValueRange]"
    .refused (a.below constant)
      (as.map (Violation.below constant) ++ b.below range :: bs.map (Violation.below range))

def toJson : Alternative → Json
  | constant e => e.toJson
  | range r => r.toJson

end Alternative

namespace Modifier

/-- The name of a kind where it may be left out and may be nothing else. -/
def readKindField (kind : ModifierKind) (fields : Members) : Reading Unit :=
  let ownName (s : String) : Option Unit := if s = kind.name then some () else none
  optional "kind" () (readLiteral [kind.name] ownName) fields

def readDefault : Json → Reading Modifier := readObject "DefaultModifier" fun fields =>
  (fun _ span => byDefault span) <$> readKindField .byDefault fields <*> SourceSpan.readField fields

def readCatchAll : Json → Reading Modifier := readObject "CatchAllModifier" fun fields =>
  (fun _ span => catchAll span) <$> readKindField .catchAll fields <*> SourceSpan.readField fields

def readAlternatives (form : Form) : Json → Reading Modifier :=
  readObject "AlternativesModifier" fun fields =>
    (fun _ entries span => alternatives entries span)
      <$> readKindField .alternatives fields
      <*> required "values" (nonempty .emptyList (readList (Alternative.read form))) fields
      <*> SourceSpan.readField fields

def readOf (form : Form) : ModifierKind → Json → Reading Modifier
  | .byDefault => readDefault
  | .catchAll => readCatchAll
  | .alternatives => readAlternatives form

def kindOfTag? : Json → Option ModifierKind
  | .str s => ModifierKind.ofName? s
  | _ => none

/-- Reads a modifier by the kind that it names. -/
def read (form : Form) : Json → Reading Modifier
  | .obj fields =>
    match lookup "kind" fields with
    | none => .fail .tagMissing (.obj fields)
    | some tag =>
      match kindOfTag? tag with
      | some kind => (readOf form kind (.obj fields)).within (.choice kind.name)
      | none => .fail (.unknownTag tag.plain (ModifierKind.all.map ModifierKind.name)) (.obj fields)
  | other => .fail .notTagged other

def toJson : Modifier → Json
  | byDefault span =>
    .obj [("kind", .str ModifierKind.byDefault.name), ("span", ofOption SourceSpan.toJson span)]
  | catchAll span =>
    .obj [("kind", .str ModifierKind.catchAll.name), ("span", ofOption SourceSpan.toJson span)]
  | alternatives entries span =>
    .obj [("kind", .str ModifierKind.alternatives.name),
      ("values", .arr (entries.map Alternative.toJson)), ("span", ofOption SourceSpan.toJson span)]

end Modifier

namespace VariantDecl

def nameFault? (v : VariantDecl) : Option String :=
  if isIdentifier v.name then none
  else some ("variant name " ++ Text.quote v.name ++ " is not an identifier")

def read (form : Form) : Json → Reading VariantDecl := readObject "VariantSpec" fun fields =>
  (VariantDecl.mk
    <$> required "name" readNonemptyText fields
    <*> optional "explicit_value" none (nullable ConstExpr.read) fields
    <*> optional "modifiers" [] (readList (Modifier.read form)) fields
    <*> optional "field_types" [] (readList readText) fields
    <*> SourceSpan.readField fields).ensure (.obj fields) nameFault?

def toJson (v : VariantDecl) : Json :=
  .obj [("name", .str v.name), ("explicit_value", ofOption ConstExpr.toJson v.explicitValue),
    ("modifiers", .arr (v.modifiers.map Modifier.toJson)),
    ("field_types", .arr (v.fieldTypes.map .str)), ("span", ofOption SourceSpan.toJson v.span)]

end VariantDecl

namespace ErrorType

def read : Json → Reading ErrorType := readObject "CustomErrorType" fun fields =>
  ErrorType.mk
    <$> required "name" readNonemptyText fields
    <*> required "constructor" readNonemptyText fields
    <*> SourceSpan.readField fields

def toJson (e : ErrorType) : Json :=
  .obj [("name", .str e.name), ("constructor", .str e.constructor),
    ("span", ofOption SourceSpan.toJson e.span)]

end ErrorType

namespace EnumDecl

/-- The first name that stands among those before it. -/
def firstRepeated? (seen : List String) : List String → Option String
  | [] => none
  | name :: rest => if name ∈ seen then some name else firstRepeated? (name :: seen) rest

def nameFault? (d : EnumDecl) : Option String :=
  if isIdentifier d.name then
    (firstRepeated? [] d.variantNames).map fun name =>
      "variant name " ++ Text.quote name ++ " is declared more than once"
  else some ("enum name " ++ Text.quote d.name ++ " is not an identifier")

def read (form : Form) : Json → Reading EnumDecl := readObject "EnumSchema" fun fields =>
  (EnumDecl.mk
    <$> required "name" readNonemptyText fields
    <*> required "underlying_type" IntegerType.read fields
    <*> required "variants" (nonempty .emptyList (readList (VariantDecl.read form))) fields
    <*> optional "error_types" [] (readList ErrorType.read) fields).ensure (.obj fields) nameFault?

def toJson (d : EnumDecl) : Json :=
  .obj [("name", .str d.name), ("underlying_type", d.integerType.toJson),
    ("variants", .arr (d.variants.map VariantDecl.toJson)),
    ("error_types", .arr (d.errorTypes.map ErrorType.toJson))]

end EnumDecl

/-! ## Documents as texts

A document that comes as a JSON text is parsed first. A text that is not JSON, or is nested too
deeply, is refused as a whole. -/

/-- How many containers a value of a document may lie in. -/
def documentDepth : Nat := 200

def readDocument {α : Type} (read : Json → Reading α) (text : String) : Reading α :=
  match Json.parse? documentDepth text with
  | some value => read value
  | none => .fail .malformedText (.str text)

def EnumDecl.readText (text : String) : Reading EnumDecl := readDocument (EnumDecl.read .text) text

end IntegerEnum
