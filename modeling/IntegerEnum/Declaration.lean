import IntegerEnum.IntegerType
import IntegerEnum.Numeral
import IntegerEnum.ValueRange

/-! # Enumeration declarations

What a front end hands over: an enumeration with its integer type and its variants in order, each
with an optional explicit value, its modifiers and the types of its fields. `Valid` collects what a
reader promises of a declaration. -/
set_option autoImplicit false

namespace IntegerEnum

/-! ## Identifiers

The names of enumerations and variants: a letter or an underscore, then letters, digits and
underscores, all of them ASCII. One line feed at the end is let through. -/

namespace Identifier

def startsName (c : Char) : Bool := c.isAlpha || c = '_'

def continuesName (c : Char) : Bool := c.isAlphanum || c = '_'

/-- What may follow the first character. -/
def isTail : List Char → Bool
  | [] => true
  | c :: rest => (continuesName c && isTail rest) || (c = '\n' && rest.isEmpty)

end Identifier

def isIdentifier (name : String) : Bool :=
  match name.toList with
  | [] => false
  | c :: rest => Identifier.startsName c && Identifier.isTail rest

/-- The pattern of identifiers in published contracts. -/
def identifierPattern : String := "^[A-Za-z_][A-Za-z0-9_]*$"

/-! ## Declarations -/

/-- A place in the source, copied into diagnostics and never interpreted. -/
structure SourceSpan where
  file : Option String := none
  line : Option Int := none
  column : Option Int := none
  deriving DecidableEq, Inhabited

namespace SourceSpan

/-- An empty file name counts as unknown; a column is told only after a line. -/
def text (s : SourceSpan) : String :=
  let file := match s.file with
    | none | some "" => "<unknown>"
    | some name => name
  match s.line, s.column with
  | none, _ => file
  | some line, none => s!"{file}:{line}"
  | some line, some column => s!"{file}:{line}:{column}"

/-- The numbers in the text. -/
def numbers (s : SourceSpan) : List Int :=
  match s.line, s.column with
  | none, _ => []
  | some line, none => [line]
  | some line, some column => [line, column]

/-- Whether the text can be written. -/
def hasText (s : SourceSpan) : Bool := s.numbers.all Numeral.fits

structure Valid (s : SourceSpan) : Prop where
  line : ∀ n ∈ s.line, 1 ≤ n
  column : ∀ n ∈ s.column, 1 ≤ n

instance : DecidablePred Valid := fun s =>
  decidable_of_iff ((∀ n ∈ s.line, 1 ≤ n) ∧ ∀ n ∈ s.column, 1 ≤ n)
    ⟨fun h => ⟨h.1, h.2⟩, fun h => ⟨h.line, h.column⟩⟩

end SourceSpan

/-- A folded constant expression with its source text. -/
structure ConstExpr where
  value : Int
  text : Option String := none
  deriving DecidableEq, Inhabited

def ConstExpr.Valid (e : ConstExpr) : Prop := e.text ≠ some ""

instance : DecidablePred ConstExpr.Valid := fun e => inferInstanceAs (Decidable (e.text ≠ some ""))

/-- One entry of an alternatives modifier. -/
inductive Alternative where
  | constant (expr : ConstExpr)
  | range (values : ValueRange)
  deriving DecidableEq, Inhabited

namespace Alternative

/-- The integers of the entry as a range with its end inside. -/
def values : Alternative → ValueRange
  | constant expr => .single expr.value
  | range r => r.normalized

def Valid : Alternative → Prop
  | constant expr => expr.Valid
  | range _ => True

instance : DecidablePred Valid
  | constant expr => inferInstanceAs (Decidable expr.Valid)
  | range _ => inferInstanceAs (Decidable True)

end Alternative

inductive ModifierKind where
  | byDefault | catchAll | alternatives
  deriving DecidableEq, Inhabited

namespace ModifierKind

def all : List ModifierKind := [byDefault, catchAll, alternatives]

def name : ModifierKind → String
  | byDefault => "default"
  | catchAll => "catch_all"
  | alternatives => "alternatives"

def ofName? (name : String) : Option ModifierKind := all.find? fun kind => kind.name = name

end ModifierKind

inductive Modifier where
  | byDefault (span : Option SourceSpan)
  | catchAll (span : Option SourceSpan)
  | alternatives (entries : List Alternative) (span : Option SourceSpan)
  deriving DecidableEq, Inhabited

namespace Modifier

def kind : Modifier → ModifierKind
  | byDefault _ => .byDefault
  | catchAll _ => .catchAll
  | alternatives _ _ => .alternatives

def span : Modifier → Option SourceSpan
  | byDefault span | catchAll span | alternatives _ span => span

def entries : Modifier → List Alternative
  | alternatives entries _ => entries
  | _ => []

structure Valid (m : Modifier) : Prop where
  span : ∀ s ∈ m.span, s.Valid
  entries : ∀ e ∈ m.entries, e.Valid
  nonempty : m.kind = .alternatives → m.entries ≠ []

instance : DecidablePred Valid := fun m =>
  decidable_of_iff ((∀ s ∈ m.span, s.Valid) ∧ (∀ e ∈ m.entries, e.Valid) ∧
      (m.kind = .alternatives → m.entries ≠ []))
    ⟨fun h => ⟨h.1, h.2.1, h.2.2⟩, fun h => ⟨h.span, h.entries, h.nonempty⟩⟩

end Modifier

/-- The fields of a variant against the integer type of its enumeration. -/
inductive PayloadShape where
  | unit | singleInteger | unsupported
  deriving DecidableEq, Inhabited

def PayloadShape.name : PayloadShape → String
  | unit => "unit"
  | singleInteger => "single_integer_field"
  | unsupported => "unsupported"

structure VariantDecl where
  name : String
  explicitValue : Option ConstExpr := none
  modifiers : List Modifier := []
  fieldTypes : List String := []
  span : Option SourceSpan := none
  deriving DecidableEq, Inhabited

namespace VariantDecl

def modifiersOf (v : VariantDecl) (kind : ModifierKind) : List Modifier :=
  v.modifiers.filter fun m => m.kind = kind

def has (v : VariantDecl) (kind : ModifierKind) : Bool := v.modifiers.any fun m => m.kind = kind

def isDefault (v : VariantDecl) : Bool := v.has .byDefault

def isCatchAll (v : VariantDecl) : Bool := v.has .catchAll

def payloadShape (v : VariantDecl) (t : IntegerType) : PayloadShape :=
  if v.fieldTypes = [] then .unit
  else if v.fieldTypes = [t.name] then .singleInteger
  else .unsupported

structure Valid (v : VariantDecl) : Prop where
  name : isIdentifier v.name = true
  explicitValue : ∀ e ∈ v.explicitValue, e.Valid
  modifiers : ∀ m ∈ v.modifiers, m.Valid
  span : ∀ s ∈ v.span, s.Valid

instance : DecidablePred Valid := fun v =>
  decidable_of_iff (isIdentifier v.name = true ∧ (∀ e ∈ v.explicitValue, e.Valid) ∧
      (∀ m ∈ v.modifiers, m.Valid) ∧ ∀ s ∈ v.span, s.Valid)
    ⟨fun h => ⟨h.1, h.2.1, h.2.2.1, h.2.2.2⟩,
      fun h => ⟨h.name, h.explicitValue, h.modifiers, h.span⟩⟩

end VariantDecl

/-- An error type of the user's for the fallible conversion, with the path of its constructor. -/
structure ErrorType where
  name : String
  constructor : String
  span : Option SourceSpan := none
  deriving DecidableEq, Inhabited

structure ErrorType.Valid (e : ErrorType) : Prop where
  name : e.name ≠ ""
  constructor : e.constructor ≠ ""
  span : ∀ s ∈ e.span, s.Valid

instance : DecidablePred ErrorType.Valid := fun e =>
  decidable_of_iff (e.name ≠ "" ∧ e.constructor ≠ "" ∧ ∀ s ∈ e.span, s.Valid)
    ⟨fun h => ⟨h.1, h.2.1, h.2.2⟩, fun h => ⟨h.name, h.constructor, h.span⟩⟩

structure EnumDecl where
  name : String
  integerType : IntegerType
  variants : List VariantDecl
  errorTypes : List ErrorType := []
  deriving DecidableEq, Inhabited

namespace EnumDecl

def variantNames (d : EnumDecl) : List String := d.variants.map VariantDecl.name

structure Valid (d : EnumDecl) : Prop where
  name : isIdentifier d.name = true
  nonempty : d.variants ≠ []
  variants : ∀ v ∈ d.variants, v.Valid
  distinct : d.variantNames.Nodup
  errorTypes : ∀ e ∈ d.errorTypes, e.Valid

instance : DecidablePred Valid := fun d =>
  decidable_of_iff (isIdentifier d.name = true ∧ d.variants ≠ [] ∧ (∀ v ∈ d.variants, v.Valid) ∧
      d.variantNames.Nodup ∧ ∀ e ∈ d.errorTypes, e.Valid)
    ⟨fun h => ⟨h.1, h.2.1, h.2.2.1, h.2.2.2.1, h.2.2.2.2⟩,
      fun h => ⟨h.name, h.nonempty, h.variants, h.distinct, h.errorTypes⟩⟩

/-- A one-line summary. -/
def summary (d : EnumDecl) : String :=
  s!"EnumSchema(name={d.name}, repr={d.integerType.name}, variants={d.variants.length})"

end EnumDecl

end IntegerEnum
