import IntegerEnum.Family
import IntegerEnum.Mapping

/-! # Conversion plans

A plan records every decision about one conversion family of one enumeration: the table of matched
values, what happens to an integer that no row matches, and how an error is built. -/
set_option autoImplicit false

namespace IntegerEnum

/-- One row of the table: the canonical value and all values that belong to the variant. -/
structure TableRow where
  variant : String
  value : Int
  text : Option String := none
  matched : List ValueRange
  deriving DecidableEq, Inhabited

def TableRow.isMatch (row : TableRow) (n : Int) : Bool := row.matched.any fun r => r.contains n

/-- What a conversion does with an integer that no row matches. -/
inductive FallbackPolicy where
  | unreachable | defaultVariant | catchAll | returnError
  deriving DecidableEq, Inhabited

namespace FallbackPolicy

def all : List FallbackPolicy := [unreachable, defaultVariant, catchAll, returnError]

def name : FallbackPolicy → String
  | unreachable => "unreachable"
  | defaultVariant => "default_variant"
  | catchAll => "catch_all"
  | returnError => "return_error"

def ofName? (name : String) : Option FallbackPolicy := all.find? fun policy => policy.name = name

end FallbackPolicy

/-- A policy together with the variant it needs. -/
inductive Fallback where
  | unreachable
  | defaultVariant (name : String)
  | catchAll (name : String)
  | returnError
  deriving DecidableEq, Inhabited

namespace Fallback

def policy : Fallback → FallbackPolicy
  | unreachable => .unreachable
  | defaultVariant _ => .defaultVariant
  | catchAll _ => .catchAll
  | returnError => .returnError

def variant? : Fallback → Option String
  | defaultVariant name | catchAll name => some name
  | unreachable | returnError => none

end Fallback

/-- How an enumeration value becomes an integer. -/
inductive ToIntegerStrategy where
  | cast | catchAllPayload
  deriving DecidableEq, Inhabited

namespace ToIntegerStrategy

def all : List ToIntegerStrategy := [cast, catchAllPayload]

def name : ToIntegerStrategy → String
  | cast => "cast"
  | catchAllPayload => "catch_all_payload"

def ofName? (name : String) : Option ToIntegerStrategy := all.find? fun s => s.name = name

end ToIntegerStrategy

/-- Whether an error is the built-in one or made by a constructor of the user's. -/
inductive ErrorKind where
  | builtIn | custom
  deriving DecidableEq, Inhabited

namespace ErrorKind

def all : List ErrorKind := [builtIn, custom]

def name : ErrorKind → String
  | builtIn => "default"
  | custom => "custom"

def ofName? (name : String) : Option ErrorKind := all.find? fun kind => kind.name = name

end ErrorKind

def builtInErrorName : String := "TryFromIntegerError"

/-- How the fallible conversion builds its error. -/
structure ErrorRecipe where
  kind : ErrorKind := .builtIn
  typeName : String := builtInErrorName
  constructor : Option String := none
  deriving DecidableEq, Inhabited

def ErrorRecipe.ofErrorType : Option ErrorType → ErrorRecipe
  | none => {}
  | some e => ⟨.custom, e.name, some e.constructor⟩

structure Plan where
  enumName : String
  integerType : IntegerType
  family : Family
  table : List TableRow
  fallback : Option Fallback := none
  defaultVariant : Option String := none
  catchAllVariant : Option String := none
  error : Option ErrorRecipe := none
  strategy : Option ToIntegerStrategy := none
  hasConstForm : Bool := true
  needsAcknowledgement : Bool := false
  deriving DecidableEq, Inhabited

namespace Plan

/-- The first row that matches the integer. -/
def lookup (p : Plan) (n : Int) : Option TableRow := p.table.find? fun row => row.isMatch n

/-- The first row of that variant. -/
def rowOf? (p : Plan) (variant : String) : Option TableRow :=
  p.table.find? fun row => row.variant = variant

/-- Every row matches something, an error type has a name, and a plan that returns errors knows how
to build one. -/
structure Valid (p : Plan) : Prop where
  rows : ∀ row ∈ p.table, row.matched ≠ []
  error : p.fallback = some .returnError → p.error ≠ none
  typeName : ∀ e ∈ p.error, e.typeName ≠ ""

end Plan

end IntegerEnum
