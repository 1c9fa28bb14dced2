import IntegerEnum.Declaration

/-! # Resolved mappings

Which integers stand for which variant. A catch-all variant has a value of its own but matches none:
it is reached only as a fallback. -/
set_option autoImplicit false

namespace IntegerEnum

structure MappedVariant where
  name : String
  value : Int
  /-- The source text of an explicit value. -/
  text : Option String := none
  alternatives : List ValueRange := []
  isDefault : Bool := false
  isCatchAll : Bool := false
  deriving DecidableEq, Inhabited

namespace MappedVariant

/-- The canonical value, then the alternatives. -/
def matched (v : MappedVariant) : List ValueRange :=
  if v.isCatchAll then [] else .single v.value :: v.alternatives

def isMatch (v : MappedVariant) (n : Int) : Bool := v.matched.any fun r => r.contains n

/-- The alternatives, integer by integer. -/
def aliases (v : MappedVariant) : List Int := v.alternatives.flatMap ValueRange.values

end MappedVariant

structure Mapping where
  enumName : String
  integerType : IntegerType
  variants : List MappedVariant
  isExhaustive : Bool := false
  defaultVariant : Option String := none
  catchAllVariant : Option String := none
  errorType : Option ErrorType := none
  deriving DecidableEq, Inhabited

namespace Mapping

def hasAlternatives (m : Mapping) : Bool := m.variants.any fun v => !v.alternatives.isEmpty

/-- How many integers the variants match, range by range. -/
def countValues (variants : List MappedVariant) : Int :=
  (variants.flatMap MappedVariant.matched).foldr (fun r total => r.size + total) 0

def valueCount (m : Mapping) : Int := countValues m.variants

def variant? (m : Mapping) (name : String) : Option MappedVariant :=
  m.variants.find? fun v => v.name = name

/-- The first variant that matches the integer. -/
def lookup (m : Mapping) (n : Int) : Option MappedVariant := m.variants.find? fun v => v.isMatch n

end Mapping

end IntegerEnum
