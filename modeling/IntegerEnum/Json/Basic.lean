import IntegerEnum.Binary64.Basic
import IntegerEnum.Dictionary

/-! # JSON values

A document as a tree. Integers are unbounded and distinct from doubles; the members of an object
are a dictionary. -/
set_option autoImplicit false

namespace IntegerEnum

inductive Json where
  | null
  | bool (value : Bool)
  | int (value : Int)
  | float (value : Double)
  | str (value : String)
  | arr (items : List Json)
  | obj (members : List (String × Json))
  deriving Inhabited

namespace Json

abbrev Members := Dictionary String Json

abbrev lookup (key : String) (members : Members) : Option Json := Dictionary.find? key members

/-- The member of that key, when the value is an object. -/
def get? (key : String) : Json → Option Json
  | obj members => lookup key members
  | _ => none

def ofOption {α : Type} (write : α → Json) : Option α → Json
  | none => null
  | some value => write value

end Json

end IntegerEnum
