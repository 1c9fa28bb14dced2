import IntegerEnum.Text

/-! # Conversion families

The five conversions that can be derived for an enumeration. A name is read up to blanks around it,
the case of its letters, and hyphens for underscores. -/
set_option autoImplicit false

namespace IntegerEnum

inductive Family where
  | toInteger
  | fromIntegerTotal
  | fromIntegerFallible
  | fromIntegerUnchecked
  | defaultValue
  deriving DecidableEq, Inhabited

namespace Family

def all : List Family :=
  [toInteger, fromIntegerTotal, fromIntegerFallible, fromIntegerUnchecked, defaultValue]

def name : Family → String
  | toInteger => "to_integer"
  | fromIntegerTotal => "from_integer_total"
  | fromIntegerFallible => "from_integer_fallible"
  | fromIntegerUnchecked => "from_integer_unchecked"
  | defaultValue => "default_value"

def ofName? (name : String) : Option Family := all.find? fun family => family.name = name

def kelvinSign : Char := '\u212a'

/-- The lower case of every character whose lower case is an ASCII letter. No other character can be
part of a family name. -/
def foldCase (c : Char) : Char :=
  if 'A' ≤ c ∧ c ≤ 'Z' then Char.ofNat (c.toNat + 32)
  else if c = kelvinSign then 'k'
  else c

def foldMark (c : Char) : Char := if c = '-' then '_' else c

/-- The spelling in which a name is looked up. -/
def normalSpelling (text : String) : String :=
  String.ofList ((Text.trim Text.isBlank text.toList).map fun c => foldMark (foldCase c))

end Family

/-- A name that no conversion family has. -/
structure UnknownFamily where
  name : String
  deriving DecidableEq, Inhabited

def UnknownFamily.message (u : UnknownFamily) : String :=
  let known := String.intercalate ", " (Family.all.map Family.name)
  s!"Unknown conversion family {Text.quote u.name}; expected one of: {known}"

namespace Family

def read (text : String) : Except UnknownFamily Family :=
  match ofName? (normalSpelling text) with
  | some family => .ok family
  | none => .error ⟨text⟩

/-- Reads all names, or refuses the first unknown one. -/
def readAll : List String → Except UnknownFamily (List Family)
  | [] => .ok []
  | text :: rest =>
    match read text with
    | .error unknown => .error unknown
    | .ok family => (readAll rest).map (family :: ·)

/-- The families asked for: all of them when nothing is named. -/
def requested : Option (List String) → Except UnknownFamily (List Family)
  | none => .ok all
  | some names => readAll names

end Family

end IntegerEnum
