/-! # Integer types

The primitive integer types an enumeration may be represented as: width, sign and the integers they
contain. `wrap` reduces any integer into the type in two's complement; adding one to the greatest
value gives the least. -/
set_option autoImplicit false

namespace IntegerEnum

inductive IntegerKind where
  | u8 | u16 | u32 | u64 | usize | i8 | i16 | i32 | i64 | isize
  deriving DecidableEq, Inhabited

namespace IntegerKind

def all : List IntegerKind := [u8, u16, u32, u64, usize, i8, i16, i32, i64, isize]

def name : IntegerKind → String
  | u8 => "u8"
  | u16 => "u16"
  | u32 => "u32"
  | u64 => "u64"
  | usize => "usize"
  | i8 => "i8"
  | i16 => "i16"
  | i32 => "i32"
  | i64 => "i64"
  | isize => "isize"

def isSigned : IntegerKind → Bool
  | i8 | i16 | i32 | i64 | isize => true
  | _ => false

def isPointerSized : IntegerKind → Bool
  | usize | isize => true
  | _ => false

def ofName? (name : String) : Option IntegerKind := all.find? fun kind => kind.name = name

end IntegerKind

/-- How wide a pointer is on the target. -/
inductive PointerWidth where
  | bits16 | bits32 | bits64
  deriving DecidableEq, Inhabited

namespace PointerWidth

def all : List PointerWidth := [bits16, bits32, bits64]

def toNat : PointerWidth → Nat
  | bits16 => 16
  | bits32 => 32
  | bits64 => 64

def ofInt? (n : Int) : Option PointerWidth := all.find? fun width => (width.toNat : Int) = n

end PointerWidth

structure IntegerType where
  kind : IntegerKind
  pointerWidth : PointerWidth := .bits64
  deriving DecidableEq, Inhabited

namespace IntegerType

def name (t : IntegerType) : String := t.kind.name

def isSigned (t : IntegerType) : Bool := t.kind.isSigned

def bits (t : IntegerType) : Nat :=
  match t.kind with
  | .u8 | .i8 => 8
  | .u16 | .i16 => 16
  | .u32 | .i32 => 32
  | .u64 | .i64 => 64
  | .usize | .isize => t.pointerWidth.toNat

/-- How many values the type has. -/
def cardinality (t : IntegerType) : Int := Int.pow 2 t.bits

def least (t : IntegerType) : Int := if t.isSigned then -Int.pow 2 (t.bits - 1) else 0

def greatest (t : IntegerType) : Int :=
  if t.isSigned then Int.pow 2 (t.bits - 1) - 1 else Int.pow 2 t.bits - 1

def contains (t : IntegerType) (n : Int) : Bool := t.least ≤ n && n ≤ t.greatest

def wrap (t : IntegerType) (n : Int) : Int :=
  let low := n % t.cardinality
  if t.greatest < low then low - t.cardinality else low

/-- The bits of an integer in two's complement that a mask lets through. -/
def maskBits (mask : Nat) : Int → Nat
  | .ofNat n => n &&& mask
  | .negSucc n => (n &&& mask) ^^^ mask

/-- The low bits of an integer, read with a sign if the type has one. -/
def masked (t : IntegerType) (n : Int) : Int :=
  let low : Int := maskBits (t.cardinality - 1).toNat n
  if t.isSigned && t.greatest < low then low - t.cardinality else low

def wrappingAdd (t : IntegerType) (n k : Int) : Int := t.wrap (n + k)

@[simp] theorem contains_iff {t : IntegerType} {n : Int} :
    t.contains n = true ↔ t.least ≤ n ∧ n ≤ t.greatest := by
  simp [contains]

theorem bits_pos (t : IntegerType) : 0 < t.bits := by
  obtain ⟨kind, width⟩ := t
  cases kind <;> cases width <;> decide

end IntegerType

end IntegerEnum
