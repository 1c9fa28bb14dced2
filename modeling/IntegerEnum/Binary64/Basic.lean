/-! # Binary64 numbers

A double as the exact number it stands for: a sign, a mantissa below 2 ^ 53 and a power of two from
-1074 to 971, or an infinity, or no number at all. `ofDecimal` rounds a decimal numeral to the
nearest double, a tie to the even mantissa; all arithmetic is on natural numbers. -/
set_option autoImplicit false

namespace IntegerEnum

inductive Double where
  | nan
  | infinite (negative : Bool)
  | finite (negative : Bool) (mantissa : Nat) (exponent : Int)
  deriving DecidableEq, Inhabited

namespace Double

def hiddenBit : Nat := 1 <<< 52

def leastExponent : Int := -1074

def greatestExponent : Int := 971

/-- The quotient rounded to the nearest natural number, a tie to the even one. -/
def divideToEven (numerator denominator : Nat) : Nat :=
  let quotient := numerator / denominator
  let twice := 2 * (numerator % denominator)
  if twice < denominator then quotient
  else if denominator < twice then quotient + 1
  else quotient + quotient % 2

/-- `numerator / (denominator * 2 ^ exponent)` as a fraction of natural numbers. -/
def scaleDown (numerator denominator : Nat) : Int → Nat × Nat
  | .ofNat exponent => (numerator, denominator <<< exponent)
  | .negSucc exponent => (numerator <<< (exponent + 1), denominator)

/-- The power of two by which the mantissa of `numerator / denominator` is to be scaled. -/
def exponentFor (numerator denominator : Nat) : Int :=
  let guess : Int := (numerator.log2 : Int) - denominator.log2 - 53
  let scaled := scaleDown numerator denominator guess
  let fitted := if scaled.1 / scaled.2 < 2 * hiddenBit then guess else guess + 1
  max leastExponent fitted

def ofFraction (negative : Bool) (numerator denominator : Nat) : Double :=
  if numerator = 0 then finite negative 0 leastExponent
  else
    let exponent := exponentFor numerator denominator
    let scaled := scaleDown numerator denominator exponent
    let mantissa := divideToEven scaled.1 scaled.2
    let carried := mantissa = 2 * hiddenBit
    let exponent := if carried then exponent + 1 else exponent
    if greatestExponent < exponent then infinite negative
    else finite negative (if carried then hiddenBit else mantissa) exponent

/-- The double nearest to `digits * 10 ^ power`. -/
def ofDecimal (negative : Bool) (digits : Nat) (power : Int) : Double :=
  let size : Int := (Nat.toDigits 10 digits).length
  if digits = 0 then finite negative 0 leastExponent
  else if 310 < size + power then infinite negative
  else if size + power < -330 then finite negative 0 leastExponent
  else match power with
    | .ofNat power => ofFraction negative (digits * Nat.pow 10 power) 1
    | .negSucc power => ofFraction negative digits (Nat.pow 10 (power + 1))

def isFinite : Double → Bool
  | finite .. => true
  | _ => false

/-- The absolute value as a fraction; zero for what is not finite. -/
def magnitude : Double → Nat × Nat
  | finite _ mantissa (.ofNat exponent) => (mantissa <<< exponent, 1)
  | finite _ mantissa (.negSucc exponent) => (mantissa, 1 <<< (exponent + 1))
  | _ => (0, 1)

def isNegative : Double → Bool
  | nan => false
  | infinite negative => negative
  | finite negative _ _ => negative

/-- The integer that the double is, if it is one. -/
def toInt? (x : Double) : Option Int :=
  let m := x.magnitude
  if x.isFinite ∧ m.1 % m.2 = 0 then
    some (if x.isNegative then -(m.1 / m.2 : Nat) else (m.1 / m.2 : Nat))
  else none

example : ofDecimal false 15 (-1) = finite false (3 * 2 ^ 51) (-52) := by decide +kernel

example : (ofDecimal false 9007199254740993 0).toInt? = some 9007199254740992 := by decide +kernel

example : ofDecimal false 1 400 = infinite false := by decide +kernel

end Double

end IntegerEnum
