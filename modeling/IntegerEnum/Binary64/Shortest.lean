import IntegerEnum.Binary64.Basic

/-! # Shortest decimals

The decimal with the fewest digits that lies between the midpoints to the neighbouring doubles, the
nearest of those, as digits and the power of ten of the last one. A midpoint counts as inside when
the mantissa is even, for then it rounds to the double. -/
set_option autoImplicit false

namespace IntegerEnum

namespace Double

structure Neighbourhood where
  lower : Nat
  centre : Nat
  upper : Nat
  denominator : Nat
  closed : Bool

/-- The numbers that round to a finite double. The distance downwards is halved at a power of two.
-/
def neighbourhood (mantissa : Nat) (exponent : Int) : Neighbourhood :=
  let narrow := mantissa = hiddenBit ∧ leastExponent < exponent
  let lower := 4 * mantissa - (if narrow then 1 else 2)
  let closed := mantissa % 2 = 0
  match exponent with
  | .ofNat e =>
    ⟨lower <<< e, (4 * mantissa) <<< e, (4 * mantissa + 2) <<< e, 4, closed⟩
  | .negSucc e => ⟨lower, 4 * mantissa, 4 * mantissa + 2, 4 <<< (e + 1), closed⟩

def Neighbourhood.contains (n : Neighbourhood) (digits : Nat) (power : Int) : Bool :=
  let (value, scale) := match power with
    | .ofNat p => (digits * Nat.pow 10 p * n.denominator, 1)
    | .negSucc p => (digits * n.denominator, Nat.pow 10 (p + 1))
  if n.closed then n.lower * scale ≤ value ∧ value ≤ n.upper * scale
  else n.lower * scale < value ∧ value < n.upper * scale

def Neighbourhood.units (n : Neighbourhood) (power : Int) : Nat × Ordering :=
  let (numerator, denominator) := match power with
    | .ofNat p => (n.centre, n.denominator * Nat.pow 10 p)
    | .negSucc p => (n.centre * Nat.pow 10 (p + 1), n.denominator)
  -- the whole units, and twice the rest against one unit
  (numerator / denominator, compare (2 * (numerator % denominator)) denominator)

def Neighbourhood.leadingPower (n : Neighbourhood) : Int :=
  -- no double lies below 10 ^ -400
  ((Nat.toDigits 10 (n.centre * Nat.pow 10 400 / n.denominator)).length : Int) - 401

/-- The better of the two neighbours of the centre on the grid of `10 ^ power`. -/
def Neighbourhood.onGrid? (n : Neighbourhood) (power : Int) : Option (Nat × Int) :=
  let (below, rest) := n.units power
  let above := below + 1
  match n.contains below power, n.contains above power with
  | false, false => none
  | true, false => some (below, power)
  | false, true => some (above, power)
  | true, true => match rest with
    | .lt => some (below, power)
    | .gt => some (above, power)
    | .eq => some (below + below % 2, power)

def Neighbourhood.search (n : Neighbourhood) : Nat → Int → Nat × Int
  | 0, power => ((n.units power).1, power)
  | steps + 1, power => (n.onGrid? power).getD (n.search steps (power - 1))

def shortest (mantissa : Nat) (exponent : Int) : Nat × Int :=
  let n := neighbourhood mantissa exponent
  -- seventeen digits always suffice
  n.search 17 n.leadingPower

def significant (digits : List Char) : List Char :=
  (digits.reverse.dropWhile (· = '0')).reverse

def exponentText (e : Int) : String :=
  let digits := toString e.natAbs
  (if e < 0 then "e-" else "e+") ++ (if digits.length < 2 then "0" ++ digits else digits)

/-- Places a point in the digits; the first of them stands at `10 ^ leading`. Powers from -4 to 15
are written out, others with an exponent of at least two digits. -/
def placePoint (digits : List Char) (leading : Int) : String :=
  if leading < -4 ∨ 16 ≤ leading then
    let rest := digits.drop 1
    String.ofList (digits.take 1 ++ (if rest.isEmpty then [] else '.' :: rest)) ++
      exponentText leading
  else if leading < 0 then
    "0." ++ String.ofList (List.replicate (leading.natAbs - 1) '0' ++ digits)
  else
    let whole := leading.toNat + 1
    let padded := digits ++ List.replicate (whole - digits.length) '0'
    let fraction := padded.drop whole
    String.ofList (padded.take whole ++ '.' :: (if fraction.isEmpty then ['0'] else fraction))

def positiveText (mantissa : Nat) (exponent : Int) : String :=
  if mantissa = 0 then "0.0"
  else
    let (digits, power) := shortest mantissa exponent
    let digits := Nat.toDigits 10 digits
    placePoint (significant digits) (power + digits.length - 1)

def text (infinity noNumber : String) : Double → String
  | nan => noNumber
  | infinite negative => (if negative then "-" else "") ++ infinity
  | finite negative mantissa exponent =>
    (if negative then "-" else "") ++ positiveText mantissa exponent

end Double

end IntegerEnum
