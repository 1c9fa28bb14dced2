import IntegerEnum.Text

/-! # Decimal numerals

Integers are unbounded, but their decimal texts are not: a numeral has at most so many digits, on
its way in as on its way out. -/
set_option autoImplicit false

namespace IntegerEnum

namespace Numeral

/-- The most digits that a numeral may have. -/
def maxDigits : Nat := 4300

def fits (n : Int) : Bool := (Nat.toDigits 10 n.natAbs).length ≤ maxDigits

def tooLongMessage : String :=
  s!"Exceeds the limit ({maxDigits} digits) for integer string conversion; " ++
    "use sys.set_int_max_str_digits() to increase the limit"

theorem fits_iff {n : Int} : fits n = true ↔ n.natAbs < Nat.pow 10 maxDigits := by
  have positive : 0 < maxDigits := by decide
  rw [fits, decide_eq_true_eq]
  generalize maxDigits = most at positive ⊢
  exact Nat.length_toDigits_le_iff (by decide) positive

theorem fits_of_between {a n b : Int} (lower : a ≤ n) (upper : n ≤ b) (low : fits a = true)
    (high : fits b = true) : fits n = true := by
  rw [fits_iff] at low high ⊢
  omega

/-! ## Integers as texts -/

/-- Digits with single underscores between them; `afterDigit` tells whether a digit came just
before. -/
def digits? (value : Nat) (afterDigit : Bool) : List Char → Option Nat
  | [] => if afterDigit then some value else none
  | c :: rest =>
    if c.isDigit then digits? (10 * value + (c.toNat - 48)) true rest
    else if c = '_' ∧ afterDigit then digits? value false rest
    else none

def isZeroFraction : List Char → Bool
  | [] => true
  | _ :: zeros => !zeros.isEmpty && zeros.all (· = '0')

def unsigned? (cs : List Char) : Option Nat :=
  if isZeroFraction (cs.dropWhile (· ≠ '.')) then digits? 0 false (cs.takeWhile (· ≠ '.'))
  else none

/-- An integer as text: blanks around it, a sign, digits, and a fraction of zeros are let through.
-/
def ofText? (text : String) : Option Int :=
  match Text.trim Text.isSpace text.toList with
  | '-' :: rest => (unsigned? rest).map fun n => -(n : Int)
  | '+' :: rest => (unsigned? rest).map fun n => (n : Int)
  | rest => (unsigned? rest).map fun n => (n : Int)

end Numeral

end IntegerEnum
