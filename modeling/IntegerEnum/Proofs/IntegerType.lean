import IntegerEnum.IntegerType
import IntegerEnum.Numeral
import IntegerEnum.ValueRange
import Mathlib.Algebra.Order.Ring.Int

/-! # The integers of a type

A type holds zero, and exactly as many integers as its cardinality says. Reducing an integer into
the type ends inside it, at the integer that leaves the same remainder. -/
set_option autoImplicit false

namespace IntegerEnum

namespace IntegerType

/-- The power of two that bounds a signed type is half the cardinality. -/
theorem cardinality_eq_double (t : IntegerType) : t.cardinality = 2 * Int.pow 2 (t.bits - 1) := by
  obtain ⟨k, width⟩ : ∃ k, t.bits = k + 1 := ⟨t.bits - 1, by have := t.bits_pos; omega⟩
  rw [cardinality, width, Nat.add_sub_cancel]
  exact (Int.pow_succ 2 k).trans (Int.mul_comm _ _)

theorem half_pos (t : IntegerType) : (0 : Int) < Int.pow 2 (t.bits - 1) := Int.pow_pos (by omega)

theorem least_nonpos (t : IntegerType) : t.least ≤ 0 := by
  have positive := t.half_pos
  unfold least
  split <;> omega

theorem greatest_nonneg (t : IntegerType) : 0 ≤ t.greatest := by
  have positive := t.half_pos
  have double := t.cardinality_eq_double
  unfold greatest
  rw [cardinality] at double
  split <;> omega

theorem cardinality_eq (t : IntegerType) : t.cardinality = t.greatest - t.least + 1 := by
  have double := t.cardinality_eq_double
  unfold greatest least
  rw [cardinality] at double ⊢
  split <;> omega

theorem cardinality_pos (t : IntegerType) : 0 < t.cardinality := by
  have lower := t.least_nonpos
  have upper := t.greatest_nonneg
  have total := t.cardinality_eq
  omega

theorem contains_zero (t : IntegerType) : t.contains 0 = true :=
  contains_iff.mpr ⟨t.least_nonpos, t.greatest_nonneg⟩

theorem fits_least (t : IntegerType) : Numeral.fits t.least = true := by
  obtain ⟨kind, width⟩ := t
  cases kind <;> cases width <;> decide

theorem fits_greatest (t : IntegerType) : Numeral.fits t.greatest = true := by
  obtain ⟨kind, width⟩ := t
  cases kind <;> cases width <;> decide

/-- No type is so wide that its integers lack numerals. -/
theorem fits_of_contains {t : IntegerType} {n : Int} (inType : t.contains n = true) :
    Numeral.fits n = true := by
  obtain ⟨lower, upper⟩ := contains_iff.mp inType
  exact Numeral.fits_of_between lower upper t.fits_least t.fits_greatest

theorem contains_wrap (t : IntegerType) (n : Int) : t.contains (t.wrap n) = true := by
  have lower := t.least_nonpos
  have upper := t.greatest_nonneg
  have total := t.cardinality_eq
  have lowNonneg := Int.emod_nonneg n t.cardinality_pos.ne'
  have lowBound := Int.emod_lt_of_pos n t.cardinality_pos
  rw [contains_iff, wrap]
  split <;> omega

theorem contains_wrappingAdd (t : IntegerType) (n k : Int) :
    t.contains (t.wrappingAdd n k) = true :=
  t.contains_wrap (n + k)

/-! ## Wrapping is reduction -/

theorem emod_wrap (t : IntegerType) (n : Int) :
    t.wrap n % t.cardinality = n % t.cardinality := by
  rw [wrap]
  split
  · rw [Int.sub_emod_right, Int.emod_emod]
  · rw [Int.emod_emod]

theorem wrap_congr {t : IntegerType} {a b : Int}
    (same : a % t.cardinality = b % t.cardinality) : t.wrap a = t.wrap b := by
  rw [wrap, wrap, same]

theorem wrap_of_contains {t : IntegerType} {n : Int} (inType : t.contains n = true) :
    t.wrap n = n := by
  have lower := t.least_nonpos
  have upper := t.greatest_nonneg
  have total := t.cardinality_eq
  have bounds := contains_iff.mp inType
  rw [wrap]
  by_cases negative : n < 0
  · -- a negative integer is reduced to the upper half and brought back
    have reduced : n % t.cardinality = n + t.cardinality := by
      rw [← Int.add_emod_right]
      apply Int.emod_eq_of_lt <;> omega
    rw [reduced, if_pos (by omega)]
    omega
  · have reduced : n % t.cardinality = n := Int.emod_eq_of_lt (by omega) (by omega)
    rw [reduced, if_neg (by omega)]

theorem wrap_wrap_add (t : IntegerType) (a b : Int) : t.wrap (t.wrap a + b) = t.wrap (a + b) := by
  apply wrap_congr
  rw [Int.add_emod, emod_wrap, ← Int.add_emod]

/-- The type as one range. -/
def whole (t : IntegerType) : ValueRange :=
  .closed t.least t.greatest (Int.le_trans t.least_nonpos t.greatest_nonneg)

theorem contains_whole {t : IntegerType} {n : Int} :
    t.whole.contains n = true ↔ t.contains n = true := by
  rw [ValueRange.contains_iff, contains_iff]
  exact Iff.rfl

theorem size_whole (t : IntegerType) : t.whole.size = t.cardinality := by
  rw [cardinality_eq]
  rfl

end IntegerType

end IntegerEnum
