import IntegerEnum.Proofs.IntegerType
import Mathlib.Data.Int.Bitwise
import Mathlib.Data.Int.ModEq
import Mathlib.Data.Set.Card
import Mathlib.Data.Int.Interval

/-! # Wrapping and counting on

Wrapping keeps the low bits of an integer and reads them with the sign of the type: `masked` says it
on bits, `wrap` with a remainder. The result is the only integer of the type in its residue class.
Counting on from any integer of the type goes through all of them and comes back after as many steps
as there are. -/
set_option autoImplicit false

namespace IntegerEnum

/-- A mask of ones keeps the remainder, of negative integers too. -/
theorem land_two_pow_sub_one (n : Int) (k : Nat) : Int.land n (2 ^ k - 1) = n % 2 ^ k := by
  have mask : (2 ^ k - 1 : Int) = ((2 ^ k - 1 : Nat) : Int) := by
    rw [Nat.cast_sub Nat.one_le_two_pow]
    simp
  rw [mask]
  cases n with
  | ofNat m =>
      change ((m &&& (2 ^ k - 1) : Nat) : Int) = _
      rw [Nat.and_two_pow_sub_one_eq_mod]
      simp
  | negSucc m =>
      change ((Nat.ldiff (2 ^ k - 1) m : Nat) : Int) = _
      have small : m % 2 ^ k < 2 ^ k := Nat.mod_lt _ (Nat.two_pow_pos k)
      have complement : Nat.ldiff (2 ^ k - 1) m = 2 ^ k - (m % 2 ^ k + 1) := by
        apply Nat.eq_of_testBit_eq
        intro i
        rw [Nat.testBit_ldiff, Nat.testBit_two_pow_sub_one, Nat.testBit_two_pow_sub_succ small,
          Nat.testBit_mod_two_pow]
        cases decide (i < k) <;> simp
      rw [complement, Int.negSucc_emod _ (Int.pow_pos (by omega)), Nat.cast_sub small]
      push_cast
      omega

namespace IntegerType

theorem maskBits_eq_land (mask : Nat) (n : Int) : (maskBits mask n : Int) = Int.land n mask := by
  cases n with
  | ofNat m => rfl
  | negSucc m =>
      -- a negative integer has the bits that the one before its opposite lacks
      have complement : (m &&& mask) ^^^ mask = Nat.ldiff mask m := by
        apply Nat.eq_of_testBit_eq
        intro i
        rw [Nat.testBit_xor, Nat.testBit_and, Nat.testBit_ldiff]
        cases m.testBit i <;> simp
      change (((m &&& mask) ^^^ mask : Nat) : Int) = (Nat.ldiff mask m : Nat)
      rw [complement]

theorem cardinality_eq_two_pow (t : IntegerType) : t.cardinality = 2 ^ t.bits := rfl

theorem wrap_eq_masked (t : IntegerType) (n : Int) : t.wrap n = t.masked n := by
  have mask : (((t.cardinality - 1).toNat : Nat) : Int) = t.cardinality - 1 :=
    Int.toNat_of_nonneg (Int.le_sub_one_of_lt t.cardinality_pos)
  rw [masked, maskBits_eq_land, mask, cardinality_eq_two_pow, land_two_pow_sub_one, wrap,
    cardinality_eq_two_pow]
  cases signed : t.isSigned with
  | true => simp
  | false =>
      -- without a sign no remainder lies beyond the greatest value
      have bound := Int.emod_lt_of_pos n t.cardinality_pos
      have top : t.greatest = t.cardinality - 1 := by rw [greatest, signed]; rfl
      rw [cardinality_eq_two_pow] at bound top
      rw [if_neg (by omega)]
      simp

theorem wrap_eq_iff {t : IntegerType} {n m : Int} :
    t.wrap n = m ↔ t.contains m = true ∧ m ≡ n [ZMOD 2 ^ t.bits] := by
  constructor
  · rintro rfl
    exact ⟨t.contains_wrap n, t.emod_wrap n⟩
  · rintro ⟨inType, congruent⟩
    rw [← wrap_congr congruent, wrap_of_contains inType]

theorem ncard_contains (t : IntegerType) :
    ({n | t.contains n = true}.ncard : Int) = t.cardinality := by
  have interval : {n | t.contains n = true} = (Finset.Icc t.least t.greatest : Set Int) := by
    ext n
    rw [Finset.coe_Icc, Set.mem_Icc]
    exact contains_iff
  have total := t.cardinality_eq
  have positive := t.cardinality_pos
  rw [interval, Set.ncard_coe_finset, Int.card_Icc]
  omega

/-! ## Counting on -/

section Counting
variable {t : IntegerType} {n m : Int}

theorem iterate_wrappingAdd (inType : t.contains n = true) (k : Nat) :
    (fun i => t.wrappingAdd i 1)^[k] n = t.wrap (n + k) := by
  induction k with
  | zero => simpa using (wrap_of_contains inType).symm
  | succ k ih =>
      rw [Function.iterate_succ_apply', ih, wrappingAdd, wrap_wrap_add, Int.add_assoc]
      rfl

/-- Every integer of the type is met after one number of steps below the cardinality. -/
theorem existsUnique_steps (start : t.contains n = true) (goal : t.contains m = true) :
    ∃! k : Nat, (k : Int) < t.cardinality ∧ (fun i => t.wrappingAdd i 1)^[k] n = m := by
  have met : ∀ k : Nat, (fun i => t.wrappingAdd i 1)^[k] n = m ↔
      m ≡ n + k [ZMOD t.cardinality] := by
    intro k
    rw [iterate_wrappingAdd start, wrap_eq_iff, and_iff_right goal]
    rfl
  have positive := t.cardinality_pos
  have nonneg := Int.emod_nonneg (m - n) positive.ne'
  have bound := Int.emod_lt_of_pos (m - n) positive
  refine ⟨((m - n) % t.cardinality).toNat, ⟨by omega, (met _).mpr ?_⟩, ?_⟩
  · rw [Int.toNat_of_nonneg nonneg]
    have same : m - n ≡ (m - n) % t.cardinality [ZMOD t.cardinality] := (Int.mod_modEq _ _).symm
    have shifted := same.add_left n
    rwa [add_sub_cancel] at shifted
  · rintro k ⟨below, reached⟩
    have same : m - n ≡ k [ZMOD t.cardinality] := by
      have shifted := ((met k).mp reached).sub_right n
      rwa [add_sub_cancel_left] at shifted
    have remainder : (m - n) % t.cardinality = k := by
      rw [same]
      exact Int.emod_eq_of_lt (Int.natCast_nonneg k) below
    omega

end Counting

/-- Wrapping as reduction to the residue in the type, and counting on as one cycle. -/
structure WrapsInCycle (t : IntegerType) : Prop where
  masked : ∀ n, t.wrap n = t.masked n
  contained : ∀ n, t.contains (t.wrap n) = true
  congruent : ∀ n, t.wrap n ≡ n [ZMOD 2 ^ t.bits]
  only : ∀ n m, t.contains m = true → m ≡ n [ZMOD 2 ^ t.bits] → m = t.wrap n
  fixed_iff : ∀ n, t.wrap n = n ↔ t.contains n = true
  added : ∀ n a b, t.wrappingAdd (t.wrappingAdd n a) b = t.wrappingAdd n (a + b)
  count : {n | t.contains n = true}.ncard = 2 ^ t.bits ∧
    ({n | t.contains n = true}.ncard : Int) = t.cardinality
  visits : ∀ n, t.contains n = true → ∀ k : Nat,
    t.contains ((fun i => t.wrappingAdd i 1)^[k] n) = true
  once : ∀ n, t.contains n = true → ∀ m, t.contains m = true →
    ∃! k : Nat, (k : Int) < t.cardinality ∧ (fun i => t.wrappingAdd i 1)^[k] n = m
  returns : ∀ n, t.contains n = true →
    (fun i => t.wrappingAdd i 1)^[t.cardinality.toNat] n = n

/-- Every integer type wraps to the one residue that it contains, and counts on in one cycle. -/
theorem wraps_in_one_cycle (t : IntegerType) : t.WrapsInCycle where
  masked := t.wrap_eq_masked
  contained := t.contains_wrap
  congruent n := t.emod_wrap n
  only n m inType congruent := (wrap_eq_iff.mpr ⟨inType, congruent⟩).symm
  fixed_iff n := by
    rw [wrap_eq_iff]
    exact and_iff_left (Int.ModEq.refl n)
  added n a b := by
    rw [wrappingAdd, wrappingAdd, wrappingAdd, wrap_wrap_add, Int.add_assoc]
  count := by
    have total := t.ncard_contains
    refine ⟨?_, total⟩
    rw [cardinality_eq_two_pow] at total
    exact_mod_cast total
  visits n start k := by
    rw [iterate_wrappingAdd start]
    exact t.contains_wrap _
  once n start m goal := existsUnique_steps start goal
  returns n start := by
    rw [iterate_wrappingAdd start, Int.toNat_of_nonneg t.cardinality_pos.le, wrap_eq_iff]
    exact ⟨start, (Int.add_emod_right ..).symm⟩

/-- In a signed byte 200 is written as -56, and counting on from 127 comes to -128. -/
theorem wraps_in_one_cycle_i8 :
    (⟨.i8, .bits64⟩ : IntegerType).wrap 200 = -56 ∧
      (⟨.i8, .bits64⟩ : IntegerType).masked 200 = -56 ∧
        ∃! k : Nat, (k : Int) < 256 ∧
          (fun i => (⟨.i8, .bits64⟩ : IntegerType).wrappingAdd i 1)^[k] 127 = -128 := by
  have wraps := wraps_in_one_cycle ⟨.i8, .bits64⟩
  have low : (⟨.i8, .bits64⟩ : IntegerType).wrap 200 = -56 := by decide
  exact ⟨low, (wraps.masked 200).symm.trans low, wraps.once 127 (by decide) (-128) (by decide)⟩

end IntegerType

end IntegerEnum
