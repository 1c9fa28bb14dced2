import IntegerEnum.ValueRange
import Mathlib.Data.List.Nodup

/-! # Ranges as sets of integers

Two ranges are apart when no integer lies in both. Written out one after the other, ranges that are
pairwise apart list no integer twice, and as many as their sizes add up to. -/
set_option autoImplicit false

namespace IntegerEnum

namespace ValueRange

def Apart (r s : ValueRange) : Prop := ∀ n, r.contains n = true → s.contains n = false

theorem apart_iff {r s : ValueRange} : r.Apart s ↔ r.last < s.start ∨ s.last < r.start := by
  have rNonempty := r.start_le_last
  have sNonempty := s.start_le_last
  constructor
  · intro apart
    by_contra meeting
    have inFirst : r.contains (max r.start s.start) = true := contains_iff.mpr (by omega)
    have inSecond : s.contains (max r.start s.start) = true := contains_iff.mpr (by omega)
    rw [apart _ inFirst] at inSecond
    contradiction
  · intro order n inside
    have bounds := contains_iff.mp inside
    rw [← Bool.not_eq_true, contains_iff]
    omega

theorem Apart.symm {r s : ValueRange} (apart : r.Apart s) : s.Apart r :=
  apart_iff.mpr (apart_iff.mp apart).symm

instance : Std.Symm Apart := ⟨fun _ _ => Apart.symm⟩

@[simp] theorem contains_single {n k : Int} : (single n).contains k = true ↔ k = n := by
  rw [contains_iff, start_single, last_single]
  omega

theorem mem_values {r : ValueRange} {n : Int} : n ∈ r.values ↔ r.contains n = true := by
  rw [values, List.mem_map, contains_iff]
  constructor
  · rintro ⟨i, member, rfl⟩
    have bound := List.mem_range.mp member
    rw [size] at bound
    omega
  · intro bounds
    refine ⟨(n - r.start).toNat, List.mem_range.mpr ?_, ?_⟩
    · rw [size]
      omega
    · omega

theorem length_values (r : ValueRange) : (r.values.length : Int) = r.size := by
  have nonempty := r.start_le_last
  rw [values, List.length_map, List.length_range, size]
  omega

theorem values_ascending (r : ValueRange) : r.values.Pairwise (· < ·) := by
  rw [values, List.pairwise_map]
  refine List.pairwise_lt_range.imp ?_
  intro i j below
  omega

theorem nodup_values (r : ValueRange) : r.values.Nodup := by
  refine r.values_ascending.imp ?_
  intro a b below
  omega

theorem nodup_flatMap_values {ranges : List ValueRange} (apart : ranges.Pairwise Apart) :
    (ranges.flatMap values).Nodup := by
  refine List.nodup_flatMap.mpr ⟨fun r _ => r.nodup_values, apart.imp ?_⟩
  intro r s separate n inFirst inSecond
  have outside := separate n (mem_values.mp inFirst)
  rw [mem_values.mp inSecond] at outside
  contradiction

theorem length_flatMap_values (ranges : List ValueRange) :
    ((ranges.flatMap values).length : Int) =
      ranges.foldr (fun r total => r.size + total) 0 := by
  induction ranges with
  | nil => rfl
  | cons r rest ih =>
      rw [List.flatMap_cons, List.length_append, Int.natCast_add, length_values, ih,
        List.foldr_cons]

end ValueRange

end IntegerEnum
