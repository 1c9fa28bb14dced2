import IntegerEnum.Proofs.Ownership
import Mathlib.Data.List.Flatten

/-! # How often an integer is listed

`timesIn` counts the ranges of a list that hold an integer, so it does not depend on their order.
Ranges are pairwise apart exactly when no integer is counted twice, and they lie in a type exactly
when no other integer is counted at all. Whether a declaration is well formed is therefore a matter
of these counts: ranges that are reordered, written otherwise or cut into pieces keep them. -/
set_option autoImplicit false

namespace IntegerEnum

namespace ValueRange

/-- How many of the ranges hold the integer. -/
def timesIn (n : Int) (ranges : List ValueRange) : Nat := ranges.countP fun r => r.contains n

section Counting
variable {n : Int} {r : ValueRange} {ranges others : List ValueRange}

theorem timesIn_cons (n : Int) (r : ValueRange) (ranges : List ValueRange) :
    timesIn n (r :: ranges) = timesIn n ranges + if r.contains n then 1 else 0 :=
  List.countP_cons ..

theorem timesIn_flatMap {α : Type} (n : Int) (l : List α) (f : α → List ValueRange) :
    timesIn n (l.flatMap f) = (l.map fun a => timesIn n (f a)).sum :=
  List.countP_flatMap

theorem timesIn_perm (same : ranges.Perm others) (n : Int) : timesIn n ranges = timesIn n others :=
  same.countP_eq _

theorem timesIn_eq_zero_iff : timesIn n ranges = 0 ↔ ∀ r ∈ ranges, r.contains n = false := by
  rw [timesIn, List.countP_eq_zero]
  simp only [Bool.not_eq_true]

theorem timesIn_pos_iff : 0 < timesIn n ranges ↔ ∃ r ∈ ranges, r.contains n = true :=
  List.countP_pos_iff

theorem contains_start (r : ValueRange) : r.contains r.start = true :=
  contains_iff.mpr ⟨Int.le_refl _, r.start_le_last⟩

theorem contains_last (r : ValueRange) : r.contains r.last = true :=
  contains_iff.mpr ⟨r.start_le_last, Int.le_refl _⟩

theorem eq_nil_iff_timesIn : ranges = [] ↔ ∀ n, timesIn n ranges = 0 := by
  constructor
  · intro empty n
    rw [empty]
    rfl
  · intro uncounted
    apply List.eq_nil_iff_forall_not_mem.mpr
    intro r member
    have outside := timesIn_eq_zero_iff.mp (uncounted r.start) r member
    rw [r.contains_start] at outside
    contradiction

end Counting

theorem pairwise_apart_iff : ∀ {ranges : List ValueRange},
    ranges.Pairwise Apart ↔ ∀ n, timesIn n ranges ≤ 1 := by
  intro ranges
  induction ranges with
  | nil => exact iff_of_true List.Pairwise.nil fun _ => Nat.zero_le 1
  | cons r rest ih =>
      rw [List.pairwise_cons, ih]
      constructor
      · intro apart n
        obtain ⟨fromHead, inRest⟩ := apart
        have restFew := inRest n
        rw [timesIn_cons]
        by_cases inside : r.contains n = true
        · have missed : timesIn n rest = 0 :=
            timesIn_eq_zero_iff.mpr fun s member => fromHead s member n inside
          rw [if_pos inside, missed]
        · rw [if_neg inside]
          exact restFew
      · intro few
        constructor
        · intro s member n inside
          rw [← Bool.not_eq_true]
          intro inOther
          -- the integer is counted for the head and for the range after it
          have counted := few n
          have positive := timesIn_pos_iff.mpr ⟨s, member, inOther⟩
          rw [timesIn_cons, if_pos inside] at counted
          omega
        · intro n
          have counted := few n
          rw [timesIn_cons] at counted
          omega

theorem forall_holds_iff {t : IntegerType} {ranges : List ValueRange} :
    (∀ r ∈ ranges, t.Holds r) ↔ ∀ n, t.contains n = false → timesIn n ranges = 0 := by
  constructor
  · intro holds n outside
    apply timesIn_eq_zero_iff.mpr
    intro r member
    rw [← Bool.not_eq_true]
    intro inside
    rw [(holds r member).contains inside] at outside
    contradiction
  · intro uncounted r member
    have inType : ∀ n, r.contains n = true → t.contains n = true := by
      intro n inside
      rw [← Bool.not_eq_false]
      intro outside
      rw [timesIn_eq_zero_iff.mp (uncounted n outside) r member] at inside
      contradiction
    exact ⟨inType r.start r.contains_start, inType r.last r.contains_last⟩

/-! ## Partitions -/

/-- The pieces hold the integers of the whole range and no other ones, each in one piece. -/
structure Partition (whole : ValueRange) (pieces : List ValueRange) : Prop where
  apart : pieces.Pairwise Apart
  covers : ∀ n, whole.contains n = true ↔ ∃ r ∈ pieces, r.contains n = true

theorem Partition.timesIn_eq {whole : ValueRange} {pieces : List ValueRange}
    (partition : whole.Partition pieces) (n : Int) : timesIn n pieces = timesIn n [whole] := by
  have few := pairwise_apart_iff.mp partition.apart n
  rw [timesIn_cons]
  by_cases inside : whole.contains n = true
  · have positive := timesIn_pos_iff.mpr ((partition.covers n).mp inside)
    rw [if_pos inside]
    change timesIn n pieces = 1
    omega
  · rw [if_neg inside]
    apply timesIn_eq_zero_iff.mpr
    intro r member
    rw [← Bool.not_eq_true]
    intro inPiece
    exact inside ((partition.covers n).mpr ⟨r, member, inPiece⟩)

theorem Partition.self (r : ValueRange) : r.Partition [r] where
  apart := List.pairwise_singleton ..
  covers n := by simp only [List.mem_singleton, exists_eq_left]

/-- A piece at the beginning goes before the pieces of what comes directly after it. -/
theorem Partition.cons {whole piece later : ValueRange} {pieces : List ValueRange}
    (rest : later.Partition pieces) (starts : piece.start = whole.start)
    (joins : piece.last + 1 = later.start) (ends : later.last = whole.last) :
    whole.Partition (piece :: pieces) where
  apart := by
    apply List.pairwise_cons.mpr
    refine ⟨?_, rest.apart⟩
    intro r member n inside
    rw [← Bool.not_eq_true]
    intro inLater
    -- the pieces after it begin where the range after it does
    have first := contains_iff.mp inside
    have second := contains_iff.mp ((rest.covers n).mpr ⟨r, member, inLater⟩)
    omega
  covers n := by
    have pieceNonempty := piece.start_le_last
    have laterNonempty := later.start_le_last
    rw [List.exists_mem_cons_iff, ← rest.covers n]
    simp only [contains_iff]
    omega

end ValueRange

/-! ## Declarations by their counts -/

namespace EnumDecl
open ValueRange

/-- An integer of the type may be listed once, and any other integer not at all. What else is asked
of a declaration does not look at its values. -/
theorem wellFormed_iff_timesIn {d : EnumDecl} :
    d.WellFormed ↔
      (∀ n, timesIn n d.listedRanges ≤ if d.integerType.contains n then 1 else 0) ∧
        d.fallbackCount ≤ 1 ∧ (∀ v ∈ d.variants, v.Shaped d.integerType) ∧
          d.errorTypes.length ≤ 1 := by
  have counts : (∀ n, timesIn n d.listedRanges ≤ if d.integerType.contains n then 1 else 0) ↔
      (∀ r ∈ d.listedRanges, d.integerType.Holds r) ∧ d.listedRanges.Pairwise Apart := by
    rw [forall_holds_iff, pairwise_apart_iff, ← forall_and]
    refine forall_congr' fun n => ?_
    cases d.integerType.contains n with
    | true => simp
    | false => simp +contextual
  rw [counts, holds_listedRanges_iff, shaped_iff, fallbackCount, ← countP_isFallback]
  constructor
  · intro h
    exact ⟨⟨⟨h.explicitInType, h.alternativesInType⟩, h.apart⟩, h.oneFallback,
      ⟨h.catchAllShape, h.unitShape⟩, h.oneErrorType⟩
  · intro h
    obtain ⟨⟨⟨explicitInType, alternativesInType⟩, apart⟩, oneFallback, shapes, oneErrorType⟩ := h
    exact ⟨explicitInType, alternativesInType, apart, oneFallback, shapes.1, shapes.2,
      oneErrorType⟩

end EnumDecl

end IntegerEnum
