/-! # Value ranges

A range of integers as it was declared, with its end inside or outside. A range is never empty. -/
set_option autoImplicit false

namespace IntegerEnum

/-- The greatest integer of a range. -/
def lastOf (stop : Int) (inclusive : Bool) : Int := if inclusive then stop else stop - 1

structure ValueRange where
  start : Int
  stop : Int
  inclusive : Bool
  nonempty : start ≤ lastOf stop inclusive
  deriving DecidableEq

namespace ValueRange

def last (r : ValueRange) : Int := lastOf r.stop r.inclusive

theorem start_le_last (r : ValueRange) : r.start ≤ r.last := r.nonempty

def closed (start last : Int) (h : start ≤ last) : ValueRange :=
  ⟨start, last, true, by simpa [lastOf] using h⟩

def single (n : Int) : ValueRange := closed n n (Int.le_refl n)

instance : Inhabited ValueRange := ⟨single 0⟩

@[simp] theorem start_single (n : Int) : (single n).start = n := rfl

@[simp] theorem last_single (n : Int) : (single n).last = n := rfl

/-- How many integers the range holds. -/
def size (r : ValueRange) : Int := r.last - r.start + 1

def isSingle (r : ValueRange) : Bool := r.start = r.last

def contains (r : ValueRange) (n : Int) : Bool := r.start ≤ n && n ≤ r.last

@[simp] theorem contains_iff {r : ValueRange} {n : Int} :
    r.contains n = true ↔ r.start ≤ n ∧ n ≤ r.last := by
  simp [contains]

/-- The same integers, with the end inside. -/
def normalized (r : ValueRange) : ValueRange := closed r.start r.last r.start_le_last

@[simp] theorem start_normalized (r : ValueRange) : r.normalized.start = r.start := rfl

@[simp] theorem last_normalized (r : ValueRange) : r.normalized.last = r.last := rfl

theorem normalized_of_inclusive {r : ValueRange} (h : r.inclusive = true) : r.normalized = r := by
  obtain ⟨start, stop, inclusive, nonempty⟩ := r
  cases h
  rfl

/-- The integers of the range in ascending order. -/
def values (r : ValueRange) : List Int :=
  (List.range r.size.toNat).map fun (i : Nat) => r.start + i

def text (r : ValueRange) : String :=
  if r.isSingle then toString r.start else s!"{r.start}..={r.last}"

/-- Why no range has these bounds. -/
def emptyMessage (start stop : Int) (inclusive : Bool) : String :=
  let mark := if inclusive then "..=" else ".."
  s!"range {start}{mark}{stop} contains no values"

end ValueRange

end IntegerEnum
