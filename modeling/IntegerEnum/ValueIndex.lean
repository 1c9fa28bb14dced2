/-! # Claimed values

The values claimed so far as disjoint intervals in ascending order, each with its owner. `clash?`
gives the least value of an interval that is already claimed, with its owner; `insert` adds an
interval that clashes with none.

The index can be kept as three lists side by side: the first values, the last values and the owners.
A query then bisects the last values, and an insertion bisects the first ones. In an ordered index
both lists ascend, so each bisection finds the place where a walk along the claims stops, and the
columns remain those of the walked index. -/
set_option autoImplicit false

namespace IntegerEnum

structure Claim where
  start : Int
  last : Int
  owner : String
  deriving DecidableEq, Inhabited

abbrev ValueIndex := List Claim

namespace ValueIndex

def clash? (start last : Int) : ValueIndex → Option (Int × String)
  | [] => none
  | c :: rest =>
    if c.last < start then clash? start last rest
    else if c.start ≤ last then some (max c.start start, c.owner)
    else none

def insert (claim : Claim) : ValueIndex → ValueIndex
  | [] => [claim]
  | c :: rest => if c.start < claim.start then c :: insert claim rest else claim :: c :: rest

/-- Adds the claim when nothing of it is taken, and otherwise tells what is. -/
def claim (index : ValueIndex) (c : Claim) : Except (Int × String) ValueIndex :=
  match index.clash? c.start c.last with
  | some clash => .error clash
  | none => .ok (index.insert c)

/-- The intervals hold something and stand in ascending order, each ending before the next begins.
-/
structure Ordered (index : ValueIndex) : Prop where
  nonempty : ∀ c ∈ index, c.start ≤ c.last
  ascending : index.Pairwise fun a b => a.last < b.start

/-! ## Bisection -/

/-- The first position from `low` to `high` with a value that is not below `n`, found by halving. -/
def bisectFrom (values : List Int) (n : Int) (low high : Nat) (inside : high ≤ values.length) :
    Nat :=
  if unsettled : low < high then
    if values[(low + high) / 2] < n then bisectFrom values n ((low + high) / 2 + 1) high inside
    else bisectFrom values n low ((low + high) / 2) (by omega)
  else low
termination_by high - low

def bisect (values : List Int) (n : Int) : Nat :=
  bisectFrom values n 0 values.length (Nat.le_refl _)

/-- The values before the place are below `n`, and no other is. -/
structure Cuts (values : List Int) (n : Int) (place : Nat) : Prop where
  inside : place ≤ values.length
  below_iff : ∀ i (h : i < values.length), values[i] < n ↔ i < place

theorem getElem_le_getElem {values : List Int} (ascending : values.Pairwise (· ≤ ·)) {i j : Nat}
    (h : j < values.length) (before : i ≤ j) : values[i] ≤ values[j] := by
  rcases Nat.lt_or_eq_of_le before with earlier | rfl
  · exact List.pairwise_iff_getElem.mp ascending i j (by omega) h earlier
  · exact Int.le_refl _

theorem cuts_bisectFrom {values : List Int} {n : Int} (ascending : values.Pairwise (· ≤ ·))
    (low high : Nat) (inside : high ≤ values.length) (order : low ≤ high)
    (below : ∀ i (h : i < values.length), i < low → values[i] < n)
    (above : ∀ i (h : i < values.length), high ≤ i → n ≤ values[i]) :
    Cuts values n (bisectFrom values n low high inside) := by
  fun_induction bisectFrom values n low high inside with
  | case1 low high inside unsettled less ih =>
      apply ih (by omega) _ above
      intro i h before
      exact Int.lt_of_le_of_lt (getElem_le_getElem ascending (by omega) (by omega)) less
  | case2 low high inside unsettled notLess ih =>
      apply ih (by omega) below
      intro i h after
      exact Int.le_trans (Int.not_lt.mp notLess) (getElem_le_getElem ascending h after)
  | case3 low high inside settled =>
      refine ⟨by omega, ?_⟩
      intro i h
      constructor
      · intro less
        rcases Nat.lt_or_ge i low with before | after
        · exact before
        · exact absurd less (Int.not_lt.mpr (above i h (by omega)))
      · exact below i h

theorem cuts_bisect {values : List Int} (ascending : values.Pairwise (· ≤ ·)) (n : Int) :
    Cuts values n (bisect values n) :=
  cuts_bisectFrom ascending 0 values.length (Nat.le_refl _) (Nat.zero_le _)
    (fun _ _ before => absurd before (Nat.not_lt_zero _)) fun _ h after => absurd h (by omega)

/-- Behind a head that is cut off, the rest is cut one place earlier. -/
theorem Cuts.cases {value : Int} {rest : List Int} {n : Int} {place : Nat}
    (cuts : Cuts (value :: rest) n place) :
    n ≤ value ∧ place = 0 ∨ value < n ∧ ∃ next, place = next + 1 ∧ Cuts rest n next := by
  have head := cuts.below_iff 0 (by simp)
  rw [List.getElem_cons_zero] at head
  cases place with
  | zero => exact Or.inl ⟨by omega, rfl⟩
  | succ next =>
      refine Or.inr ⟨by omega, next, rfl, Nat.le_of_succ_le_succ cuts.inside, ?_⟩
      intro i h
      have later := cuts.below_iff (i + 1) (Nat.succ_lt_succ h)
      rw [List.getElem_cons_succ] at later
      omega

/-! ## Walks stop where bisections do -/

theorem clash?_eq_getElem? {start last : Int} : ∀ {index : ValueIndex} {place : Nat},
    Cuts (index.map Claim.last) start place →
      clash? start last index =
        match index[place]? with
        | some c => if c.start ≤ last then some (max c.start start, c.owner) else none
        | none => none := by
  intro index
  induction index with
  | nil => intro place _; rfl
  | cons c rest ih =>
      intro place cuts
      rw [List.map_cons] at cuts
      rcases cuts.cases with ⟨notBelow, rfl⟩ | ⟨below, next, rfl, restCuts⟩
      · rw [clash?, if_neg (by omega)]
        rfl
      · rw [clash?, if_pos below, ih restCuts, List.getElem?_cons_succ]

theorem insert_eq_insertIdx {c : Claim} : ∀ {index : ValueIndex} {place : Nat},
    Cuts (index.map Claim.start) c.start place → insert c index = index.insertIdx place c := by
  intro index
  induction index with
  | nil =>
      intro place cuts
      rw [Nat.le_zero.mp cuts.inside]
      rfl
  | cons head rest ih =>
      intro place cuts
      rw [List.map_cons] at cuts
      rcases cuts.cases with ⟨notBelow, rfl⟩ | ⟨below, next, rfl, restCuts⟩
      · rw [insert, if_neg (by omega), List.insertIdx_zero]
      · rw [insert, if_pos below, ih restCuts, List.insertIdx_succ_cons]

theorem Ordered.starts_ascending {index : ValueIndex} (ordered : Ordered index) :
    (index.map Claim.start).Pairwise (· ≤ ·) := by
  rw [List.pairwise_map]
  refine ordered.ascending.imp_of_mem ?_
  intro a b aMember _ before
  have held := ordered.nonempty a aMember
  omega

theorem Ordered.lasts_ascending {index : ValueIndex} (ordered : Ordered index) :
    (index.map Claim.last).Pairwise (· ≤ ·) := by
  rw [List.pairwise_map]
  refine ordered.ascending.imp_of_mem ?_
  intro a b _ bMember before
  have held := ordered.nonempty b bMember
  omega

/-! ## Columns -/

/-- Claims as three lists, a claim to each position. -/
structure Columns where
  starts : List Int := []
  lasts : List Int := []
  owners : List String := []

def columns (index : ValueIndex) : Columns where
  starts := index.map Claim.start
  lasts := index.map Claim.last
  owners := index.map Claim.owner

/-- Makes the claim when nothing of it is taken, and is left as it was otherwise. -/
def offer (index : ValueIndex) (c : Claim) : ValueIndex :=
  match index.claim c with
  | .ok next => next
  | .error _ => index

def run (claims : List Claim) : ValueIndex := claims.foldl offer []

namespace Columns

def rows (k : Columns) : List Claim :=
  ((k.starts.zip k.lasts).zip k.owners).map fun ((start, last), owner) => ⟨start, last, owner⟩

def clash? (k : Columns) (start last : Int) : Option (Int × String) :=
  let place := bisect k.lasts start
  match k.starts[place]?, k.owners[place]? with
  | some first, some owner => if first ≤ last then some (max first start, owner) else none
  | _, _ => none

def insert (k : Columns) (c : Claim) : Columns :=
  let place := bisect k.starts c.start
  { starts := k.starts.insertIdx place c.start
    lasts := k.lasts.insertIdx place c.last
    owners := k.owners.insertIdx place c.owner }

/-- Inserts the claim when nothing of it is taken, and is left as it was otherwise. -/
def offer (k : Columns) (c : Claim) : Columns :=
  if (k.clash? c.start c.last).isNone then k.insert c else k

def run (claims : List Claim) : Columns := claims.foldl offer {}

/-- The claims of a run that meet no clash. -/
def accepted (k : Columns) : List Claim → List Claim
  | [] => []
  | c :: rest =>
    if (k.clash? c.start c.last).isNone then c :: accepted (k.offer c) rest
    else accepted (k.offer c) rest

end Columns

theorem rows_columns (index : ValueIndex) : index.columns.rows = index := by
  induction index with
  | nil => rfl
  | cons c rest ih => exact congrArg (c :: ·) ih

theorem clash?_columns {index : ValueIndex} (ordered : Ordered index) (start last : Int) :
    index.columns.clash? start last = clash? start last index := by
  rw [clash?_eq_getElem? (cuts_bisect ordered.lasts_ascending start), Columns.clash?]
  simp only [columns, List.getElem?_map]
  cases index[bisect (index.map Claim.last) start]? <;> rfl

end ValueIndex

end IntegerEnum
