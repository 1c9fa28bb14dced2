import IntegerEnum.ValueIndex
import Mathlib.Data.List.Pairwise

/-! # The index of claimed values

`Ordered` is the invariant of the index: its intervals hold something and stand in ascending order,
each ending before the next begins. On an ordered index `clash?` finds nothing exactly when the
interval asked about misses every claim, and otherwise the least integer taken with its one owner;
inserting an interval that misses every claim keeps the order. -/
set_option autoImplicit false

namespace IntegerEnum

/-- The claim shares no integer with `start..=last`. -/
def Claim.Misses (c : Claim) (start last : Int) : Prop := c.last < start ∨ last < c.start

def Claim.covers (c : Claim) (n : Int) : Bool := c.start ≤ n && n ≤ c.last

theorem Claim.covers_iff {c : Claim} {n : Int} :
    c.covers n = true ↔ c.start ≤ n ∧ n ≤ c.last := by
  simp [covers]

theorem Claim.covers_eq_false {c : Claim} {n : Int} (outside : n < c.start ∨ c.last < n) :
    c.covers n = false := by
  rw [← Bool.not_eq_true, covers_iff]
  omega

namespace ValueIndex

theorem ordered_nil : Ordered [] := ⟨by simp, List.Pairwise.nil⟩

theorem ordered_cons {c : Claim} {rest : ValueIndex} :
    Ordered (c :: rest) ↔
      c.start ≤ c.last ∧ (∀ next ∈ rest, c.last < next.start) ∧ Ordered rest := by
  constructor
  · rintro ⟨nonempty, ascending⟩
    obtain ⟨below, restAscending⟩ := List.pairwise_cons.mp ascending
    exact ⟨nonempty c (List.mem_cons_self ..), below,
      fun next member => nonempty next (List.mem_cons_of_mem _ member), restAscending⟩
  · rintro ⟨headNonempty, below, restOrdered⟩
    refine ⟨?_, List.pairwise_cons.mpr ⟨below, restOrdered.ascending⟩⟩
    intro next member
    rcases List.mem_cons.mp member with rfl | member
    · exact headNonempty
    · exact restOrdered.nonempty next member

theorem clash?_eq_none_iff {start last : Int} {index : ValueIndex} (ordered : Ordered index) :
    clash? start last index = none ↔ ∀ c ∈ index, c.Misses start last := by
  induction index with
  | nil => simp [clash?]
  | cons c rest ih =>
      obtain ⟨headNonempty, below, restOrdered⟩ := ordered_cons.mp ordered
      rw [clash?, List.forall_mem_cons]
      by_cases before : c.last < start
      · rw [if_pos before, ih restOrdered]
        exact ⟨fun misses => ⟨Or.inl before, misses⟩, And.right⟩
      · rw [if_neg before]
        by_cases meeting : c.start ≤ last
        · rw [if_pos meeting]
          refine iff_of_false (by simp) ?_
          rintro ⟨headMisses | headMisses, _⟩ <;> omega
        · -- every later claim begins after this one, so it lies beyond `last` as well
          rw [if_neg meeting]
          refine iff_of_true rfl ⟨Or.inr (by omega), ?_⟩
          intro next member
          have later := below next member
          exact Or.inr (by omega)

/-- A clash is the least integer asked about that is taken, and the one claim that takes it. -/
theorem clash?_eq_some {start last n : Int} {owner : String} {index : ValueIndex}
    (ordered : Ordered index) (nonempty : start ≤ last)
    (found : clash? start last index = some (n, owner)) :
    (start ≤ n ∧ n ≤ last) ∧ (∃ c, index.filter (fun c => c.covers n) = [c] ∧ c.owner = owner) ∧
      ∀ k, start ≤ k → k < n → ∀ c ∈ index, c.covers k = false := by
  induction index with
  | nil => cases found
  | cons c rest ih =>
      obtain ⟨headNonempty, below, restOrdered⟩ := ordered_cons.mp ordered
      rw [clash?] at found
      by_cases before : c.last < start
      · rw [if_pos before] at found
        obtain ⟨inside, ⟨one, alone, owned⟩, least⟩ := ih restOrdered found
        refine ⟨inside, ⟨one, ?_, owned⟩, ?_⟩
        · have headMisses : c.covers n = false := Claim.covers_eq_false (by omega)
          rw [List.filter_cons, headMisses, if_neg Bool.false_ne_true, alone]
        · intro k lower upper
          rw [List.forall_mem_cons]
          exact ⟨Claim.covers_eq_false (by omega), least k lower upper⟩
      · rw [if_neg before] at found
        by_cases meeting : c.start ≤ last
        · rw [if_pos meeting] at found
          cases found
          -- the head takes the clash, and every later claim begins after the head ends
          have headCovers : c.covers (max c.start start) = true :=
            Claim.covers_iff.mpr (by omega)
          have restMisses : ∀ k, k ≤ c.last → ∀ next ∈ rest, next.covers k = false := by
            intro k bound next member
            have later := below next member
            exact Claim.covers_eq_false (by omega)
          refine ⟨by omega, ⟨c, ?_, rfl⟩, ?_⟩
          · have noneLater : rest.filter (fun next => next.covers (max c.start start)) = [] := by
              rw [List.filter_eq_nil_iff]
              intro next member
              rw [restMisses _ (by omega) next member]
              exact Bool.false_ne_true
            rw [List.filter_cons, headCovers, if_pos rfl, noneLater]
          · intro k lower upper
            rw [List.forall_mem_cons]
            exact ⟨Claim.covers_eq_false (by omega), restMisses k (by omega)⟩
        · rw [if_neg meeting] at found
          cases found

theorem insert_perm (c : Claim) : ∀ index : ValueIndex, (insert c index).Perm (c :: index) := by
  intro index
  induction index with
  | nil => exact List.Perm.refl _
  | cons head rest ih =>
      rw [insert]
      split
      · exact (ih.cons head).trans (List.Perm.swap c head rest)
      · exact List.Perm.refl _

theorem mem_insert {c next : Claim} {index : ValueIndex} :
    next ∈ insert c index ↔ next = c ∨ next ∈ index := by
  rw [(insert_perm c index).mem_iff, List.mem_cons]

theorem ordered_insert {c : Claim} {index : ValueIndex} (ordered : Ordered index)
    (nonempty : c.start ≤ c.last) (free : ∀ next ∈ index, next.Misses c.start c.last) :
    Ordered (insert c index) := by
  induction index with
  | nil => exact ordered_cons.mpr ⟨nonempty, by simp, ordered_nil⟩
  | cons head rest ih =>
      obtain ⟨headNonempty, below, restOrdered⟩ := ordered_cons.mp ordered
      obtain ⟨headFree, restFree⟩ := List.forall_mem_cons.mp free
      rw [insert]
      by_cases before : head.start < c.start
      · rw [if_pos before]
        refine ordered_cons.mpr ⟨headNonempty, ?_, ih restOrdered restFree⟩
        intro next member
        rcases mem_insert.mp member with rfl | member
        · rcases headFree with ends | begins <;> omega
        · exact below next member
      · rw [if_neg before]
        refine ordered_cons.mpr ⟨nonempty, ?_, ordered⟩
        have headBeyond : c.last < head.start := by
          rcases headFree with ends | begins <;> omega
        intro next member
        rcases List.mem_cons.mp member with rfl | member
        · exact headBeyond
        · have later := below next member
          omega

/-- On an ordered index a claim is refused or keeps the order and adds itself. -/
theorem claim_eq_ok_iff {c : Claim} {index next : ValueIndex} (ordered : Ordered index) :
    index.claim c = .ok next ↔
      (∀ other ∈ index, other.Misses c.start c.last) ∧ next = index.insert c := by
  rw [claim, ← clash?_eq_none_iff ordered]
  cases found : index.clash? c.start c.last with
  | none => simp [eq_comm]
  | some clash => simp

end ValueIndex

end IntegerEnum
