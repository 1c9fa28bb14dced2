import IntegerEnum.Proofs.ValueIndex
import Mathlib.Data.List.InsertIdx

/-! # Runs of claims

Claims are offered one after another, and one that meets a clash changes nothing. A run over columns
goes as the run over the walked index, so it leaves exactly the accepted claims and answers by
them. -/
set_option autoImplicit false

namespace IntegerEnum

/-- A claim that holds something misses an interval that holds something when they share nothing. -/
theorem Claim.misses_iff {c : Claim} {start last : Int} (nonempty : c.start ≤ c.last)
    (asked : start ≤ last) :
    c.Misses start last ↔ ∀ n, start ≤ n → n ≤ last → c.covers n = false := by
  constructor
  · intro misses n lower upper
    apply Claim.covers_eq_false
    rcases misses with ends | begins <;> omega
  · intro apart
    by_contra meeting
    rw [Misses] at meeting
    have covered : c.covers (max c.start start) = true := Claim.covers_iff.mpr (by omega)
    rw [apart _ (by omega) (by omega)] at covered
    contradiction

namespace ValueIndex

namespace Columns

/-- The columns hold the claims and nothing else, and queries are answered from them. -/
structure Exact (k : Columns) (claims : List Claim) : Prop where
  lasts_length : k.lasts.length = k.starts.length
  owners_length : k.owners.length = k.starts.length
  ascending : ∀ (i : Nat) start last, k.starts[i]? = some start → k.lasts[i]? = some last →
    start ≤ last ∧ ∀ (j : Nat) next, i < j → k.starts[j]? = some next → last < next
  rows_perm : k.rows.Perm claims
  free_iff : ∀ start last, start ≤ last →
    (k.clash? start last = none ↔
      ∀ n, start ≤ n → n ≤ last → ∀ c ∈ claims, c.covers n = false)
  clash : ∀ start last n owner, start ≤ last → k.clash? start last = some (n, owner) →
    (start ≤ n ∧ n ≤ last) ∧
      (∃ c, claims.filter (fun c => c.covers n) = [c] ∧ c.owner = owner) ∧
        ∀ m, start ≤ m → m < n → ∀ c ∈ claims, c.covers m = false

end Columns

section Steps
variable {index : ValueIndex} {c : Claim}

theorem insert_columns (ordered : Ordered index) (c : Claim) :
    index.columns.insert c = (index.insert c).columns := by
  rw [insert_eq_insertIdx (cuts_bisect ordered.starts_ascending c.start)]
  simp only [Columns.insert, columns, List.map_insertIdx]

/-- On an ordered index the offer of a claim changes the columns as it changes the index. -/
theorem offer_columns (ordered : Ordered index) (c : Claim) :
    index.columns.offer c = (index.offer c).columns := by
  rw [Columns.offer, clash?_columns ordered, insert_columns ordered, offer, claim]
  cases clash? c.start c.last index <;> rfl

theorem ordered_offer (ordered : Ordered index) (nonempty : c.start ≤ c.last) :
    Ordered (index.offer c) := by
  rw [offer]
  cases made : index.claim c with
  | error clash => exact ordered
  | ok next =>
      obtain ⟨free, rfl⟩ := (claim_eq_ok_iff ordered).mp made
      exact ordered_insert ordered nonempty free

end Steps

/-! ## Runs -/

theorem ordered_foldl_offer : ∀ (claims : List Claim) {index : ValueIndex}, Ordered index →
    (∀ c ∈ claims, c.start ≤ c.last) → Ordered (claims.foldl offer index) := by
  intro claims
  induction claims with
  | nil => intro index ordered _; exact ordered
  | cons c rest ih =>
      intro index ordered nonempty
      obtain ⟨own, later⟩ := List.forall_mem_cons.mp nonempty
      exact ih (ordered_offer ordered own) later

theorem foldl_offer_columns : ∀ (claims : List Claim) {index : ValueIndex}, Ordered index →
    (∀ c ∈ claims, c.start ≤ c.last) →
      claims.foldl Columns.offer index.columns = (claims.foldl offer index).columns := by
  intro claims
  induction claims with
  | nil => intro index _ _; rfl
  | cons c rest ih =>
      intro index ordered nonempty
      obtain ⟨own, later⟩ := List.forall_mem_cons.mp nonempty
      rw [List.foldl_cons, List.foldl_cons, offer_columns ordered,
        ih (ordered_offer ordered own) later]

theorem foldl_offer_perm : ∀ (claims : List Claim) {index : ValueIndex}, Ordered index →
    (∀ c ∈ claims, c.start ≤ c.last) →
      (claims.foldl offer index).Perm (index ++ Columns.accepted index.columns claims) := by
  intro claims
  induction claims with
  | nil =>
      intro index _ _
      rw [Columns.accepted, List.append_nil]
      exact List.Perm.refl _
  | cons c rest ih =>
      intro index ordered nonempty
      obtain ⟨own, later⟩ := List.forall_mem_cons.mp nonempty
      have restPerm := ih (ordered_offer ordered own) later
      rw [List.foldl_cons, Columns.accepted, offer_columns ordered, clash?_columns ordered]
      cases found : clash? c.start c.last index with
      | some clash =>
          have same : index.offer c = index := by rw [offer, claim, found]
          rw [same] at restPerm ⊢
          exact restPerm
      | none =>
          have added : index.offer c = index.insert c := by rw [offer, claim, found]
          rw [added] at restPerm ⊢
          refine restPerm.trans (((insert_perm c index).append_right _).trans ?_)
          exact List.perm_middle.symm

namespace Columns

theorem run_append (claims : List Claim) (c : Claim) :
    run (claims ++ [c]) = (run claims).offer c := by
  rw [run, List.foldl_append]
  rfl

theorem accepted_append (c : Claim) : ∀ (claims : List Claim) (k : Columns),
    accepted k (claims ++ [c]) =
      accepted k claims ++ accepted (claims.foldl offer k) [c] := by
  intro claims
  induction claims with
  | nil => intro k; rfl
  | cons head rest ih =>
      intro k
      rw [List.cons_append, accepted, accepted, ih, List.foldl_cons]
      split
      · rfl
      · rfl

/-- What a run leaves holds exactly the accepted claims, as the walked index does; a further claim
that meets no clash is added, and a claim that meets one changes nothing. -/
structure KeepsAccepted (claims : List Claim) : Prop where
  exact : (run claims).Exact (accepted {} claims)
  walked : (run claims).rows = ValueIndex.run claims
  answers : ∀ start last,
    (run claims).clash? start last = ValueIndex.clash? start last (ValueIndex.run claims)
  added : ∀ c, (run claims).clash? c.start c.last = none →
    run (claims ++ [c]) = (run claims).insert c ∧
      accepted {} (claims ++ [c]) = accepted {} claims ++ [c]
  refused : ∀ c clash, (run claims).clash? c.start c.last = some clash →
    run (claims ++ [c]) = run claims ∧ accepted {} (claims ++ [c]) = accepted {} claims

theorem exact_columns {index : ValueIndex} {claims : List Claim} (ordered : Ordered index)
    (perm : index.Perm claims) : index.columns.Exact claims where
  lasts_length := by simp [columns]
  owners_length := by simp [columns]
  ascending := by
    intro i start last startAt lastAt
    simp only [columns, List.getElem?_map] at startAt lastAt
    obtain ⟨c, place, rfl⟩ := Option.map_eq_some_iff.mp startAt
    rw [place] at lastAt
    cases lastAt
    refine ⟨ordered.nonempty c (List.mem_of_getElem? place), ?_⟩
    intro j next later nextAt
    simp only [columns, List.getElem?_map] at nextAt
    obtain ⟨d, nextPlace, rfl⟩ := Option.map_eq_some_iff.mp nextAt
    obtain ⟨hi, rfl⟩ := List.getElem?_eq_some_iff.mp place
    obtain ⟨hj, rfl⟩ := List.getElem?_eq_some_iff.mp nextPlace
    exact List.pairwise_iff_getElem.mp ordered.ascending i j hi hj later
  rows_perm := by rwa [rows_columns]
  free_iff := by
    intro start last asked
    rw [clash?_columns ordered, clash?_eq_none_iff ordered]
    constructor
    · intro misses n lower upper c member
      have held := perm.mem_iff.mpr member
      exact (Claim.misses_iff (ordered.nonempty c held) asked).mp (misses c held) n lower upper
    · intro apart c member
      refine (Claim.misses_iff (ordered.nonempty c member) asked).mpr ?_
      exact fun n lower upper => apart n lower upper c (perm.mem_iff.mp member)
  clash := by
    intro start last n owner asked found
    rw [clash?_columns ordered] at found
    obtain ⟨inside, ⟨c, alone, owned⟩, least⟩ := clash?_eq_some ordered asked found
    refine ⟨inside, ⟨c, ?_, owned⟩, ?_⟩
    · rw [← List.perm_singleton, ← alone]
      exact (perm.filter _).symm
    · exact fun m lower upper c member => least m lower upper c (perm.mem_iff.mpr member)

/-- After any run of claims the columns hold exactly the accepted ones and answer by them. -/
theorem run_keeps_accepted (claims : List Claim) (nonempty : ∀ c ∈ claims, c.start ≤ c.last) :
    KeepsAccepted claims := by
  have ordered := ordered_foldl_offer claims ordered_nil nonempty
  have sameRun : run claims = (ValueIndex.run claims).columns :=
    foldl_offer_columns claims ordered_nil nonempty
  have perm := foldl_offer_perm claims ordered_nil nonempty
  refine
    { exact := by rw [sameRun]; exact exact_columns ordered perm
      walked := by rw [sameRun, rows_columns]
      answers := fun start last => by rw [sameRun]; exact clash?_columns ordered start last
      added := ?_
      refused := ?_ }
  · intro c free
    rw [run_append, accepted_append, offer, free]
    refine ⟨rfl, ?_⟩
    change accepted {} claims ++ accepted (run claims) [c] = _
    rw [accepted, free]
    rfl
  · intro c clash found
    rw [run_append, accepted_append, offer, found]
    refine ⟨rfl, ?_⟩
    change accepted {} claims ++ accepted (run claims) [c] = _
    rw [accepted, found]
    exact List.append_nil _

def touching : List Claim := [⟨10, 20, "A"⟩, ⟨0, 5, "B"⟩, ⟨5, 12, "C"⟩]

theorem run_keeps_accepted_touching :
    (∀ c ∈ touching, c.start ≤ c.last) ∧
      (run touching).rows = [⟨0, 5, "B"⟩, ⟨10, 20, "A"⟩] ∧
        (run touching).Exact (accepted {} touching) ∧
          (run touching).clash? 6 15 = some (10, "A") := by
  have keeps := run_keeps_accepted touching (by decide)
  exact ⟨by decide, keeps.walked, keeps.exact, (keeps.answers 6 15).trans (by decide)⟩

end Columns

end ValueIndex

end IntegerEnum
