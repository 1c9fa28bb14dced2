import IntegerEnum.Proofs.Chain
import IntegerEnum.Proofs.ValueIndex

/-! # Claiming the values of a declaration

One step claims an entry when its bounds lie in the type and no claim met so far shares an integer
with it. From this a whole run succeeds exactly when every entry lies in the type and the entries
are pairwise apart; a run that fails reports a value out of range or a collision.

Resolution goes variant by variant and checks declared values only. An implied value lies in the
type anyway, so the outcome is that of one run over all entries, each of them checked. -/
set_option autoImplicit false

namespace IntegerEnum

/-- Both bounds of the range lie in the type. -/
def IntegerType.Holds (t : IntegerType) (r : ValueRange) : Prop :=
  t.contains r.start = true ∧ t.contains r.last = true

theorem IntegerType.holds_single {t : IntegerType} {n : Int} :
    t.Holds (.single n) ↔ t.contains n = true := by
  rw [Holds, ValueRange.start_single, ValueRange.last_single, and_self]

namespace Entry

def claim (e : Entry) : Claim := ⟨e.values.start, e.values.last, e.owner⟩

theorem claim_nonempty (e : Entry) : e.claim.start ≤ e.claim.last := e.values.start_le_last

theorem claim_misses_iff {a b : Entry} :
    a.claim.Misses b.values.start b.values.last ↔ a.values.Apart b.values :=
  ValueRange.apart_iff.symm

theorem outside?_eq_none_iff {t : IntegerType} {e : Entry} :
    e.outside? t = none ↔ t.Holds e.values := by
  simp [outside?, IntegerType.Holds]

end Entry

/-- Claims the entries one after another, each of them checked against the type. -/
def claimAll (t : IntegerType) (entries : List Entry) : Except Diagnostic ValueIndex :=
  entries.foldlM (claimEntry t) []

section Step
variable {t : IntegerType} {index next : ValueIndex} {e : Entry}

theorem claimEntry_eq_ok_iff (ordered : index.Ordered) :
    claimEntry t index e = .ok next ↔
      t.Holds e.values ∧ (∀ c ∈ index, c.Misses e.values.start e.values.last) ∧
        next = index.insert e.claim := by
  rw [claimEntry, ← Entry.outside?_eq_none_iff]
  cases bounds : e.outside? t with
  | some n => simp
  | none =>
      simp only [true_and]
      have step : index.claim e.claim = .ok next ↔ _ := ValueIndex.claim_eq_ok_iff ordered
      simp only [Entry.claim] at step ⊢
      rw [← step, claimUnchecked]
      cases index.claim ⟨e.values.start, e.values.last, e.owner⟩ <;> simp

/-- A step fails on a bound outside the type, or else on a clash with what is claimed. -/
theorem claimEntry_eq_error_iff {problem : Diagnostic} :
    claimEntry t index e = .error problem ↔
      (∃ n, e.outside? t = some n ∧ problem = ⟨.outOfRange n e.owner t.name, e.span⟩) ∨
        e.outside? t = none ∧ ∃ n owner,
          index.clash? e.values.start e.values.last = some (n, owner) ∧
            problem = ⟨.collision n owner e.owner, e.span⟩ := by
  rw [claimEntry, claimUnchecked, ValueIndex.claim]
  cases bounds : e.outside? t with
  | some n => simp [eq_comm]
  | none =>
      cases found : index.clash? e.values.start e.values.last with
      | none => simp
      | some clash =>
          obtain ⟨n, owner⟩ := clash
          simp [eq_comm]

end Step

theorem foldlM_claimEntry_cons (t : IntegerType) (index : ValueIndex) (e : Entry)
    (rest : List Entry) :
    (e :: rest).foldlM (claimEntry t) index =
      match claimEntry t index e with
      | .error problem => .error problem
      | .ok next => rest.foldlM (claimEntry t) next := by
  rw [List.foldlM_cons]
  cases claimEntry t index e <;> rfl

/-- A run from an ordered index succeeds exactly when every entry lies in the type, misses all that
was claimed before the run, and is apart from the other entries. -/
theorem foldlM_claimEntry_ok_iff {t : IntegerType} : ∀ (entries : List Entry) {index : ValueIndex},
    index.Ordered →
      ((∃ final, entries.foldlM (claimEntry t) index = .ok final) ↔
        (∀ e ∈ entries, t.Holds e.values) ∧
          (∀ e ∈ entries, ∀ c ∈ index, c.Misses e.values.start e.values.last) ∧
            entries.Pairwise fun a b => a.values.Apart b.values) := by
  intro entries
  induction entries with
  | nil =>
      intro index _
      exact iff_of_true ⟨index, rfl⟩ (by simp)
  | cons e rest ih =>
      intro index ordered
      rw [foldlM_claimEntry_cons, List.forall_mem_cons, List.forall_mem_cons, List.pairwise_cons]
      cases step : claimEntry t index e with
      | error problem =>
          refine iff_of_false (by simp) ?_
          rintro ⟨⟨holds, _⟩, ⟨free, _⟩, _⟩
          rw [(claimEntry_eq_ok_iff ordered).mpr ⟨holds, free, rfl⟩] at step
          contradiction
      | ok next =>
          obtain ⟨holds, free, rfl⟩ := (claimEntry_eq_ok_iff ordered).mp step
          have nextOrdered := ValueIndex.ordered_insert ordered e.claim_nonempty free
          -- the rest misses the new claim exactly when it is apart from this entry
          have restFree : (∀ f ∈ rest, ∀ c ∈ index.insert e.claim,
              c.Misses f.values.start f.values.last) ↔
              (∀ f ∈ rest, e.values.Apart f.values) ∧
                ∀ f ∈ rest, ∀ c ∈ index, c.Misses f.values.start f.values.last := by
            simp only [ValueIndex.mem_insert, forall_eq_or_imp, Entry.claim_misses_iff,
              forall_and]
          simp only [ih nextOrdered, restFree]
          constructor
          · rintro ⟨restHolds, ⟨apart, missed⟩, restApart⟩
            exact ⟨⟨holds, restHolds⟩, ⟨free, missed⟩, apart, restApart⟩
          · rintro ⟨⟨_, restHolds⟩, ⟨_, missed⟩, apart, restApart⟩
            exact ⟨restHolds, ⟨apart, missed⟩, restApart⟩

theorem claimAll_ok_iff {t : IntegerType} {entries : List Entry} :
    (∃ index, claimAll t entries = .ok index) ↔
      (∀ r ∈ entries.map Entry.values, t.Holds r) ∧
        (entries.map Entry.values).Pairwise ValueRange.Apart := by
  rw [claimAll, foldlM_claimEntry_ok_iff entries ValueIndex.ordered_nil, List.forall_mem_map,
    List.pairwise_map]
  simp

/-- A run that fails stops at one entry, having claimed exactly the entries before it. -/
theorem foldlM_claimEntry_error {t : IntegerType} {problem : Diagnostic} :
    ∀ (entries : List Entry) {index : ValueIndex}, index.Ordered →
      entries.foldlM (claimEntry t) index = .error problem →
        ∃ before e after reached, entries = before ++ e :: after ∧ ValueIndex.Ordered reached ∧
          reached.Perm (before.map Entry.claim ++ index) ∧
            claimEntry t reached e = .error problem := by
  intro entries
  induction entries with
  | nil => intro index _ failure; cases failure
  | cons e rest ih =>
      intro index ordered failure
      rw [foldlM_claimEntry_cons] at failure
      cases step : claimEntry t index e with
      | error found =>
          rw [step] at failure
          cases failure
          exact ⟨[], e, rest, index, rfl, ordered, List.Perm.refl _, step⟩
      | ok next =>
          rw [step] at failure
          obtain ⟨_, free, rfl⟩ := (claimEntry_eq_ok_iff ordered).mp step
          have nextOrdered := ValueIndex.ordered_insert ordered e.claim_nonempty free
          obtain ⟨before, last, after, reached, rfl, reachedOrdered, claimed, stopped⟩ :=
            ih nextOrdered failure
          refine ⟨e :: before, last, after, reached, rfl, reachedOrdered, ?_, stopped⟩
          have added := (ValueIndex.insert_perm e.claim index).append_left (before.map Entry.claim)
          exact (claimed.trans added).trans List.perm_middle

theorem claimAll_error {t : IntegerType} {entries : List Entry} {problem : Diagnostic}
    (failure : claimAll t entries = .error problem) :
    ∃ before e after reached, entries = before ++ e :: after ∧ ValueIndex.Ordered reached ∧
      reached.Perm (before.map Entry.claim) ∧ claimEntry t reached e = .error problem := by
  obtain ⟨before, e, after, reached, split, ordered, claimed, stopped⟩ :=
    foldlM_claimEntry_error entries ValueIndex.ordered_nil failure
  exact ⟨before, e, after, reached, split, ordered, by rwa [List.append_nil] at claimed, stopped⟩

theorem claimAll_error_kind {t : IntegerType} {entries : List Entry} {problem : Diagnostic}
    (failure : claimAll t entries = .error problem) :
    problem.kind = .outOfRange ∨ problem.kind = .collision := by
  obtain ⟨_, _, _, _, _, _, _, stopped⟩ := claimAll_error failure
  rcases claimEntry_eq_error_iff.mp stopped with ⟨n, _, rfl⟩ | ⟨_, n, owner, _, rfl⟩
  · exact Or.inl rfl
  · exact Or.inr rfl

/-! ## Implied values need no check -/

theorem claimEntry_of_holds {t : IntegerType} {index : ValueIndex} {e : Entry}
    (holds : t.Holds e.values) : claimEntry t index e = claimUnchecked index e := by
  rw [claimEntry, Entry.outside?_eq_none_iff.mpr holds]

theorem VariantDecl.claimValue_eq {t : IntegerType} {implied : Int} (v : VariantDecl)
    (inType : t.contains implied = true) (index : ValueIndex) :
    v.claimValue t (v.valueOr implied) index =
      claimEntry t index ⟨v.name, .single (v.valueOr implied), v.span⟩ := by
  unfold claimValue
  cases undeclared : v.explicitValue with
  | some e => rfl
  | none =>
      have value : v.valueOr implied = implied := by
        unfold valueOr
        rw [undeclared]
      have holds : t.Holds (.single (v.valueOr implied)) := by
        rw [value]
        exact IntegerType.holds_single.mpr inType
      exact (claimEntry_of_holds holds).symm

/-- The implied value lies in the type at every step of a run, so the checks that are left out would
pass. -/
theorem claimVariants_eq {t : IntegerType} : ∀ (variants : List VariantDecl) {implied : Int},
    t.contains implied = true → ∀ index,
      claimVariants t implied index variants =
        ((variants.zip (canonicalFrom t implied variants)).flatMap
          fun (v, value) => v.entries value).foldlM (claimEntry t) index := by
  intro variants
  induction variants with
  | nil => intro implied _ index; rfl
  | cons v rest ih =>
      intro implied inType index
      -- whatever value this variant has, the count goes on inside the type
      have next := t.contains_wrappingAdd (v.valueOr implied) 1
      rw [canonicalFrom, List.zip_cons_cons, List.flatMap_cons, List.foldlM_append, claimVariants,
        v.claimValue_eq inType]
      simp only [VariantDecl.entries, List.foldlM_cons, ih next, bind_assoc]
      rfl

/-- Resolution is one checked run over all entries, and the modifiers after it. -/
theorem resolve_eq (d : EnumDecl) :
    resolve d =
      match claimAll d.integerType d.entries with
      | .error problem => .error problem
      | .ok _ =>
        match d.checkModifiers with
        | .error problem => .error problem
        | .ok marks => .ok (d.mapping marks) := by
  rw [resolve, claimVariants_eq d.variants d.integerType.contains_zero]
  rfl

end IntegerEnum
