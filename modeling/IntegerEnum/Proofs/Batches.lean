import IntegerEnum.Derivation
import Mathlib.Data.List.Forall2

/-! # Batches of plans

Names of families are read one by one, and a family that is asked for again changes nothing: a run
over the families keeps the result of each of them once, in the order in which they are met first.
The plans of a report and its problems are such runs of `derive`, and a batch of plans is one that
stops at the first problem. -/
set_option autoImplicit false

namespace IntegerEnum

namespace Family

/-- The families that the names ask for, one by one; no names ask for all of them. -/
def Requested : Option (List String) → List Family → Prop
  | none, families => families = all
  | some names, families =>
    List.Forall₂ (fun name family => read name = .ok family) names families

theorem readAll_eq_ok_iff : ∀ {names : List String} {families : List Family},
    readAll names = .ok families ↔
      List.Forall₂ (fun name family => read name = .ok family) names families := by
  intro names
  induction names with
  | nil =>
      intro families
      rw [readAll, List.forall₂_nil_left_iff, Except.ok.injEq, eq_comm]
  | cons name rest ih =>
      intro families
      rw [readAll, List.forall₂_cons_left_iff]
      cases known : read name with
      | error unknown => simp
      | ok family =>
          cases run : readAll rest with
          | error unknown =>
              refine iff_of_false (by simp [Except.map]) ?_
              rintro ⟨_, others, _, restRead, _⟩
              rw [ih.mpr restRead] at run
              contradiction
          | ok others =>
              simp only [Except.map, Except.ok.injEq]
              constructor
              · rintro rfl
                exact ⟨family, others, rfl, ih.mp run, rfl⟩
              · rintro ⟨_, found, rfl, restRead, rfl⟩
                rw [ih.mpr restRead] at run
                cases run
                rfl

theorem requested_eq_ok_iff {names : Option (List String)} {families : List Family} :
    requested names = .ok families ↔ Requested names families := by
  cases names with
  | none =>
      rw [requested, Requested, Except.ok.injEq, eq_comm]
  | some names => exact readAll_eq_ok_iff

/-- The families in the order of their first request. -/
def distinct : List Family → List Family
  | [] => []
  | family :: rest => family :: (distinct rest).filter (· ≠ family)

theorem mem_distinct {family : Family} {families : List Family} :
    family ∈ distinct families ↔ family ∈ families := by
  induction families with
  | nil => exact Iff.rfl
  | cons head rest ih =>
      rw [distinct, List.mem_cons, List.mem_cons, List.mem_filter, ih, decide_eq_true_eq]
      by_cases first : family = head
      · simp [first]
      · simp [first]

/-- The families stand in the order of their first request. -/
theorem distinct_ordered (families : List Family) :
    (distinct families).Pairwise fun a b => families.idxOf a < families.idxOf b := by
  induction families with
  | nil => exact List.Pairwise.nil
  | cons head rest ih =>
      have later : ∀ {family : Family}, family ≠ head →
          (head :: rest).idxOf family = rest.idxOf family + 1 :=
        fun other => List.idxOf_cons_ne rest (Ne.symm other)
      rw [distinct, List.pairwise_cons]
      constructor
      · intro family member
        have other := of_decide_eq_true (List.mem_filter.mp member).2
        rw [List.idxOf_cons_self, later other]
        exact Nat.succ_pos _
      · apply List.pairwise_filter.mpr
        apply ih.imp
        intro a b before aOther bOther
        rw [later (of_decide_eq_true aOther), later (of_decide_eq_true bOther)]
        omega

theorem findSome?_filter_ne {α : Type} {g : Family → Option α} {head : Family}
    (missing : g head = none) (families : List Family) :
    (families.filter (· ≠ head)).findSome? g = families.findSome? g := by
  induction families with
  | nil => rfl
  | cons family rest ih =>
      rw [List.filter_cons, List.findSome?_cons]
      by_cases same : family = head
      · rw [if_neg (by simp [same]), ih, same, missing]
      · rw [if_pos (by simp [same]), List.findSome?_cons, ih]

/-- Requests after the first of a family do not change what is found first. -/
theorem findSome?_distinct {α : Type} (g : Family → Option α) (families : List Family) :
    (distinct families).findSome? g = families.findSome? g := by
  induction families with
  | nil => rfl
  | cons head rest ih =>
      rw [distinct, List.findSome?_cons, List.findSome?_cons]
      cases found : g head with
      | some value => rfl
      | none =>
          change ((distinct rest).filter _).findSome? g = rest.findSome? g
          rw [findSome?_filter_ne found, ih]

section Kept
variable {α : Type} {g : Family → Option α} {family : Family} {value : α}

/-- Puts the result of a family under it, if there is one. -/
def keep (g : Family → Option α) (kept : Dictionary Family α) (family : Family) :
    Dictionary Family α :=
  match g family with
  | some value => kept.put family value
  | none => kept

/-- The results of the families that have one, each family once. -/
def keptOf (g : Family → Option α) (families : List Family) : Dictionary Family α :=
  (distinct families).filterMap fun family => (g family).map (family, ·)

/-- A family with a result in the dictionary changes nothing when it is met again. -/
theorem keep_of_mem {kept : Dictionary Family α}
    (faithful : ∀ entry ∈ kept, g entry.1 = some entry.2) (met : family ∈ kept.map Prod.fst) :
    keep g kept family = kept := by
  obtain ⟨found, listed⟩ := Option.isSome_iff_exists.mp (Dictionary.find?_isSome_iff.mpr met)
  have result : g family = some found := faithful _ (Dictionary.mem_of_find? listed)
  rw [keep, result]
  exact Dictionary.put_of_find? listed

theorem keep_of_not_mem {kept : Dictionary Family α} (fresh : family ∉ kept.map Prod.fst) :
    keep g kept family = kept ++ ((g family).map (family, ·)).toList := by
  rw [keep]
  cases g family with
  | none => exact (List.append_nil kept).symm
  | some value => exact Dictionary.put_of_not_mem fresh

theorem mem_keptOf {families : List Family} :
    (family, value) ∈ keptOf g families ↔ family ∈ families ∧ g family = some value := by
  rw [keptOf, List.mem_filterMap, ← mem_distinct]
  constructor
  · rintro ⟨other, member, listed⟩
    obtain ⟨found, result, same⟩ := Option.map_eq_some_iff.mp listed
    cases same
    exact ⟨member, result⟩
  · rintro ⟨member, result⟩
    exact ⟨family, member, by rw [result]; rfl⟩

theorem keptOf_cons (g : Family → Option α) (head : Family) (rest : List Family) :
    keptOf g (head :: rest) =
      ((g head).map (head, ·)).toList ++ (keptOf g rest).filter fun entry => entry.1 ≠ head := by
  have later : ((distinct rest).filter (· ≠ head)).filterMap (fun f => (g f).map (f, ·)) =
      (keptOf g rest).filter fun entry => entry.1 ≠ head := by
    rw [keptOf, List.filterMap_filter, List.filter_filterMap]
    congr 1
    funext family
    by_cases same : family = head <;> cases g family <;> simp [same, Option.filter]
  rw [keptOf, distinct, List.filterMap_cons, later]
  cases g head <;> rfl

theorem keep_faithful {kept : Dictionary Family α}
    (faithful : ∀ entry ∈ kept, g entry.1 = some entry.2) :
    ∀ entry ∈ keep g kept family, g entry.1 = some entry.2 := by
  intro entry listed
  rw [keep] at listed
  cases result : g family with
  | none =>
      rw [result] at listed
      exact faithful entry listed
  | some value =>
      rw [result] at listed
      rcases Dictionary.mem_put listed with rfl | old
      · exact result
      · exact faithful entry old

/-- One step of a run takes the first family over from those still to come. -/
theorem keep_append_keptOf {kept : Dictionary Family α}
    (faithful : ∀ entry ∈ kept, g entry.1 = some entry.2) (head : Family) (rest : List Family) :
    keep g kept head ++
        ((keptOf g rest).filter fun entry => entry.1 ∉ (keep g kept head).map Prod.fst) =
      kept ++ (keptOf g (head :: rest)).filter fun entry => entry.1 ∉ kept.map Prod.fst := by
  rw [keptOf_cons, List.filter_append, List.filter_filter]
  by_cases met : head ∈ kept.map Prod.fst
  · have dropped : (((g head).map (head, ·)).toList.filter
        fun entry => entry.1 ∉ kept.map Prod.fst) = [] := by
      cases g head <;> simp [met]
    rw [keep_of_mem faithful met, dropped, List.nil_append]
    congr 1
    apply List.filter_congr
    intro entry _
    grind
  · have taken : (((g head).map (head, ·)).toList.filter
        fun entry => entry.1 ∉ kept.map Prod.fst) = ((g head).map (head, ·)).toList := by
      cases g head <;> simp [met]
    rw [keep_of_not_mem met, taken, List.append_assoc]
    congr 2
    apply List.filter_congr
    intro entry listed
    have result := (mem_keptOf.mp listed).2
    cases found : g head <;> grind

/-- A run adds the results of the families that have none yet, in the order in which they are met
first. -/
theorem foldl_keep_append (g : Family → Option α) : ∀ (families : List Family)
    {kept : Dictionary Family α}, (∀ entry ∈ kept, g entry.1 = some entry.2) →
      families.foldl (keep g) kept =
        kept ++ (keptOf g families).filter fun entry => entry.1 ∉ kept.map Prod.fst := by
  intro families
  induction families with
  | nil => intro kept _; exact (List.append_nil kept).symm
  | cons head rest ih =>
      intro kept faithful
      rw [List.foldl_cons, ih (keep_faithful faithful), keep_append_keptOf faithful]

theorem foldl_keep (g : Family → Option α) (families : List Family) :
    families.foldl (keep g) [] = keptOf g families := by
  have start : ∀ entry ∈ ([] : Dictionary Family α), g entry.1 = some entry.2 := by
    intro entry listed
    cases listed
  rw [foldl_keep_append g families start]
  simp

theorem keptOf_ordered (g : Family → Option α) (families : List Family) :
    ((keptOf g families).map Prod.fst).Pairwise
      fun a b => families.idxOf a < families.idxOf b := by
  rw [keptOf, List.pairwise_map, List.pairwise_filterMap]
  apply (distinct_ordered families).imp
  intro a b before x fromA y fromB
  obtain ⟨_, _, rfl⟩ := Option.map_eq_some_iff.mp fromA
  obtain ⟨_, _, rfl⟩ := Option.map_eq_some_iff.mp fromB
  exact before

end Kept

end Family

/-! ## Runs of one derivation -/

section Batches
variable {m : Mapping} {family : Family} {families : List Family} {plan : Plan}
  {problem : Diagnostic}

def Mapping.plan? (m : Mapping) (family : Family) : Option Plan :=
  match derive m family with
  | .ok plan => some plan
  | .error _ => none

/-- Why a family has no plan. -/
def Mapping.problem? (m : Mapping) (family : Family) : Option Diagnostic :=
  match derive m family with
  | .ok _ => none
  | .error problem => some problem

theorem Mapping.plan?_eq_some_iff : m.plan? family = some plan ↔ derive m family = .ok plan := by
  rw [plan?]
  cases derive m family <;> simp

theorem Mapping.problem?_eq_some_iff : m.problem? family = some problem ↔
    derive m family = .error problem := by
  rw [problem?]
  cases derive m family <;> simp

theorem Mapping.problem?_eq_none_iff :
    m.problem? family = none ↔ ∃ plan, derive m family = .ok plan := by
  rw [problem?]
  cases derive m family <;> simp

theorem foldl_add (m : Mapping) : ∀ (families : List Family) (planned : Planned),
    families.foldl (Planned.add m) planned =
      ⟨families.foldl (Family.keep m.plan?) planned.plans,
        families.foldl (Family.keep m.problem?) planned.unavailable⟩ := by
  intro families
  induction families with
  | nil => intro planned; rfl
  | cons family rest ih =>
      intro planned
      have step : planned.add m family = ⟨Family.keep m.plan? planned.plans family,
          Family.keep m.problem? planned.unavailable family⟩ := by
        rw [Planned.add, Family.keep, Family.keep, Mapping.plan?, Mapping.problem?]
        cases derive m family <;> rfl
      rw [List.foldl_cons, ih, step]
      rfl

theorem availablePlans_eq : availablePlans m families = Family.keptOf m.plan? families := by
  rw [availablePlans, Planned.ofFamilies, foldl_add]
  exact Family.foldl_keep m.plan? families

theorem unavailableFamilies_eq :
    unavailableFamilies m families = Family.keptOf m.problem? families := by
  rw [unavailableFamilies, Planned.ofFamilies, foldl_add]
  exact Family.foldl_keep m.problem? families

theorem mem_availablePlans :
    (family, plan) ∈ availablePlans m families ↔
      family ∈ families ∧ derive m family = .ok plan := by
  rw [availablePlans_eq, Family.mem_keptOf, Mapping.plan?_eq_some_iff]

theorem mem_unavailableFamilies :
    (family, problem) ∈ unavailableFamilies m families ↔
      family ∈ families ∧ derive m family = .error problem := by
  rw [unavailableFamilies_eq, Family.mem_keptOf, Mapping.problem?_eq_some_iff]

/-- A batch is all the plans, or the first problem on the way. -/
theorem deriveInto_eq (m : Mapping) : ∀ (families : List Family) (plans : Dictionary Family Plan),
    deriveInto m plans families =
      match families.findSome? m.problem? with
      | some problem => .error problem
      | none => .ok (families.foldl (Family.keep m.plan?) plans) := by
  intro families
  induction families with
  | nil => intro plans; rfl
  | cons family rest ih =>
      intro plans
      rw [deriveInto, List.findSome?_cons, List.foldl_cons, Family.keep, Mapping.problem?,
        Mapping.plan?]
      cases derive m family with
      | error problem => rfl
      | ok plan => exact ih _

theorem deriveAll_eq (m : Mapping) (families : List Family) :
    deriveAll m families =
      match families.findSome? m.problem? with
      | some problem => .error problem
      | none => .ok (availablePlans m families) := by
  rw [deriveAll, deriveInto_eq, availablePlans_eq, Family.foldl_keep]

theorem deriveAll_eq_error_iff :
    deriveAll m families = .error problem ↔ families.findSome? m.problem? = some problem := by
  rw [deriveAll_eq]
  cases families.findSome? m.problem? <;> simp

theorem deriveAll_eq_ok_iff {plans : Dictionary Family Plan} :
    deriveAll m families = .ok plans ↔
      families.findSome? m.problem? = none ∧ availablePlans m families = plans := by
  rw [deriveAll_eq]
  cases families.findSome? m.problem? <;> simp

/-- The problem told first is the one met first. -/
theorem head?_unavailableFamilies (m : Mapping) (families : List Family) :
    ((unavailableFamilies m families).map Prod.snd).head? = families.findSome? m.problem? := by
  have problems : ((unavailableFamilies m families).map Prod.snd) =
      (Family.distinct families).filterMap m.problem? := by
    rw [unavailableFamilies_eq, Family.keptOf, List.map_filterMap]
    congr 1
    funext family
    cases m.problem? family <;> rfl
  rw [problems, List.head?_filterMap, Family.findSome?_distinct]

end Batches

end IntegerEnum
