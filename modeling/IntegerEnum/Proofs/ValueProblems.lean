import IntegerEnum.Proofs.Resolution

/-! # Problems of values

A value problem is told of the entry at which the claims of a declaration stop. By then all entries
before it are claimed, and no others, so that a collision names the least integer of the entry that
an earlier one lists and the owner of the one earlier entry that does. An integer told to be out of
range was declared: an implied value never is. -/
set_option autoImplicit false

namespace IntegerEnum

theorem flatMap_eq_append_cons {α β : Type} {f : α → List β} {x : β} {after : List β} :
    ∀ {l : List α} {before : List β}, l.flatMap f = before ++ x :: after →
      ∃ i a own rest, l[i]? = some a ∧ f a = own ++ x :: rest ∧
        before = (l.take i).flatMap f ++ own := by
  intro l
  induction l with
  | nil =>
      intro before split
      cases before <;> cases split
  | cons a rest ih =>
      intro before split
      -- the split lies in the lists after the first, or in the first one
      have later : ∀ own : List β, rest.flatMap f = own ++ x :: after → before = f a ++ own →
          ∃ i b own rest', (a :: rest)[i]? = some b ∧ f b = own ++ x :: rest' ∧
            before = ((a :: rest).take i).flatMap f ++ own := by
        intro own inRest shifted
        obtain ⟨i, b, inner, rest', place, listed, rfl⟩ := ih inRest
        refine ⟨i + 1, b, inner, rest', place, listed, ?_⟩
        rw [shifted, List.take_succ_cons, List.flatMap_cons, List.append_assoc]
      rw [List.flatMap_cons, List.append_eq_append_iff] at split
      rcases split with ⟨own, shifted, inRest⟩ | ⟨tail, first, inRest⟩
      · exact later own inRest shifted
      · cases tail with
        | nil =>
            rw [List.append_nil] at first
            exact later [] inRest.symm (by rw [first, List.append_nil])
        | cons b others =>
            obtain ⟨rfl, _⟩ := List.cons.inj inRest
            exact ⟨0, a, before, others, rfl, first, rfl⟩

namespace EnumDecl

def entriesBefore (d : EnumDecl) (i : Nat) : List Entry :=
  (d.variants.zipIdx.take i).flatMap fun (v, k) => v.entries (d.chainValue k)

theorem entries_eq (d : EnumDecl) :
    d.entries = d.variants.zipIdx.flatMap fun (v, i) => v.entries (d.chainValue i) := by
  rw [entries, zip_canonicalValues, List.flatMap_map]

/-- Before an entry stand those of the variants before its own, then the earlier ones of its own. -/
theorem exists_place_of_entries {d : EnumDecl} {before after : List Entry} {e : Entry}
    (split : d.entries = before ++ e :: after) :
    ∃ i v own later, d.variants[i]? = some v ∧
      v.entries (d.chainValue i) = own ++ e :: later ∧ before = d.entriesBefore i ++ own := by
  rw [entries_eq] at split
  obtain ⟨i, ⟨v, k⟩, own, later, place, listed, earlier⟩ := flatMap_eq_append_cons split
  rw [List.getElem?_zipIdx, Nat.zero_add] at place
  obtain ⟨w, found, same⟩ := Option.map_eq_some_iff.mp place
  cases same
  exact ⟨_, _, own, later, found, listed, earlier⟩

end EnumDecl

namespace VariantDecl
variable {v : VariantDecl} {value : Int} {e : Entry}

theorem cases_of_mem_entries (member : e ∈ v.entries value) :
    e = ⟨v.name, .single value, v.span⟩ ∨ e ∈ v.alternativeEntries := by
  rcases List.mem_cons.mp member with canonical | alternative
  · exact Or.inl canonical
  · by_cases catchAll : v.isCatchAll = true
    · rw [if_pos catchAll] at alternative
      cases alternative
    · rw [if_neg catchAll] at alternative
      exact Or.inr alternative

theorem owner_of_mem_entries (member : e ∈ v.entries value) : e.owner = v.name := by
  rcases cases_of_mem_entries member with rfl | alternative
  · rfl
  · obtain ⟨mark, _, inMark⟩ := List.mem_flatMap.mp alternative
    obtain ⟨entry, _, rfl⟩ := List.mem_map.mp inMark
    rfl

theorem values_of_mem_entries (member : e ∈ v.entries value) :
    e.values = .single value ∨ e.values ∈ v.alternativeRanges := by
  rcases cases_of_mem_entries member with rfl | alternative
  · exact Or.inl rfl
  · rw [← values_alternativeEntries]
    exact Or.inr (List.mem_map_of_mem alternative)

end VariantDecl

/-- The variant `v` at position `i` lists after its entries `own` an entry with integers that are
taken; the least of these is `n`, which the owner has. The owner may be the variant itself. -/
structure EnumDecl.Collides (d : EnumDecl) (i : Nat) (v : VariantDecl) (own : List Entry)
    (entry : Entry) (n : Int) (owner : String) : Prop where
  place : d.variants[i]? = some v
  listed : ∃ later, v.entries (d.chainValue i) = own ++ entry :: later
  inside : entry.values.contains n = true
  /-- Of the entries before it exactly one lists the integer, that of the owner. -/
  earlier : ∃ first,
    (d.entriesBefore i ++ own).filter (fun e => e.values.contains n) = [first] ∧
      first.owner = owner
  least : ∀ k, k < n → entry.values.contains k = true →
    ∀ e ∈ d.entriesBefore i ++ own, e.values.contains k = false

section Claims
variable {before : List Entry} {reached : ValueIndex} {e : Entry} {n : Int}

theorem exists_entry_of_clash {owner : String} (ordered : reached.Ordered)
    (claimed : reached.Perm (before.map Entry.claim))
    (found : reached.clash? e.values.start e.values.last = some (n, owner)) :
    e.values.contains n = true ∧
      (∃ first, before.filter (fun e => e.values.contains n) = [first] ∧ first.owner = owner) ∧
        ∀ k, k < n → e.values.contains k = true →
          ∀ other ∈ before, other.values.contains k = false := by
  obtain ⟨inside, ⟨c, alone, owned⟩, least⟩ :=
    ValueIndex.clash?_eq_some ordered e.values.start_le_last found
  refine ⟨ValueRange.contains_iff.mpr inside, ?_, ?_⟩
  · have taken : ((before.filter fun e => e.values.contains n).map Entry.claim).Perm [c] := by
      have filtered := claimed.filter fun c => c.covers n
      rw [alone, List.filter_map] at filtered
      exact filtered.symm
    obtain ⟨first, single, rfl⟩ := List.map_eq_singleton_iff.mp taken.eq_singleton
    exact ⟨first, single, owned⟩
  · intro k below inEntry other member
    have lower := (ValueRange.contains_iff.mp inEntry).1
    have isClaimed := claimed.mem_iff.mpr (List.mem_map_of_mem member)
    exact least k lower below _ isClaimed

theorem outside?_eq_some {t : IntegerType} {e : Entry} {n : Int} (found : e.outside? t = some n) :
    (n = e.values.start ∨ n = e.values.last) ∧ t.contains n = false := by
  have member := List.mem_of_find?_eq_some found
  have outside := List.find?_some found
  simp only [List.mem_cons, List.not_mem_nil, or_false] at member
  exact ⟨member, by simpa using outside⟩

end Claims

theorem claimAll_of_resolve_error {d : EnumDecl} {problem : Diagnostic}
    (failure : resolve d = .error problem)
    (ofValues : problem.kind = .collision ∨ problem.kind = .outOfRange) :
    claimAll d.integerType d.entries = .error problem := by
  rcases resolve_eq_error_iff.mp failure with claims | ⟨_, checked⟩
  · exact claims
  · rcases EnumDecl.checkModifiers_error_kind checked with kind | kind | kind | kind <;>
      · rw [kind] at ofValues
        rcases ofValues with same | same <;> cases same

namespace EnumDecl

theorem declared_of_outside {d : EnumDecl} {i : Nat} {v : VariantDecl} {e : Entry} {n : Int}
    (place : d.variants[i]? = some v) (member : e ∈ v.entries (d.chainValue i))
    (bound : n = e.values.start ∨ n = e.values.last) (outside : d.integerType.contains n = false) :
    (∃ expr, v.explicitValue = some expr ∧ n = expr.value) ∨
      ∃ r ∈ v.alternativeRanges, n = r.start ∨ n = r.last := by
  rcases VariantDecl.values_of_mem_entries member with canonical | alternative
  · rw [canonical, ValueRange.start_single, ValueRange.last_single, or_self] at bound
    cases declared : v.explicitValue with
    | some expr => exact Or.inl ⟨expr, rfl, bound.trans (chainValue_of_explicit place declared)⟩
    | none =>
        have undeclared : d.explicitAt i = none := by
          rw [explicitAt, place, Option.bind_some, declared]
          rfl
        rw [bound, contains_chainValue_of_undeclared undeclared] at outside
        contradiction
  · exact Or.inr ⟨e.values, alternative, bound⟩

end EnumDecl

/-- A problem of values is told of one entry, when exactly the entries before it are claimed. -/
theorem exists_stop_of_value_problem {d : EnumDecl} {problem : Diagnostic}
    (failure : resolve d = .error problem)
    (ofValues : problem.kind = .collision ∨ problem.kind = .outOfRange) :
    ∃ i v own e later reached, d.variants[i]? = some v ∧
      v.entries (d.chainValue i) = own ++ e :: later ∧ e ∈ v.entries (d.chainValue i) ∧
        ValueIndex.Ordered reached ∧
          reached.Perm ((d.entriesBefore i ++ own).map Entry.claim) ∧
            claimEntry d.integerType reached e = .error problem := by
  obtain ⟨before, e, after, reached, split, ordered, claimed, stopped⟩ :=
    claimAll_error (claimAll_of_resolve_error failure ofValues)
  obtain ⟨i, v, own, later, place, listed, rfl⟩ := EnumDecl.exists_place_of_entries split
  refine ⟨i, v, own, e, later, reached, place, listed, ?_, ordered, claimed, stopped⟩
  rw [listed]
  exact List.mem_append_right _ (List.mem_cons_self ..)

theorem exists_declared_of_outOfRange {d : EnumDecl} {problem : Diagnostic}
    (failure : resolve d = .error problem) (outOfRange : problem.kind = .outOfRange) :
    ∃ n, ∃ v ∈ d.variants, problem.cause = .outOfRange n v.name d.integerType.name ∧
      d.integerType.contains n = false ∧
        ((∃ expr, v.explicitValue = some expr ∧ n = expr.value) ∨
          ∃ r ∈ v.alternativeRanges, n = r.start ∨ n = r.last) := by
  obtain ⟨i, v, own, e, later, reached, place, _, member, _, _, stopped⟩ :=
    exists_stop_of_value_problem failure (Or.inr outOfRange)
  have owned := VariantDecl.owner_of_mem_entries member
  rcases claimEntry_eq_error_iff.mp stopped with ⟨n, found, rfl⟩ | ⟨_, n, owner, _, rfl⟩
  · obtain ⟨bound, outside⟩ := outside?_eq_some found
    exact ⟨n, v, List.mem_of_getElem? place, by rw [owned], outside,
      EnumDecl.declared_of_outside place member bound outside⟩
  · cases outOfRange

/-- A collision tells of an entry of the variant, of its least integer that entries before it list,
and of the owner of the one that does. An integer out of range is one that the variant declares. -/
theorem value_problem_tells_truth {d : EnumDecl} {problem : Diagnostic}
    (failure : resolve d = .error problem) :
    (problem.kind = .collision →
      ∃ n owner i v own entry, problem = ⟨.collision n owner v.name, entry.span⟩ ∧
        d.Collides i v own entry n owner) ∧
      (problem.kind = .outOfRange →
        ∃ n, ∃ v ∈ d.variants, problem.cause = .outOfRange n v.name d.integerType.name ∧
          d.integerType.contains n = false ∧
            ((∃ expr, v.explicitValue = some expr ∧ n = expr.value) ∨
              ∃ r ∈ v.alternativeRanges, n = r.start ∨ n = r.last)) := by
  constructor
  · intro collision
    obtain ⟨i, v, own, e, later, reached, place, listed, member, ordered, claimed, stopped⟩ :=
      exists_stop_of_value_problem failure (Or.inl collision)
    have owned := VariantDecl.owner_of_mem_entries member
    rcases claimEntry_eq_error_iff.mp stopped with ⟨n, _, rfl⟩ | ⟨_, n, owner, found, rfl⟩
    · cases collision
    · obtain ⟨inside, earlier, least⟩ := exists_entry_of_clash ordered claimed found
      exact ⟨n, owner, i, v, own, e, by rw [owned], place, ⟨later, listed⟩, inside, earlier, least⟩
  · exact exists_declared_of_outOfRange failure

def EnumDecl.straddling : EnumDecl where
  name := "Level"
  integerType := ⟨.i8, .bits64⟩
  variants :=
    [{ name := "Low"
       explicitValue := some ⟨-5, none⟩
       modifiers := [.alternatives [.range ⟨10, 20, true, by decide⟩] none] },
      { name := "High"
        modifiers := [.alternatives [.constant ⟨3, none⟩, .range ⟨8, 13, false, by decide⟩] none] }]

def EnumDecl.overflowing : EnumDecl where
  name := "Level"
  integerType := ⟨.i8, .bits64⟩
  variants :=
    [{ name := "High"
       modifiers := [.alternatives [.range ⟨100, 129, false, by decide⟩] none] }]

theorem value_problem_tells_truth_level :
    resolve EnumDecl.straddling = .error ⟨.collision 10 "Low" "High", none⟩ ∧
      (∃ i v own entry, v.name = "High" ∧
        EnumDecl.straddling.Collides i v own entry 10 "Low") ∧
      resolve EnumDecl.overflowing = .error ⟨.outOfRange 128 "High" "i8", none⟩ ∧
        ∃ v ∈ EnumDecl.overflowing.variants, v.name = "High" ∧
          ((∃ expr, v.explicitValue = some expr ∧ 128 = expr.value) ∨
            ∃ r ∈ v.alternativeRanges, 128 = r.start ∨ 128 = r.last) := by
  have collision : resolve EnumDecl.straddling = .error ⟨.collision 10 "Low" "High", none⟩ := by
    decide
  have outOfRange : resolve EnumDecl.overflowing = .error ⟨.outOfRange 128 "High" "i8", none⟩ := by
    decide
  obtain ⟨n, owner, i, v, own, entry, same, collides⟩ :=
    (value_problem_tells_truth collision).1 rfl
  obtain ⟨k, w, member, cause, _, declared⟩ := (value_problem_tells_truth outOfRange).2 rfl
  simp only [Diagnostic.mk.injEq, Cause.collision.injEq] at same
  obtain ⟨⟨rfl, rfl, named⟩, _⟩ := same
  obtain ⟨rfl, beyond, _⟩ := Cause.outOfRange.inj cause
  exact ⟨collision, ⟨i, v, own, entry, named.symm, collides⟩, outOfRange, w, member, beyond.symm,
    declared⟩

end IntegerEnum
