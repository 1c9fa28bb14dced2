import Mathlib
import IntegerEnum.Proofs.Ownership

/-! # Counting the matched integers

The number of values of a mapping is a sum of sizes of ranges. As the ranges of a sound mapping are
pairwise apart and lie in the type, this sum counts the integers that some variant matches, and it
reaches the cardinality of the type exactly when every integer of the type is matched. -/
set_option autoImplicit false

namespace IntegerEnum

namespace Mapping

/-- The integers that some variant matches, range by range. -/
def matchedIntegers (m : Mapping) : List Int :=
  (m.variants.flatMap MappedVariant.matched).flatMap ValueRange.values

theorem mem_matchedIntegers {m : Mapping} {n : Int} :
    n ∈ m.matchedIntegers ↔ m.lookup n ≠ none := by
  have unmatched : m.lookup n ≠ none ↔ ∃ v ∈ m.variants, v.isMatch n = true := by
    rw [Ne, lookup_eq_none_iff]
    simp
  rw [unmatched, matchedIntegers, List.mem_flatMap]
  constructor
  · rintro ⟨r, member, inside⟩
    obtain ⟨v, vMember, inMatched⟩ := List.mem_flatMap.mp member
    exact ⟨v, vMember, MappedVariant.isMatch_iff.mpr
      ⟨r, inMatched, ValueRange.mem_values.mp inside⟩⟩
  · rintro ⟨v, vMember, isMatch⟩
    obtain ⟨r, inMatched, inside⟩ := MappedVariant.isMatch_iff.mp isMatch
    exact ⟨r, List.mem_flatMap.mpr ⟨v, vMember, inMatched⟩, ValueRange.mem_values.mpr inside⟩

theorem length_matchedIntegers (m : Mapping) : (m.matchedIntegers.length : Int) = m.valueCount :=
  ValueRange.length_flatMap_values _

theorem matched_sublist_taken (variants : List MappedVariant) :
    (variants.flatMap MappedVariant.matched).Sublist
      (variants.flatMap MappedVariant.taken) := by
  induction variants with
  | nil => exact List.Sublist.refl _
  | cons v rest ih => exact v.matched_sublist_taken.append ih

namespace Sound

variable {m : Mapping}

theorem nodup_matchedIntegers (sound : m.Sound) : m.matchedIntegers.Nodup :=
  ValueRange.nodup_flatMap_values (sound.apart.sublist (matched_sublist_taken m.variants))

/-- No integer is listed twice and all lie in the type, so the list fits into the type's. -/
theorem matchedIntegers_subperm (sound : m.Sound) :
    m.matchedIntegers.Subperm m.integerType.whole.values := by
  refine List.subperm_of_subset sound.nodup_matchedIntegers ?_
  intro n matched
  obtain ⟨v, found⟩ := Option.ne_none_iff_exists'.mp (mem_matchedIntegers.mp matched)
  exact ValueRange.mem_values.mpr (IntegerType.contains_whole.mpr (sound.contains_of_lookup found))

theorem valueCount_le_cardinality (sound : m.Sound) : m.valueCount ≤ m.integerType.cardinality := by
  have fits := sound.matchedIntegers_subperm.length_le
  rw [← length_matchedIntegers, ← IntegerType.size_whole, ← ValueRange.length_values]
  omega

/-- Where the list is as long as the type's, it lists every integer of the type. -/
theorem isExhaustive_iff (sound : m.Sound) :
    m.isExhaustive = true ↔ ∀ n, m.integerType.contains n = true → m.lookup n ≠ none := by
  have mem_whole : ∀ n, n ∈ m.integerType.whole.values ↔ m.integerType.contains n = true :=
    fun n => ValueRange.mem_values.trans IntegerType.contains_whole
  rw [sound.exhaustive_iff, ← length_matchedIntegers, ← IntegerType.size_whole,
    ← ValueRange.length_values, Nat.cast_inj]
  constructor
  · intro sameLength n inType
    have same := sound.matchedIntegers_subperm.perm_of_length_le sameLength.ge
    exact mem_matchedIntegers.mp (same.mem_iff.mpr ((mem_whole n).mpr inType))
  · intro covered
    have fits := sound.matchedIntegers_subperm.length_le
    have reaches : m.integerType.whole.values.Subperm m.matchedIntegers := by
      refine List.subperm_of_subset (ValueRange.nodup_values _) ?_
      intro n member
      exact mem_matchedIntegers.mpr (covered n ((mem_whole n).mp member))
    exact Nat.le_antisymm fits reaches.length_le

/-- A mapping that leaves no more integers unmatched than an exhaustive one is exhaustive too. -/
theorem isExhaustive_of_kept {grown : Mapping} (sound : m.Sound) (grownSound : grown.Sound)
    (integerType : grown.integerType = m.integerType)
    (kept : ∀ n, grown.lookup n = none → m.lookup n = none) (exhaustive : m.isExhaustive = true) :
    grown.isExhaustive = true := by
  apply grownSound.isExhaustive_iff.mpr
  intro n inType unmatched
  rw [integerType] at inType
  exact sound.isExhaustive_iff.mp exhaustive n inType (kept n unmatched)

theorem isExhaustive_eq_false_of_unmatched (sound : m.Sound) {n : Int}
    (inType : m.integerType.contains n = true) (unmatched : m.lookup n = none) :
    m.isExhaustive = false := by
  rw [← Bool.not_eq_true]
  intro exhaustive
  exact sound.isExhaustive_iff.mp exhaustive n inType unmatched

theorem isExhaustive_eq_false_of_catchAll (sound : m.Sound) {v : MappedVariant}
    (member : v ∈ m.variants) (catchAll : v.isCatchAll = true) : m.isExhaustive = false :=
  sound.isExhaustive_eq_false_of_unmatched (sound.contains_value member)
    (sound.lookup_catchAll_value member catchAll)

end Sound

end Mapping

/-- On a resolved mapping the count of values is the number of matched integers, being exhaustive
is matching every integer of the type, and a catch-all always leaves its own value unmatched. -/
theorem exhaustive_iff_every_integer_matched {d : EnumDecl} {m : Mapping}
    (success : resolve d = .ok m) :
    (m.isExhaustive = true ↔ ∀ n, d.integerType.contains n = true → m.lookup n ≠ none) ∧
      {n | m.lookup n ≠ none}.Finite ∧
        m.valueCount = {n | m.lookup n ≠ none}.ncard ∧
          m.valueCount ≤ d.integerType.cardinality ∧
            ∀ i v, d.variants[i]? = some v → v.isCatchAll = true →
              m.isExhaustive = false ∧
                ∃ w, m.variants[i]? = some w ∧ w.name = v.name ∧ w.value = d.chainValue i ∧
                  d.integerType.contains w.value = true ∧ m.lookup w.value = none := by
  have sound := sound_of_resolve success
  obtain ⟨_, rfl⟩ := resolve_eq_ok_iff.mp success
  set m := d.mapping d.marks
  have matched : {n | m.lookup n ≠ none} = (m.matchedIntegers.toFinset : Set Int) := by
    ext n
    rw [Finset.mem_coe, List.mem_toFinset]
    exact Mapping.mem_matchedIntegers.symm
  refine ⟨sound.isExhaustive_iff, ?_, ?_, sound.valueCount_le_cardinality, ?_⟩
  · rw [matched]
    exact m.matchedIntegers.toFinset.finite_toSet
  · rw [matched, Set.ncard_coe_finset, List.toFinset_card_of_nodup sound.nodup_matchedIntegers,
      Mapping.length_matchedIntegers]
  · intro i v place catchAll
    have mapped : m.variants[i]? = some (v.resolved (d.chainValue i)) := by
      change d.resolvedVariants[i]? = _
      rw [EnumDecl.getElem?_resolvedVariants, place, Option.map_some]
    have member := List.mem_of_getElem? mapped
    exact ⟨sound.isExhaustive_eq_false_of_catchAll member catchAll, _, mapped, rfl, rfl,
      sound.contains_value member, sound.lookup_catchAll_value member catchAll⟩

/-- Replies of one byte: a range of aliases, a value far off, and a catch-all after it. -/
def EnumDecl.reply : EnumDecl where
  name := "Reply"
  integerType := ⟨.u8, .bits64⟩
  variants :=
    [{ name := "Ready"
       modifiers := [.alternatives [.range ⟨2, 10, false, by decide⟩, .constant ⟨1, none⟩] none] },
      { name := "Busy", explicitValue := some ⟨200, some "BUSY"⟩ },
      { name := "Other", modifiers := [.catchAll none], fieldTypes := ["u8"] }]

def Mapping.reply : Mapping where
  enumName := "Reply"
  integerType := ⟨.u8, .bits64⟩
  variants :=
    [{ name := "Ready", value := 0, alternatives := [.single 1, .closed 2 9 (by decide)] },
      { name := "Busy", value := 200, text := some "BUSY" },
      { name := "Other", value := 201, isCatchAll := true }]
  catchAllVariant := some "Other"

theorem resolve_reply : resolve EnumDecl.reply = .ok Mapping.reply := by cbv

theorem exhaustive_iff_every_integer_matched_reply :
    resolve EnumDecl.reply = .ok Mapping.reply ∧
      {n | Mapping.reply.lookup n ≠ none}.ncard = 11 ∧
        EnumDecl.reply.variants[2]?.map VariantDecl.isCatchAll = some true ∧
          Mapping.reply.isExhaustive = false ∧ Mapping.reply.lookup 201 = none := by
  obtain ⟨_, _, counted, _, catchAll⟩ := exhaustive_iff_every_integer_matched resolve_reply
  have count : Mapping.reply.valueCount = 11 := by decide
  obtain ⟨notExhaustive, w, place, _, _, _, unmatched⟩ := catchAll 2 _ rfl rfl
  cases place
  exact ⟨resolve_reply, by omega, rfl, notExhaustive, unmatched⟩

end IntegerEnum
