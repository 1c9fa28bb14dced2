import IntegerEnum.Proofs.DeclaredMapping

/-! # Aliases

Written out integer by integer, the alternatives of a variant are its aliases: the integers that are
looked up to it, its own value excepted. As ranges that ascend they list every alias once and in
order, and as no two variants share an integer, no alias is taken a second time anywhere in the
mapping. -/
set_option autoImplicit false

namespace IntegerEnum

namespace ValueRange

/-- Ranges that ascend are written out in ascending order. -/
theorem flatMap_values_ascending {ranges : List ValueRange}
    (ascending : ranges.Pairwise fun a b => a.last < b.start) :
    (ranges.flatMap values).Pairwise (· < ·) := by
  refine List.pairwise_flatMap.mpr ⟨fun r _ => r.values_ascending, ascending.imp ?_⟩
  intro r s before n inFirst k inSecond
  have first := contains_iff.mp (mem_values.mp inFirst)
  have second := contains_iff.mp (mem_values.mp inSecond)
  omega

end ValueRange

namespace MappedVariant
variable {v : MappedVariant} {n : Int}

theorem mem_aliases : n ∈ v.aliases ↔ ∃ r ∈ v.alternatives, r.contains n = true := by
  simp only [aliases, List.mem_flatMap, ValueRange.mem_values]

theorem length_aliases (v : MappedVariant) :
    (v.aliases.length : Int) = (v.alternatives.map ValueRange.size).sum := by
  rw [aliases, ValueRange.length_flatMap_values, List.sum_eq_foldr, List.foldr_map]

theorem isMatch_iff_alias (plain : v.isCatchAll = false) :
    v.isMatch n = true ↔ n = v.value ∨ n ∈ v.aliases := by
  simp only [isMatch_iff, matched_of_no_catchAll plain, taken, List.mem_cons, exists_eq_or_imp,
    ValueRange.contains_single, mem_aliases]

end MappedVariant

namespace VariantDecl

theorem aliases_resolved_of_catchAll {v : VariantDecl} (catchAll : v.isCatchAll = true)
    (value : Int) : (v.resolved value).aliases = [] := by
  have bare : (v.resolved value).alternatives = [] := if_pos catchAll
  rw [MappedVariant.aliases, bare, List.flatMap_nil]

theorem Represents.aliases_ascending {v : VariantDecl} {w : MappedVariant}
    (represents : v.Represents w) : w.aliases.Pairwise (· < ·) :=
  ValueRange.flatMap_values_ascending represents.ascending

end VariantDecl

namespace Mapping

/-- What the lists of aliases tell of a mapping. -/
structure ListsAliases (m : Mapping) : Prop where
  ascending : ∀ v ∈ m.variants, v.aliases.Pairwise (· < ·)
  once : ∀ v ∈ m.variants, v.aliases.Nodup
  mem_iff : ∀ v ∈ m.variants, ∀ n, n ∈ v.aliases ↔ m.lookup n = some v ∧ n ≠ v.value
  length : ∀ v ∈ m.variants, (v.aliases.length : Int) = (v.alternatives.map ValueRange.size).sum
  ofCatchAll : ∀ v ∈ m.variants, v.isCatchAll = true → v.aliases = []
  apart : ∀ (i j : Nat) (v w : MappedVariant), m.variants[i]? = some v →
    m.variants[j]? = some w → i ≠ j → v.aliases.Disjoint w.aliases
  noValue : ∀ v ∈ m.variants, ∀ w ∈ m.variants, w.value ∉ v.aliases

namespace Sound
variable {m : Mapping} {v w : MappedVariant} {n : Int}

/-- The values of all variants, of a catch-all too, are no aliases of any. -/
theorem value_not_mem_aliases (sound : m.Sound) (vMember : v ∈ m.variants)
    (wMember : w ∈ m.variants) : w.value ∉ v.aliases := by
  intro isAlias
  obtain ⟨r, listed, inside⟩ := MappedVariant.mem_aliases.mp isAlias
  have own : ValueRange.contains (.single w.value) w.value = true :=
    ValueRange.contains_single.mpr rfl
  have same : w = v := sound.eq_of_taken wMember vMember (List.mem_cons_self ..)
    (List.mem_cons_of_mem _ listed) own inside
  subst same
  -- within one variant, the value is apart from the alternatives
  have separate := (List.pairwise_flatMap.mp sound.apart).1 w wMember
  have outside := (List.pairwise_cons.mp separate).1 r listed _ own
  rw [inside] at outside
  contradiction

theorem mem_aliases_iff (sound : m.Sound) (member : v ∈ m.variants)
    (bare : v.isCatchAll = true → v.aliases = []) :
    n ∈ v.aliases ↔ m.lookup n = some v ∧ n ≠ v.value := by
  rw [sound.lookup_eq_some_iff]
  constructor
  · intro isAlias
    have plain : v.isCatchAll = false := by
      rw [← Bool.not_eq_true]
      intro catchAll
      rw [bare catchAll] at isAlias
      cases isAlias
    refine ⟨⟨member, (MappedVariant.isMatch_iff_alias plain).mpr (Or.inr isAlias)⟩, ?_⟩
    rintro rfl
    exact sound.value_not_mem_aliases member member isAlias
  · rintro ⟨⟨_, isMatch⟩, other⟩
    have plain := MappedVariant.no_catchAll_of_isMatch isMatch
    exact ((MappedVariant.isMatch_iff_alias plain).mp isMatch).resolve_left other

end Sound

end Mapping

/-- Every variant of a resolved mapping lists exactly its aliases, in order and once each, and no
integer is an alias twice or both an alias and the value of a variant. -/
theorem aliases_are_listed_exactly {d : EnumDecl} {m : Mapping} (success : resolve d = .ok m) :
    m.ListsAliases := by
  have sound := sound_of_resolve success
  obtain ⟨wellFormed, rfl⟩ := resolve_eq_ok_iff.mp success
  have ascending : ∀ v ∈ d.resolvedVariants, v.aliases.Pairwise (· < ·) := by
    intro w member
    obtain ⟨i, v, place, rfl⟩ := EnumDecl.mem_resolvedVariants.mp member
    exact (EnumDecl.represents_resolved wellFormed place).aliases_ascending
  have bare : ∀ v ∈ d.resolvedVariants, v.isCatchAll = true → v.aliases = [] := by
    intro w member catchAll
    obtain ⟨i, v, place, rfl⟩ := EnumDecl.mem_resolvedVariants.mp member
    exact VariantDecl.aliases_resolved_of_catchAll catchAll _
  have listed := fun v member n => sound.mem_aliases_iff (n := n) member (bare v member)
  refine
    { ascending := ascending
      once := fun v member => (ascending v member).imp fun below => Int.ne_of_lt below
      mem_iff := listed
      length := fun v _ => v.length_aliases
      ofCatchAll := bare
      apart := ?_
      noValue := fun v vMember w wMember => sound.value_not_mem_aliases vMember wMember }
  intro i j v w vPlace wPlace different n inFirst inSecond
  have first := ((listed v (List.mem_of_getElem? vPlace) n).mp inFirst).1
  have second := ((listed w (List.mem_of_getElem? wPlace) n).mp inSecond).1
  exact different (sound.eq_of_getElem?_isMatch vPlace wPlace (Mapping.mem_of_lookup first).2
    (Mapping.mem_of_lookup second).2)

theorem aliases_are_listed_exactly_reply :
    resolve EnumDecl.reply = .ok Mapping.reply ∧ Mapping.reply.ListsAliases ∧
      Mapping.reply.variants.map MappedVariant.aliases = [[1, 2, 3, 4, 5, 6, 7, 8, 9], [], []] ∧
        ∃ v, Mapping.reply.lookup 9 = some v ∧ v.name = "Ready" ∧ (9 : Int) ≠ v.value := by
  have lists := aliases_are_listed_exactly resolve_reply
  have nine := (lists.mem_iff _ (List.mem_cons_self ..) 9).mp (by decide)
  exact ⟨resolve_reply, lists, by decide, _, nine.1, rfl, nine.2⟩

end IntegerEnum
