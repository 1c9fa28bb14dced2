import IntegerEnum.Proofs.Beginnings
import IntegerEnum.Proofs.ReadBack
import IntegerEnum.Proofs.Reports

/-! # Enumerations that grow

Variants are only ever added after those that exist. `Mapping.Extends` says what this does to the
mapping: the variants it had stand first and unchanged. What was matched stays matched by the same
variant, what was written is written alike, a total conversion stays total, and an integer that no
new variant matches converts as before unless a fallback was added. -/
set_option autoImplicit false

namespace IntegerEnum

namespace Mapping

/-- A mapping of the same enumeration, with later variants after those of `m`. -/
structure Extends (grown m : Mapping) (later : List MappedVariant) : Prop where
  enumName : grown.enumName = m.enumName
  integerType : grown.integerType = m.integerType
  errorType : grown.errorType = m.errorType
  variants : grown.variants = m.variants ++ later

section Growing
variable {grown m : Mapping} {later : List MappedVariant} {n : Int} {v : MappedVariant}

theorem Extends.mem (growth : grown.Extends m later) (member : v ∈ m.variants) :
    v ∈ grown.variants := by
  rw [growth.variants]
  exact List.mem_append_left _ member

theorem Extends.lookup_of_found (growth : grown.Extends m later) (found : m.lookup n = some v) :
    grown.lookup n = some v := by
  unfold lookup at found ⊢
  rw [growth.variants, List.find?_append, found, Option.some_or]

theorem Extends.lookup_of_unmatched (growth : grown.Extends m later)
    (unmatched : ∀ w ∈ later, w.isMatch n = false) : grown.lookup n = m.lookup n := by
  have none : later.find? (fun w => w.isMatch n) = none := by
    apply List.find?_eq_none.mpr
    intro w member
    rw [unmatched w member]
    exact Bool.false_ne_true
  unfold lookup
  rw [growth.variants, List.find?_append, none, Option.or_none]

theorem Extends.isExhaustive (growth : grown.Extends m later) (sound : m.Sound)
    (grownSound : grown.Sound) (exhaustive : m.isExhaustive = true) :
    grown.isExhaustive = true := by
  refine sound.isExhaustive_of_kept grownSound growth.integerType ?_ exhaustive
  intro n unmatched
  rw [lookup, growth.variants, List.find?_append, Option.or_eq_none_iff] at unmatched
  exact unmatched.1

theorem Extends.offers_total (growth : grown.Extends m later) (sound : m.Sound)
    (grownSound : grown.Sound) (offered : m.Offers .fromIntegerTotal) :
    grown.Offers .fromIntegerTotal := by
  rcases offered with exhaustive | ⟨v, member, isDefault⟩ | ⟨v, member, catchAll⟩
  · exact Or.inl (growth.isExhaustive sound grownSound exhaustive)
  · exact Or.inr (Or.inl ⟨v, growth.mem member, isDefault⟩)
  · exact Or.inr (Or.inr ⟨v, growth.mem member, catchAll⟩)

/-- The name kept of the marked variants stays when no later one is marked. -/
theorem kept_of_unmarked {kept grownKept : Option String} {variants later : List MappedVariant}
    {mark : MappedVariant → Bool}
    (named : ∀ name, kept = some name ↔ ∃ v ∈ variants, mark v = true ∧ v.name = name)
    (grownNamed : ∀ name, grownKept = some name ↔
      ∃ v ∈ variants ++ later, mark v = true ∧ v.name = name)
    (unmarked : ∀ w ∈ later, mark w = false) : grownKept = kept := by
  apply Option.ext
  intro name
  rw [grownNamed, named]
  constructor
  · rintro ⟨v, member, marked, same⟩
    rcases List.mem_append.mp member with first | last
    · exact ⟨v, first, marked, same⟩
    · rw [unmarked v last] at marked
      contradiction
  · rintro ⟨v, member, marked, same⟩
    exact ⟨v, List.mem_append_left _ member, marked, same⟩

theorem Extends.convert?_eq (growth : grown.Extends m later) (sound : m.Sound)
    (grownSound : grown.Sound)
    (plain : ∀ w ∈ later, w.isDefault = false ∧ w.isCatchAll = false)
    (unmatched : ∀ w ∈ later, w.isMatch n = false) : grown.convert? n = m.convert? n := by
  have byDefault : grown.defaultVariant = m.defaultVariant := by
    have named := grownSound.defaultVariant_iff
    rw [growth.variants] at named
    exact kept_of_unmarked sound.defaultVariant_iff named fun w member => (plain w member).1
  have catchAll : grown.catchAllVariant = m.catchAllVariant := by
    have named := grownSound.catchAllVariant_iff
    rw [growth.variants] at named
    exact kept_of_unmarked sound.catchAllVariant_iff named fun w member => (plain w member).2
  exact convert?_congr (by rw [growth.lookup_of_unmatched unmatched]) byDefault catchAll

/-- Without a new fallback, integers that no later variant matches convert as before. -/
theorem Extends.tryFromInteger_eq {ε : Type} (growth : grown.Extends m later) (sound : m.Sound)
    (grownSound : grown.Sound)
    (plain : ∀ w ∈ later, w.isDefault = false ∧ w.isCatchAll = false)
    (unmatched : ∀ w ∈ later, w.isMatch n = false) (registry : Registry ε) :
    grown.falliblePlan.tryFromInteger n registry = m.falliblePlan.tryFromInteger n registry :=
  tryFromInteger_congr grownSound sound growth.integerType
    (growth.convert?_eq sound grownSound plain unmatched) growth.enumName growth.errorType registry

end Growing

end Mapping

namespace EnumDecl

def resolvedAfter (d : EnumDecl) (more : List VariantDecl) : List MappedVariant :=
  (d.valuesAfter more).map fun (v, value) => v.resolved value

theorem extends_of_resolve {d : EnumDecl} {more : List VariantDecl} {m grown : Mapping}
    (success : resolve d = .ok m) (extended : resolve (d.followedBy more) = .ok grown) :
    grown.Extends m (d.resolvedAfter more) := by
  obtain ⟨_, rfl⟩ := resolve_eq_ok_iff.mp success
  obtain ⟨_, rfl⟩ := resolve_eq_ok_iff.mp extended
  exact ⟨rfl, rfl, rfl, d.resolvedVariants_followedBy more⟩

theorem plain_resolvedAfter {d : EnumDecl} {more : List VariantDecl}
    (plain : ∀ v ∈ more, v.isDefault = false ∧ v.isCatchAll = false) :
    ∀ w ∈ d.resolvedAfter more, w.isDefault = false ∧ w.isCatchAll = false := by
  intro w member
  obtain ⟨⟨v, value⟩, added, rfl⟩ := List.mem_map.mp member
  exact plain v (mem_of_mem_valuesAfter added)

end EnumDecl

/-- What the mapping `grown` keeps of the mapping `m` of a declaration to which variants are added:
`q` and `t` are the fallible plan of `m` and the plan that writes its values, `qGrown` and `tGrown`
those of the grown mapping. -/
structure EnumDecl.Keeps (d : EnumDecl) (more : List VariantDecl) (m grown : Mapping)
    (q t qGrown tGrown : Plan) : Prop where
  fallible : derive m .fromIntegerFallible = .ok q
  writing : derive m .toInteger = .ok t
  grownFallible : derive grown .fromIntegerFallible = .ok qGrown
  grownWriting : derive grown .toInteger = .ok tGrown
  variants : m.variants <+: grown.variants
  matched : ∀ n v, m.lookup n = some v →
    (∀ (ε : Type) (registry : Registry ε),
      qGrown.tryFromInteger n registry = .ok (.success ⟨v.name, none⟩)) ∧
    ∀ p, derive grown .fromIntegerTotal = .ok p → p.fromIntegerTotal n = .ok ⟨v.name, none⟩
  written : ∀ v ∈ d.variants, v.isCatchAll = false → ∀ payload, ∃ k,
    t.toInteger ⟨v.name, payload⟩ = .ok k ∧ tGrown.toInteger ⟨v.name, payload⟩ = .ok k
  total : (∃ p, derive m .fromIntegerTotal = .ok p) → ∃ p, derive grown .fromIntegerTotal = .ok p
  unmatched : (∀ v ∈ more, v.isDefault = false ∧ v.isCatchAll = false) →
    ∀ n, (∀ w ∈ grown.variants.drop m.variants.length, w.isMatch n = false) →
      ∀ (ε : Type) (registry : Registry ε),
        qGrown.tryFromInteger n registry = q.tryFromInteger n registry

/-- Adding variants at the end breaks nothing: the resolved variants stay, every matched integer
still converts to its variant, values of the old variants are written alike, a total conversion
stays available, and without a new fallback every integer that no new variant matches has the same
fallible outcome. -/
theorem added_variants_keep_conversions {d : EnumDecl} {more : List VariantDecl}
    {m grown : Mapping} (valid : (d.followedBy more).Valid) (success : resolve d = .ok m)
    (extended : resolve (d.followedBy more) = .ok grown) :
    ∃ q t qGrown tGrown, d.Keeps more m grown q t qGrown tGrown := by
  have growth := EnumDecl.extends_of_resolve success extended
  have sound := sound_of_resolve success
  have grownSound := sound_of_resolve extended
  have grownDistinct : grown.names.Nodup :=
    Mapping.names_of_resolve extended ▸ valid.distinct
  have distinct : m.names.Nodup := by
    unfold Mapping.names at grownDistinct ⊢
    rw [growth.variants, List.map_append] at grownDistinct
    exact (List.nodup_append.mp grownDistinct).1
  have starts : m.variants <+: grown.variants := ⟨_, growth.variants.symm⟩
  refine ⟨_, _, _, _, rfl, rfl, rfl, rfl, starts, ?matched, ?written, ?total, ?unmatched⟩
  case matched =>
    intro n v found
    have grownFound := growth.lookup_of_found found
    have inType := grownSound.contains_of_lookup grownFound
    have converts := Mapping.converts_of_lookup grownFound
    exact ⟨fun _ registry => grownSound.tryFromInteger_of_converts registry inType converts,
      fun p available => grownSound.fromIntegerTotal_of_converts available inType converts⟩
  case written =>
    intro v member plain payload
    obtain ⟨_, rfl⟩ := resolve_eq_ok_iff.mp success
    obtain ⟨w, resolved, named, same⟩ := EnumDecl.exists_resolved_of_member member
    have wPlain : w.isCatchAll = false := same.trans plain
    refine ⟨w.value, ?_, ?_⟩
    · rw [← named]
      exact sound.toInteger_of_plain distinct resolved wPlain payload
    · rw [← named]
      exact grownSound.toInteger_of_plain grownDistinct (growth.mem resolved) wPlain payload
  case total =>
    intro available
    apply (grownSound.derives_iff .fromIntegerTotal).mpr
    exact growth.offers_total sound grownSound ((sound.derives_iff .fromIntegerTotal).mp available)
  case unmatched =>
    intro plain n unmatched ε registry
    rw [growth.variants, List.drop_left] at unmatched
    exact growth.tryFromInteger_eq sound grownSound (EnumDecl.plain_resolvedAfter plain) unmatched
      registry

def VariantDecl.later : VariantDecl where
  name := "Later"
  modifiers := [.alternatives [.range ⟨20, 30, false, by decide⟩] none]

def Mapping.laterReply : Mapping :=
  { Mapping.reply with
    variants := Mapping.reply.variants ++
      [{ name := "Later", value := 202, alternatives := [.closed 20 29 (by decide)] }] }

theorem added_variants_keep_conversions_reply :
    (EnumDecl.reply.followedBy [.later]).Valid ∧
      resolve EnumDecl.reply = .ok Mapping.reply ∧
      resolve (EnumDecl.reply.followedBy [.later]) = .ok Mapping.laterReply ∧
      Mapping.reply.variants <+: Mapping.laterReply.variants ∧
      (∀ registry : Registry String,
        Mapping.laterReply.falliblePlan.tryFromInteger 5 registry =
          .ok (.success ⟨"Ready", none⟩)) ∧
      ∀ registry : Registry String,
        Mapping.laterReply.falliblePlan.tryFromInteger 30 registry =
          Mapping.reply.falliblePlan.tryFromInteger 30 registry := by
  have valid : (EnumDecl.reply.followedBy [.later]).Valid := by decide
  have extended : resolve (EnumDecl.reply.followedBy [.later]) = .ok Mapping.laterReply := by cbv
  obtain ⟨q, t, qGrown, tGrown, keeps⟩ :=
    added_variants_keep_conversions valid resolve_reply extended
  cases keeps.fallible
  cases keeps.grownFallible
  have ready : Mapping.reply.lookup 5 = some
      { name := "Ready", value := 0, alternatives := [.single 1, .closed 2 9 (by decide)] } := rfl
  exact ⟨valid, resolve_reply, extended, keeps.variants, (keeps.matched 5 _ ready).1 String,
    keeps.unmatched (by decide) 30 (by decide) String⟩

end IntegerEnum
