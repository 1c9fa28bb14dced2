import IntegerEnum.Derivation
import IntegerEnum.Evaluation
import IntegerEnum.Proofs.Coverage
import IntegerEnum.Proofs.Erasure

/-! # Places and texts decide nothing

Two declarations with the same bare form differ only in places and texts. Every stage treats them
alike: they resolve to mappings with the same bare form or fail for the same cause, the same
families can be derived of them, and the plans evaluate alike on every argument. -/
set_option autoImplicit false

namespace IntegerEnum

def TableRow.bare (row : TableRow) : TableRow := { row with text := none }

def Plan.bare (p : Plan) : Plan := { p with table := p.table.map TableRow.bare }

namespace Mapping
variable (m : Mapping)

theorem table_bare : m.bare.table = m.table.map TableRow.bare := by
  unfold table bare
  rw [List.filter_map, List.map_map, List.map_map]
  rfl

theorem basePlan_bare (family : Family) : m.bare.basePlan family = (m.basePlan family).bare := by
  unfold basePlan Plan.bare
  rw [table_bare]
  rfl

theorem uncheckedBlockers_bare : m.bare.uncheckedBlockers = m.uncheckedBlockers := by
  unfold uncheckedBlockers bare
  rw [List.filter_map, List.map_map]
  rfl

theorem ofErrorType_bare : ErrorRecipe.ofErrorType m.bare.errorType = .ofErrorType m.errorType := by
  unfold bare
  cases m.errorType <;> rfl

end Mapping

/-- A family is available of the bare mapping alike, and its plan is the bare plan. -/
theorem derive_bare (m : Mapping) (family : Family) :
    derive m.bare family = (derive m family).map Plan.bare := by
  cases family with
  | toInteger =>
      simp only [derive, Mapping.toIntegerPlan, Mapping.basePlan_bare]
      rfl
  | fromIntegerTotal =>
      have fallback : m.bare.fallback? = m.fallback? := rfl
      simp only [derive, fallback, Mapping.totalPlan, Mapping.basePlan_bare]
      cases m.fallback? <;> rfl
  | fromIntegerFallible =>
      simp only [derive, Mapping.falliblePlan, Mapping.basePlan_bare, Mapping.ofErrorType_bare]
      rfl
  | fromIntegerUnchecked =>
      simp only [derive, Mapping.uncheckedBlockers_bare, Mapping.uncheckedPlan,
        Mapping.basePlan_bare]
      cases m.uncheckedBlockers <;> rfl
  | defaultValue =>
      have marked : m.bare.defaultVariant = m.defaultVariant := rfl
      simp only [derive, marked, Mapping.basePlan_bare]
      split <;> rfl

/-- No evaluation tells the plans apart. -/
structure Plan.EvaluatesLike (q p : Plan) : Prop where
  toInteger : ∀ v, q.toInteger v = p.toInteger v
  fromIntegerTotal : ∀ n, q.fromIntegerTotal n = p.fromIntegerTotal n
  tryFromInteger : ∀ {ε : Type} (n : Int) (registry : Registry ε),
    q.tryFromInteger n registry = p.tryFromInteger n registry
  fromIntegerUnchecked : ∀ n, q.fromIntegerUnchecked n = p.fromIntegerUnchecked n
  defaultValue : q.defaultValue = p.defaultValue

namespace Plan
variable {p q r : Plan}

theorem EvaluatesLike.symm (alike : q.EvaluatesLike p) : p.EvaluatesLike q where
  toInteger v := (alike.toInteger v).symm
  fromIntegerTotal n := (alike.fromIntegerTotal n).symm
  tryFromInteger n registry := (alike.tryFromInteger n registry).symm
  fromIntegerUnchecked n := (alike.fromIntegerUnchecked n).symm
  defaultValue := alike.defaultValue.symm

theorem EvaluatesLike.trans (first : r.EvaluatesLike q) (second : q.EvaluatesLike p) :
    r.EvaluatesLike p where
  toInteger v := (first.toInteger v).trans (second.toInteger v)
  fromIntegerTotal n := (first.fromIntegerTotal n).trans (second.fromIntegerTotal n)
  tryFromInteger n registry :=
    (first.tryFromInteger n registry).trans (second.tryFromInteger n registry)
  fromIntegerUnchecked n := (first.fromIntegerUnchecked n).trans (second.fromIntegerUnchecked n)
  defaultValue := first.defaultValue.trans second.defaultValue

theorem lookup_bare (p : Plan) (n : Int) : p.bare.lookup n = (p.lookup n).map TableRow.bare := by
  unfold lookup bare
  rw [List.find?_map]
  rfl

theorem rowOf?_bare (p : Plan) (variant : String) :
    p.bare.rowOf? variant = (p.rowOf? variant).map TableRow.bare := by
  unfold rowOf? bare
  rw [List.find?_map]
  rfl

/-- The plans agree in all that an evaluation looks at: the decisions made beforehand, the variant
found for an integer and the value found for a name. -/
structure DecidesLike (q p : Plan) : Prop where
  enumName : q.enumName = p.enumName
  integerType : q.integerType = p.integerType
  family : q.family = p.family
  fallback : q.fallback = p.fallback
  defaultVariant : q.defaultVariant = p.defaultVariant
  catchAllVariant : q.catchAllVariant = p.catchAllVariant
  error : q.error = p.error
  variant : ∀ n, (q.lookup n).map TableRow.variant = (p.lookup n).map TableRow.variant
  value : ∀ name, (q.rowOf? name).map TableRow.value = (p.rowOf? name).map TableRow.value

theorem fallbackValue_congr (sameName : q.enumName = p.enumName)
    (sameFallback : q.fallback = p.fallback) (n : Int) :
    q.fallbackValue n = p.fallbackValue n := by
  unfold fallbackValue
  rw [sameName, sameFallback]

/-- What is read off two results agrees when neither finds anything, or what both find agrees. -/
theorem found_alike {α β : Type} {f : α → β} {x y : Option α} (same : x.map f = y.map f) :
    (x = none ∧ y = none) ∨ ∃ a b, x = some a ∧ y = some b ∧ f a = f b := by
  cases x with
  | none => exact Or.inl ⟨rfl, Option.map_eq_none_iff.mp same.symm⟩
  | some a =>
      obtain ⟨b, found, equal⟩ := Option.map_eq_some_iff.mp same.symm
      exact Or.inr ⟨a, b, rfl, found, equal.symm⟩

theorem toInteger_congr (enumName : q.enumName = p.enumName)
    (integerType : q.integerType = p.integerType) (family : q.family = p.family)
    (catchAllVariant : q.catchAllVariant = p.catchAllVariant) (v : VariantValue)
    (value : (q.rowOf? v.name).map TableRow.value = (p.rowOf? v.name).map TableRow.value) :
    q.toInteger v = p.toInteger v := by
  unfold toInteger requireFamily requireInRange
  rw [enumName, integerType, family, catchAllVariant]
  rcases found_alike value with ⟨missing, other⟩ | ⟨a, b, found, other, same⟩
  · rw [missing, other]
  · simp only [found, other, same]

theorem DecidesLike.evaluatesLike (alike : q.DecidesLike p) : q.EvaluatesLike p where
  toInteger v := toInteger_congr alike.enumName alike.integerType alike.family
    alike.catchAllVariant v (alike.value v.name)
  fromIntegerTotal n := by
    unfold fromIntegerTotal requireFamily requireInRange
    rw [alike.enumName, alike.integerType, alike.family,
      fallbackValue_congr alike.enumName alike.fallback]
    rcases found_alike (alike.variant n) with ⟨missing, other⟩ | ⟨a, b, found, other, same⟩
    · rw [missing, other]
    · simp only [found, other, same]
  tryFromInteger n registry := by
    unfold tryFromInteger requireFamily requireInRange
    rw [alike.enumName, alike.integerType, alike.family, alike.error,
      fallbackValue_congr alike.enumName alike.fallback]
    rcases found_alike (alike.variant n) with ⟨missing, other⟩ | ⟨a, b, found, other, same⟩
    · rw [missing, other]
    · simp only [found, other, same]
  fromIntegerUnchecked n := by
    unfold fromIntegerUnchecked requireFamily
    rw [alike.enumName, alike.family]
    rcases found_alike (alike.variant n) with ⟨missing, other⟩ | ⟨a, b, found, other, same⟩
    · rw [missing, other]
    · simp only [found, other, same]
  defaultValue := by
    unfold defaultValue requireFamily
    rw [alike.enumName, alike.family, alike.defaultVariant]

theorem decidesLike_bare (p : Plan) : p.bare.DecidesLike p where
  enumName := rfl
  integerType := rfl
  family := rfl
  fallback := rfl
  defaultVariant := rfl
  catchAllVariant := rfl
  error := rfl
  variant n := by
    rw [lookup_bare, Option.map_map]
    rfl
  value name := by
    rw [rowOf?_bare, Option.map_map]
    rfl

theorem evaluatesLike_bare (p : Plan) : p.bare.EvaluatesLike p := p.decidesLike_bare.evaluatesLike

theorem evaluatesLike_of_bare (same : q.bare = p.bare) : q.EvaluatesLike p :=
  q.evaluatesLike_bare.symm.trans (same ▸ p.evaluatesLike_bare)

end Plan

section TwoRuns
variable {δ α β γ : Type} {x y : Except δ α} {f : α → β} {g : δ → γ}

/-- Of two runs whose outcomes are equal once mapped, one fails when the other does. -/
theorem error_of_alike (alike : (x.map f).mapError g = (y.map f).mapError g) {e : δ}
    (failure : x = .error e) : ∃ e', y = .error e' ∧ g e' = g e := by
  subst failure
  cases y with
  | error e' => exact ⟨e', rfl, (Except.error.inj alike).symm⟩
  | ok b => cases alike

theorem ok_of_alike (alike : (x.map f).mapError g = (y.map f).mapError g) {a : α}
    (success : x = .ok a) : ∃ b, y = .ok b ∧ f b = f a := by
  subst success
  cases y with
  | error e' => cases alike
  | ok b => exact ⟨b, rfl, (Except.ok.inj alike).symm⟩

end TwoRuns

theorem resolve_alike {d other : EnumDecl} (same : d.bare = other.bare) :
    ((resolve d).map Mapping.bare).mapError Diagnostic.bare =
      ((resolve other).map Mapping.bare).mapError Diagnostic.bare := by
  rw [← resolve_bare, ← resolve_bare, same]

/-- A problem of derivation has no place, so it is the same and not only alike. -/
theorem derive_alike {m w : Mapping} (same : w.bare = m.bare) (family : Family) :
    ((derive m family).map Plan.bare).mapError id =
      ((derive w family).map Plan.bare).mapError id := by
  rw [← derive_bare, ← derive_bare, same]

/-- Declarations that differ only in places and texts fail for the same cause, or resolve to
mappings that differ only there, of which the same families are refused with the same words and all
others evaluate alike. -/
theorem places_and_texts_decide_nothing {d other : EnumDecl} (same : d.bare = other.bare) :
    (∀ problem, resolve d = .error problem →
      ∃ found, resolve other = .error found ∧ found.cause = problem.cause) ∧
    ∀ m, resolve d = .ok m →
      ∃ w, resolve other = .ok w ∧ w.bare = m.bare ∧
        ∀ family,
          (∀ problem, derive m family = .error problem → derive w family = .error problem) ∧
          ∀ p, derive m family = .ok p → ∃ q, derive w family = .ok q ∧ q.EvaluatesLike p := by
  have resolved := resolve_alike same
  constructor
  · intro problem failure
    obtain ⟨found, otherFailure, alike⟩ := error_of_alike resolved failure
    refine ⟨found, otherFailure, ?_⟩
    rw [← found.cause_bare, alike, problem.cause_bare]
  · intro m success
    obtain ⟨w, otherSuccess, alike⟩ := ok_of_alike resolved success
    refine ⟨w, otherSuccess, alike, ?_⟩
    intro family
    have derived := derive_alike alike family
    constructor
    · intro problem failure
      obtain ⟨found, otherFailure, rfl⟩ := error_of_alike derived failure
      exact otherFailure
    · intro p available
      obtain ⟨q, otherAvailable, bare⟩ := ok_of_alike derived available
      exact ⟨q, otherAvailable, Plan.evaluatesLike_of_bare bare⟩

/-- The replies with a place for every variant and every modifier, and with other texts. -/
def EnumDecl.placedReply : EnumDecl :=
  { EnumDecl.reply with
    variants := EnumDecl.reply.variants.map fun v =>
      { v with
        explicitValue := v.explicitValue.map fun e => { e with text := some "100 + 100" }
        modifiers := v.modifiers.map fun m => match m with
          | .byDefault _ => .byDefault (some { line := some 2 })
          | .catchAll _ => .catchAll (some { line := some 7 })
          | .alternatives entries _ => .alternatives entries (some {})
        span := some { file := some "reply.src" } } }

theorem places_and_texts_decide_nothing_reply :
    EnumDecl.reply.bare = EnumDecl.placedReply.bare ∧ EnumDecl.reply ≠ EnumDecl.placedReply ∧
      resolve EnumDecl.reply = .ok Mapping.reply ∧
      ∃ w q, resolve EnumDecl.placedReply = .ok w ∧ w.bare = Mapping.reply.bare ∧
        derive w .fromIntegerTotal = .ok q ∧
        q.EvaluatesLike (Mapping.reply.totalPlan (.catchAll "Other")) := by
  have same : EnumDecl.reply.bare = EnumDecl.placedReply.bare := by decide
  obtain ⟨_, resolved⟩ := places_and_texts_decide_nothing same
  obtain ⟨w, success, bare, families⟩ := resolved _ resolve_reply
  obtain ⟨_, available⟩ := families .fromIntegerTotal
  obtain ⟨q, derived, alike⟩ := available _ rfl
  exact ⟨same, by decide, resolve_reply, w, q, success, bare, derived, alike⟩

end IntegerEnum
