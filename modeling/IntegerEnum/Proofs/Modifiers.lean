import IntegerEnum.Resolution
import Mathlib.Data.List.Basic

/-! # The checks of modifiers and fields

`fault?` says what one variant may carry after the variants before it. Over a whole declaration its
scattered exclusions amount to one count: at most one modifier marks a fallback. The marks that a
run collects name the variants that carry those modifiers. -/
set_option autoImplicit false

namespace IntegerEnum

/-- A modifier that marks the fallback variant of an enumeration. -/
def Modifier.isFallback (m : Modifier) : Bool := m.kind = .byDefault || m.kind = .catchAll

namespace VariantDecl

theorem has_eq_true_iff {v : VariantDecl} {kind : ModifierKind} :
    v.has kind = true ↔ v.modifiersOf kind ≠ [] := by
  simp [has, modifiersOf]

theorem has_eq_false_iff {v : VariantDecl} {kind : ModifierKind} :
    v.has kind = false ↔ v.modifiersOf kind = [] := by
  rw [← Bool.not_eq_true, has_eq_true_iff, not_not]

/-- A catch-all has one field, of the integer type, and no alternatives; no other variant has
fields. -/
def Shaped (v : VariantDecl) (t : IntegerType) : Prop :=
  if v.isCatchAll then v.modifiersOf .alternatives = [] ∧ v.fieldTypes = [t.name]
  else v.fieldTypes = []

theorem shaped_of_catchAll {v : VariantDecl} {t : IntegerType} (catchAll : v.isCatchAll = true) :
    v.Shaped t ↔ v.modifiersOf .alternatives = [] ∧ v.fieldTypes = [t.name] := by
  rw [Shaped, if_pos catchAll]

theorem shaped_of_no_catchAll {v : VariantDecl} {t : IntegerType}
    (plain : v.modifiersOf .catchAll = []) : v.Shaped t ↔ v.fieldTypes = [] := by
  rw [Shaped, if_neg (by rw [isCatchAll, has_eq_true_iff, plain]; simp)]

theorem payloadFault?_eq_none_iff {v : VariantDecl} {t : IntegerType} :
    v.payloadFault? t = none ↔ v.fieldTypes = [] := by
  rw [payloadFault?, payloadShape]
  split_ifs <;> simp_all

theorem catchAllFault?_eq_none_iff {v : VariantDecl} {t : IntegerType} {earlier : Marks}
    {mark : Modifier} :
    v.catchAllFault? t earlier mark = none ↔
      earlier.catchAll = none ∧ v.modifiersOf .alternatives = [] ∧ v.fieldTypes = [t.name] := by
  rw [catchAllFault?]
  cases earlier.catchAll with
  | some first => simp
  | none =>
      cases v.modifiersOf .alternatives with
      | cons values rest => simp
      | nil =>
          simp only [payloadShape]
          split_ifs <;> simp_all

def fallbackCount (v : VariantDecl) : Nat :=
  (v.modifiersOf .byDefault).length + (v.modifiersOf .catchAll).length

theorem fault?_eq_none_iff {v : VariantDecl} {t : IntegerType} {earlier : Marks} :
    v.fault? t earlier = none ↔
      v.fallbackCount ≤ 1 ∧ v.Shaped t ∧
        (v.modifiersOf .byDefault ≠ [] → earlier.byDefault = none) ∧
          (v.modifiersOf .catchAll ≠ [] → earlier.catchAll = none) := by
  rw [fault?, fallbackCount]
  rcases defaults : v.modifiersOf .byDefault with _ | ⟨mark, _ | ⟨second, others⟩⟩
  · rcases catchAlls : v.modifiersOf .catchAll with _ | ⟨mark, _ | ⟨second, others⟩⟩
    · simp [payloadFault?_eq_none_iff, shaped_of_no_catchAll catchAlls]
    · have catchAll : v.isCatchAll = true := has_eq_true_iff.mpr (by simp [catchAlls])
      simp only [catchAllFault?_eq_none_iff, shaped_of_catchAll catchAll]
      simp [and_comm]
    · simp
  · rcases catchAlls : v.modifiersOf .catchAll with _ | ⟨mark, _ | ⟨second, others⟩⟩
    · simp only [shaped_of_no_catchAll catchAlls]
      cases earlier.byDefault with
      | some first => simp
      | none => simp [payloadFault?_eq_none_iff]
    · simp
    · refine iff_of_false (by simp) fun accepted => ?_
      simp only [List.length_cons] at accepted
      omega
  · refine iff_of_false (by simp) fun accepted => ?_
    simp only [List.length_cons] at accepted
    omega

theorem fault?_kind {v : VariantDecl} {t : IntegerType} {earlier : Marks} {problem : Diagnostic}
    (found : v.fault? t earlier = some problem) :
    problem.kind = .conflictingModifiers ∨ problem.kind = .malformedCatchAll ∨
      problem.kind = .unexpectedPayload := by
  have payload : ∀ {problem}, v.payloadFault? t = some problem →
      problem.kind = .unexpectedPayload := by
    intro problem found
    rw [payloadFault?] at found
    split at found
    · contradiction
    · cases found; rfl
  rw [fault?] at found
  split at found
  · cases found; exact Or.inl rfl
  · cases found; exact Or.inl rfl
  · cases found; exact Or.inl rfl
  · split at found
    · cases found; exact Or.inl rfl
    · exact Or.inr (Or.inr (payload found))
  · rw [catchAllFault?] at found
    split at found
    · cases found; exact Or.inl rfl
    · cases found; exact Or.inl rfl
    · split at found
      · contradiction
      · cases found; exact Or.inr (Or.inl rfl)
  · exact Or.inr (Or.inr (payload found))

end VariantDecl

/-! ## The run over all variants -/

/-- How many modifiers of a kind the variants carry. -/
def modifierCount (kind : ModifierKind) (variants : List VariantDecl) : Nat :=
  (variants.flatMap fun v => v.modifiersOf kind).length

@[simp] theorem modifierCount_nil (kind : ModifierKind) : modifierCount kind [] = 0 := rfl

@[simp] theorem modifierCount_cons (kind : ModifierKind) (v : VariantDecl)
    (rest : List VariantDecl) :
    modifierCount kind (v :: rest) = (v.modifiersOf kind).length + modifierCount kind rest := by
  rw [modifierCount, List.flatMap_cons, List.length_append, modifierCount]

theorem length_modifiersOf_le (kind : ModifierKind) {v : VariantDecl} {variants : List VariantDecl}
    (member : v ∈ variants) : (v.modifiersOf kind).length ≤ modifierCount kind variants := by
  induction variants with
  | nil => cases member
  | cons head rest ih =>
      rw [modifierCount_cons]
      rcases List.mem_cons.mp member with rfl | member
      · exact Nat.le_add_right _ _
      · exact Nat.le_trans (ih member) (Nat.le_add_left _ _)

theorem modifierCount_eq_zero_iff {kind : ModifierKind} {variants : List VariantDecl} :
    modifierCount kind variants = 0 ↔ ∀ v ∈ variants, v.has kind = false := by
  rw [modifierCount, List.length_eq_zero_iff, List.flatMap_eq_nil_iff]
  simp only [VariantDecl.has_eq_false_iff]

/-- Fallback modifiers are counted by kind. -/
theorem countP_isFallback (variants : List VariantDecl) :
    (variants.flatMap VariantDecl.modifiers).countP Modifier.isFallback =
      modifierCount .byDefault variants + modifierCount .catchAll variants := by
  induction variants with
  | nil => rfl
  | cons v rest ih =>
      have single : v.modifiers.countP Modifier.isFallback = v.fallbackCount := by
        rw [VariantDecl.fallbackCount, VariantDecl.modifiersOf, VariantDecl.modifiersOf,
          ← List.countP_eq_length_filter, ← List.countP_eq_length_filter]
        induction v.modifiers with
        | nil => rfl
        | cons m others ih =>
            simp only [List.countP_cons, ih]
            cases m <;> simp [Modifier.isFallback, Modifier.kind] <;> omega
      rw [List.flatMap_cons, List.countP_append, ih, single, VariantDecl.fallbackCount]
      simp only [modifierCount_cons]
      omega

/-- No two variants carry a modifier that occurs once. -/
theorem eq_of_modifierCount_le_one {kind : ModifierKind} : ∀ {variants : List VariantDecl},
    modifierCount kind variants ≤ 1 → ∀ v ∈ variants, ∀ w ∈ variants,
      v.has kind = true → w.has kind = true → v = w := by
  intro variants
  induction variants with
  | nil => intro _ v member; cases member
  | cons head rest ih =>
      intro few v vMember w wMember vHas wHas
      rw [modifierCount_cons] at few
      -- a carrier at the head leaves none for the rest
      have alone : head.has kind = true → ∀ x ∈ rest, x.has kind = true → False := by
        intro headHas x member xHas
        have headCount := List.length_pos_iff.mpr (VariantDecl.has_eq_true_iff.mp headHas)
        have xCount := List.length_pos_iff.mpr (VariantDecl.has_eq_true_iff.mp xHas)
        have xBound := length_modifiersOf_le kind member
        omega
      rcases List.mem_cons.mp vMember with rfl | vRest
      · rcases List.mem_cons.mp wMember with rfl | wRest
        · rfl
        · exact (alone vHas w wRest wHas).elim
      · rcases List.mem_cons.mp wMember with rfl | wRest
        · exact (alone wHas v vRest vHas).elim
        · exact ih (by omega) v vRest w wRest vHas wHas

namespace Marks

/-- The marks after some more variants. -/
def after (marks : Marks) (variants : List VariantDecl) : Marks :=
  variants.foldl (fun marks v => v.addMarks marks) marks

@[simp] theorem after_nil (marks : Marks) : marks.after [] = marks := rfl

@[simp] theorem after_cons (marks : Marks) (v : VariantDecl) (rest : List VariantDecl) :
    marks.after (v :: rest) = (v.addMarks marks).after rest := rfl

theorem byDefault_addMarks (marks : Marks) (v : VariantDecl) :
    (v.addMarks marks).byDefault = if v.isDefault then some v.name else marks.byDefault := rfl

theorem catchAll_addMarks (marks : Marks) (v : VariantDecl) :
    (v.addMarks marks).catchAll.map Prod.fst =
      if v.isCatchAll then some v.name else marks.catchAll.map Prod.fst := by
  cases catchAll : v.isCatchAll with
  | true =>
      have carries := VariantDecl.has_eq_true_iff.mp catchAll
      obtain ⟨mark, rest, found⟩ := List.exists_cons_of_ne_nil carries
      rw [if_pos rfl]
      simp only [VariantDecl.addMarks, found, Option.map_some]
  | false =>
      have plain := VariantDecl.has_eq_false_iff.mp catchAll
      rw [if_neg Bool.false_ne_true]
      simp only [VariantDecl.addMarks, plain]

/-- The default mark names the last variant that is marked so. -/
theorem byDefault_after (variants : List VariantDecl) : ∀ marks : Marks,
    (marks.after variants).byDefault =
      ((variants.reverse.find? VariantDecl.isDefault).map VariantDecl.name).or marks.byDefault := by
  induction variants with
  | nil => intro marks; rfl
  | cons v rest ih =>
      intro marks
      rw [after_cons, ih, byDefault_addMarks, List.reverse_cons, List.find?_append,
        Option.map_or, Option.or_assoc]
      cases byDefault : v.isDefault <;> simp [byDefault]

theorem catchAll_after (variants : List VariantDecl) : ∀ marks : Marks,
    (marks.after variants).catchAll.map Prod.fst =
      ((variants.reverse.find? VariantDecl.isCatchAll).map VariantDecl.name).or
        (marks.catchAll.map Prod.fst) := by
  induction variants with
  | nil => intro marks; rfl
  | cons v rest ih =>
      intro marks
      rw [after_cons, ih, catchAll_addMarks, List.reverse_cons, List.find?_append,
        Option.map_or, Option.or_assoc]
      cases catchAll : v.isCatchAll <;> simp [catchAll]

end Marks

/-- A slot that the members of a list fill, each demanding it empty, is filled at most once. -/
theorem slot_le_one_iff {α β : Type} {found : List α} {old new : Option β}
    (few : found.length ≤ 1) (kept : found = [] → new = old)
    (filled : found ≠ [] → new.isSome = true) (more : Nat) :
    ((found ≠ [] → old = none) ∧ new.toList.length + more ≤ 1) ↔
      old.toList.length + (found.length + more) ≤ 1 := by
  rcases found with _ | ⟨first, _ | ⟨second, rest⟩⟩
  · rw [kept rfl]
    simp
  · obtain ⟨value, rfl⟩ := Option.isSome_iff_exists.mp (filled (by simp))
    cases old with
    | none => simp
    | some other =>
        refine iff_of_false ?_ ?_
        · rintro ⟨empty, _⟩
          cases empty (by simp)
        · simp only [Option.toList_some, List.length_singleton]
          omega
  · simp only [List.length_cons] at few
    omega

theorem byDefault_slot {v : VariantDecl} (few : v.fallbackCount ≤ 1) (marks : Marks) (more : Nat) :
    ((v.modifiersOf .byDefault ≠ [] → marks.byDefault = none) ∧
        (v.addMarks marks).byDefault.toList.length + more ≤ 1) ↔
      marks.byDefault.toList.length + ((v.modifiersOf .byDefault).length + more) ≤ 1 := by
  refine slot_le_one_iff (by unfold VariantDecl.fallbackCount at few; omega) ?_ ?_ more
  · intro plain
    rw [Marks.byDefault_addMarks, VariantDecl.isDefault, VariantDecl.has_eq_false_iff.mpr plain]
    rfl
  · intro carries
    rw [Marks.byDefault_addMarks, VariantDecl.isDefault, VariantDecl.has_eq_true_iff.mpr carries]
    rfl

theorem catchAll_slot {v : VariantDecl} (few : v.fallbackCount ≤ 1) (marks : Marks) (more : Nat) :
    ((v.modifiersOf .catchAll ≠ [] → marks.catchAll = none) ∧
        (v.addMarks marks).catchAll.toList.length + more ≤ 1) ↔
      marks.catchAll.toList.length + ((v.modifiersOf .catchAll).length + more) ≤ 1 := by
  refine slot_le_one_iff (by unfold VariantDecl.fallbackCount at few; omega) ?_ ?_ more
  · intro plain
    simp only [VariantDecl.addMarks, plain]
  · intro carries
    obtain ⟨mark, rest, found⟩ := List.exists_cons_of_ne_nil carries
    simp only [VariantDecl.addMarks, found, Option.isSome_some]

/-- A run succeeds exactly when every variant passes on its own and each slot is filled at most
once, by the run or before it. -/
theorem checkVariants_eq_ok_iff {t : IntegerType} : ∀ (variants : List VariantDecl)
    {marks final : Marks},
    checkVariants t marks variants = .ok final ↔
      (∀ v ∈ variants, v.fallbackCount ≤ 1 ∧ v.Shaped t) ∧
        marks.byDefault.toList.length + modifierCount .byDefault variants ≤ 1 ∧
          marks.catchAll.toList.length + modifierCount .catchAll variants ≤ 1 ∧
            marks.after variants = final := by
  intro variants
  induction variants with
  | nil =>
      intro marks final
      have oneDefault : marks.byDefault.toList.length ≤ 1 := by cases marks.byDefault <;> simp
      have oneCatchAll : marks.catchAll.toList.length ≤ 1 := by cases marks.catchAll <;> simp
      simp [checkVariants, oneDefault, oneCatchAll]
  | cons v rest ih =>
      intro marks final
      have step : checkVariants t marks (v :: rest) = .ok final ↔
          v.fault? t marks = none ∧ checkVariants t (v.addMarks marks) rest = .ok final := by
        rw [checkVariants]
        cases v.fault? t marks <;> simp
      rw [step, VariantDecl.fault?_eq_none_iff, ih, List.forall_mem_cons, Marks.after_cons,
        modifierCount_cons, modifierCount_cons]
      constructor
      · rintro ⟨⟨few, shaped, noDefault, noCatchAll⟩, passed, defaults, catchAlls, same⟩
        exact ⟨⟨⟨few, shaped⟩, passed⟩, (byDefault_slot few marks _).mp ⟨noDefault, defaults⟩,
          (catchAll_slot few marks _).mp ⟨noCatchAll, catchAlls⟩, same⟩
      · rintro ⟨⟨⟨few, shaped⟩, passed⟩, defaults, catchAlls, same⟩
        obtain ⟨noDefault, defaults⟩ := (byDefault_slot few marks _).mpr defaults
        obtain ⟨noCatchAll, catchAlls⟩ := (catchAll_slot few marks _).mpr catchAlls
        exact ⟨⟨few, shaped, noDefault, noCatchAll⟩, passed, defaults, catchAlls, same⟩

theorem checkVariants_error_kind {t : IntegerType} {problem : Diagnostic} :
    ∀ (variants : List VariantDecl) {marks : Marks},
      checkVariants t marks variants = .error problem →
        problem.kind = .conflictingModifiers ∨ problem.kind = .malformedCatchAll ∨
          problem.kind = .unexpectedPayload := by
  intro variants
  induction variants with
  | nil => intro marks failure; cases failure
  | cons v rest ih =>
      intro marks failure
      rw [checkVariants] at failure
      cases found : v.fault? t marks with
      | some fault =>
          rw [found] at failure
          cases failure
          exact VariantDecl.fault?_kind found
      | none =>
          rw [found] at failure
          exact ih failure

/-! ## The declaration as a whole -/

namespace EnumDecl

def marks (d : EnumDecl) : Marks := Marks.after {} d.variants

def fallbackCount (d : EnumDecl) : Nat :=
  modifierCount .byDefault d.variants + modifierCount .catchAll d.variants

theorem byDefault_marks (d : EnumDecl) :
    d.marks.byDefault =
      (d.variants.reverse.find? VariantDecl.isDefault).map VariantDecl.name := by
  rw [marks, Marks.byDefault_after, Option.or_none]

theorem catchAll_marks (d : EnumDecl) :
    d.marks.catchAll.map Prod.fst =
      (d.variants.reverse.find? VariantDecl.isCatchAll).map VariantDecl.name := by
  rw [marks, Marks.catchAll_after, Option.map_none, Option.or_none]

theorem byDefault_marks_eq_none_iff {d : EnumDecl} :
    d.marks.byDefault = none ↔ modifierCount .byDefault d.variants = 0 := by
  rw [byDefault_marks, modifierCount_eq_zero_iff]
  simp [VariantDecl.isDefault]

theorem catchAll_marks_eq_none_iff {d : EnumDecl} :
    d.marks.catchAll = none ↔ modifierCount .catchAll d.variants = 0 := by
  rw [← Option.map_eq_none_iff (f := Prod.fst), catchAll_marks, modifierCount_eq_zero_iff]
  simp [VariantDecl.isCatchAll]

theorem wholeFault?_eq_none_iff {d : EnumDecl} {marks : Marks} :
    d.wholeFault? marks = none ↔
      (marks.byDefault = none ∨ marks.catchAll = none) ∧ d.errorTypes.length ≤ 1 := by
  rw [wholeFault?]
  rcases marks.byDefault with _ | first <;> rcases marks.catchAll with _ | ⟨variant, span⟩ <;>
    rcases d.errorTypes with _ | ⟨e, _ | ⟨second, rest⟩⟩ <;> simp

/-- All exclusions between fallback modifiers together say that there is at most one of them. -/
theorem checkModifiers_eq_ok_iff {d : EnumDecl} {final : Marks} :
    d.checkModifiers = .ok final ↔
      (∀ v ∈ d.variants, v.Shaped d.integerType) ∧ d.fallbackCount ≤ 1 ∧
        d.errorTypes.length ≤ 1 ∧ d.marks = final := by
  have split : d.checkModifiers = .ok final ↔
      checkVariants d.integerType {} d.variants = .ok final ∧ d.wholeFault? final = none := by
    rw [checkModifiers]
    cases checkVariants d.integerType {} d.variants with
    | error problem => simp
    | ok marks =>
        cases found : d.wholeFault? marks with
        | some problem =>
            refine iff_of_false (by simp [found]) ?_
            rintro ⟨same, clean⟩
            cases same
            rw [clean] at found
            contradiction
        | none =>
            simp only [found]
            exact ⟨fun same => ⟨same, by cases same; exact found⟩, And.left⟩
  rw [split, checkVariants_eq_ok_iff, wholeFault?_eq_none_iff, fallbackCount]
  constructor
  · rintro ⟨⟨passed, defaults, catchAlls, rfl⟩, oneFallback, oneError⟩
    refine ⟨fun v member => (passed v member).2, ?_, oneError, rfl⟩
    rcases oneFallback with noDefault | noCatchAll
    · have zero := byDefault_marks_eq_none_iff.mp noDefault
      simp only [Option.toList_none, List.length_nil] at catchAlls
      omega
    · have zero := catchAll_marks_eq_none_iff.mp noCatchAll
      simp only [Option.toList_none, List.length_nil] at defaults
      omega
  · rintro ⟨shaped, few, oneError, rfl⟩
    refine ⟨⟨?_, ?_, ?_, rfl⟩, ?_, oneError⟩
    · intro v member
      have defaults := length_modifiersOf_le .byDefault member
      have catchAlls := length_modifiersOf_le .catchAll member
      exact ⟨by unfold VariantDecl.fallbackCount; omega, shaped v member⟩
    · simp only [Option.toList_none, List.length_nil]
      omega
    · simp only [Option.toList_none, List.length_nil]
      omega
    · by_cases zero : modifierCount .byDefault d.variants = 0
      · exact Or.inl (byDefault_marks_eq_none_iff.mpr zero)
      · exact Or.inr (catchAll_marks_eq_none_iff.mpr (by omega))

theorem checkModifiers_error_kind {d : EnumDecl} {problem : Diagnostic}
    (failure : d.checkModifiers = .error problem) :
    problem.kind = .conflictingModifiers ∨ problem.kind = .malformedCatchAll ∨
      problem.kind = .unexpectedPayload ∨ problem.kind = .conflictingErrorType := by
  rw [checkModifiers] at failure
  cases run : checkVariants d.integerType {} d.variants with
  | error found =>
      rw [run] at failure
      cases failure
      rcases checkVariants_error_kind d.variants run with conflict | malformed | payload
      · exact Or.inl conflict
      · exact Or.inr (Or.inl malformed)
      · exact Or.inr (Or.inr (Or.inl payload))
  | ok marks =>
      simp only [run] at failure
      rw [wholeFault?] at failure
      split at failure
      · rename_i found
        cases failure
        split at found
        · cases found; exact Or.inl rfl
        · cases found; exact Or.inr (Or.inr (Or.inr rfl))
        · contradiction
      · contradiction

end EnumDecl

end IntegerEnum
