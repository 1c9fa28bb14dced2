import IntegerEnum.Proofs.Resolution

/-! # Problems of modifiers and fields

`Breaks` lists the rules for the modifiers and fields of one variant, each with the cause that
reports it. The checks run through the variants and stop at the first one that breaks a rule,
whatever else is wrong there or later; the rules for the declaration as a whole come after that. -/
set_option autoImplicit false

namespace IntegerEnum

def DiagnosticKind.ofModifiers : List DiagnosticKind :=
  [.conflictingModifiers, .malformedCatchAll, .unexpectedPayload, .conflictingErrorType]

namespace VariantDecl

/-- A rule that the variant breaks, when `earlier` are the variants before it. -/
inductive Breaks (v : VariantDecl) (t : IntegerType) (earlier : List VariantDecl) : Cause → Prop
  | repeatedDefault (twice : 2 ≤ (v.modifiersOf .byDefault).length) :
      Breaks v t earlier (.conflict .repeatedDefault v.name)
  | repeatedCatchAll (twice : 2 ≤ (v.modifiersOf .catchAll).length) :
      Breaks v t earlier (.conflict .repeatedCatchAll v.name)
  | defaultAndCatchAll (marked : v.isDefault = true) (catches : v.isCatchAll = true) :
      Breaks v t earlier (.conflict .defaultAndCatchAll v.name)
  | secondDefault (u : VariantDecl) (before : u ∈ earlier) (first : u.isDefault = true)
      (marked : v.isDefault = true) : Breaks v t earlier (.conflict (.secondDefault u.name) v.name)
  | secondCatchAll (u : VariantDecl) (before : u ∈ earlier) (first : u.isCatchAll = true)
      (catches : v.isCatchAll = true) :
      Breaks v t earlier (.conflict (.secondCatchAll u.name) v.name)
  | catchAllWithAlternatives (catches : v.isCatchAll = true)
      (listed : v.has .alternatives = true) :
      Breaks v t earlier (.conflict .catchAllWithAlternatives v.name)
  | malformedCatchAll (catches : v.isCatchAll = true) (other : v.fieldTypes ≠ [t.name]) :
      Breaks v t earlier (.malformedCatchAll v.name t.name)
  | unexpectedPayload (plain : v.isCatchAll = false) (fields : v.fieldTypes ≠ []) :
      Breaks v t earlier (.unexpectedPayload v.name v.fieldTypes)

def Bad (v : VariantDecl) (t : IntegerType) (earlier : List VariantDecl) : Prop :=
  ∃ cause, v.Breaks t earlier cause

/-- Where a problem of the variant is told: at the variant itself when its fields are at fault, and
else at one of its modifiers. -/
def Locates (v : VariantDecl) (problem : Diagnostic) : Prop :=
  if problem.kind = .unexpectedPayload then problem.span = v.span
  else ∃ mark ∈ v.modifiers, problem.span = mark.span

theorem Breaks.names {v : VariantDecl} {t : IntegerType} {earlier : List VariantDecl}
    {cause : Cause} (broken : v.Breaks t earlier cause) : cause.variant = some v.name := by
  cases broken <;> rfl

theorem Breaks.kind {v : VariantDecl} {t : IntegerType} {earlier : List VariantDecl}
    {cause : Cause} (broken : v.Breaks t earlier cause) : cause.kind ≠ .conflictingErrorType := by
  intro same
  cases broken <;> cases same

end VariantDecl

namespace Marks
variable {earlier : List VariantDecl}

theorem exists_of_byDefault_after {first : String}
    (marked : (Marks.after {} earlier).byDefault = some first) :
    ∃ u ∈ earlier, u.isDefault = true ∧ u.name = first := by
  rw [byDefault_after, Option.or_none, Option.map_eq_some_iff] at marked
  obtain ⟨u, found, named⟩ := marked
  exact ⟨u, List.mem_reverse.mp (List.mem_of_find?_eq_some found), List.find?_some found, named⟩

theorem exists_of_catchAll_after {first : String} {span : Option SourceSpan} :
    ∀ {variants : List VariantDecl} {marks : Marks},
      (marks.after variants).catchAll = some (first, span) →
        marks.catchAll = some (first, span) ∨
          ∃ u ∈ variants, ∃ mark rest, u.modifiersOf .catchAll = mark :: rest ∧
            u.name = first ∧ mark.span = span := by
  intro variants
  induction variants with
  | nil => intro marks marked; exact Or.inl marked
  | cons v rest ih =>
      intro marks marked
      rw [after_cons] at marked
      rcases ih marked with own | ⟨u, member, found⟩
      · cases catchAlls : v.modifiersOf .catchAll with
        | nil =>
            simp only [VariantDecl.addMarks, catchAlls] at own
            exact Or.inl own
        | cons mark others =>
            simp only [VariantDecl.addMarks, catchAlls, Option.some.injEq, Prod.mk.injEq] at own
            exact Or.inr ⟨v, List.mem_cons_self .., mark, others, catchAlls, own⟩
      · exact Or.inr ⟨u, List.mem_cons_of_mem _ member, found⟩

theorem byDefault_after_eq_none_iff :
    (Marks.after {} earlier).byDefault = none ↔ ∀ u ∈ earlier, u.isDefault = false := by
  rw [byDefault_after, Option.or_none]
  simp

theorem catchAll_after_eq_none_iff :
    (Marks.after {} earlier).catchAll = none ↔ ∀ u ∈ earlier, u.isCatchAll = false := by
  rw [← Option.map_eq_none_iff (f := Prod.fst), catchAll_after, Option.map_none, Option.or_none]
  simp

end Marks

namespace VariantDecl
variable {v : VariantDecl} {t : IntegerType} {earlier : List VariantDecl} {problem : Diagnostic}

theorem locates_of_mem (kind : ModifierKind) {cause : Cause} {mark : Modifier}
    (ofModifier : cause.kind = .conflictingModifiers ∨ cause.kind = .malformedCatchAll)
    (member : mark ∈ v.modifiersOf kind) : v.Locates ⟨cause, mark.span⟩ := by
  have other : cause.kind ≠ .unexpectedPayload := by
    rcases ofModifier with same | same <;> rw [same] <;> decide
  exact (if_neg other).mpr ⟨mark, (List.mem_filter.mp member).1, rfl⟩

theorem breaks_of_payloadFault? (plain : v.modifiersOf .catchAll = [])
    (found : v.payloadFault? t = some problem) :
    v.Breaks t earlier problem.cause ∧ v.Locates problem := by
  rw [payloadFault?] at found
  split at found
  · contradiction
  · rename_i fields
    cases found
    refine ⟨.unexpectedPayload (has_eq_false_iff.mpr plain) ?_, rfl⟩
    intro bare
    exact fields (by rw [payloadShape, if_pos bare])

theorem breaks_of_catchAllFault? {mark : Modifier} (catches : mark ∈ v.modifiersOf .catchAll)
    (found : v.catchAllFault? t (Marks.after {} earlier) mark = some problem) :
    v.Breaks t earlier problem.cause ∧ v.Locates problem := by
  have isCatchAll : v.isCatchAll = true := has_eq_true_iff.mpr (List.ne_nil_of_mem catches)
  rw [catchAllFault?] at found
  split at found
  · rename_i first span marked
    cases found
    rcases Marks.exists_of_catchAll_after marked with none | ⟨u, before, own, rest, has, rfl, _⟩
    · cases none
    · have uCatchAll : u.isCatchAll = true := has_eq_true_iff.mpr (by simp [has])
      exact ⟨.secondCatchAll u before uCatchAll isCatchAll, locates_of_mem _ (Or.inl rfl) catches⟩
  · rename_i values rest _ listed
    cases found
    refine ⟨.catchAllWithAlternatives isCatchAll (has_eq_true_iff.mpr (by simp [listed])), ?_⟩
    exact locates_of_mem .alternatives (Or.inl rfl) (by simp [listed])
  · split at found
    · contradiction
    · rename_i other
      cases found
      refine ⟨.malformedCatchAll isCatchAll ?_, locates_of_mem _ (Or.inr rfl) catches⟩
      intro same
      exact other (by simp [payloadShape, same])

theorem breaks_of_fault? (found : v.fault? t (Marks.after {} earlier) = some problem) :
    v.Breaks t earlier problem.cause ∧ v.Locates problem := by
  have carries : ∀ {kind : ModifierKind} {mark : Modifier} {rest : List Modifier},
      v.modifiersOf kind = mark :: rest → v.has kind = true ∧ mark ∈ v.modifiersOf kind := by
    intro kind mark rest listed
    exact ⟨has_eq_true_iff.mpr (by simp [listed]), by simp [listed]⟩
  rcases defaults : v.modifiersOf .byDefault with _ | ⟨marked, _ | ⟨again, others⟩⟩
  · rcases catchAlls : v.modifiersOf .catchAll with _ | ⟨mark, _ | ⟨second, rest⟩⟩ <;>
      simp only [fault?, defaults, catchAlls] at found
    · exact breaks_of_payloadFault? catchAlls found
    · exact breaks_of_catchAllFault? (carries catchAlls).2 found
    · cases found
      exact ⟨.repeatedCatchAll (by simp [catchAlls]),
        locates_of_mem .catchAll (Or.inl rfl) (by simp [catchAlls])⟩
  · rcases catchAlls : v.modifiersOf .catchAll with _ | ⟨mark, _ | ⟨second, rest⟩⟩ <;>
      simp only [fault?, defaults, catchAlls] at found
    · split at found
      · rename_i name first
        cases found
        obtain ⟨u, before, uDefault, rfl⟩ := Marks.exists_of_byDefault_after first
        exact ⟨.secondDefault u before uDefault (carries defaults).1,
          locates_of_mem _ (Or.inl rfl) (carries defaults).2⟩
      · exact breaks_of_payloadFault? catchAlls found
    · cases found
      exact ⟨.defaultAndCatchAll (carries defaults).1 (carries catchAlls).1,
        locates_of_mem _ (Or.inl rfl) (carries catchAlls).2⟩
    · cases found
      exact ⟨.repeatedCatchAll (by simp [catchAlls]),
        locates_of_mem .catchAll (Or.inl rfl) (by simp [catchAlls])⟩
  · simp only [fault?, defaults] at found
    cases found
    exact ⟨.repeatedDefault (by simp [defaults]),
      locates_of_mem .byDefault (Or.inl rfl) (by simp [defaults])⟩

/-- A variant passes its checks exactly when it breaks no rule. -/
theorem fault?_eq_none_iff_not_bad :
    v.fault? t (Marks.after {} earlier) = none ↔ ¬ v.Bad t earlier := by
  constructor
  · intro passed
    obtain ⟨few, shaped, noDefault, noCatchAll⟩ := fault?_eq_none_iff.mp passed
    rw [fallbackCount] at few
    intro bad
    obtain ⟨cause, broken⟩ := bad
    cases broken with
    | repeatedDefault twice => omega
    | repeatedCatchAll twice => omega
    | defaultAndCatchAll marked catches =>
        have one := List.length_pos_iff.mpr (has_eq_true_iff.mp marked)
        have other := List.length_pos_iff.mpr (has_eq_true_iff.mp catches)
        omega
    | secondDefault u before first marked =>
        have none := Marks.byDefault_after_eq_none_iff.mp (noDefault (has_eq_true_iff.mp marked))
        exact Bool.false_ne_true ((none u before).symm.trans first)
    | secondCatchAll u before first catches =>
        have none := Marks.catchAll_after_eq_none_iff.mp (noCatchAll (has_eq_true_iff.mp catches))
        exact Bool.false_ne_true ((none u before).symm.trans first)
    | catchAllWithAlternatives catches listed =>
        exact has_eq_true_iff.mp listed ((shaped_of_catchAll catches).mp shaped).1
    | malformedCatchAll catches other =>
        exact other ((shaped_of_catchAll catches).mp shaped).2
    | unexpectedPayload plain fields =>
        exact fields ((shaped_of_no_catchAll (has_eq_false_iff.mp plain)).mp shaped)
  · intro good
    cases found : v.fault? t (Marks.after {} earlier) with
    | none => rfl
    | some problem => exact (good ⟨_, (breaks_of_fault? found).1⟩).elim

end VariantDecl

/-! ## The run -/

section Run
variable {t : IntegerType} {problem : Diagnostic}

/-- A run that fails does so at the first variant with a problem. -/
theorem checkVariants_eq_error : ∀ {variants : List VariantDecl} {marks : Marks},
    checkVariants t marks variants = .error problem →
      ∃ (i : Nat) (v : VariantDecl), variants[i]? = some v ∧
        v.fault? t (marks.after (variants.take i)) = some problem ∧
          ∀ (j : Nat) (u : VariantDecl), j < i → variants[j]? = some u →
            u.fault? t (marks.after (variants.take j)) = none := by
  intro variants
  induction variants with
  | nil => intro marks failure; cases failure
  | cons v rest ih =>
      intro marks failure
      rw [checkVariants] at failure
      cases found : v.fault? t marks with
      | some fault =>
          rw [found] at failure
          cases failure
          exact ⟨0, v, rfl, found, fun j _ below => (Nat.not_lt_zero j below).elim⟩
      | none =>
          rw [found] at failure
          obtain ⟨i, w, place, fault, passed⟩ := ih failure
          refine ⟨i + 1, w, place, fault, ?_⟩
          intro j u below listed
          cases j with
          | zero =>
              cases listed
              exact found
          | succ j => exact passed j u (Nat.lt_of_succ_lt_succ below) listed

theorem checkVariants_eq_ok : ∀ {variants : List VariantDecl} {marks final : Marks},
    checkVariants t marks variants = .ok final →
      ∀ (j : Nat) (u : VariantDecl), variants[j]? = some u →
        u.fault? t (marks.after (variants.take j)) = none := by
  intro variants
  induction variants with
  | nil => intro marks final _ j u listed; cases listed
  | cons v rest ih =>
      intro marks final passed j u listed
      rw [checkVariants] at passed
      cases found : v.fault? t marks with
      | some fault =>
          rw [found] at passed
          cases passed
      | none =>
          rw [found] at passed
          cases j with
          | zero =>
              cases listed
              exact found
          | succ j => exact ih passed j u listed

end Run

namespace EnumDecl

def BadAt (d : EnumDecl) (i : Nat) : Prop :=
  ∃ v, d.variants[i]? = some v ∧ v.Bad d.integerType (d.variants.take i)

structure FirstBad (d : EnumDecl) (i : Nat) (v : VariantDecl) : Prop where
  place : d.variants[i]? = some v
  bad : v.Bad d.integerType (d.variants.take i)
  first : ∀ j < i, ¬ d.BadAt j

structure TwoFallbacks (d : EnumDecl) (marked catches : VariantDecl) : Prop where
  byDefault : marked ∈ d.variants ∧ marked.isDefault = true
  catchAll : catches ∈ d.variants ∧ catches.isCatchAll = true

variable {d : EnumDecl} {problem : Diagnostic}

theorem not_badAt_of_passed {i : Nat}
    (passed : ∀ v, d.variants[i]? = some v →
      v.fault? d.integerType (Marks.after {} (d.variants.take i)) = none) : ¬ d.BadAt i := by
  intro found
  obtain ⟨v, place, bad⟩ := found
  exact VariantDecl.fault?_eq_none_iff_not_bad.mp (passed v place) bad

/-- The checks fail at the first bad variant, or at none when only the declaration as a whole is at
fault. -/
theorem checkModifiers_eq_error (failure : d.checkModifiers = .error problem) :
    (∃ i v, d.FirstBad i v ∧ v.Breaks d.integerType (d.variants.take i) problem.cause ∧
        v.Locates problem) ∨
      (∀ i, ¬ d.BadAt i) ∧ modifierCount .byDefault d.variants ≤ 1 ∧
        modifierCount .catchAll d.variants ≤ 1 ∧ d.wholeFault? d.marks = some problem := by
  rw [checkModifiers] at failure
  cases run : checkVariants d.integerType {} d.variants with
  | error found =>
      rw [run] at failure
      cases failure
      obtain ⟨i, v, place, fault, passed⟩ := checkVariants_eq_error run
      obtain ⟨broken, located⟩ := VariantDecl.breaks_of_fault? fault
      refine Or.inl ⟨i, v, ⟨place, ⟨_, broken⟩, ?_⟩, broken, located⟩
      intro j below
      exact not_badAt_of_passed fun u listed => passed j u below listed
  | ok marks =>
      simp only [run] at failure
      obtain ⟨_, defaults, catchAlls, rfl⟩ := (checkVariants_eq_ok_iff d.variants).mp run
      simp only [Option.toList_none, List.length_nil, Nat.zero_add] at defaults catchAlls
      refine Or.inr ⟨?_, defaults, catchAlls, ?_⟩
      · intro i
        exact not_badAt_of_passed (checkVariants_eq_ok run i)
      · split at failure
        · rename_i fault found
          cases failure
          exact found
        · contradiction

/-- Of the fallbacks that the marks name, a catch-all comes with the place of its modifier. -/
theorem exists_of_marks {first name : String} {span : Option SourceSpan}
    (byDefault : d.marks.byDefault = some first) (catchAll : d.marks.catchAll = some (name, span)) :
    ∃ b c mark rest, d.TwoFallbacks b c ∧ c.modifiersOf .catchAll = mark :: rest ∧
      b.name = first ∧ c.name = name ∧ mark.span = span := by
  obtain ⟨b, bMember, isDefault, named⟩ := Marks.exists_of_byDefault_after byDefault
  rcases Marks.exists_of_catchAll_after catchAll with none | ⟨c, cMember, mark, rest, carried, place⟩
  · cases none
  · have isCatchAll : c.isCatchAll = true := VariantDecl.has_eq_true_iff.mpr (by simp [carried])
    exact ⟨b, c, mark, rest, ⟨⟨bMember, isDefault⟩, cMember, isCatchAll⟩, carried, named, place⟩

theorem marks_ne_none_of_twoFallbacks {b c : VariantDecl} (both : d.TwoFallbacks b c) :
    d.marks.byDefault ≠ none ∧ d.marks.catchAll ≠ none := by
  rw [ne_eq, ne_eq, marks, Marks.byDefault_after_eq_none_iff, Marks.catchAll_after_eq_none_iff]
  constructor
  · intro none
    exact Bool.false_ne_true ((none b both.byDefault.1).symm.trans both.byDefault.2)
  · intro none
    exact Bool.false_ne_true ((none c both.catchAll.1).symm.trans both.catchAll.2)

theorem wholeFault?_marks_eq_some (found : d.wholeFault? d.marks = some problem) :
    (∃ b c, ∃ mark ∈ c.modifiers, d.TwoFallbacks b c ∧ mark.kind = .catchAll ∧
        problem = ⟨.conflict (.twoFallbacks b.name) c.name, mark.span⟩) ∨
      (∀ b c, ¬ d.TwoFallbacks b c) ∧ ∃ second, d.errorTypes[1]? = some second ∧
        problem = ⟨.secondErrorType d.name, second.span⟩ := by
  rw [wholeFault?] at found
  split at found
  · rename_i first name span byDefault catchAll
    cases found
    obtain ⟨b, c, mark, rest, both, carried, rfl, rfl, rfl⟩ := exists_of_marks byDefault catchAll
    have member : mark ∈ c.modifiersOf .catchAll := by simp [carried]
    obtain ⟨inModifiers, kind⟩ := List.mem_filter.mp member
    exact Or.inl ⟨b, c, mark, inModifiers, both, of_decide_eq_true kind, rfl⟩
  · rename_i one second others listed apart
    cases found
    refine Or.inr ⟨?_, second, by simp [listed], rfl⟩
    intro b c both
    obtain ⟨hasDefault, hasCatchAll⟩ := marks_ne_none_of_twoFallbacks both
    obtain ⟨first, byDefault⟩ := Option.ne_none_iff_exists'.mp hasDefault
    obtain ⟨⟨name, span⟩, catchAll⟩ := Option.ne_none_iff_exists'.mp hasCatchAll
    exact apart first name span byDefault catchAll
  · contradiction

end EnumDecl

theorem checkModifiers_of_resolve_error {d : EnumDecl} {problem : Diagnostic}
    (failure : resolve d = .error problem)
    (ofModifiers : problem.kind ∈ DiagnosticKind.ofModifiers) :
    d.checkModifiers = .error problem := by
  rcases resolve_eq_error_iff.mp failure with claims | ⟨_, checked⟩
  · rcases claimAll_error_kind claims with kind | kind <;> rw [kind] at ofModifiers <;>
      exact absurd ofModifiers (by decide)
  · exact checked

/-- A problem of modifiers is told of the first variant that breaks a rule. If none does, it is told
of a catch-all beside a default variant; only when there are no two such is it the second error
type. -/
theorem modifier_problem_names_first_offender {d : EnumDecl} {problem : Diagnostic}
    (failure : resolve d = .error problem)
    (ofModifiers : problem.kind ∈ DiagnosticKind.ofModifiers) :
    ((∃ i, d.BadAt i) →
      ∃ i v, d.FirstBad i v ∧ problem.variant = some v.name ∧
        v.Breaks d.integerType (d.variants.take i) problem.cause ∧ v.Locates problem) ∧
    (∀ b c, (∀ i, ¬ d.BadAt i) → d.TwoFallbacks b c →
      ∃ mark ∈ c.modifiers, mark.kind = .catchAll ∧
        problem = ⟨.conflict (.twoFallbacks b.name) c.name, mark.span⟩) ∧
    ((∀ i, ¬ d.BadAt i) → (∀ b c, ¬ d.TwoFallbacks b c) →
      ∃ second, d.errorTypes[1]? = some second ∧
        problem = ⟨.secondErrorType d.name, second.span⟩) ∧
    (problem.kind = .conflictingErrorType →
      (∀ i, ¬ d.BadAt i) ∧ ∀ b c, ¬ d.TwoFallbacks b c) := by
  have failed := checkModifiers_of_resolve_error failure ofModifiers
  rcases EnumDecl.checkModifiers_eq_error failed with
    ⟨i, v, firstBad, broken, located⟩ | ⟨good, defaults, catchAlls, found⟩
  · have bad : d.BadAt i := ⟨v, firstBad.place, firstBad.bad⟩
    refine ⟨fun _ => ⟨i, v, firstBad, broken.names, broken, located⟩, ?_, ?_, ?_⟩
    · intro b c good
      exact (good i bad).elim
    · intro good
      exact (good i bad).elim
    · intro kind
      exact (broken.kind kind).elim
  · have whole := EnumDecl.wholeFault?_marks_eq_some found
    refine ⟨?_, ?_, ?_, ?_⟩
    · intro bad
      obtain ⟨i, badAt⟩ := bad
      exact (good i badAt).elim
    · intro b c _ both
      rcases whole with ⟨b', c', mark, member, told, kind, rfl⟩ | ⟨apart, _⟩
      · have sameDefault : b = b' := eq_of_modifierCount_le_one defaults b both.byDefault.1 b'
          told.byDefault.1 both.byDefault.2 told.byDefault.2
        have sameCatchAll : c = c' := eq_of_modifierCount_le_one catchAlls c both.catchAll.1 c'
          told.catchAll.1 both.catchAll.2 told.catchAll.2
        rw [sameDefault, sameCatchAll]
        exact ⟨mark, member, kind, rfl⟩
      · exact (apart b c both).elim
    · intro _ apart
      rcases whole with ⟨b, c, _, _, both, _⟩ | ⟨_, second⟩
      · exact (apart b c both).elim
      · exact second
    · intro kind
      rcases whole with ⟨b, c, mark, _, _, _, rfl⟩ | ⟨apart, _⟩
      · cases kind
      · exact ⟨good, apart⟩

/-- A third variant repeats a default mark, after a catch-all that has alternatives and no field of
the integer type; there are two error types besides. -/
def EnumDecl.misused : EnumDecl where
  name := "Level"
  integerType := ⟨.u8, .bits64⟩
  variants :=
    [{ name := "Low", modifiers := [.byDefault none] },
      { name := "Mid"
        modifiers :=
          [.catchAll (some { line := some 3 }),
            .alternatives [.constant ⟨9, none⟩] (some { line := some 4 })]
        fieldTypes := ["u16"] },
      { name := "High", modifiers := [.byDefault none] }]
  errorTypes := [⟨"ParseError", "ParseError::new", none⟩, ⟨"OtherError", "OtherError::new", none⟩]

def EnumDecl.twoFallbacks : EnumDecl :=
  { EnumDecl.misused with
    variants :=
      [{ name := "Low", modifiers := [.byDefault none] },
        { name := "Mid", modifiers := [.catchAll (some { line := some 3 })], fieldTypes := ["u8"] }] }

theorem EnumDecl.not_badAt_twoFallbacks (i : Nat) : ¬ EnumDecl.twoFallbacks.BadAt i := by
  have passed : checkVariants EnumDecl.twoFallbacks.integerType {} EnumDecl.twoFallbacks.variants =
      .ok ⟨some "Low", some ("Mid", some { line := some 3 })⟩ := by decide
  exact EnumDecl.not_badAt_of_passed (checkVariants_eq_ok passed i)

theorem modifier_problem_names_first_offender_level :
    EnumDecl.misused.Valid ∧
      resolve EnumDecl.misused =
        .error ⟨.conflict .catchAllWithAlternatives "Mid", some { line := some 4 }⟩ ∧
      (∃ i v, EnumDecl.misused.FirstBad i v ∧ v.name = "Mid") ∧
      EnumDecl.twoFallbacks.Valid ∧
        resolve EnumDecl.twoFallbacks =
          .error ⟨.conflict (.twoFallbacks "Low") "Mid", some { line := some 3 }⟩ := by
  have failure : resolve EnumDecl.misused =
      .error ⟨.conflict .catchAllWithAlternatives "Mid", some { line := some 4 }⟩ := by decide
  have bad : EnumDecl.misused.BadAt 2 :=
    ⟨_, rfl, _, .secondDefault _ (List.mem_cons_self ..) (by decide) (by decide)⟩
  obtain ⟨i, v, firstBad, named, _⟩ :=
    (modifier_problem_names_first_offender failure (by decide)).1 ⟨2, bad⟩
  have refused : ∃ problem, resolve EnumDecl.twoFallbacks = .error problem ∧
      problem.kind ∈ DiagnosticKind.ofModifiers := ⟨_, rfl, by decide⟩
  obtain ⟨problem, outcome, ofModifiers⟩ := refused
  obtain ⟨mark, member, kind, rfl⟩ :=
    (modifier_problem_names_first_offender outcome ofModifiers).2.1 _ _
      EnumDecl.not_badAt_twoFallbacks
      ⟨⟨List.mem_cons_self .., by decide⟩, List.mem_cons_of_mem _ (List.mem_cons_self ..), by decide⟩
  have place : mark = .catchAll (some { line := some 3 }) := List.mem_singleton.mp member
  rw [place] at outcome
  exact ⟨by decide, failure, ⟨i, v, firstBad, (Option.some.inj named).symm⟩, by decide, outcome⟩

end IntegerEnum
