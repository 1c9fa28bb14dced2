import IntegerEnum.Conformance.Check
import IntegerEnum.Proofs.Documents
import IntegerEnum.Proofs.Readability
import IntegerEnum.Proofs.Reports

/-! # Intakes

A declaration comes in as a document. Either it cannot be read, or it is read and resolves, or it is
read and rejected: `Settles` tells these three apart, and an intake is always settled unless its
check cannot be made. What resolution yields depends on the declaration that is read and on nothing
else, neither on what the contract finds nor on whether it can be reached. -/
set_option autoImplicit false

namespace IntegerEnum

def Circumstances.CanCheck (c : Circumstances) : Prop := c.isStrict = true → c.hasContracts = true

namespace Intake

/-- How an intake settles a document. -/
inductive Settles (i : Intake) (document : Json) : Prop where
  | unreadable (first : Violation) (others : List Violation)
      (reading : EnumDecl.read .value document = .refused first others)
      (violations : i.conformance.violations = first :: others)
      (invalid : i.conformance.isValid = false)
      (mapping : i.mapping? = none) (problem : i.problem? = none)
  | resolved (d : EnumDecl) (m : Mapping)
      (reading : EnumDecl.read .value document = .accepted d)
      (violations : i.conformance.violations = [])
      (resolution : resolve d = .ok m)
      (mapping : i.mapping? = some m) (problem : i.problem? = none)
  | rejected (d : EnumDecl) (e : Diagnostic)
      (reading : EnumDecl.read .value document = .accepted d)
      (violations : i.conformance.violations = [])
      (resolution : resolve d = .error e)
      (mapping : i.mapping? = none) (problem : i.problem? = some e)

theorem Settles.of_resolves {i : Intake} {document : Json} {d : EnumDecl} {m : Mapping}
    (settles : i.Settles document) (reading : EnumDecl.read .value document = .accepted d)
    (resolution : resolve d = .ok m) : i.mapping? = some m ∧ i.problem? = none := by
  cases settles with
  | unreadable first others refused =>
      rw [reading] at refused
      cases refused
  | resolved d m found _ outcome mapping problem =>
      rw [reading] at found
      cases found
      rw [resolution] at outcome
      cases outcome
      exact ⟨mapping, problem⟩
  | rejected d e found _ outcome =>
      rw [reading] at found
      cases found
      rw [resolution] at outcome
      cases outcome

def AgreesWith (i : Intake) (r : Report) : Prop :=
  r.mapping? = i.mapping? ∧ r.problem? = i.problem?

end Intake

section Intakes
variable {c : Circumstances} {document : Json} {i : Intake}

theorem conformance_isValid_iff {hasContracts : Bool} :
    (conformance .declaration hasContracts document).isValid = true ↔
      (EnumDecl.read .value document).Succeeds ∧
        (hasContracts = true → DocumentKind.declaration.contract.check document = []) := by
  rw [Conformance.isValid, Bool.and_eq_true, List.isEmpty_iff, List.isEmpty_iff,
    ← Reading.violations_eq_nil_iff]
  cases hasContracts <;> simp [conformance, DocumentKind.violations]

theorem intake_of_canCheck (canCheck : c.CanCheck) (document : Json) :
    intake c document =
      .ok (intakeOf (conformance .declaration c.hasContracts document) document) := by
  have known : DocumentKind.ofName? DocumentKind.declaration.name = some .declaration := rfl
  have within : (c.isStrict && !c.hasContracts) = false := by
    cases strict : c.isStrict with
    | false => rfl
    | true => rw [canCheck strict]; rfl
  simp only [intake, checkConformance, known, within]
  rfl

theorem intake_of_not_canCheck (outOfReach : ¬ c.CanCheck) (document : Json) :
    intake c document = .error .contractsMissing := by
  have known : DocumentKind.ofName? DocumentKind.declaration.name = some .declaration := rfl
  obtain ⟨strict, missing⟩ := Classical.not_imp.mp outOfReach
  simp only [intake, checkConformance, known, strict, missing]
  rfl

theorem intake_eq_ok (success : intake c document = .ok i) :
    i = intakeOf (conformance .declaration c.hasContracts document) document := by
  by_cases canCheck : c.CanCheck
  · rw [intake_of_canCheck canCheck] at success
    cases success
    rfl
  · rw [intake_of_not_canCheck canCheck] at success
    cases success

theorem settles_intakeOf (hasContracts : Bool) (document : Json) :
    (intakeOf (conformance .declaration hasContracts document) document).Settles document := by
  cases reading : EnumDecl.read .value document with
  | refused first others =>
      have violations : (conformance .declaration hasContracts document).violations =
          first :: others := congrArg Reading.violations reading
      refine .unreadable first others reading violations ?_ ?_ ?_
      · change (conformance .declaration hasContracts document).isValid = false
        rw [Conformance.isValid, violations]
        rfl
      all_goals simp [Intake.mapping?, Intake.problem?, intakeOf, reading, Reading.value?]
  | accepted d =>
      have violations : (conformance .declaration hasContracts document).violations = [] :=
        congrArg Reading.violations reading
      cases resolution : resolve d with
      | ok m =>
          refine .resolved d m reading violations resolution ?_ ?_ <;>
            simp [Intake.mapping?, Intake.problem?, intakeOf, reading, Reading.value?, resolution]
      | error e =>
          refine .rejected d e reading violations resolution ?_ ?_ <;>
            simp [Intake.mapping?, Intake.problem?, intakeOf, reading, Reading.value?, resolution]

theorem agreesWith_reportOn {d : EnumDecl} (reading : EnumDecl.read .value document = .accepted d)
    (conformance : Conformance) (families : List Family) :
    (intakeOf conformance document).AgreesWith (reportOn d families) := by
  rw [Intake.AgreesWith, reportOn]
  cases resolution : resolve d <;>
    simp [Intake.mapping?, Intake.problem?, Report.mapping?, Report.problem?, intakeOf, reading,
      Reading.value?, resolution]

end Intakes

/-- A document comes in, whenever it can be checked, in one of three ways, and then as planning
reports it; when it cannot be checked, that is all that is told. Documents that are read as the same
declaration, or not at all, have the same mapping and the same problem, whatever their contract
finds and under whatever circumstances. -/
theorem intake_settles_every_document (document : Json) :
    (∀ c : Circumstances, c.CanCheck →
      ∃ i, intake c document = .ok i ∧ i.Settles document ∧
        (i.conformance.isValid = true ↔ (EnumDecl.read .value document).Succeeds ∧
          (c.hasContracts = true → DocumentKind.declaration.contract.check document = [])) ∧
        ∀ d, EnumDecl.read .value document = .accepted d →
          ∀ names families, Family.Requested names families →
            ∃ r, planConversions d names = .ok r ∧ i.AgreesWith r) ∧
    (∀ c : Circumstances, ¬ c.CanCheck → intake c document = .error .contractsMissing) ∧
    ∀ (other : Json) (c c' : Circumstances) (i i' : Intake),
      (EnumDecl.read .value other).value? = (EnumDecl.read .value document).value? →
        intake c document = .ok i → intake c' other = .ok i' →
          i'.mapping? = i.mapping? ∧ i'.problem? = i.problem? := by
  refine ⟨?_, fun c outOfReach => intake_of_not_canCheck outOfReach document, ?_⟩
  · intro c canCheck
    refine ⟨_, intake_of_canCheck canCheck document, settles_intakeOf c.hasContracts document,
      conformance_isValid_iff, ?_⟩
    intro d reading names families requested
    exact ⟨_, planConversions_of_requested requested, agreesWith_reportOn reading _ families⟩
  · intro other c c' i i' sameReading first second
    have sameVerdict : i'.verdict = i.verdict := by
      rw [intake_eq_ok first, intake_eq_ok second]
      exact congrArg (Option.map resolve) sameReading
    rw [Intake.mapping?, Intake.mapping?, Intake.problem?, Intake.problem?, sameVerdict]
    exact ⟨rfl, rfl⟩

/-- The contract finds texts where numbers are due, and the declaration resolves nevertheless. -/
theorem intake_settles_every_document_reply :
    DocumentKind.declaration.contract.check EnumDecl.replyDocument ≠ [] ∧
      ∃ i, intake ⟨true, true⟩ EnumDecl.replyDocument = .ok i ∧ i.conformance.isValid = false ∧
        i.mapping? = some Mapping.reply ∧ i.problem? = none ∧
          intake ⟨false, true⟩ EnumDecl.replyDocument = .error .contractsMissing := by
  obtain ⟨checked, unchecked, _⟩ := intake_settles_every_document EnumDecl.replyDocument
  have reading : EnumDecl.read .value EnumDecl.replyDocument = .accepted .reply := by rfl
  have finds : DocumentKind.declaration.contract.check EnumDecl.replyDocument ≠ [] := by
    rw [← List.isEmpty_eq_false_iff]
    rfl
  obtain ⟨i, success, settles, valid_iff, _⟩ := checked ⟨true, true⟩ fun _ => rfl
  have invalid : i.conformance.isValid = false := by
    rw [← Bool.not_eq_true, valid_iff]
    rintro ⟨_, admitted⟩
    exact finds (admitted rfl)
  have outOfReach : ¬ Circumstances.CanCheck ⟨false, true⟩ := fun within => nomatch within rfl
  obtain ⟨mapping, problem⟩ := settles.of_resolves reading resolve_reply
  exact ⟨finds, i, success, invalid, mapping, problem, unchecked _ outOfReach⟩

end IntegerEnum
