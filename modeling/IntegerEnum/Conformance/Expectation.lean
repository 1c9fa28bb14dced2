import IntegerEnum.Conformance.Check

/-! # Expectations

What a front end expects of the documents it makes, and how a disappointed expectation is reported.
-/
set_option autoImplicit false

namespace IntegerEnum

inductive Disappointment where
  | refused (refusal : CheckRefusal)
  | nonconforming (conformance : Conformance)
  | conforming (kind : DocumentKind)
  | unreadable (violations : List Violation)
  | unresolved (problem : Option Diagnostic)
  | resolved (code : String)
  | otherValues (expected got : List (String × Int))
  | otherCode (code : String) (problem : Diagnostic)

namespace Conformance

def violationLine (v : Violation) : String := s!"  Model: {v.field}: {v.fault.message .value}"

def findingLine (f : Contract.Finding) : String := s!"  Schema: {f.location}: {f.message}"

def lines (c : Conformance) : List String :=
  c.violations.map violationLine ++ (c.findings.getD []).map findingLine

end Conformance

namespace Disappointment

def displayValues (values : List (String × Int)) : String :=
  (Json.obj (values.map fun (name, n) => (name, .int n))).display

def message : Disappointment → String
  | refused refusal => refusal.message
  | nonconforming c =>
    s!"Payload for {Text.quote c.kind.name} failed conformance:\n" ++
      String.intercalate "\n" c.lines
  | conforming kind =>
    s!"Payload for {Text.quote kind.name} was expected to fail but passed conformance."
  | unreadable violations =>
    "Schema failed model validation before resolution: " ++
      String.intercalate "; " (violations.map fun v => v.fault.message .value)
  | unresolved (some problem) => "Schema was expected to resolve: " ++ problem.render
  | unresolved none => "Schema was expected to resolve: model validation failed"
  | resolved code => "Schema was expected to fail resolution with " ++ code
  | otherValues expected got =>
    s!"Expected canonical values {displayValues expected}, got {displayValues got}"
  | otherCode code problem => s!"Expected {code}, got {problem.code}: {problem.message}"

end Disappointment

def expectConforming (circumstances : Circumstances) (contract : String) (value : Json) :
    Except Disappointment Conformance :=
  match checkConformance circumstances contract value with
  | .error refusal => .error (.refused refusal)
  | .ok c => if c.isValid then .ok c else .error (.nonconforming c)

def expectNonconforming (circumstances : Circumstances) (contract : String) (value : Json) :
    Except Disappointment Conformance :=
  match checkConformance circumstances contract value with
  | .error refusal => .error (.refused refusal)
  | .ok c => if c.isValid then .error (.conforming c.kind) else .ok c

/-- Whether two lists give the same values to the same names, in any order. -/
def sameValues (a b : List (String × Int)) : Bool :=
  a.length = b.length && a.all fun (name, n) => b.lookup name = some n

def Mapping.canonicalValues (m : Mapping) : List (String × Int) :=
  m.variants.map fun v => (v.name, v.value)

/-- Expects that a declaration resolves with the given canonical values. -/
def expectValues (expected : List (String × Int)) (i : Intake) : Except Disappointment Mapping :=
  match i.verdict with
  | none => .error (.unresolved none)
  | some (.error problem) => .error (.unresolved (some problem))
  | some (.ok m) =>
    if sameValues m.canonicalValues expected then .ok m
    else .error (.otherValues expected m.canonicalValues)

/-- Expects that a declaration can be read but is rejected with the given code. -/
def expectRejection (code : String) (i : Intake) : Except Disappointment Diagnostic :=
  match i.verdict with
  | none => .error (.unreadable i.conformance.violations)
  | some (.ok _) => .error (.resolved code)
  | some (.error problem) =>
    if problem.code = code then .ok problem else .error (.otherCode code problem)

end IntegerEnum
