import IntegerEnum.Contract.Publication
import IntegerEnum.Document.Plan
import IntegerEnum.Resolution

/-! # Conformance of documents

A document conforms when its reader accepts it and its published contract finds nothing wrong with
it. Contracts may be out of reach; then the reader alone decides, unless the check is strict.
`intake` also resolves a declaration that can be read: its verdict does not depend on the contract.
-/
set_option autoImplicit false

namespace IntegerEnum

inductive DocumentKind where
  | declaration | mapping | plan
  deriving DecidableEq, Inhabited

namespace DocumentKind

def all : List DocumentKind := [declaration, mapping, plan]

/-- The name of the contract of such documents. -/
def name : DocumentKind → String
  | declaration => "enum_schema"
  | mapping => "resolved_mapping"
  | plan => "conversion_plan"

def ofName? (name : String) : Option DocumentKind := all.find? fun kind => kind.name = name

def contract : DocumentKind → Contract
  | declaration => Contract.declarations
  | mapping => Contract.mappings
  | plan => Contract.plans

/-- What the reader of such documents objects to. -/
def violations : DocumentKind → Json → List Violation
  | declaration, value => (EnumDecl.read .value value).violations
  | mapping, value => (Mapping.read value).violations
  | plan, value => (Plan.read value).violations

end DocumentKind

/-- Under which circumstances a document is checked. -/
structure Circumstances where
  hasContracts : Bool
  isStrict : Bool
  deriving DecidableEq, Inhabited

structure Conformance where
  kind : DocumentKind
  violations : List Violation
  /-- Nothing when the contract was out of reach. -/
  findings : Option (List Contract.Finding)

namespace Conformance

def isSkipped (c : Conformance) : Bool := c.findings.isNone

def isValid (c : Conformance) : Bool := c.violations.isEmpty && (c.findings.getD []).isEmpty

end Conformance

/-- Why a check cannot be made. -/
inductive CheckRefusal where
  | unknownContract (name : String)
  | contractsMissing
  deriving DecidableEq, Inhabited

def CheckRefusal.message : CheckRefusal → String
  | unknownContract name =>
    let known := (Json.arr (DocumentKind.all.map fun kind => .str kind.name)).display
    s!"Unknown contract: {Text.quote name}. Known contracts: {known}"
  | contractsMissing =>
    "jsonschema is required for strict conformance validation. " ++
      "Install with: pip install 'intenum-derive[conformance]'"

def conformance (kind : DocumentKind) (hasContracts : Bool) (value : Json) : Conformance where
  kind := kind
  violations := kind.violations value
  findings := if hasContracts then some (kind.contract.check value) else none

def checkConformance (circumstances : Circumstances) (contract : String) (value : Json) :
    Except CheckRefusal Conformance :=
  match DocumentKind.ofName? contract with
  | none => .error (.unknownContract contract)
  | some kind =>
    if circumstances.isStrict && !circumstances.hasContracts then .error .contractsMissing
    else .ok (conformance kind circumstances.hasContracts value)

/-- A declaration as it came in: how it conforms and, if it can be read, how it resolves. -/
structure Intake where
  conformance : Conformance
  verdict : Option (Except Diagnostic Mapping)

namespace Intake

def mapping? (i : Intake) : Option Mapping :=
  match i.verdict with
  | some (.ok m) => some m
  | _ => none

def problem? (i : Intake) : Option Diagnostic :=
  match i.verdict with
  | some (.error problem) => some problem
  | _ => none

def isResolved (i : Intake) : Bool := i.mapping?.isSome

end Intake

def intakeOf (conformance : Conformance) (value : Json) : Intake where
  conformance := conformance
  verdict := (EnumDecl.read .value value).value?.map resolve

def intake (circumstances : Circumstances) (value : Json) : Except CheckRefusal Intake :=
  (checkConformance circumstances DocumentKind.declaration.name value).map fun c => intakeOf c value

end IntegerEnum
