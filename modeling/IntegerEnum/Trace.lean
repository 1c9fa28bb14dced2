import IntegerEnum.Derivation

/-! # Traces

The events that a verbose run tells of, each with the part of the program it comes from. -/
set_option autoImplicit false

namespace IntegerEnum

inductive Event where
  | resolved (mapping : Mapping)
  | resolutionFailed (enumName : String) (problem : Diagnostic)
  | fallbackChosen (enumName : String) (family : Family) (policy : FallbackPolicy)
  | declarationRejected (problem : Diagnostic)
  deriving DecidableEq

namespace Event

def source : Event → String
  | resolved _ => "intenum_derive.resolver"
  | resolutionFailed _ _ | fallbackChosen _ _ _ => "intenum_derive.conversions"
  | declarationRejected _ => "intenum_derive.cli"

def level : Event → String := fun _ => "DEBUG"

def yesNo (b : Bool) : String := if b then "True" else "False"

def message : Event → String
  | resolved m =>
    s!"Resolved enum {m.enumName} ({m.integerType.name}): {m.variants.length} variants, " ++
      s!"{m.valueCount} values, exhaustive={yesNo m.isExhaustive}"
  | resolutionFailed enumName problem => s!"Resolution of {enumName} failed: {problem.render}"
  | fallbackChosen enumName family policy => s!"{enumName}: {family.name} fallback {policy.name}"
  | declarationRejected _ => "Schema rejected"

/-- What follows the message on lines of its own: the kind of a problem and its wording. -/
def detail : Event → List String
  | declarationRejected problem =>
    [s!"intenum_derive.errors.{problem.kind.title}: {problem.message}"]
  | _ => []

def lines (e : Event) : List String := s!"{e.source} - {e.level} - {e.message}" :: e.detail

end Event

def resolutionEvents (d : EnumDecl) : List Event :=
  match resolve d with
  | .ok m => [.resolved m]
  | .error _ => []

def derivationEvents (m : Mapping) (family : Family) : List Event :=
  match derive m family with
  | .error _ => []
  | .ok plan =>
    if family = .fromIntegerTotal ∨ family = .fromIntegerFallible then
      plan.fallback.toList.map fun fallback => .fallbackChosen m.enumName family fallback.policy
    else []

/-- A family that is asked for again is derived again. -/
def planningEvents (d : EnumDecl) (families : List Family) : List Event :=
  match resolve d with
  | .error problem => [.resolutionFailed d.name problem]
  | .ok m => .resolved m :: families.flatMap (derivationEvents m)

end IntegerEnum
