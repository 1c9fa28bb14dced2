import IntegerEnum.Dictionary
import IntegerEnum.Plan
import IntegerEnum.Resolution

/-! # Derivation

`derive` turns a mapping into the plan of one family or says why the family is unavailable.
`planConversions` resolves a declaration and derives every family asked for; it reports problems and
never fails on account of the declaration. `planOrRaise` ends otherwise when the line on the problem
holds a number without a numeral. -/
set_option autoImplicit false

namespace IntegerEnum

namespace MappedVariant

def row (v : MappedVariant) : TableRow := ⟨v.name, v.value, v.text, v.matched⟩

end MappedVariant

namespace Mapping

/-- The rows of all variants but the catch-all. -/
def table (m : Mapping) : List TableRow :=
  (m.variants.filter fun v => !v.isCatchAll).map MappedVariant.row

/-- The fallback that keeps a conversion from failing. -/
def fallback? (m : Mapping) : Option Fallback :=
  if m.isExhaustive then some .unreachable
  else match m.defaultVariant, m.catchAllVariant with
    | some name, _ => some (.defaultVariant name)
    | none, some name => some (.catchAll name)
    | none, none => none

/-- Why values may not be reinterpreted unchecked. -/
def uncheckedBlockers (m : Mapping) : List String :=
  (m.defaultVariant.toList.map fun name => s!"variant `{name}` is marked `default`") ++
    (m.catchAllVariant.toList.map fun name => s!"variant `{name}` is marked `catch_all`") ++
    ((m.variants.filter fun v => !v.alternatives.isEmpty).map fun v =>
      s!"variant `{v.name}` has alternatives")

/-- What the plans of all families have in common. -/
def basePlan (m : Mapping) (family : Family) : Plan where
  enumName := m.enumName
  integerType := m.integerType
  family := family
  table := m.table
  defaultVariant := m.defaultVariant
  catchAllVariant := m.catchAllVariant

def toIntegerPlan (m : Mapping) : Plan :=
  { m.basePlan .toInteger with
    strategy := some (if m.catchAllVariant.isNone then .cast else .catchAllPayload) }

def totalPlan (m : Mapping) (fallback : Fallback) : Plan :=
  { m.basePlan .fromIntegerTotal with fallback := some fallback }

def falliblePlan (m : Mapping) : Plan :=
  { m.basePlan .fromIntegerFallible with
    fallback := some (m.fallback?.getD .returnError)
    error := some (.ofErrorType m.errorType) }

def uncheckedPlan (m : Mapping) : Plan :=
  { m.basePlan .fromIntegerUnchecked with
    hasConstForm := false
    needsAcknowledgement := true }

end Mapping

def derive (m : Mapping) (family : Family) : Except Diagnostic Plan :=
  match family with
  | .toInteger => .ok m.toIntegerPlan
  | .fromIntegerTotal =>
    match m.fallback? with
    | some fallback => .ok (m.totalPlan fallback)
    | none => .error ⟨.missingFallback family.name m.enumName, none⟩
  | .fromIntegerFallible => .ok m.falliblePlan
  | .fromIntegerUnchecked =>
    match m.uncheckedBlockers with
    | [] => .ok m.uncheckedPlan
    | reasons => .error ⟨.uncheckedUnavailable family.name m.enumName reasons, none⟩
  | .defaultValue =>
    if m.defaultVariant.isSome then .ok (m.basePlan .defaultValue)
    else .error ⟨.missingDefault family.name m.enumName, none⟩

/-- Adds the plans of several families, or stops at the first problem. A family that is asked for
again keeps its place. -/
def deriveInto (m : Mapping) (plans : Dictionary Family Plan) :
    List Family → Except Diagnostic (Dictionary Family Plan)
  | [] => .ok plans
  | family :: rest =>
    match derive m family with
    | .error problem => .error problem
    | .ok plan => deriveInto m (plans.put family plan) rest

def deriveAll (m : Mapping) (families : List Family) : Except Diagnostic (Dictionary Family Plan) :=
  deriveInto m [] families

/-- The outcome of planning: the declaration was rejected, or each family asked for has a plan or a
reason why it has none. -/
inductive Report where
  | rejected (enumName : String) (problem : Diagnostic)
  | resolved (enumName : String) (mapping : Mapping) (plans : Dictionary Family Plan)
      (unavailable : Dictionary Family Diagnostic)
  deriving DecidableEq

namespace Report

def enumName : Report → String
  | rejected name _ | resolved name _ _ _ => name

def mapping? : Report → Option Mapping
  | rejected _ _ => none
  | resolved _ mapping _ _ => some mapping

def problem? : Report → Option Diagnostic
  | rejected _ problem => some problem
  | resolved _ _ _ _ => none

def plans : Report → Dictionary Family Plan
  | rejected _ _ => []
  | resolved _ _ plans _ => plans

def unavailable : Report → Dictionary Family Diagnostic
  | rejected _ _ => []
  | resolved _ _ _ unavailable => unavailable

def isOk (r : Report) : Bool := r.problem?.isNone && r.unavailable.isEmpty

def errors : Report → List Diagnostic
  | rejected _ problem => [problem]
  | resolved _ _ _ unavailable => unavailable.map Prod.snd

end Report

/-- The families asked for so far, sorted into those with a plan and those without. -/
structure Planned where
  plans : Dictionary Family Plan := []
  unavailable : Dictionary Family Diagnostic := []

namespace Planned

def add (m : Mapping) (planned : Planned) (family : Family) : Planned :=
  match derive m family with
  | .ok plan => { planned with plans := planned.plans.put family plan }
  | .error problem => { planned with unavailable := planned.unavailable.put family problem }

def ofFamilies (m : Mapping) (families : List Family) : Planned := families.foldl (add m) {}

end Planned

def availablePlans (m : Mapping) (families : List Family) : Dictionary Family Plan :=
  (Planned.ofFamilies m families).plans

def unavailableFamilies (m : Mapping) (families : List Family) : Dictionary Family Diagnostic :=
  (Planned.ofFamilies m families).unavailable

def reportOn (d : EnumDecl) (families : List Family) : Report :=
  match resolve d with
  | .error problem => .rejected d.name problem
  | .ok m => .resolved d.name m (availablePlans m families) (unavailableFamilies m families)

/-- Names are looked at only when the declaration resolves. -/
def planConversions (d : EnumDecl) (names : Option (List String)) : Except UnknownFamily Report :=
  match resolve d, Family.requested names with
  | .ok _, .error unknown => .error unknown
  | .error problem, .error _ => .ok (.rejected d.name problem)
  | _, .ok families => .ok (reportOn d families)

/-- What ends a planning. -/
inductive PlanningError where
  | unknownFamily (unknown : UnknownFamily)
  | numeralTooLong
  deriving DecidableEq

/-- The problem of a rejected declaration is logged with its place before it is reported. -/
def planOrRaise (d : EnumDecl) (names : Option (List String)) : Except PlanningError Report :=
  match planConversions d names with
  | .error unknown => .error (.unknownFamily unknown)
  | .ok report =>
    if report.problem?.all Diagnostic.hasLine then .ok report else .error .numeralTooLong

end IntegerEnum
