import IntegerEnum.CommandLine.Invocation
import IntegerEnum.Document.Plan
import IntegerEnum.Files
import IntegerEnum.Trace

/-! # Running an invocation

An invocation with the text of its document gives a result: the exit code is 2 when the document is
missing or invalid, 1 when the declaration is rejected or a family asked for by name is
unavailable, and 0 otherwise. Only a run that ends with 0 writes to standard output, and it writes
one JSON document. -/
set_option autoImplicit false

namespace IntegerEnum

namespace Invocation

def log (i : Invocation) (events : List Event) : String :=
  if i.isVerbose then String.join ((events.flatMap Event.lines).map (· ++ "\n")) else ""

def missingFile (name : String) : CommandResult where
  exitCode := 2
  stderr := s!"error: No such file: {(Path.ofText name).text}\n"

def invalidDocument (source : Source) (violations : Nat) : CommandResult where
  exitCode := 2
  stderr :=
    let errors := if violations = 1 then "error" else "errors"
    s!"error: Invalid enum schema in {source.text}:\n" ++
      s!"{violations} validation {errors} for EnumSchema\n"

/-- What is left of a run when the declaration is rejected. -/
def rejected (i : Invocation) (events : List Event) (problem : Diagnostic) : CommandResult where
  exitCode := 1
  stderr := i.log (events ++ [.declarationRejected problem]) ++ s!"{problem.render}\n"

def printed (i : Invocation) (events : List Event) (notes : String) (document : Json) :
    CommandResult where
  exitCode := 0
  stdout := s!"{document.indented}\n"
  stderr := i.log events ++ notes

def runResolve (i : Invocation) (d : EnumDecl) : CommandResult :=
  match resolve d with
  | .error problem => i.rejected (resolutionEvents d) problem
  | .ok m => i.printed (resolutionEvents d) "" m.toJson

/-- One line on a family that cannot be derived. -/
def unavailableLine (label : String) (family : Family) (problem : Diagnostic) : String :=
  s!"{label}[{problem.code}]: {family.name}: {problem.message}\n"

def notes (label : String) (unavailable : List (Family × Diagnostic)) : String :=
  String.join (unavailable.map fun (family, problem) => unavailableLine label family problem)

def plansJson (plans : List (Family × Plan)) : Json :=
  .obj (plans.map fun (family, plan) => (family.name, plan.toJson))

def runPlan (i : Invocation) (named : List Family) (d : EnumDecl) : CommandResult :=
  let families := if named.isEmpty then Family.all else named
  let events := planningEvents d families
  match reportOn d families with
  | .rejected _ problem => i.rejected events problem
  | .resolved _ _ plans unavailable =>
    if named.isEmpty then i.printed events (notes "note" unavailable) (plansJson plans)
    else if unavailable.isEmpty then i.printed events "" (plansJson plans)
    else { exitCode := 1, stderr := i.log events ++ notes "error" unavailable }

def runOn (i : Invocation) (d : EnumDecl) : CommandResult :=
  match i.command with
  | .resolve => i.runResolve d
  | .plan named => i.runPlan named d

/-- Runs on the text of the source; there is none when the file is missing. -/
def run (i : Invocation) (text : Option String) : CommandResult :=
  match text with
  | none => missingFile i.source.text
  | some text =>
    match EnumDecl.readText text with
    | .refused _ others => invalidDocument i.source (others.length + 1)
    | .accepted d => i.runOn d

end Invocation

end IntegerEnum
