import IntegerEnum.CommandLine.Grammar
import IntegerEnum.Contract.Drift

/-! # The publishing program

Writes the published contracts into a folder, or checks a folder for drift without writing. -/
set_option autoImplicit false

namespace IntegerEnum

namespace Publishing

open CommandLine

def grammar : Grammar where
  switches := [helpSwitch, ⟨["--out"], .value none⟩, ⟨["--check"], .value none⟩]
  operand := .none
  exclusive := true

def manual : Manual where
  program := "generate.py"
  usage := "usage: generate.py [-h] (--out DIR | --check DIR)"
  body := String.intercalate "\n" [
    "Generate JSON schemas for intenum-derive models",
    "",
    "options:",
    "  -h, --help   show this help message and exit",
    "  --out DIR    Write schemas into DIR",
    "  --check DIR  Check schemas in DIR for drift without writing files (CI mode)"]
  version := ""

inductive Task where
  | write (folder : Path)
  | check (folder : Path)
  deriving DecidableEq, Inhabited

/-- The folder named last counts. -/
def taskOf (selection : Selection) : Task :=
  match (selection.values "--check").getLast? with
  | some folder => .check (Path.ofText folder)
  | none => .write (Path.ofText ((selection.values "--out").getLast?.getD ""))

def readTask (words : List String) : Except CommandResult Task :=
  match grammar.select words with
  | .error stop => .error (manual.stop stop)
  | .ok selection =>
    match selection.leftOver with
    | [] => .ok (taskOf selection)
    | leftOver => .error (manual.complain (.leftOver leftOver))

def lines (texts : List String) : String := String.join (texts.map (· ++ "\n"))

def written (folder : Path) : CommandResult where
  exitCode := 0
  stdout :=
    let files := Publication.all.map fun p => s!"Generated {(p.pathIn folder).text}"
    lines (files ++ ["", s!"Successfully generated {Publication.all.length} schemas."])

def checked : List Drift → CommandResult
  | [] =>
    { exitCode := 0
      stdout := lines [s!"All {Publication.all.length} schemas are up to date."] }
  | drifts =>
    let closing := ["", "Schema drift detected. Run with --out to regenerate."]
    { exitCode := 1
      stderr := lines (drifts.map Drift.message ++ closing) }

/-- The result of a task and the files it leaves. -/
def perform (t : Tree) : Task → Except PathError (CommandResult × Tree)
  | .write folder => (Publication.publish t folder).map fun t => (written folder, t)
  | .check folder => (Publication.drifts t folder).map fun drifts => (checked drifts, t)

def run (t : Tree) (words : List String) : Except PathError (CommandResult × Tree) :=
  match readTask words with
  | .error result => .ok (result, t)
  | .ok task => perform t task

end Publishing

end IntegerEnum
