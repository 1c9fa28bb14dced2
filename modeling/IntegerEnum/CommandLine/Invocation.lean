import IntegerEnum.CommandLine.Grammar
import IntegerEnum.Family

/-! # Invocations

The command line of the program that resolves declarations and derives plans: its grammar, its
manuals, and what a command line asks for. -/
set_option autoImplicit false

namespace IntegerEnum

/-- What is asked for. No family named means all of them. -/
inductive Command where
  | resolve
  | plan (named : List Family)
  deriving DecidableEq, Inhabited

/-- Where the declaration comes from. -/
inductive Source where
  | standardInput
  | file (name : String)
  deriving DecidableEq, Inhabited

namespace Source

def ofText (text : String) : Source := if text = "-" then standardInput else file text

/-- The source as it was given. -/
def text : Source → String
  | standardInput => "-"
  | file name => name

end Source

structure Invocation where
  command : Command
  source : Source
  isVerbose : Bool := false
  deriving DecidableEq, Inhabited

namespace Invocation

open CommandLine

def versionText : String := "intenum-derive 0.1.0"

def familyNames : List String := Family.all.map Family.name

/-- Choices as a manual shows them. -/
def choiceText (names : List String) : String :=
  "\x7b" ++ String.intercalate "," names ++ "\x7d"

def commandNames : List String := ["resolve", "plan"]

def grammar : Grammar where
  switches := [helpSwitch, ⟨["--version"], .version⟩, ⟨["-v", "--verbose"], .flag⟩]
  operand := .command "command" commandNames

def resolveGrammar : Grammar where
  switches := [helpSwitch]
  operand := .single "schema"

def planGrammar : Grammar where
  switches := [helpSwitch, ⟨["--family"], .value (some familyNames)⟩]
  operand := .single "schema"

def manual : Manual where
  program := "intenum-derive"
  usage := s!"usage: intenum-derive [-h] [--version] [-v] {choiceText commandNames} ..."
  body := String.intercalate "\n" [
    "Resolve integer-backed enum schemas and derive conversion plans",
    "",
    "positional arguments:",
    s!"  {choiceText commandNames}",
    "    resolve       Print the resolved mapping",
    "    plan          Print conversion plans",
    "",
    "options:",
    "  -h, --help      show this help message and exit",
    "  --version       show program's version number and exit",
    "  -v, --verbose   Enable debug logging on stderr"]
  version := versionText

def resolveManual : Manual where
  program := "intenum-derive resolve"
  usage := "usage: intenum-derive resolve [-h] schema"
  body := String.intercalate "\n" [
    "positional arguments:",
    "  schema      EnumSchema JSON file, or - for stdin",
    "",
    "options:",
    "  -h, --help  show this help message and exit"]
  version := versionText

def planManual : Manual where
  program := "intenum-derive plan"
  usage := String.intercalate "\n" [
    "usage: intenum-derive plan [-h]",
    s!"                           [--family {choiceText familyNames}]",
    "                           schema"]
  body := String.intercalate "\n" [
    "positional arguments:",
    "  schema                EnumSchema JSON file, or - for stdin",
    "",
    "options:",
    "  -h, --help            show this help message and exit",
    s!"  --family {choiceText familyNames}",
    "                        Family to derive (repeatable); all families when",
    "                        omitted"]
  version := versionText

def commandGrammar (name : String) : Grammar :=
  if name = "plan" then planGrammar else resolveGrammar

def commandManual (name : String) : Manual :=
  if name = "plan" then planManual else resolveManual

/-- The command of that name, with what its own words select. -/
def commandOf (name : String) (own : Selection) : Command :=
  if name = "plan" then .plan ((own.values "--family").filterMap Family.ofName?) else .resolve

/-- Reads the words for a command once the command is known. Words that nothing claims are reported
by the program and not by the command. -/
def readCommand (general : Selection) (name : String) : Except CommandResult Invocation :=
  match (commandGrammar name).select general.words with
  | .error stop => .error ((commandManual name).stop stop)
  | .ok own =>
    match general.leftOver ++ own.leftOver with
    | [] =>
      .ok ⟨commandOf name own, Source.ofText (own.operand.getD ""), general.has "--verbose"⟩
    | leftOver => .error (manual.complain (.leftOver leftOver))

def read (words : List String) : Except CommandResult Invocation :=
  match grammar.select words with
  | .error stop => .error (manual.stop stop)
  | .ok general => readCommand general (general.operand.getD "")

end Invocation

end IntegerEnum
