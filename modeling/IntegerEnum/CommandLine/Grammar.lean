import IntegerEnum.Text

/-! # Command line grammar

A command line is read in two passes. First every word is classified: as a switch, as a mark after
which there are only operands, or as an operand. Then the words are taken from left to right: each
switch takes effect as it is met, the operand is taken once, and what nothing claims is left over.

A switch may be shortened while it stays the only one of that beginning, and may carry its value
behind an equals sign. One-letter switches may be joined. -/
set_option autoImplicit false

namespace IntegerEnum

namespace CommandLine

inductive Effect where
  | help
  | version
  | flag
  /-- Takes a value, one of the choices if there are any. -/
  | value (choices : Option (List String))
  deriving DecidableEq, Inhabited

structure Switch where
  spellings : List String
  effect : Effect
  deriving DecidableEq, Inhabited

namespace Switch

def label (s : Switch) : String := String.intercalate "/" s.spellings

def takesValue (s : Switch) : Bool :=
  match s.effect with
  | .value _ => true
  | .help | .version | .flag => false

end Switch

inductive Operand where
  | none
  | single (label : String)
  | command (label : String) (choices : List String)
  deriving DecidableEq, Inhabited

structure Grammar where
  switches : List Switch
  operand : Operand
  /-- The switches are alternatives of which one has to be chosen. -/
  exclusive : Bool := false
  deriving DecidableEq, Inhabited

namespace Grammar

def spellings (g : Grammar) : List (String × Switch) :=
  g.switches.flatMap fun s => s.spellings.map fun spelling => (spelling, s)

def switch? (g : Grammar) (spelling : String) : Option Switch := g.spellings.lookup spelling

end Grammar

structure Found where
  switch : Switch
  tail : List Char := []
  deriving DecidableEq, Inhabited

inductive Word where
  | operand (text : String)
  | mark
  | switch (text : String) (found : Found)
  | unknownSwitch (text : String)
  deriving DecidableEq, Inhabited

def Word.text : Word → String
  | operand text | switch text _ | unknownSwitch text => text
  | mark => "--"

inductive Problem where
  | ambiguous (word : String) (spellings : List String)
  | unwantedValue (switch : Switch) (value : String)
  | missingValue (switch : Switch)
  | invalidChoice (label value : String) (choices : List String)
  | conflict (switch earlier : Switch)
  | missingOperand (label : String)
  | missingAlternative (labels : List String)
  | leftOver (words : List String)
  deriving DecidableEq, Inhabited

def Problem.message : Problem → String
  | ambiguous word spellings =>
    s!"ambiguous option: {word} could match " ++ String.intercalate ", " spellings
  | unwantedValue switch value =>
    s!"argument {switch.label}: ignored explicit argument {Text.quote value}"
  | missingValue switch => s!"argument {switch.label}: expected one argument"
  | invalidChoice label value choices =>
    let known := String.intercalate ", " (choices.map Text.quote)
    s!"argument {label}: invalid choice: {Text.quote value} (choose from {known})"
  | conflict switch earlier =>
    s!"argument {switch.label}: not allowed with argument {earlier.label}"
  | missingOperand label => s!"the following arguments are required: {label}"
  | missingAlternative labels =>
    "one of the arguments " ++ String.intercalate " " labels ++ " is required"
  | leftOver words => "unrecognized arguments: " ++ String.intercalate " " words

inductive Stop where
  | help
  | version
  | problem (problem : Problem)
  deriving DecidableEq, Inhabited

namespace Word

def isBlankFree (cs : List Char) : Bool := cs.all (· ≠ ' ')

def isDigits (cs : List Char) : Bool := cs.all Text.isDecimalDigit

/-- At least one digit; one line feed at the end is let through. -/
def isNumeral (cs : List Char) : Bool :=
  let digits := if cs.getLast? = some '\n' then cs.dropLast else cs
  !digits.isEmpty && isDigits digits

def isNegativeNumber : List Char → Bool
  | '-' :: rest =>
    -- a point may stand before the last digits
    match rest.dropWhile (· ≠ '.') with
    | [] => isNumeral rest
    | _ :: fraction => isDigits (rest.takeWhile (· ≠ '.')) && isNumeral fraction
  | _ => false

def splitValue (cs : List Char) : List Char × List Char :=
  (cs.takeWhile (· ≠ '='), cs.dropWhile (· ≠ '='))

def shortened (g : Grammar) (cs : List Char) : List (String × Found) :=
  let (start, tail) := splitValue cs
  (g.spellings.filter fun (spelling, _) => start.isPrefixOf spelling.toList).map
    fun (spelling, s) => (spelling, ⟨s, tail⟩)

def joined (g : Grammar) (cs : List Char) : List (String × Found) :=
  (g.spellings.filter fun (spelling, _) => spelling.toList = cs.take 2).map
    fun (spelling, s) => (spelling, ⟨s, cs.drop 2⟩)

def candidates (g : Grammar) : List Char → List (String × Found)
  | '-' :: '-' :: rest => shortened g ('-' :: '-' :: rest)
  | cs => joined g cs

/-- The switch that is spelled out, with an equals sign behind it or alone. -/
def spelledOut? (g : Grammar) (cs : List Char) : Option Found :=
  match g.switch? (String.ofList cs) with
  | some s => some ⟨s, []⟩
  | none =>
    let (start, tail) := splitValue cs
    (g.switch? (String.ofList start)).map fun s => ⟨s, tail⟩

def classifyHyphened (g : Grammar) (word : String) : Except Problem Word :=
  let cs := word.toList
  match spelledOut? g cs, candidates g cs with
  | some found, _ => .ok (.switch word found)
  | none, [(_, found)] => .ok (.switch word found)
  | none, [] =>
    .ok (if isNegativeNumber cs || !isBlankFree cs then .operand word else .unknownSwitch word)
  | none, several => .error (.ambiguous word (several.map Prod.fst))

def classify (g : Grammar) (word : String) : Except Problem Word :=
  match word.toList with
  | '-' :: _ :: _ => classifyHyphened g word
  | _ => .ok (.operand word)

/-- After the mark every word is an operand. -/
def classifyAll (g : Grammar) : List String → Except Problem (List Word)
  | [] => .ok []
  | word :: rest =>
    if word = "--" then .ok (.mark :: rest.map .operand)
    else match classify g word with
      | .error problem => .error problem
      | .ok first => (classifyAll g rest).map (first :: ·)

end Word

structure Setting where
  switch : Switch
  value : Option String
  deriving DecidableEq, Inhabited

def Setting.choiceProblem? (setting : Setting) : Option Problem :=
  match setting.switch.effect, setting.value with
  | .value (some choices), some text =>
    if text ∈ choices then none else some (.invalidChoice setting.switch.label text choices)
  | _, _ => none

structure Selection where
  settings : List Setting := []
  operand : Option String := none
  words : List String := []
  leftOver : List String := []
  deriving DecidableEq, Inhabited

namespace Selection

/-- The first of the alternatives that is set already, when this is another one. -/
def rival? (i : Selection) (g : Grammar) (s : Switch) : Option Switch :=
  if g.exclusive then
    (i.settings.map Setting.switch).find? fun other => other ≠ s && other.takesValue
  else none

def set (g : Grammar) (i : Selection) (setting : Setting) : Except Stop Selection :=
  match setting.switch.effect, setting.choiceProblem?, i.rival? g setting.switch with
  | .help, _, _ => .error .help
  | .version, _, _ => .error .version
  | _, some problem, _ => .error (.problem problem)
  | _, none, some earlier => .error (.problem (.conflict setting.switch earlier))
  | _, none, none => .ok { i with settings := i.settings ++ [setting] }

def leave (i : Selection) (word : Word) : Selection :=
  { i with leftOver := i.leftOver ++ [word.text] }

end Selection

structure Group where
  settings : List Setting := []
  /-- The switch whose value is the next word. -/
  open? : Option Switch := none
  unknown : Option String := none
  deriving DecidableEq, Inhabited

/-- The group of a switch with what is written behind it: nothing, a value behind an equals sign, or
joined letters. -/
def groupOf (g : Grammar) (s : Switch) : List Char → Except Problem Group
  | [] => .ok (if s.takesValue then { open? := some s } else { settings := [⟨s, none⟩] })
  | '=' :: value =>
    if s.takesValue then .ok { settings := [⟨s, some (String.ofList value)⟩] }
    else .error (.unwantedValue s (String.ofList value))
  | c :: rest =>
    if s.takesValue then .ok { settings := [⟨s, some (String.ofList (c :: rest))⟩] }
    else if c = '-' then .error (.unwantedValue s (String.ofList (c :: rest)))
    else match g.switch? (String.ofList ['-', c]) with
      | none =>
        .ok { settings := [⟨s, none⟩], unknown := some (String.ofList ('-' :: c :: rest)) }
      | some next =>
        (groupOf g next rest).map fun group =>
          { group with settings := ⟨s, none⟩ :: group.settings }

inductive Stance where
  | ready
  /-- The next word is the value of the switch. -/
  | awaiting (switch : Switch)
  /-- The operand was the word before; a mark behind it says nothing. -/
  | settled
  | marked
  deriving DecidableEq, Inhabited

abbrev Progress := Selection × Stance

def takeGroup (g : Grammar) (i : Selection) (group : Group) : Except Stop Progress :=
  let left := match group.unknown with
    | none => i
    | some text => i.leave (.unknownSwitch text)
  (group.settings.foldlM (Selection.set g) left).map fun i => (i, match group.open? with
    | none => .ready
    | some s => .awaiting s)

def takeSwitch (g : Grammar) (i : Selection) (found : Found) : Except Stop Progress :=
  match groupOf g found.switch found.tail with
  | .error problem => .error (.problem problem)
  | .ok group => takeGroup g i group

def takeOperand (g : Grammar) (i : Selection) (stance : Stance) (text : String) :
    Except Stop Progress :=
  match g.operand, i.operand with
  | .single _, none => .ok ({ i with operand := some text }, .settled)
  | .command label choices, none =>
    -- behind a mark, the mark is taken for the name
    let name := if stance = .marked then Word.mark.text else text
    if name ∈ choices then .ok ({ i with operand := some text }, .ready)
    else .error (.problem (.invalidChoice label name choices))
  | _, _ => .ok (i.leave (.operand text), .ready)

def takeMark (g : Grammar) (i : Selection) (stance : Stance) : Progress :=
  match g.operand, i.operand with
  | .single _, none | .command _ _, none => (i, .marked)
  | _, _ => if stance = .settled then (i, .ready) else (i.leave .mark, .ready)

/-- Takes one word. All words behind a command are for the command. -/
def take (g : Grammar) (progress : Progress) (word : Word) : Except Stop Progress :=
  let (i, stance) := progress
  match g.operand, i.operand, stance, word with
  | .command _ _, some _, _, word => .ok ({ i with words := i.words ++ [word.text] }, .ready)
  | _, _, .awaiting s, .operand value => (i.set g ⟨s, some value⟩).map fun i => (i, .ready)
  | _, _, .awaiting s, _ => .error (.problem (.missingValue s))
  | _, _, _, .switch _ found => takeSwitch g i found
  | _, _, _, .unknownSwitch text => .ok (i.leave (.unknownSwitch text), .ready)
  | _, _, stance, .operand text => takeOperand g i stance text
  | _, _, stance, .mark => .ok (takeMark g i stance)

def missing? (g : Grammar) (i : Selection) (stance : Stance) : Option Problem :=
  match stance, g.operand, i.operand with
  | .awaiting s, _, _ => some (.missingValue s)
  | _, .single label, none | _, .command label _, none => some (.missingOperand label)
  | _, _, _ =>
    if g.exclusive && !i.settings.any fun setting => setting.switch.takesValue then
      some (.missingAlternative ((g.switches.filter Switch.takesValue).map Switch.label))
    else none

namespace Grammar

def select (g : Grammar) (words : List String) : Except Stop Selection :=
  match Word.classifyAll g words with
  | .error problem => .error (.problem problem)
  | .ok words =>
    match words.foldlM (take g) (({}, .ready) : Progress) with
    | .error stop => .error stop
    | .ok (i, stance) =>
      match missing? g i stance with
      | some problem => .error (.problem problem)
      | none => .ok i

end Grammar

namespace Selection

def has (i : Selection) (spelling : String) : Bool :=
  i.settings.any fun setting => spelling ∈ setting.switch.spellings

def values (i : Selection) (spelling : String) : List String :=
  (i.settings.filter fun setting => spelling ∈ setting.switch.spellings).filterMap Setting.value

end Selection

end CommandLine

/-! ## Manuals and results

How a program presents itself, and what a finished run leaves behind. Help and version are given at
once; a problem of the command line is reported below the usage. -/

structure CommandResult where
  exitCode : Nat
  stdout : String := ""
  stderr : String := ""
  deriving DecidableEq, Inhabited

namespace CommandLine

structure Manual where
  program : String
  usage : String
  body : String
  version : String

namespace Manual

def help (m : Manual) : String := s!"{m.usage}\n\n{m.body}\n"

def complain (m : Manual) (problem : Problem) : CommandResult where
  exitCode := 2
  stderr := s!"{m.usage}\n{m.program}: error: {problem.message}\n"

def stop (m : Manual) : Stop → CommandResult
  | .help => { exitCode := 0, stdout := m.help }
  | .version => { exitCode := 0, stdout := s!"{m.version}\n" }
  | .problem problem => m.complain problem

end Manual

def helpSwitch : Switch := ⟨["-h", "--help"], .help⟩

end CommandLine

end IntegerEnum
