import IntegerEnum.Json.Printer

/-! # Reading documents

A reader takes a value and either accepts it or refuses it with at least one violation, each with
its place and its fault. Readers of several fields run all of them and report every violation in
the order of the fields. The wording of some faults depends on whether the document came as a
decoded value or as a text. -/
set_option autoImplicit false

namespace IntegerEnum

/-- How a document came: as a decoded value, or as a JSON text. -/
inductive Form where
  | value | text
  deriving DecidableEq, Inhabited

/-- One step from a value into a part of it. -/
inductive Step where
  | key (name : String)
  | index (n : Nat)
  /-- The reading of one alternative of a choice. -/
  | choice (label : String)
  deriving DecidableEq, Inhabited

def Step.text : Step → String
  | key name | choice name => name
  | index n => toString n

inductive Fault where
  | missing
  | notObject (type : String)
  | notList
  | notFixedList
  | emptyList
  | emptyFixedList
  | notText
  | emptyText
  | notNamed (names : List String)
  | notLiteral (choices : List String)
  | belowOne
  | notInteger
  | fractional
  | tooLarge
  | notFinite
  | unreadableInteger
  | notBoolean
  | unreadableBoolean
  | notTagged
  | tagMissing
  | unknownTag (shown : String) (tags : List String)
  | invalid (reason : String)
  | malformedText
  deriving DecidableEq, Inhabited

namespace Fault

/-- Choices in a sentence: commas between them and `or` before the last. -/
def orList : List String → String
  | [] => ""
  | [last] => last
  | [first, last] => first ++ " or " ++ last
  | first :: rest => first ++ ", " ++ orList rest

def quoted (name : String) : String := "'" ++ name ++ "'"

/-- The stable name of the fault. -/
def code (form : Form) : Fault → String
  | missing => "missing"
  | notObject _ => "model_type"
  | notList => "list_type"
  | notFixedList => "tuple_type"
  | emptyList | emptyFixedList => "too_short"
  | notText => "string_type"
  | emptyText => "string_too_short"
  | notNamed _ => "enum"
  | notLiteral _ => "literal_error"
  | belowOne => "greater_than_equal"
  | notInteger => "int_type"
  | fractional => "int_from_float"
  | tooLarge => "int_parsing_size"
  | notFinite => "finite_number"
  | unreadableInteger => "int_parsing"
  | notBoolean => "bool_type"
  | unreadableBoolean => "bool_parsing"
  | notTagged => match form with
    | .value => "model_attributes_type"
    | .text => "dict_type"
  | tagMissing => "union_tag_not_found"
  | unknownTag _ _ => "union_tag_invalid"
  | invalid _ => "value_error"
  | malformedText => "json_invalid"

def message (form : Form) : Fault → String
  | missing => "Field required"
  | notObject type => match form with
    | .value => "Input should be a valid dictionary or instance of " ++ type
    | .text => "Input should be an object"
  | notList => match form with
    | .value => "Input should be a valid list"
    | .text => "Input should be a valid array"
  | notFixedList => match form with
    | .value => "Input should be a valid tuple"
    | .text => "Input should be a valid array"
  | emptyList => "List should have at least 1 item after validation, not 0"
  | emptyFixedList => "Tuple should have at least 1 item after validation, not 0"
  | notText => "Input should be a valid string"
  | emptyText => "String should have at least 1 character"
  | notNamed names => "Input should be " ++ orList (names.map quoted)
  | notLiteral choices => "Input should be " ++ orList choices
  | belowOne => "Input should be greater than or equal to 1"
  | notInteger => "Input should be a valid integer"
  | fractional => "Input should be a valid integer, got a number with a fractional part"
  | tooLarge => "Unable to parse input string as an integer, exceeded maximum size"
  | notFinite => "Input should be a finite number"
  | unreadableInteger => "Input should be a valid integer, unable to parse string as an integer"
  | notBoolean => "Input should be a valid boolean"
  | unreadableBoolean => "Input should be a valid boolean, unable to interpret input"
  | notTagged => match form with
    | .value => "Input should be a valid dictionary or object to extract fields from"
    | .text => "Input should be an object"
  | tagMissing => "Unable to extract tag using discriminator 'kind'"
  | unknownTag shown tags =>
    "Input tag '" ++ shown ++ "' found using 'kind' does not match any of the expected tags: " ++
      String.intercalate ", " (tags.map quoted)
  | invalid reason => "Value error, " ++ reason
  | malformedText => "Invalid JSON"

end Fault

structure Violation where
  path : List Step
  fault : Fault
  input : Json
  deriving Inhabited

namespace Violation

/-- The place of the violation as dotted text. -/
def field (v : Violation) : String := String.intercalate "." (v.path.map Step.text)

def below (step : Step) (v : Violation) : Violation := { v with path := step :: v.path }

end Violation

inductive Reading (α : Type) where
  | accepted (value : α)
  | refused (first : Violation) (others : List Violation)

namespace Reading

variable {α β γ : Type}

def violations : Reading α → List Violation
  | accepted _ => []
  | refused first others => first :: others

def value? : Reading α → Option α
  | accepted value => some value
  | refused _ _ => none

def fail (fault : Fault) (input : Json) : Reading α := refused ⟨[], fault, input⟩ []

def map (f : α → β) : Reading α → Reading β
  | accepted value => accepted (f value)
  | refused first others => refused first others

/-- Both readers run; the violations of the first stand before those of the second. -/
def apply (f : Reading (α → β)) (x : Reading α) : Reading β :=
  match f, x with
  | accepted f, accepted x => accepted (f x)
  | accepted _, refused first others => refused first others
  | refused first others, x => refused first (others ++ x.violations)

instance : Applicative Reading where
  pure := accepted
  map := map
  seq f x := apply f (x ())

/-- Goes on with an accepted value. -/
def next (r : Reading α) (f : α → Reading β) : Reading β :=
  match r with
  | accepted value => f value
  | refused first others => refused first others

/-- The violations lie one step further down. -/
def within (step : Step) : Reading α → Reading α
  | accepted value => accepted value
  | refused first others => refused (first.below step) (others.map (Violation.below step))

/-- Refuses an accepted value that is not in order, for the reason given. -/
def ensure (input : Json) (reason? : α → Option String) (r : Reading α) : Reading α :=
  r.next fun value => match reason? value with
    | none => accepted value
    | some reason => fail (.invalid reason) input

@[simp] theorem seq_accepted (f : α → β) (x : α) :
    (accepted f <*> accepted x : Reading β) = accepted (f x) := rfl

@[simp] theorem map_accepted (f : α → β) (x : α) :
    (f <$> accepted x : Reading β) = accepted (f x) := rfl

theorem map_eq_accepted {f : α → β} {r : Reading α} {y : β} :
    (f <$> r : Reading β) = accepted y ↔ ∃ x, r = accepted x ∧ f x = y := by
  cases r with
  | accepted x => exact ⟨fun h => ⟨x, rfl, by injection h⟩, by rintro ⟨_, ⟨⟩, rfl⟩; rfl⟩
  | refused first others => exact ⟨nofun, by rintro ⟨_, h, _⟩; cases h⟩

theorem seq_eq_accepted {f : Reading (α → β)} {r : Reading α} {y : β} :
    (f <*> r : Reading β) = accepted y ↔ ∃ g x, f = accepted g ∧ r = accepted x ∧ g x = y := by
  cases f with
  | accepted g =>
    cases r with
    | accepted x =>
      exact ⟨fun h => ⟨g, x, rfl, rfl, by injection h⟩, by rintro ⟨_, _, ⟨⟩, ⟨⟩, rfl⟩; rfl⟩
    | refused first others => exact ⟨nofun, by rintro ⟨_, _, _, h, _⟩; cases h⟩
  | refused first others => exact ⟨nofun, by rintro ⟨_, _, h, _⟩; cases h⟩

end Reading

namespace Json

variable {α : Type}

/-- Reads an object by its members. -/
def readObject (type : String) (read : Members → Reading α) : Json → Reading α
  | obj members => read members
  | other => .fail (.notObject type) other

def required (key : String) (read : Json → Reading α) (members : Members) : Reading α :=
  match lookup key members with
  | some value => (read value).within (.key key)
  | none => (Reading.fail .missing (obj members)).within (.key key)

/-- A field that may be absent. -/
def optional (key : String) (absent : α) (read : Json → Reading α) (members : Members) :
    Reading α :=
  match lookup key members with
  | some value => (read value).within (.key key)
  | none => .accepted absent

def nullable (read : Json → Reading α) : Json → Reading (Option α)
  | null => .accepted none
  | other => some <$> read other

/-- Reads the items from position `n` on. -/
def readItems (read : Json → Reading α) (n : Nat) : List Json → Reading (List α)
  | [] => .accepted []
  | item :: rest => List.cons <$> (read item).within (.index n) <*> readItems read (n + 1) rest

def readList (read : Json → Reading α) : Json → Reading (List α)
  | arr items => readItems read 0 items
  | other => .fail .notList other

def readFixedList (read : Json → Reading α) : Json → Reading (List α)
  | arr items => readItems read 0 items
  | other => .fail .notFixedList other

/-- Refuses an empty list once it has been read. -/
def nonempty (fault : Fault) (read : Json → Reading (List α)) (input : Json) : Reading (List α) :=
  (read input).next fun
    | [] => .fail fault input
    | items => .accepted items

end Json

end IntegerEnum
