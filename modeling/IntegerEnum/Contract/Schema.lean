import IntegerEnum.Document.Reading
import IntegerEnum.Declaration

/-! # Contracts

A contract is a list of keywords, each of which asserts something of a value or only notes
something about it. `findings` applies a contract to a value: keywords and fields in the order of
the contract, items by position. A reference carries the contract it refers to, so that contracts
are finite trees and their findings are found by recursion on them. -/
set_option autoImplicit false

namespace IntegerEnum

namespace Contract

/-- A value that a contract may prescribe. -/
inductive Constant where
  | text (value : String)
  | integer (value : Int)
  deriving DecidableEq, Inhabited

def Constant.toJson : Constant → Json
  | text value => .str value
  | integer value => .int value

/-- A double equals an integer of the same value; a truth value equals neither. -/
def Constant.isEqualTo : Constant → Json → Bool
  | text value, .str s => s = value
  | integer value, .int n => n = value
  | integer value, .float x => x.toInt? = some value
  | _, _ => false

inductive TypeName where
  | object | array | string | integer | boolean | null
  deriving DecidableEq, Inhabited

namespace TypeName

def name : TypeName → String
  | object => "object"
  | array => "array"
  | string => "string"
  | integer => "integer"
  | boolean => "boolean"
  | null => "null"

/-- A double without a fraction counts as an integer. -/
def accepts : TypeName → Json → Bool
  | object, .obj _ => true
  | array, .arr _ => true
  | string, .str _ => true
  | integer, .int _ => true
  | integer, .float x => x.toInt?.isSome
  | boolean, .bool _ => true
  | null, .null => true
  | _, _ => false

end TypeName

inductive Keyword where
  | reference (name : String) (target : List Keyword)
  | anyOf (options : List (List Keyword))
  | oneOf (options : List (List Keyword))
  | const (value : Constant)
  | oneFrom (values : List Constant)
  | items (each : List Keyword)
  | minItems (least : Nat)
  | minLength (least : Nat)
  | minimum (least : Int)
  | identifier
  | properties (fields : List (String × List Keyword))
  | required (names : List String)
  | type (type : TypeName)
  /-- Asserts nothing. -/
  | note (key : String) (value : Json)

end Contract

abbrev Contract := List Contract.Keyword

namespace Contract

def referencePath (name : String) : String := "#/$defs/" ++ name

mutual
/-- A keyword as a member of the published contract. -/
def Keyword.member : Keyword → String × Json
  | .reference name _ => ("$ref", .str (referencePath name))
  | .anyOf options => ("anyOf", .arr (optionsJson options))
  | .oneOf options => ("oneOf", .arr (optionsJson options))
  | .const value => ("const", value.toJson)
  | .oneFrom values => ("enum", .arr (values.map Constant.toJson))
  | .items each => ("items", .obj (members each))
  | .minItems least => ("minItems", .int least)
  | .minLength least => ("minLength", .int least)
  | .minimum least => ("minimum", .int least)
  | .identifier => ("pattern", .str identifierPattern)
  | .properties fields => ("properties", .obj (fieldsJson fields))
  | .required names => ("required", .arr (names.map .str))
  | .type type => ("type", .str type.name)
  | .note key value => (key, value)

def members : List Keyword → List (String × Json)
  | [] => []
  | keyword :: rest => keyword.member :: members rest

def optionsJson : List (List Keyword) → List Json
  | [] => []
  | option :: rest => .obj (members option) :: optionsJson rest

def fieldsJson : List (String × List Keyword) → List (String × Json)
  | [] => []
  | (name, field) :: rest => (name, .obj (members field)) :: fieldsJson rest
end

mutual
/-- The contracts that a keyword refers to, directly or through others. -/
def Keyword.definitions : Keyword → List (String × List Keyword)
  | .reference name target => (name, target) :: definitionsOf target
  | .anyOf options | .oneOf options => definitionsOfOptions options
  | .items each => definitionsOf each
  | .properties fields => definitionsOfFields fields
  | _ => []

def definitionsOf : List Keyword → List (String × List Keyword)
  | [] => []
  | keyword :: rest => keyword.definitions ++ definitionsOf rest

def definitionsOfOptions : List (List Keyword) → List (String × List Keyword)
  | [] => []
  | option :: rest => definitionsOf option ++ definitionsOfOptions rest

def definitionsOfFields : List (String × List Keyword) → List (String × List Keyword)
  | [] => []
  | (_, field) :: rest => definitionsOf field ++ definitionsOfFields rest
end

/-- Where a check stands: in the value, and in the contract. -/
structure Place where
  path : List Step := []
  trail : List String := []

namespace Place

def into (p : Place) (step : Step) : Place := { p with path := p.path ++ [step] }

def via (p : Place) (names : List String) : Place := { p with trail := p.trail ++ names }

end Place

/-- What a keyword found wrong. -/
structure Finding where
  path : List Step
  trail : List String
  keyword : String
  expected : Json
  message : String

/-- The place of a finding in the value, from `$` on. -/
def Finding.location (f : Finding) : String :=
  f.path.foldl (fun text step => match step with
    | .index n => text ++ "[" ++ toString n ++ "]"
    | .key name | .choice name => text ++ "." ++ name) "$"

def Keyword.finding (keyword : Keyword) (p : Place) (message : String) : Finding :=
  ⟨p.path, p.trail ++ [keyword.member.1], keyword.member.1, keyword.member.2, message⟩

/-- Short of one means that nothing is there. -/
def shortMessage (value : Json) (least : Nat) : String :=
  value.display ++ (if least = 1 then " should be non-empty" else " is too short")

def isBelow (least : Int) : Json → Bool
  | .int n => n < least
  | .float x =>
    let (numerator, denominator) := x.magnitude
    let signed : Int := if x.isNegative then -numerator else numerator
    x = .infinite true || (x.isFinite && signed < least * denominator)
  | _ => false

mutual
def Keyword.findings (keyword : Keyword) (value : Json) (p : Place) : List Finding :=
  match keyword with
  | .reference _ target => findings target value p
  | .anyOf options =>
    if (accepting options value).isEmpty then
      [keyword.finding p (value.display ++ " is not valid under any of the given schemas")]
    else []
  | .oneOf options =>
    match accepting options value with
    | [] => [keyword.finding p (value.display ++ " is not valid under any of the given schemas")]
    | [_] => []
    | first :: others =>
      let shown := (others ++ [first]).map fun option => (Json.obj (members option)).display
      [keyword.finding p
        (value.display ++ " is valid under each of " ++ String.intercalate ", " shown)]
  | .const expected =>
    if expected.isEqualTo value then []
    else [keyword.finding p (expected.toJson.display ++ " was expected")]
  | .oneFrom values =>
    if values.any fun constant => constant.isEqualTo value then []
    else [keyword.finding p
      (value.display ++ " is not one of " ++ (Json.arr (values.map Constant.toJson)).display)]
  | .items each =>
    match value with
    | .arr items => items.zipIdx.flatMap fun item =>
      findings each item.1 ((p.via ["items"]).into (.index item.2))
    | _ => []
  | .minItems least =>
    match value with
    | .arr items =>
      if items.length < least then [keyword.finding p (shortMessage value least)] else []
    | _ => []
  | .minLength least =>
    match value with
    | .str s =>
      if s.length < least then [keyword.finding p (shortMessage value least)] else []
    | _ => []
  | .minimum least =>
    if isBelow least value then
      [keyword.finding p (s!"{value.display} is less than the minimum of {least}")]
    else []
  | .identifier =>
    match value with
    | .str s =>
      if isIdentifier s then []
      else [keyword.finding p
        (value.display ++ " does not match " ++ Text.quote identifierPattern)]
    | _ => []
  | .properties fields =>
    match value with
    | .obj object => fieldFindings fields object (p.via ["properties"])
    | _ => []
  | .required names =>
    match value with
    | .obj object =>
      (names.filter fun name => (Json.lookup name object).isNone).map fun name =>
        keyword.finding p (Text.quote name ++ " is a required property")
    | _ => []
  | .type type =>
    if type.accepts value then []
    else [keyword.finding p (value.display ++ " is not of type " ++ Text.quote type.name)]
  | .note _ _ => []

def findings (contract : List Keyword) (value : Json) (p : Place) : List Finding :=
  match contract with
  | [] => []
  | keyword :: rest => keyword.findings value p ++ findings rest value p

/-- The options that find nothing wrong with the value. -/
def accepting (options : List (List Keyword)) (value : Json) : List (List Keyword) :=
  match options with
  | [] => []
  | option :: rest =>
    if (findings option value {}).isEmpty then option :: accepting rest value
    else accepting rest value

def fieldFindings (fields : List (String × List Keyword)) (object : Json.Members) (p : Place) :
    List Finding :=
  match fields with
  | [] => []
  | (name, field) :: rest =>
    (match Json.lookup name object with
      | some value => findings field value ((p.via [name]).into (.key name))
      | none => []) ++ fieldFindings rest object p
end

/-- Everything the contract finds wrong with a value. -/
def check (contract : Contract) (value : Json) : List Finding := findings contract value {}

end Contract

end IntegerEnum
