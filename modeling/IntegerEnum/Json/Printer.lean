import IntegerEnum.Json.Basic
import IntegerEnum.Binary64.Shortest
import IntegerEnum.Text

/-! # Writing JSON texts

`compact` writes a value on one line. `indented` writes two blanks for each level, the members in
the order of their keys, and a container without content as `[]` or as a pair of braces. Both write
every character that is not a printable one of ASCII as an escape of its UTF-16 code units. -/
set_option autoImplicit false

namespace IntegerEnum.Json

def unitEscape (code : Nat) : List Char :=
  Text.backslash :: 'u' :: Text.hexDigits 4 code

def textChar (c : Char) : List Char :=
  let code := c.toNat
  if c = Text.quotationMark ∨ c = Text.backslash then [Text.backslash, c]
  else if c = '\n' then [Text.backslash, 'n']
  else if c = '\r' then [Text.backslash, 'r']
  else if c = '\t' then [Text.backslash, 't']
  else if c = '\x08' then [Text.backslash, 'b']
  else if c = '\x0c' then [Text.backslash, 'f']
  else if code < 32 then unitEscape code
  else if code < 127 then [c]
  else if code < 0x10000 then unitEscape code
  else
    let above := code - 0x10000
    unitEscape (0xd800 + above / 0x400) ++ unitEscape (0xdc00 + above % 0x400)

def textToken (s : String) : String :=
  String.ofList (Text.quotationMark :: s.toList.flatMap textChar ++ [Text.quotationMark])

def doubleToken (x : Double) : String := x.text "Infinity" "NaN"

def scalarToken : Json → String
  | null => "null"
  | bool b => if b then "true" else "false"
  | int n => toString n
  | float x => doubleToken x
  | str s => textToken s
  | arr _ | obj _ => ""

def openBrace : String := "\x7b"

def closeBrace : String := "\x7d"

mutual
def compact : Json → String
  | arr items => "[" ++ String.intercalate "," (compactItems items) ++ "]"
  | obj members => openBrace ++ String.intercalate "," (compactMembers members) ++ closeBrace
  | scalar => scalarToken scalar

def compactItems : List Json → List String
  | [] => []
  | item :: rest => compact item :: compactItems rest

def compactMembers : List (String × Json) → List String
  | [] => []
  | (key, value) :: rest => (textToken key ++ ":" ++ compact value) :: compactMembers rest
end

def margin (level : Nat) : String := String.ofList (List.replicate (2 * level) ' ')

/-- Lines of a container between its marks, each on a line of its own. -/
def block (level : Nat) (opening closing : String) (lines : List String) : String :=
  if lines.isEmpty then opening ++ closing
  else opening ++ "\n" ++ String.intercalate ",\n" (lines.map (margin (level + 1) ++ ·)) ++
    "\n" ++ margin level ++ closing

mutual
def indentedAt (level : Nat) : Json → String
  | arr items => block level "[" "]" (indentedItems (level + 1) items)
  | obj members =>
    let lines := (indentedMembers (level + 1) members).mergeSort fun a b => decide (a.1 ≤ b.1)
    block level openBrace closeBrace (lines.map Prod.snd)
  | scalar => scalarToken scalar

def indentedItems (level : Nat) : List Json → List String
  | [] => []
  | item :: rest => indentedAt level item :: indentedItems level rest

/-- The members with their keys, which order them. -/
def indentedMembers (level : Nat) : List (String × Json) → List (String × String)
  | [] => []
  | (key, value) :: rest =>
    (key, textToken key ++ ": " ++ indentedAt level value) :: indentedMembers level rest
end

def indented (value : Json) : String := indentedAt 0 value

/-! ## Values in messages

Inside a message texts are quoted, the literals capitalised, and containers stand on one line with a
blank after each comma and colon. `plain` shows a text as it is and any other value as `display`. -/

def displayDouble (x : Double) : String := x.text "inf" "nan"

def displayScalar : Json → String
  | null => "None"
  | bool b => if b then "True" else "False"
  | int n => toString n
  | float x => displayDouble x
  | str s => Text.quote s
  | arr _ | obj _ => ""

mutual
def display : Json → String
  | arr items => "[" ++ String.intercalate ", " (displayItems items) ++ "]"
  | obj members => openBrace ++ String.intercalate ", " (displayMembers members) ++ closeBrace
  | scalar => displayScalar scalar

def displayItems : List Json → List String
  | [] => []
  | item :: rest => display item :: displayItems rest

def displayMembers : List (String × Json) → List String
  | [] => []
  | (key, value) :: rest => (Text.quote key ++ ": " ++ display value) :: displayMembers rest
end

def plain : Json → String
  | str s => s
  | other => display other

end IntegerEnum.Json
