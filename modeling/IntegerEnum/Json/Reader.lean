import IntegerEnum.Json.Basic
import IntegerEnum.Numeral

/-! # Reading JSON texts

A text is read in two passes, first into tokens and then into a value. -/
set_option autoImplicit false

namespace IntegerEnum.Json

/-! ## Tokens

The text is read one character at a time by a machine that is between tokens, inside a bare word or
inside a string. A word ends where a blank, a mark or a quotation mark comes, and is then a literal
or a numeral or nothing; an integer with too many digits is nothing. Beyond the literals of JSON the
words `NaN`, `Infinity` and `-Infinity` stand for doubles. -/

inductive Token where
  | openArray
  | closeArray
  | openObject
  | closeObject
  | comma
  | colon
  | text (value : String)
  | scalar (value : Json)

/-- The value of a run of decimal digits. -/
def digitsValue (digits : List Char) : Nat :=
  digits.foldl (fun n c => 10 * n + (c.toNat - 48)) 0

/-- The power of ten after `e` or `E`: an optional sign and at least one digit. -/
def exponentOf? (cs : List Char) : Option Int :=
  let (negative, digits) := match cs with
    | '-' :: rest => (true, rest)
    | '+' :: rest => (false, rest)
    | rest => (false, rest)
  if digits.isEmpty ∨ !digits.all Char.isDigit then none
  else some (if negative then -(digitsValue digits : Int) else digitsValue digits)

/-- A numeral without its sign. Only one with a fraction or an exponent is a double. -/
def unsignedNumeral? (negative : Bool) (cs : List Char) : Option Json :=
  let whole := cs.takeWhile Char.isDigit
  let rest := cs.dropWhile Char.isDigit
  if whole.isEmpty ∨ (whole.head? = some '0' ∧ 1 < whole.length) then none
  else match rest with
    | [] =>
      let n : Int := digitsValue whole
      if whole.length ≤ Numeral.maxDigits then some (int (if negative then -n else n)) else none
    | '.' :: tail =>
      let fraction := tail.takeWhile Char.isDigit
      let places : Int := fraction.length
      let mantissa := digitsValue (whole ++ fraction)
      if fraction.isEmpty then none
      else match tail.dropWhile Char.isDigit with
        | [] => some (float (Double.ofDecimal negative mantissa (-places)))
        | c :: power =>
          if c = 'e' ∨ c = 'E' then
            (exponentOf? power).map fun e => float (Double.ofDecimal negative mantissa (e - places))
          else none
    | c :: power =>
      if c = 'e' ∨ c = 'E' then
        (exponentOf? power).map fun e => float (Double.ofDecimal negative (digitsValue whole) e)
      else none

def scalar? (word : String) : Option Json :=
  if word = "null" then some null
  else if word = "true" then some (bool true)
  else if word = "false" then some (bool false)
  else if word = "NaN" then some (float .nan)
  else if word = "Infinity" then some (float (.infinite false))
  else if word = "-Infinity" then some (float (.infinite true))
  else match word.toList with
    | '-' :: rest => unsignedNumeral? true rest
    | rest => unsignedNumeral? false rest

inductive Scan where
  | between
  | word (letters : String)
  | inText (content : String)
  | escape (content : String)
  /-- Inside the four digits after `\u`: how many are missing and the code unit so far; `high` is
  the first half of a surrogate pair that waits for its second. -/
  | unit (content : String) (high : Option Nat) (missing : Nat) (code : Nat)
  | halfPair (content : String) (high : Nat)
  | halfPairEscape (content : String) (high : Nat)

def mark? : Char → Option Token
  | '[' => some .openArray
  | ']' => some .closeArray
  | '\x7b' => some .openObject
  | '\x7d' => some .closeObject
  | ',' => some .comma
  | ':' => some .colon
  | _ => none

def isGap (c : Char) : Bool := c = ' ' || c = '\t' || c = '\n' || c = '\r'

def hexValue? (c : Char) : Option Nat :=
  if '0' ≤ c ∧ c ≤ '9' then some (c.toNat - 48)
  else if 'a' ≤ c ∧ c ≤ 'f' then some (c.toNat - 87)
  else if 'A' ≤ c ∧ c ≤ 'F' then some (c.toNat - 55)
  else none

def isHighHalf (code : Nat) : Bool := 0xd800 ≤ code && code < 0xdc00

def isLowHalf (code : Nat) : Bool := 0xdc00 ≤ code && code < 0xe000

/-- What a letter after a backslash stands for. -/
def simpleEscape? : Char → Option Char
  | '\x22' => some '\x22'
  | '\x5c' => some '\x5c'
  | '/' => some '/'
  | 'b' => some '\x08'
  | 'f' => some '\x0c'
  | 'n' => some '\n'
  | 'r' => some '\r'
  | 't' => some '\t'
  | _ => none

/-- A whole code unit: a character, the first half of a pair, or the second half that completes
one. -/
def endUnit? (content : String) : Option Nat → Nat → Option Scan
  | none, code =>
    if isHighHalf code then some (.halfPair content code)
    else if isLowHalf code then none
    else some (.inText (content.push (Char.ofNat code)))
  | some high, code =>
    if isLowHalf code then
      let offset := (high - 0xd800) * 0x400 + (code - 0xdc00)
      some (.inText (content.push (Char.ofNat (0x10000 + offset))))
    else none

/-- Starts a token, or goes on between tokens, at a character that belongs to no word. -/
def startToken (done : List Token) (c : Char) : Scan × List Token :=
  if isGap c then (.between, done)
  else if c = '\x22' then (.inText "", done)
  else match mark? c with
    | some mark => (.between, mark :: done)
    | none => (.word (String.singleton c), done)

def endsWord (c : Char) : Bool := isGap c || c = '\x22' || (mark? c).isSome

/-- One step of the machine. The tokens found so far stand last first. -/
def step (c : Char) : Scan × List Token → Option (Scan × List Token)
  | (.between, done) => some (startToken done c)
  | (.word letters, done) =>
    if endsWord c then (scalar? letters).map fun v => startToken (.scalar v :: done) c
    else some (.word (letters.push c), done)
  | (.inText content, done) =>
    if c = '\x22' then some (.between, .text content :: done)
    else if c = '\x5c' then some (.escape content, done)
    else if c.toNat < 32 then none
    else some (.inText (content.push c), done)
  | (.escape content, done) =>
    if c = 'u' then some (.unit content none 4 0, done)
    else (simpleEscape? c).map fun e => (.inText (content.push e), done)
  | (.unit content high missing code, done) => do
    let code := 16 * code + (← hexValue? c)
    match missing with
    | 0 | 1 => (endUnit? content high code).map fun scan => (scan, done)
    | left + 1 => some (.unit content high left code, done)
  | (.halfPair content high, done) =>
    if c = '\x5c' then some (.halfPairEscape content high, done) else none
  | (.halfPairEscape content high, done) =>
    if c = 'u' then some (.unit content (some high) 4 0, done) else none

def finish? : Scan × List Token → Option (List Token)
  | (.between, done) => some done.reverse
  | (.word letters, done) => (scalar? letters).map fun v => (Token.scalar v :: done).reverse
  | _ => none

def tokens? (text : String) : Option (List Token) :=
  (text.toList.foldlM (fun state c => step c state) (.between, [])).bind finish?

/-! ## Values

The tokens are folded over the stack of containers that are still open. Each state of the machine
says what must come next, so that a comma is always followed by an item. `parse?` refuses a text in
which a value lies inside more than `depth` containers. -/

/-- An open container: the items so far, last first, or the members so far and the key whose value
is awaited. -/
inductive Frame where
  | items (done : List Json)
  | member (done : Members) (key : String)

inductive Expect where
  | value (outer : List Frame)
  | firstItem (outer : List Frame)
  | firstKey (outer : List Frame)
  | key (done : Members) (outer : List Frame)
  | colon (done : Members) (key : String) (outer : List Frame)
  | afterItem (done : List Json) (outer : List Frame)
  | afterMember (done : Members) (outer : List Frame)
  | nothing (result : Json)

/-- A value is complete inside the open containers. -/
def complete (value : Json) : List Frame → Expect
  | [] => .nothing value
  | .items done :: outer => .afterItem (value :: done) outer
  | .member done key :: outer => .afterMember (done.put key value) outer

/-- The state after the first token of a value. -/
def beginValue (depth : Nat) (outer : List Frame) (token : Token) : Option Expect :=
  if depth < outer.length then none
  else match token with
    | .openArray => some (.firstItem outer)
    | .openObject => some (.firstKey outer)
    | .text s => some (complete (str s) outer)
    | .scalar v => some (complete v outer)
    | _ => none

def advance (depth : Nat) : Expect → Token → Option Expect
  | .value outer, token => beginValue depth outer token
  | .firstItem outer, .closeArray => some (complete (arr []) outer)
  | .firstItem outer, token => beginValue depth (.items [] :: outer) token
  | .firstKey outer, .closeObject => some (complete (obj []) outer)
  | .firstKey outer, .text key => some (.colon [] key outer)
  | .key done outer, .text key => some (.colon done key outer)
  | .colon done key outer, .colon => some (.value (.member done key :: outer))
  | .afterItem done outer, .comma => some (.value (.items done :: outer))
  | .afterItem done outer, .closeArray => some (complete (arr done.reverse) outer)
  | .afterMember done outer, .comma => some (.key done outer)
  | .afterMember done outer, .closeObject => some (complete (obj done) outer)
  | _, _ => none

def parse? (depth : Nat) (text : String) : Option Json := do
  let tokens ← tokens? text
  match ← tokens.foldlM (advance depth) (.value []) with
  | .nothing result => some result
  | _ => none

end IntegerEnum.Json
