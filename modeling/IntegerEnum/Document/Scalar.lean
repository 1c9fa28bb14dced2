import IntegerEnum.Document.Reading
import IntegerEnum.IntegerType
import IntegerEnum.Numeral

/-! # Scalars in documents

What counts as an integer, a truth value, a text or one of a set of names. Integers may also come as
truth values, as doubles without a fraction below 2 ^ 63, or as texts of numerals. -/
set_option autoImplicit false

namespace IntegerEnum

namespace Truth

def falseWords : List String := ["0", "off", "f", "false", "n", "no"]

def trueWords : List String := ["1", "on", "t", "true", "y", "yes"]

/-- A truth value as text, in any case of its ASCII letters. -/
def ofText? (text : String) : Option Bool :=
  let word := String.ofList (text.toList.map Char.toLower)
  if word ∈ falseWords then some false
  else if word ∈ trueWords then some true
  else none

def ofInt? (n : Int) : Option Bool :=
  if n = 0 then some false else if n = 1 then some true else none

end Truth

namespace Json

variable {α : Type}

/-- The bound of the integers that a double or a truth value may stand for. -/
def wordBound : Int := Int.pow 2 63

def readInteger : Json → Reading Int
  | int n => .accepted n
  | bool b => .accepted (if b then 1 else 0)
  | float x =>
    if x.isFinite then
      match x.toInt? with
      | none => .fail .fractional (float x)
      | some n =>
        if -wordBound < n ∧ n < wordBound then .accepted n else .fail .tooLarge (float x)
    else .fail .notFinite (float x)
  | str s =>
    match Numeral.ofText? s with
    | some n => if Numeral.fits n then .accepted n else .fail .tooLarge (str s)
    | none => .fail .unreadableInteger (str s)
  | other => .fail .notInteger other

def readPositive (input : Json) : Reading Int :=
  (readInteger input).next fun n => if 1 ≤ n then .accepted n else .fail .belowOne input

def readTruth (n? : Option Int) (input : Json) : Reading Bool :=
  match n? with
  | none => .fail .notBoolean input
  | some n =>
    match Truth.ofInt? n with
    | some b => .accepted b
    | none => .fail .unreadableBoolean input

def readBoolean : Json → Reading Bool
  | bool b => .accepted b
  | int n => readTruth (if -wordBound ≤ n ∧ n < wordBound then some n else none) (int n)
  | float x => readTruth (x.toInt?.filter fun n => -wordBound < n && n < wordBound) (float x)
  | str s =>
    match Truth.ofText? s with
    | some b => .accepted b
    | none => .fail .unreadableBoolean (str s)
  | other => .fail .notBoolean other

def readText : Json → Reading String
  | str s => .accepted s
  | other => .fail .notText other

def readNonemptyText (input : Json) : Reading String :=
  (readText input).next fun s => if s = "" then .fail .emptyText input else .accepted s

/-- Reads one of a set of names. -/
def readNamed (names : List String) (ofName? : String → Option α) : Json → Reading α
  | str s =>
    match ofName? s with
    | some value => .accepted value
    | none => .fail (.notNamed names) (str s)
  | other => .fail (.notNamed names) other

/-- As `readNamed`, for choices that are written into the contract itself. -/
def readLiteral (names : List String) (ofName? : String → Option α) : Json → Reading α
  | str s =>
    match ofName? s with
    | some value => .accepted value
    | none => .fail (.notLiteral (names.map Fault.quoted)) (str s)
  | other => .fail (.notLiteral (names.map Fault.quoted)) other

def readPointerWidth (input : Json) : Reading PointerWidth :=
  let n? := match input with
    | int n => some n
    | float x => x.toInt?
    | _ => none
  match n?.bind PointerWidth.ofInt? with
  | some width => .accepted width
  | none => .fail (.notLiteral (PointerWidth.all.map fun w => toString w.toNat)) input

/-- How closely a value is of the type it was read as. Texts in a JSON text may stand for other
things, so there they count as loose. -/
inductive Fit where
  | coerced | loose | exact
  deriving DecidableEq, Inhabited

namespace Fit

def rank : Fit → Nat
  | coerced => 0
  | loose => 1
  | exact => 2

def worse (a b : Fit) : Fit := if a.rank ≤ b.rank then a else b

def ofInteger : Json → Fit
  | int _ => exact
  | _ => coerced

def ofBoolean : Json → Fit
  | bool _ => exact
  | _ => coerced

def ofText (form : Form) : Json → Fit
  | str _ => match form with
    | .value => exact
    | .text => loose
  | _ => exact

/-- The fit of a field; an absent one fits. -/
def ofField (key : String) (fit : Json → Fit) (members : Members) : Fit :=
  match lookup key members with
  | some value => fit value
  | none => exact

end Fit

/-- How many of the keys the object has. -/
def countPresent (keys : List String) (members : Members) : Nat :=
  (keys.filter fun key => (lookup key members).isSome).length

end Json

end IntegerEnum
