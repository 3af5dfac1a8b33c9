import SqlDesk.Sql.Value.Affinity

/-! Operations on values. Every value counts as a number where one is needed: a text as the number it
begins with, bytes as the text they are. Nothing makes the result nothing, apart from the logical
connectives, whose values are true, false and neither. -/

set_option autoImplicit false

namespace SqlDesk.Sql

open Decimal

def frontOf : Value → NumberFront
  | .text bytes | .blob bytes => .ofBytes bytes
  | _ => .ofText []

def numberOf (value : Value) : Value := if rank value = 1 then value else (frontOf value).operand

def floatOf : Value → Float
  | .integer value => value.toFloat
  | .real bits => .ofBits bits
  | value => (frontOf value).real

/-- The integer part of a number, as near as a word gets to it. -/
def truncate (number : Float) : Int :=
  let (numerator, denominator) := quotient (.ofFloat number)
  clampWord (Int.tdiv numerator denominator)

def integerOf : Value → Int
  | .integer value => value.toInt
  | .real bits => truncate (.ofBits bits)
  | value => (frontOf value).integer

/-- A truth value of three; `none` is neither true nor false. -/
abbrev Truth := Option Bool

namespace Truth

def and : Truth → Truth → Truth
  | some false, _ | _, some false => some false
  | some true, some true => some true
  | _, _ => none

def or : Truth → Truth → Truth
  | some true, _ | _, some true => some true
  | some false, some false => some false
  | _, _ => none

def not (truth : Truth) : Truth := truth.map (!·)

def ofValue : Value → Truth
  | .null => none
  | .integer value => some (value.toInt ≠ 0)
  | value => some (floatOf value != 0)

def value : Truth → Value
  | none => .null
  | some value => .ofBool value

end Truth

def realResult (number : Float) : Value := if number.isNaN then .null else .ofFloat number

/-- An integer if both operands are and the result fits, and a real number otherwise. -/
def arithmetic (exact : Int → Int → Int) (real : Float → Float → Float) (left right : Value) :
    Value :=
  if left.isNull ∨ right.isNull then .null
  else match numberOf left, numberOf right with
    | .integer a, .integer b =>
      let value := exact a.toInt b.toInt
      if fitsWord value then .ofInt value else realResult (real a.toFloat b.toFloat)
    | a, b => realResult (real (floatOf a) (floatOf b))

/-- The quotient, toward zero for integers; a quotient by zero is nothing. -/
def divide (left right : Value) : Value :=
  if floatOf (numberOf right) == 0 then .null else arithmetic Int.tdiv (· / ·) left right

/-- The remainder of the integer parts; a remainder by zero is nothing. -/
def modulo (left right : Value) : Value :=
  if left.isNull ∨ right.isNull ∨ integerOf right = 0 then .null
  else
    let value := Int.tmod (integerOf left) (integerOf right)
    match numberOf left, numberOf right with
    | .integer _, .integer _ => .ofInt value
    | _, _ => .ofFloat (Int64.ofInt value).toFloat

def onWords (operation : Int64 → Int64 → Int64) (left right : Value) : Value :=
  if left.isNull ∨ right.isNull then .null
  else .integer (operation (.ofInt (integerOf left)) (.ofInt (integerOf right)))

/-- A word moved to the left, or to the right by a negative number of places; it keeps its sign. -/
def shift (value : Int64) (places : Int) : Int64 :=
  if places < 0 then
    .ofInt (Int.fdiv value.toInt (Nat.pow 2 (min places.natAbs 64)))
  else .ofInt (value.toInt * Nat.pow 2 (min places.natAbs 64))

def textOf (value : Value) : Bytes :=
  match toText value with
  | .text bytes | .blob bytes => bytes
  | _ => []

def concat (left right : Value) : Value :=
  if left.isNull ∨ right.isNull then .null else .text (textOf left ++ textOf right)

def complement (value : Value) : Value :=
  if value.isNull then .null else .ofInt (-integerOf value - 1)

def negate (value : Value) : Value := arithmetic (· - ·) (· - ·) (.ofInt 0) value

def toSmallInteger (value : Value) : Value :=
  match value, toInteger value with
  | .real _, .integer whole =>
    if -(Text.wordBound 51 : Int) ≤ whole.toInt ∧ whole.toInt < Text.wordBound 51 then .integer whole
    else value
  | _, _ => value

def cast (affinity : Affinity) (value : Value) : Value :=
  match value with
  | .null => .null
  | _ => match affinity with
    | .text => .text (textOf value)
    | .blob => .blob (textOf value)
    | .integer => .ofInt (integerOf value)
    | .real => .ofFloat (floatOf value)
    | .numeric => if rank value = 1 then value else toSmallInteger (numberOf value)

end SqlDesk.Sql
