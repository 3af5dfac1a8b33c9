import SqlDesk.Decimal.Paired
import SqlDesk.Sql.Token
import SqlDesk.Sql.Value

/-! Numbers in statements and in texts. A numeral without point and exponent is an integer as long as
it fits a signed word of 64 bits; a hexadecimal one is such a word bit by bit; every other one is a
real number. A text may begin with a number and go on with something else. -/

set_option autoImplicit false

namespace SqlDesk.Sql

open Decimal (Paired)

inductive Numeral where
  | decimal (numeral : Decimal.Numeral)
  | hexadecimal (digits : List Char)
  deriving DecidableEq, Repr

namespace Numeral

def ofChars (chars : List Char) : Numeral :=
  match chars.filter (· ≠ '_') with
  | '0' :: 'x' :: digits | '0' :: 'X' :: digits => .hexadecimal digits
  | plain => .decimal (.ofChars plain)

def hexadecimalValue (digits : List Char) : Nat :=
  digits.foldl (fun value digit => value * 16 + (Text.hexValue? digit).getD 0) 0

/-- Whether a hexadecimal number has more digits than a word, or is the least word with a minus sign
in front of it, which has no positive counterpart. -/
def isTooLarge (negative : Bool) : Numeral → Bool
  | decimal _ => false
  | hexadecimal digits =>
    16 < (digits.dropWhile (· = '0')).length
      || (negative && hexadecimalValue digits = Text.wordBound 63)

def small? (numeral : Numeral) : Option Nat :=
  let value? : Option Nat := match numeral with
    | decimal numeral => if numeral.isIntegral then some numeral.significand else none
    | hexadecimal digits => some (hexadecimalValue digits)
  value?.filter (· < Text.wordBound 31)

def real (negative : Bool) (numeral : Decimal.Numeral) : Value :=
  let value := Paired.ofNumeral numeral
  .ofFloat (if negative then -value else value)

def value (negative : Bool) : Numeral → Value
  | decimal numeral =>
    let value : Int := if negative then -numeral.significand else numeral.significand
    if numeral.isIntegral && fitsWord value then .ofInt value else real negative numeral
  | hexadecimal digits =>
    let word := (Int64.ofNat (hexadecimalValue digits)).toInt
    .ofInt (if negative then -word else word)

end Numeral

structure NumberFront where
  negative : Bool
  whole : List Char
  numeral : Decimal.Numeral
  hasPoint : Bool
  hasExponent : Bool
  isSound : Bool
  isAll : Bool
  deriving DecidableEq, Repr

namespace NumberFront

def sign : List Char → Bool × List Char
  | '-' :: rest => (true, rest)
  | '+' :: rest => (false, rest)
  | rest => (false, rest)

def exponent (chars : List Char) : Int × Bool × List Char :=
  let (negative, rest) := sign chars
  let digits := rest.takeWhile isDigit
  let value := min Decimal.Numeral.exponentBound (Decimal.Numeral.digitsValue digits)
  (if negative then -(value : Int) else value, !digits.isEmpty, rest.drop digits.length)

def ofText (text : List Char) : NumberFront :=
  let (negative, rest) := sign (text.dropWhile isSpace)
  let whole := rest.takeWhile isDigit
  let rest := rest.drop whole.length
  let (fraction, hasPoint, rest) := match rest with
    | '.' :: rest =>
      let fraction := rest.takeWhile isDigit
      (fraction, true, rest.drop fraction.length)
    | _ => ([], false, rest)
  let (exponent, hasExponent, isSound, rest) := match rest with
    | 'e' :: rest | 'E' :: rest =>
      let (value, isSound, rest) := exponent rest
      (value, true, isSound, rest)
    | _ => (0, false, true, rest)
  ⟨negative, whole, ⟨whole, fraction, exponent, !hasPoint && !hasExponent⟩, hasPoint, hasExponent,
    isSound, rest.all isSpace⟩

def hasDigits (front : NumberFront) : Bool :=
  !(front.whole.isEmpty && front.numeral.fraction.isEmpty)

def isNumber (front : NumberFront) : Bool := front.hasDigits && front.isSound && front.isAll

def real (front : NumberFront) : Float :=
  let value := Paired.ofNumeral front.numeral
  if front.negative then -value else value

/-- The integer in front of a point or an exponent, as near as a word gets to it. -/
def integer (front : NumberFront) : Int :=
  let value : Int := Decimal.Numeral.digitsValue front.whole
  clampWord (if front.negative then -value else value)

def isExactInteger (front : NumberFront) : Bool :=
  let value : Int := Decimal.Numeral.digitsValue front.whole
  fitsWord (if front.negative then -value else value)

def value? (front : NumberFront) : Option Value :=
  if !front.isNumber then none
  else if front.numeral.isIntegral && front.isExactInteger then some (.ofInt front.integer)
  else some (.ofFloat front.real)

/-- The number that a text counts as in arithmetic, whatever follows it. -/
def operand (front : NumberFront) : Value :=
  match front.value? with
  | some value => value
  | none =>
    let isReal := front.hasDigits && (front.hasPoint || front.hasExponent)
      && (front.isSound || front.hasPoint)
    if !isReal && front.isExactInteger then .ofInt front.integer else .ofFloat front.real

def ofBytes (bytes : Bytes) : NumberFront := ofText (bytes.map fun byte => Char.ofNat byte.toNat)

end NumberFront

def numberOf? (bytes : Bytes) : Option Value := (NumberFront.ofBytes bytes).value?

end SqlDesk.Sql
