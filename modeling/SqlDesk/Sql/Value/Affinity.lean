import SqlDesk.Decimal.Style
import SqlDesk.Sql.Value.Order

/-! The affinity of a column, which turns what is stored in it into the form it prefers, and the
conversions between numbers and texts. -/

set_option autoImplicit false

namespace SqlDesk.Sql

open Decimal

inductive Affinity where
  | integer
  | text
  | blob
  | real
  | numeric
  deriving DecidableEq, Repr

def toInteger (value : Value) : Value :=
  let (numerator, denominator) := quotient value
  let whole := numerator / denominator
  if rank value = 1 ∧ whole * denominator = numerator
      ∧ -(Text.wordBound 63 : Int) < whole ∧ whole < Text.wordBound 63 - 1 then
    .ofInt whole
  else value

def toReal : Value → Value
  | .integer value => .ofFloat value.toFloat
  | .real bits => .real (if bits.toNat = binary64.signBit then 0 else bits)
  | value => value

def textDigits : Nat := 15

def roundDigits (decimal : Decimal) : Decimal :=
  let excess := (toString decimal.digits).length - textDigits
  let unit := Nat.pow 10 excess
  (Decimal.mk ((decimal.digits + unit / 2) / unit) (decimal.exponent + excess)).normalize

/-- A magnitude with a point, and with an exponent of two digits where it is large or small. -/
def magnitudeText (decimal : Decimal) : String :=
  let digits := toString decimal.digits
  let leading := decimal.exponent + digits.length - 1
  if -4 ≤ leading ∧ leading < textDigits then writePositional true digits decimal.exponent
  else
    let fraction := if digits.length = 1 then "0" else String.ofList (digits.toList.drop 1)
    let size := toString leading.natAbs
    String.ofList (digits.toList.take 1) ++ "." ++ fraction ++ "e"
      ++ (if leading < 0 then "-" else "+") ++ (if size.length = 1 then "0" else "") ++ size

def realText (number : Float) : String :=
  if number == 0 then "0.0"
  else
    let magnitude := number.abs
    (if number < 0 then "-" else "")
      ++ if magnitude.isInf then "Inf" else magnitudeText (roundDigits (Paired.digitsOf magnitude))

def toText : Value → Value
  | .integer value => .ofString (toString value.toInt)
  | .real bits => .ofString (realText (.ofBits bits))
  | value => value

def toNumber : Value → Value
  | .text bytes => (numberOf? bytes).getD (.text bytes)
  | value => value

namespace Affinity

def mentions (declared : List Char) (piece : String) : Bool :=
  match declared with
  | [] => false
  | c :: rest =>
    Text.sameIgnoringCase ((c :: rest).take piece.length) piece.toList || mentions rest piece

def ofDeclared (declared : String) : Affinity :=
  let has := mentions declared.toList
  if has "INT" then integer
  else if ["CHAR", "CLOB", "TEXT"].any has then text
  else if has "BLOB" then blob
  else if ["REAL", "FLOA", "DOUB"].any has then real
  else numeric

def isNumeric : Affinity → Bool
  | integer | real | numeric => true
  | text | blob => false

def store : Affinity → Value → Value
  | integer, value | numeric, value => toInteger (toNumber value)
  | real, value => toReal (toNumber value)
  | text, value => toText value
  | blob, value => value

end Affinity

end SqlDesk.Sql
