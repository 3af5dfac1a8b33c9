import SqlDesk.Decimal.Binary
import SqlDesk.Text.Ascii

/-! Numerals: digits with a point and an exponent, and the binary64 number nearest to one. -/

set_option autoImplicit false

namespace SqlDesk.Decimal

/-- A numeral as written: digits before and after the point, and the exponent. -/
structure Numeral where
  whole : List Char
  fraction : List Char
  exponent : Int
  isIntegral : Bool
  deriving DecidableEq, Repr

namespace Numeral

def isDigit (c : Char) : Bool := (Text.digitValue? c).isSome

def digitRun (chars : List Char) : Nat := (chars.takeWhile isDigit).length

def exponentLength : List Char → Nat
  | 'e' :: rest | 'E' :: rest =>
    match rest with
    | '+' :: digits | '-' :: digits =>
      if digitRun digits = 0 then 0 else 2 + digitRun digits
    | digits => if digitRun digits = 0 then 0 else 1 + digitRun digits
  | _ => 0

def length (chars : List Char) : Nat :=
  let whole := digitRun chars
  let fraction := match chars.drop whole with
    | '.' :: digits => 1 + digitRun digits
    | _ => 0
  whole + fraction + exponentLength (chars.drop (whole + fraction))

def digitsValue (digits : List Char) : Nat := (Text.readDigits 0 digits).getD 0

/-- Exponents beyond this make any numeral zero or infinite. -/
def exponentBound : Nat := 100000

def exponentOf : List Char → Int
  | 'e' :: rest | 'E' :: rest =>
    match rest with
    | '-' :: digits => -(min exponentBound (digitsValue digits) : Nat)
    | '+' :: digits => (min exponentBound (digitsValue digits) : Nat)
    | digits => (min exponentBound (digitsValue digits) : Nat)
  | _ => 0

def ofChars (chars : List Char) : Numeral :=
  let whole := chars.takeWhile isDigit
  let after := chars.drop whole.length
  match after with
  | '.' :: rest =>
    let fraction := rest.takeWhile isDigit
    ⟨whole, fraction, exponentOf (rest.drop fraction.length), false⟩
  | _ => ⟨whole, [], exponentOf after, after.isEmpty⟩

def ofChars? (chars : List Char) : Option Numeral :=
  let numeral := ofChars chars
  if length chars = chars.length ∧ !(numeral.whole ++ numeral.fraction).isEmpty then some numeral
  else none

def significand (numeral : Numeral) : Nat := digitsValue (numeral.whole ++ numeral.fraction)

def power (numeral : Numeral) : Int := numeral.exponent - numeral.fraction.length

/-- Greatest power of ten of the leading digit of a finite number, and least of one above zero. -/
def greatestLeading : Int := 310
def leastLeading : Int := -330

def magnitude (numeral : Numeral) : Nat :=
  let significand := numeral.significand
  let leading := numeral.power + (Nat.toDigits 10 significand).length
  if significand = 0 ∨ leading < leastLeading then 0
  else if greatestLeading < leading then binary64.infinity
  else if 0 ≤ numeral.power then binary64.nearest (significand * Nat.pow 10 numeral.power.toNat) 1
  else binary64.nearest significand (Nat.pow 10 (-numeral.power).toNat)

end Numeral

end SqlDesk.Decimal
