import SqlDesk.Decimal.Shortest

/-! How a binary number is written. The digits are the shortest that read back; a style decides
where positional writing ends and which marks go around the digits. -/

set_option autoImplicit false

namespace SqlDesk.Decimal

structure Style where
  tie : Tie
  /-- Least and greatest power of ten of the leading digit that is written without an exponent. -/
  positional : Option (Int × Int)
  pointZero : Bool
  nan : String
  infinity : String
  deriving DecidableEq, Repr

def plain : Style := ⟨.away, none, false, "NaN", "Infinity"⟩

/-- The writing of a JSON number: positional from `0.00001` to below `10 ^ 16`, and integral
numbers keep their point. -/
def jsonStyle : Style := ⟨.even, some (-5, 15), true, "NaN", "Infinity"⟩

def zeros (count : Nat) : String := String.ofList (List.replicate count '0')

def writePositional (pointZero : Bool) (digits : String) (exponent : Int) : String :=
  if 0 ≤ exponent then
    digits ++ zeros exponent.toNat ++ if pointZero then ".0" else ""
  else
    let places := (-exponent).toNat
    if places < digits.length then
      let whole := digits.length - places
      String.ofList (digits.toList.take whole) ++ "." ++ String.ofList (digits.toList.drop whole)
    else "0." ++ zeros (places - digits.length) ++ digits

def writeScientific (digits : String) (leading : Int) : String :=
  let mantissa := match digits.toList with
    | first :: second :: rest => String.ofList (first :: '.' :: second :: rest)
    | short => String.ofList short
  let sign := if leading < 0 then "-" else "+"
  mantissa ++ "e" ++ sign ++ toString leading.natAbs

def Style.writeDecimal (style : Style) (decimal : Decimal) : String :=
  let digits := toString decimal.digits
  let leading := decimal.exponent + digits.length - 1
  match style.positional with
  | none => writePositional style.pointZero digits decimal.exponent
  | some (least, greatest) =>
    if least ≤ leading ∧ leading ≤ greatest then
      writePositional style.pointZero digits decimal.exponent
    else writeScientific digits leading

/-- The text of a bit pattern; the sign of a zero is kept, that of a NaN is not. -/
def Style.write (style : Style) (format : BinaryFormat) (bits : Nat) : String :=
  match format.decode bits with
  | .nan => style.nan
  | .infinite negative => (if negative then "-" else "") ++ style.infinity
  | .finite negative significand exponent =>
    (if negative then "-" else "")
      ++ style.writeDecimal (format.shortest style.tie significand exponent)

end SqlDesk.Decimal
