import SqlDesk.Json.Basic
import SqlDesk.Decimal.Binary
import SqlDesk.Text.Ascii

/-! Numbers of JSON texts. An integer is kept exactly while its digits fit a 64-bit word. Any other
number is the word of its leading digits, rounded to binary64, then multiplied or divided by a
power of ten, rounded again; digits beyond the word only count as places. -/

set_option autoImplicit false

namespace SqlDesk.Json

open Decimal

def wordLimit : Nat := Text.wordBound 64

def greatestPower : Nat := 308

def quotientOf (pattern : Nat) : Nat × Nat :=
  match binary64.decode pattern with
  | .finite _ significand exponent => scaleByTwo significand 1 exponent
  | _ => (0, 1)

def roundedProduct (left right : Nat) : Nat :=
  let (a, b) := quotientOf left
  let (c, d) := quotientOf right
  binary64.nearest (a * c) (b * d)

def roundedQuotient (left right : Nat) : Nat :=
  let (a, b) := quotientOf left
  let (c, d) := quotientOf right
  binary64.nearest (a * d) (b * c)

def powerOfTen (power : Nat) : Nat := binary64.nearest (Nat.pow 10 power) 1

/-- Divides by a power of ten of any size, in steps no greater than `greatestPower`. -/
def divideByTen (pattern : Nat) (power : Nat) : Nat :=
  if pattern = 0 then 0
  else if power ≤ greatestPower then roundedQuotient pattern (powerOfTen power)
  else divideByTen (roundedQuotient pattern (powerOfTen greatestPower)) (power - greatestPower)
termination_by power
decreasing_by simp_all [greatestPower]; omega

/-- The pattern of `significand * 10 ^ exponent`; too large a magnitude is no number. -/
def floatOfParts? (negative : Bool) (significand : Nat) (exponent : Int) : Option Json :=
  let start := binary64.nearest significand 1
  let pattern? :=
    if exponent < 0 then some (divideByTen start exponent.natAbs)
    else if start = 0 then some 0
    else if greatestPower < exponent.natAbs then none
    else
      let scaled := roundedProduct start (powerOfTen exponent.natAbs)
      if scaled = binary64.infinity then none else some scaled
  pattern?.map fun pattern =>
    .float (UInt64.ofNat ((if negative then binary64.signBit else 0) + pattern))

def takeSignificand (significand taken : Nat) : List Char → Nat × Nat × List Char
  | [] => (significand, taken, [])
  | c :: rest =>
    match digitValue? c with
    | none => (significand, taken, c :: rest)
    | some digit =>
      if significand * 10 + digit < wordLimit then
        takeSignificand (significand * 10 + digit) (taken + 1) rest
      else (significand, taken, c :: rest)
where
  digitValue? := Text.digitValue?

def isDigit (c : Char) : Bool := (Text.digitValue? c).isSome

/-- Exponents are words too; beyond them a number is zero or too large. -/
def exponentLimit : Nat := Text.wordBound 31

def readExponent? (negative : Bool) (significand : Nat) (places : Int) (text : List Char) :
    Option (Json × List Char) :=
  let (downwards, digits) := match text with
    | '+' :: rest => (false, rest)
    | '-' :: rest => (true, rest)
    | rest => (false, rest)
  let run := digits.takeWhile isDigit
  let rest := digits.dropWhile isDigit
  if run.isEmpty then none
  else
    match Text.readDigits 0 run with
    | none => none
    | some exponent =>
      let number :=
        if exponent < exponentLimit then
          floatOfParts? negative significand (if downwards then places - exponent else places + exponent)
        -- An exponent past the limit overflows, unless it points down or nothing is scaled.
        else if significand ≠ 0 ∧ !downwards then none
        else floatOfParts? negative 0 0
      number.map (·, rest)

def readTail? (negative : Bool) (significand : Nat) (places : Int) (text : List Char) :
    Option (Json × List Char) :=
  match text with
  | 'e' :: rest | 'E' :: rest => readExponent? negative significand places rest
  | rest => (floatOfParts? negative significand places).map (·, rest)

def readFraction? (negative : Bool) (significand : Nat) (places : Int) (text : List Char) :
    Option (Json × List Char) :=
  let (significand, taken, rest) := takeSignificand significand 0 text
  let ignored := rest.takeWhile isDigit
  if taken = 0 ∧ ignored.isEmpty then none
  else readTail? negative significand (places - taken) (rest.dropWhile isDigit)

/-- The number written with a sign and a word of digits; minus zero is a float. -/
def integerNumber (negative : Bool) (significand : Nat) : Option Json :=
  if !negative then some (.integer significand)
  else if significand = 0 ∨ Text.wordBound 63 < significand then floatOfParts? true significand 0
  else some (.integer (-significand))

def readUnsigned? (negative : Bool) (text : List Char) : Option (Json × List Char) :=
  match text with
  | [] => none
  | first :: rest =>
    if !isDigit first then none
    else
      let (significand, _, after) := takeSignificand 0 0 (first :: rest)
      let extra := after.takeWhile isDigit
      let after := after.dropWhile isDigit
      if first = '0' ∧ (rest.head?.any isDigit) then none
      else match after with
        | '.' :: fraction => readFraction? negative significand extra.length fraction
        | 'e' :: exponent | 'E' :: exponent =>
          readExponent? negative significand extra.length exponent
        | _ =>
          if extra.isEmpty then (integerNumber negative significand).map (·, after)
          else (floatOfParts? negative significand extra.length).map (·, after)

def readNumber? (text : List Char) : Option (Json × List Char) :=
  match text with
  | '-' :: rest => readUnsigned? true rest
  | _ => readUnsigned? false text

end SqlDesk.Json
