import SqlDesk.Decimal.Numeral
import SqlDesk.Decimal.Shortest

/-! Numbers held as the sum of two binary64 numbers, the second one far below the first, and the
conversion between them and decimals. A product of such numbers keeps about a hundred bits, so that a
chain of powers of ten costs little of the last place; it is not always rounded to the nearest
number. -/

set_option autoImplicit false

namespace SqlDesk.Decimal

structure Paired where
  high : Float
  low : Float

namespace Paired

/-- A number without the lower half of its significand; what is left out is exact as well. -/
def upperHalf (number : Float) : Float := .ofBits (number.toBits &&& 0xFFFFFFFFFC000000)

/-- The product with another such number. The first parts are multiplied by halves, which is exact
up to the last sum, and the rest is gathered in the second part. -/
def times (number factor : Paired) : Paired :=
  let upper := upperHalf number.high
  let lower := number.high - upper
  let factorUpper := upperHalf factor.high
  let factorLower := factor.high - factorUpper
  let main := upper * factorUpper
  let middle := upper * factorLower + lower * factorUpper
  let whole := main + middle
  let rest := main - whole + middle + lower * factorLower
  let rest := number.high * factor.low + number.low * factor.high + rest
  let high := whole + rest
  ⟨high, whole - high + rest⟩

def value (number : Paired) : Float := number.high + number.low

def ten : Paired := ⟨10, 0⟩
def tenToTen : Paired := ⟨10000000000, 0⟩
def tenToHundred : Paired := ⟨1.0e100, -1.5902891109759918046e83⟩
def tenth : Paired := ⟨0.1, -5.5511151231257827021e-18⟩
def tenthToTen : Paired := ⟨1.0e-10, -3.6432197315497741579e-27⟩
def tenthToHundred : Paired := ⟨1.0e-100, -1.99918998026028836196e-117⟩

def scaleByTen (number : Paired) (exponent : Int) : Paired :=
  let (hundred, dozen, one) :=
    if exponent < 0 then (tenthToHundred, tenthToTen, tenth) else (tenToHundred, tenToTen, ten)
  let count := exponent.natAbs
  let number := Nat.repeat (·.times hundred) (count / 100) number
  let number := Nat.repeat (·.times dozen) (count % 100 / 10) number
  Nat.repeat (·.times one) (count % 10) number

def greatestWord : Float := 18446744073709549568

def ofWord (word : UInt64) : Paired :=
  let high := word.toFloat
  if greatestWord < high then ⟨high, 0⟩
  else
    let taken := high.toUInt64
    ⟨high, if taken ≤ word then (word - taken).toFloat else -(taken - word).toFloat⟩

def roomForDigit : Nat := (Text.wordBound 64 - 10) / 10

def takeDigits (word taken : Nat) : List Char → Nat × Nat
  | [] => (word, taken)
  | c :: rest =>
    if word < roomForDigit then
      takeDigits (word * 10 + (Text.digitValue? c).getD 0) (taken + 1) rest
    else (word, taken)

def absorb (word : Nat) : Nat → Nat × Nat
  | 0 => (word, 0)
  | exponent + 1 =>
    if word < (Text.wordBound 64 - 1 - 0x7FF) / 10 then absorb (word * 10) exponent
    else (word, exponent + 1)

def release (word : Nat) : Nat → Nat × Nat
  | 0 => (word, 0)
  | exponent + 1 =>
    if word % 10 = 0 then release (word / 10) exponent else (word, exponent + 1)

/-- The number that a numeral is read as: as many digits as fit a word, scaled by a power of ten. -/
def ofNumeral (numeral : Numeral) : Float :=
  let (word, taken) := takeDigits 0 0 numeral.whole
  let (word, fraction) := takeDigits word 0 numeral.fraction
  let exponent := numeral.exponent + (numeral.whole.length - taken : Nat) - fraction
  if word = 0 then 0
  else
    let (word, exponent) :=
      if 0 ≤ exponent then
        let (word, rest) := absorb word exponent.toNat
        (word, (rest : Int))
      else
        let (word, rest) := release word exponent.natAbs
        (word, -(rest : Int))
    let value := ((ofWord word.toUInt64).scaleByTen exponent).value
    if value.isNaN then 1 / 0 else value

def raise (factor : Paired) (bound : Float) (number : Paired) : Nat → Paired × Nat
  | 0 => (number, 0)
  | fuel + 1 =>
    if number.high < bound then
      let (number, count) := raise factor bound (number.times factor) fuel
      (number, count + 1)
    else (number, 0)

def lower (factor : Paired) (bound : Float) (number : Paired) : Nat → Paired × Nat
  | 0 => (number, 0)
  | fuel + 1 =>
    if bound < number.high then
      let (number, count) := lower factor bound (number.times factor) fuel
      (number, count + 1)
    else (number, 0)

def mostSteps : Nat := 20

/-- A positive number as eighteen or nineteen digits and a power of ten. -/
def digitsOf (number : Float) : Decimal :=
  let start : Paired := ⟨number, 0⟩
  let (scaled, exponent) : Paired × Int :=
    -- Scaled into one word by hundreds of powers of ten first, then by tens and by single ones.
    if 9.223372036854774784e18 < number then
      let (scaled, hundreds) := lower tenthToHundred 9.223372036854774784e118 start mostSteps
      let (scaled, tens) := lower tenthToTen 9.223372036854774784e28 scaled mostSteps
      let (scaled, ones) := lower tenth 9.223372036854774784e18 scaled mostSteps
      (scaled, 100 * hundreds + 10 * tens + ones)
    else
      let (scaled, hundreds) := raise tenToHundred 9.223372036854774784e-83 start mostSteps
      let (scaled, tens) := raise tenToTen 9.223372036854774784e7 scaled mostSteps
      let (scaled, ones) := raise ten 9.22337203685477478e17 scaled mostSteps
      (scaled, -(100 * hundreds + 10 * tens + ones : Nat))
  let word := scaled.high.toUInt64
  let word :=
    if scaled.low < 0 then word - (-scaled.low).toUInt64 else word + scaled.low.toUInt64
  ⟨word.toNat, exponent⟩

end Paired

end SqlDesk.Decimal
