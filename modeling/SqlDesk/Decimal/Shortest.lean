import SqlDesk.Decimal.Binary

/-! The shortest decimal that reads back as a given binary number. Among the decimals with the
fewest digits that lie in the interval of reals rounding to the number, the nearest is taken; an
exact tie is left to the caller. -/

set_option autoImplicit false

namespace SqlDesk

/-- The magnitude `digits * 10 ^ exponent`. -/
structure Decimal where
  digits : Nat
  exponent : Int
  deriving DecidableEq, Repr

namespace Decimal

/-- Which neighbour wins when a number lies halfway between two shortest decimals. -/
inductive Tie where
  | away
  | even
  deriving DecidableEq, Repr

/-- The reals that round to a number, in units of `1 / unit`: the number itself and the two
halfway points around it, which belong to the interval exactly if `closed`. -/
structure Interval where
  low : Nat
  value : Nat
  high : Nat
  unit : Nat
  closed : Bool
  deriving DecidableEq, Repr

/-- The gap below a power of two is half the gap above it, except among the smallest numbers. -/
def BinaryFormat.interval (format : BinaryFormat) (significand : Nat) (exponent : Int) : Interval :=
  let narrow := significand = Nat.pow 2 format.fractionBits ∧ format.leastExponent < exponent
  let (scale, unit) := scaleByTwo 1 1 (exponent - 2)
  { low := (4 * significand - if narrow then 1 else 2) * scale
    value := 4 * significand * scale
    high := (4 * significand + 2) * scale
    unit := unit
    closed := significand % 2 = 0 }

/-- Digits of `value / unit` before the point, or minus the zeros after it. -/
def Interval.magnitude (interval : Interval) : Int :=
  if interval.unit ≤ interval.value then
    (Nat.toDigits 10 (interval.value / interval.unit)).length
  else 1 - ((Nat.toDigits 10 (interval.unit / interval.value)).length : Int)

def Interval.onGrid (interval : Interval) (place : Int) : Interval :=
  if 0 ≤ place then { interval with unit := interval.unit * Nat.pow 10 place.toNat }
  else
    let factor := Nat.pow 10 (-place).toNat
    { interval with
      low := interval.low * factor
      value := interval.value * factor
      high := interval.high * factor }

def Interval.contains (interval : Interval) (point : Nat) : Bool :=
  let measured := point * interval.unit
  if interval.closed then interval.low ≤ measured && measured ≤ interval.high
  else interval.low < measured && measured < interval.high

/-- The nearer of the two grid points around the number, if the interval holds any of them. -/
def Interval.gridPoint? (interval : Interval) (tie : Tie) : Option Nat :=
  let below := interval.value / interval.unit
  let above := below + 1
  match interval.contains below, interval.contains above with
  | false, false => none
  | true, false => some below
  | false, true => some above
  | true, true =>
    let twice := 2 * (interval.value % interval.unit)
    if twice < interval.unit then some below
    else if interval.unit < twice then some above
    else match tie with
      | .away => some above
      | .even => some (if below % 2 = 0 then below else above)

/-- Tries finer and finer grids; `count` bounds the digits. -/
def Interval.search (interval : Interval) (tie : Tie) (place : Int) : Nat → Decimal
  | 0 => ⟨(interval.onGrid place).value / (interval.onGrid place).unit, place⟩
  | count + 1 =>
    match (interval.onGrid place).gridPoint? tie with
    | some point => ⟨point, place⟩
    | none => interval.search tie (place - 1) count

def normalize (decimal : Decimal) : Decimal :=
  go decimal.digits decimal.exponent decimal.digits
where
  go (digits : Nat) (exponent : Int) : Nat → Decimal
    | 0 => ⟨digits, exponent⟩
    | fuel + 1 =>
      if digits ≠ 0 ∧ digits % 10 = 0 then go (digits / 10) (exponent + 1) fuel
      else ⟨digits, exponent⟩

/-- Seventeen digits tell any two numbers of the widest format apart. -/
def shortestDigits : Nat := 17

def BinaryFormat.shortest (format : BinaryFormat) (tie : Tie) (significand : Nat) (exponent : Int) :
    Decimal :=
  if significand = 0 then ⟨0, 0⟩
  else
    let interval := format.interval significand exponent
    (interval.search tie (interval.magnitude - 1) shortestDigits).normalize

end Decimal

end SqlDesk
