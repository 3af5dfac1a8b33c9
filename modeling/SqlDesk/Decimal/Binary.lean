/-! Binary floating formats as exact integers. A finite pattern denotes its significand times a
power of two; the pattern nearest to a quotient of naturals is found with integer arithmetic only,
so nothing here depends on the machine's floating unit. -/

set_option autoImplicit false

namespace SqlDesk.Decimal

/-- An interchange format: a hidden leading bit, stored fraction bits and a biased exponent. -/
structure BinaryFormat where
  fractionBits : Nat
  exponentBits : Nat
  deriving DecidableEq, Repr

def binary32 : BinaryFormat := ⟨23, 8⟩
def binary64 : BinaryFormat := ⟨52, 11⟩

/-- What a bit pattern stands for. A finite pattern has the magnitude `significand * 2 ^ exponent`. -/
inductive Binary where
  | nan
  | infinite (negative : Bool)
  | finite (negative : Bool) (significand : Nat) (exponent : Int)
  deriving DecidableEq, Repr

namespace BinaryFormat

/-- The first bit pattern, sign aside, that is no finite number. -/
def infinity (format : BinaryFormat) : Nat :=
  (Nat.pow 2 format.exponentBits - 1) * Nat.pow 2 format.fractionBits

/-- Weight of the last significand bit of the smallest numbers, as a power of two. -/
def leastExponent (format : BinaryFormat) : Int :=
  2 - (Nat.pow 2 (format.exponentBits - 1) : Int) - format.fractionBits

def signBit (format : BinaryFormat) : Nat :=
  Nat.pow 2 (format.fractionBits + format.exponentBits)

def decode (format : BinaryFormat) (bits : Nat) : Binary :=
  let negative := bits / format.signBit % 2 = 1
  let magnitude := bits % format.signBit
  let biased := magnitude / Nat.pow 2 format.fractionBits
  let fraction := magnitude % Nat.pow 2 format.fractionBits
  if format.infinity < magnitude then .nan
  else if magnitude = format.infinity then .infinite negative
  else if biased = 0 then .finite negative fraction format.leastExponent
  else .finite negative (Nat.pow 2 format.fractionBits + fraction) (format.leastExponent + biased - 1)

end BinaryFormat

/-- The natural number nearest to a quotient; a tie goes to the even neighbour. -/
def roundHalfEven (numerator denominator : Nat) : Nat :=
  let whole := numerator / denominator
  let twice := 2 * (numerator % denominator)
  if twice < denominator then whole
  else if denominator < twice then whole + 1
  else if whole % 2 = 0 then whole else whole + 1

def scaleByTwo (numerator denominator : Nat) (shift : Int) : Nat × Nat :=
  if 0 ≤ shift then (numerator * Nat.pow 2 shift.toNat, denominator)
  else (numerator, denominator * Nat.pow 2 (-shift).toNat)

namespace BinaryFormat

/-- Magnitude pattern nearest to a quotient of naturals, at most that of infinity. Normal and
subnormal patterns are counted by the same sum, because a carry out of the significand lands in
the exponent field. -/
def nearest (format : BinaryFormat) (numerator denominator : Nat) : Nat :=
  if numerator = 0 then 0
  else
    let guess : Int := (numerator.log2 : Int) - denominator.log2
    let (scaled, unit) := scaleByTwo numerator denominator (-guess)
    let leading := if scaled < unit then guess - 1 else guess
    let exponent := max (leading - format.fractionBits) format.leastExponent
    let (scaled, unit) := scaleByTwo numerator denominator (-exponent)
    let pattern := (exponent - format.leastExponent).toNat * Nat.pow 2 format.fractionBits
      + roundHalfEven scaled unit
    min pattern format.infinity

def encode (format : BinaryFormat) (negative : Bool) (numerator denominator : Nat) : Nat :=
  (if negative then format.signBit else 0) + format.nearest numerator denominator

end BinaryFormat

/-- Changes the format of a pattern; exact whenever the target is the wider one. -/
def convert (source target : BinaryFormat) (bits : Nat) : Nat :=
  match source.decode bits with
  | .nan => target.infinity + 1
  | .infinite negative => (if negative then target.signBit else 0) + target.infinity
  | .finite negative significand exponent =>
    let (numerator, denominator) := scaleByTwo significand 1 exponent
    target.encode negative numerator denominator

end SqlDesk.Decimal
