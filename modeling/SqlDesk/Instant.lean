/-! Points in time and their texts. An instant is a second since the beginning of 1970 and a fraction
of it; the fraction of a second that a leap second follows goes on through the leap second. It is
written after RFC 3339 in UTC, with as many groups of three fraction digits as it needs. Elapsed time
is written in hours, minutes, seconds and milliseconds. -/

set_option autoImplicit false

namespace SqlDesk

structure Instant where
  seconds : Int
  fraction : Nat
  deriving DecidableEq, Repr

namespace Instant

def nanosPerSecond : Nat := 1000000000
def secondsPerDay : Int := 86400

def epoch : Instant := ⟨0, 0⟩

def isLeap (instant : Instant) : Bool := nanosPerSecond ≤ instant.fraction

def day (instant : Instant) : Int := instant.seconds / secondsPerDay
def clock (instant : Instant) : Int := instant.seconds % secondsPerDay

def padded (width : Nat) (value : Nat) : String :=
  let digits := toString value
  String.ofList (List.replicate (width - digits.length) '0') ++ digits

/-- Year, month and day of the proleptic Gregorian calendar, counted from 1970-01-01. Years are
taken to begin in March, so that a leap day ends its year; an era is 400 of them. -/
def civilDate (days : Int) : Int × Nat × Nat :=
  let shifted := days + 719468
  let era := shifted / 146097
  let dayOfEra := (shifted % 146097).toNat
  let yearOfEra :=
    (dayOfEra - dayOfEra / 1460 + dayOfEra / 36524 - dayOfEra / 146096) / 365
  let dayOfYear := dayOfEra - (365 * yearOfEra + yearOfEra / 4 - yearOfEra / 100)
  let marchMonth := (5 * dayOfYear + 2) / 153
  let day := dayOfYear - (153 * marchMonth + 2) / 5 + 1
  let month := if marchMonth < 10 then marchMonth + 3 else marchMonth - 9
  let year := yearOfEra + era * 400 + if month ≤ 2 then 1 else 0
  (year, month, day)

/-- Years of more than four digits and years before zero carry a sign. -/
def yearText (year : Int) : String :=
  if 0 ≤ year ∧ year ≤ 9999 then padded 4 year.toNat
  else (if year < 0 then "-" else "+") ++ padded 4 year.natAbs

/-- A fraction of a second in the fewest groups of three digits that hold it. -/
def fractionText (nanoseconds : Nat) : String :=
  if nanoseconds = 0 then ""
  else if nanoseconds % 1000000 = 0 then "." ++ padded 3 (nanoseconds / 1000000)
  else if nanoseconds % 1000 = 0 then "." ++ padded 6 (nanoseconds / 1000)
  else "." ++ padded 9 nanoseconds

/-- A leap second is the sixty-first of its minute. -/
def text (instant : Instant) : String :=
  let (year, month, day) := civilDate instant.day
  let clock := instant.clock.toNat
  let second := clock % 60 + if instant.isLeap then 1 else 0
  yearText year ++ "-" ++ padded 2 month ++ "-" ++ padded 2 day ++ "T"
    ++ padded 2 (clock / 3600) ++ ":" ++ padded 2 (clock / 60 % 60) ++ ":" ++ padded 2 second
    ++ fractionText (instant.fraction % nanosPerSecond) ++ "Z"

/-- Leap seconds between two times of a day that the clock does not count. -/
def leapBetween (later earlier : Instant) : Int :=
  if earlier.clock < later.clock ∧ earlier.isLeap then 1
  else if later.clock < earlier.clock ∧ later.isLeap then -1
  else 0

/-- Nanoseconds from one instant to another. -/
def since (later earlier : Instant) : Int :=
  (later.seconds - earlier.seconds + later.leapBetween earlier) * nanosPerSecond
    + (later.fraction - earlier.fraction)

/-- Whole milliseconds as `HH:MM:SS.mmm`, without bound on the hours; time running backwards
counts as none. -/
def elapsedText (nanoseconds : Int) : String :=
  let milliseconds := (nanoseconds.tdiv 1000000).toNat
  padded 2 (milliseconds / 3600000) ++ ":" ++ padded 2 (milliseconds / 60000 % 60) ++ ":"
    ++ padded 2 (milliseconds / 1000 % 60) ++ "." ++ padded 3 (milliseconds % 1000)

end Instant

end SqlDesk
