/-! Case and numerals where only the ASCII letters and digits count. -/

set_option autoImplicit false

namespace SqlDesk.Text

def lowerAscii (c : Char) : Char :=
  if 'A' ≤ c ∧ c ≤ 'Z' then Char.ofNat (c.toNat + 32) else c

def sameIgnoringCase (left right : List Char) : Bool :=
  left.map lowerAscii == right.map lowerAscii

def isAsciiLetter (c : Char) : Bool :=
  ('a' ≤ c && c ≤ 'z') || ('A' ≤ c && c ≤ 'Z')

def digitValue? (c : Char) : Option Nat :=
  if '0' ≤ c ∧ c ≤ '9' then some (c.toNat - '0'.toNat) else none

def hexValue? (c : Char) : Option Nat :=
  if '0' ≤ c ∧ c ≤ '9' then some (c.toNat - '0'.toNat)
  else if 'a' ≤ c ∧ c ≤ 'f' then some (c.toNat - 'a'.toNat + 10)
  else if 'A' ≤ c ∧ c ≤ 'F' then some (c.toNat - 'A'.toNat + 10)
  else none

def readDigits (known : Nat) : List Char → Option Nat
  | [] => some known
  | c :: rest => (digitValue? c).bind fun digit => readDigits (known * 10 + digit) rest

/-- A non-empty run of digits after an optional plus sign, below `bound`. -/
def readNatural? (bound : Nat) (text : List Char) : Option Nat :=
  let digits := match text with
    | '+' :: rest => rest
    | whole => whole
  if digits.isEmpty then none
  else (readDigits 0 digits).filter (· < bound)

/-- Number of values of a machine word of the given width. -/
def wordBound (bits : Nat) : Nat := Nat.pow 2 bits

end SqlDesk.Text
