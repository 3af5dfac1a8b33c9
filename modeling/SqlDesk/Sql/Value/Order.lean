import SqlDesk.Decimal.Binary
import SqlDesk.Sql.Numeral

/-! The order of values: nothing, then numbers, then texts, then bytes. A collation orders texts. -/

set_option autoImplicit false

namespace SqlDesk.Sql

open Decimal

def rank : Value → Nat
  | .null => 0
  | .integer _ | .real _ => 1
  | .text _ => 2
  | .blob _ => 3

def beyondReals : Nat := Nat.pow 2 1100

/-- A number as a quotient; the infinite ones stand beyond all others. -/
def quotient : Value → Int × Nat
  | .integer value => (value.toInt, 1)
  | .real bits =>
    match binary64.decode bits.toNat with
    | .finite negative significand exponent =>
      let (numerator, denominator) := scaleByTwo significand 1 exponent
      (if negative then -numerator else numerator, denominator)
    | .infinite negative => (if negative then -(beyondReals : Int) else beyondReals, 1)
    | .nan => (0, 1)
  | _ => (0, 1)

/-- The order of bytes by the first place where they differ; what goes on comes later. -/
def compareBytes : Bytes → Bytes → Ordering
  | [], [] => .eq
  | [], _ :: _ => .lt
  | _ :: _, [] => .gt
  | first :: lefts, second :: rights =>
    if first = second then compareBytes lefts rights else if first < second then .lt else .gt

inductive Collation where
  | exact
  | noCase
  | trimmed
  deriving DecidableEq, Repr

namespace Collation

def name : Collation → String
  | exact => "BINARY"
  | noCase => "NOCASE"
  | trimmed => "RTRIM"

def ofName? (name : String) : Option Collation :=
  ([("BINARY", exact), ("NOCASE", noCase), ("RTRIM", trimmed)].find? fun entry =>
    Text.sameIgnoringCase entry.1.toList name.toList).map Prod.snd

def lowerByte (byte : UInt8) : UInt8 := if 0x41 ≤ byte ∧ byte ≤ 0x5A then byte + 32 else byte

def upperByte (byte : UInt8) : UInt8 := if 0x61 ≤ byte ∧ byte ≤ 0x7A then byte - 32 else byte

def lowered : Bytes → Bytes
  | [] => []
  | byte :: rest => if byte = 0 then [byte] else lowerByte byte :: lowered rest

def withoutSpaces (bytes : Bytes) : Bytes := (bytes.reverse.dropWhile (· = 0x20)).reverse

/-- The order of two texts. Without the case of letters, the length decides behind a NUL. -/
def compareTexts (collation : Collation) (left right : Bytes) : Ordering :=
  match collation with
  | exact => compareBytes left right
  | noCase => (compareBytes (lowered left) (lowered right)).then (compare left.length right.length)
  | trimmed => compareBytes (withoutSpaces left) (withoutSpaces right)

end Collation

def compareValues (collation : Collation) (left right : Value) : Ordering :=
  match left, right with
  | .text left, .text right => collation.compareTexts left right
  | .blob left, .blob right => compareBytes left right
  | left, right =>
    if rank left = 1 ∧ rank right = 1 then
      let (a, b) := quotient left
      let (c, d) := quotient right
      compare (a * d) (c * b)
    else compare (rank left) (rank right)

/-- Whether two values break a constraint of uniqueness; nothing equals no other nothing. -/
def sameValue (collation : Collation) (left right : Value) : Bool :=
  !left.isNull && compareValues collation left right == .eq

end SqlDesk.Sql
