import SqlDesk.Bytes
import SqlDesk.Decimal.Style

/-! Cells of result rows. A cell is NULL or a value of one of eight kinds; floats are kept as bit
patterns, so that no pattern is ever confused with another. -/

set_option autoImplicit false

namespace SqlDesk

inductive Kind where
  | boolean
  | int16
  | int32
  | int64
  | float32
  | float64
  | text
  | bytes
  deriving DecidableEq, Repr

namespace Kind

def name : Kind → String
  | boolean => "Boolean"
  | int16 => "Int16"
  | int32 => "Int32"
  | int64 => "Int64"
  | float32 => "Float32"
  | float64 => "Float64"
  | text => "Text"
  | bytes => "Bytes"

def all : List Kind := [boolean, int16, int32, int64, float32, float64, text, bytes]

/-- The byte in front of an encoded value. Zero is left for NULL. -/
def tag : Kind → UInt8
  | boolean => 1
  | int16 => 2
  | int32 => 3
  | int64 => 4
  | float32 => 5
  | float64 => 6
  | text => 7
  | bytes => 8

def ofTag? (tag : UInt8) : Option Kind := all.find? (·.tag = tag)

/-- Width of the encoded values of a kind; text and bytes carry their length instead. -/
def fixedSize? : Kind → Option Nat
  | boolean => some 1
  | int16 => some 2
  | int32 | float32 => some 4
  | int64 | float64 => some 8
  | text | bytes => none

@[simp] theorem ofTag?_tag (kind : Kind) : ofTag? kind.tag = some kind := by
  cases kind <;> decide

theorem tag_ne_zero (kind : Kind) : kind.tag ≠ 0 := by
  cases kind <;> decide

end Kind

inductive Cell where
  | null
  | boolean (value : Bool)
  | int16 (value : Int16)
  | int32 (value : Int32)
  | int64 (value : Int64)
  | float32 (bits : UInt32)
  | float64 (bits : UInt64)
  | text (value : String)
  | bytes (value : Bytes)
  deriving DecidableEq

abbrev Row := List Cell

namespace Cell

def kind? : Cell → Option Kind
  | null => none
  | boolean _ => some .boolean
  | int16 _ => some .int16
  | int32 _ => some .int32
  | int64 _ => some .int64
  | float32 _ => some .float32
  | float64 _ => some .float64
  | text _ => some .text
  | bytes _ => some .bytes

def isNull (cell : Cell) : Bool := cell.kind?.isNone

def upperHexDigits : List Char :=
  ['0', '1', '2', '3', '4', '5', '6', '7', '8', '9', 'A', 'B', 'C', 'D', 'E', 'F']

def hexByte (byte : UInt8) : List Char :=
  [upperHexDigits.getD (byte.toNat / 16) '0', upperHexDigits.getD (byte.toNat % 16) '0']

/-- The text of a cell in a results grid and in comma separated files. -/
def display : Cell → String
  | null => "NULL"
  | boolean value => if value then "1" else "0"
  | int16 value => toString value.toInt
  | int32 value => toString value.toInt
  | int64 value => toString value.toInt
  | float32 bits => Decimal.plain.write Decimal.binary32 bits.toNat
  | float64 bits => Decimal.plain.write Decimal.binary64 bits.toNat
  | text value => value
  | bytes value => String.ofList ('0' :: 'x' :: value.flatMap hexByte)

end Cell

end SqlDesk
