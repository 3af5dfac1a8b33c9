import SqlDesk.Cell

/-! Values of SQL. A text is its bytes, which are UTF-8 unless they come from bytes that are none. -/

set_option autoImplicit false

namespace SqlDesk.Sql

inductive Value where
  | null
  | integer (value : Int64)
  | real (bits : UInt64)
  | text (bytes : Bytes)
  | blob (bytes : Bytes)
  deriving DecidableEq

abbrev Values := List Value

namespace Value

def ofInt (value : Int) : Value := .integer (Int64.ofInt value)

def ofFloat (value : Float) : Value := .real value.toBits

def ofString (text : String) : Value := .text (Bytes.ofString text)

def ofBool (value : Bool) : Value := ofInt (if value then 1 else 0)

def cell : Value → Cell
  | null => .null
  | integer value => .int64 value
  | real bits => .float64 bits
  | text bytes => .text (String.ofList bytes.toChars)
  | blob bytes => .bytes bytes

def isNull (value : Value) : Bool := value = .null

end Value

def fitsWord (value : Int) : Bool :=
  -(Text.wordBound 63 : Int) ≤ value && value < Text.wordBound 63

def clampWord (value : Int) : Int :=
  max (-(Text.wordBound 63 : Int)) (min (Text.wordBound 63 - 1) value)

end SqlDesk.Sql
