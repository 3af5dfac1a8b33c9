import SqlDesk.Text.Ascii

/-! Strings of bytes, the words written into them with the least byte first, text as UTF-8, and bytes
as pairs of hexadecimal digits. -/

set_option autoImplicit false

namespace SqlDesk

abbrev Bytes := List UInt8

namespace Bytes

/-- The lowest `width` base-256 digits of a number, least first. -/
def littleEndian : Nat → Nat → Bytes
  | 0, _ => []
  | width + 1, value => UInt8.ofNat (value % 256) :: littleEndian width (value / 256)

def valueOf : Bytes → Nat
  | [] => 0
  | byte :: rest => byte.toNat + 256 * valueOf rest

@[simp] theorem length_littleEndian (width value : Nat) :
    (littleEndian width value).length = width := by
  induction width generalizing value with
  | zero => rfl
  | succ width ih => simp [littleEndian, ih]

theorem valueOf_littleEndian (width value : Nat) (small : value < Nat.pow 256 width) :
    valueOf (littleEndian width value) = value := by
  induction width generalizing value with
  | zero => simp at small; simp [littleEndian, valueOf, small]
  | succ width ih =>
    have quotient : value / 256 < Nat.pow 256 width := by
      simp only [Nat.pow_eq, Nat.pow_succ] at small ⊢
      omega
    simp [littleEndian, valueOf, ih _ quotient]
    omega

def ofString (text : String) : Bytes := text.toUTF8.data.toList

/-- The text whose UTF-8 form the bytes are. -/
def toString? (bytes : Bytes) : Option String := String.fromUTF8? ⟨bytes.toArray⟩

@[simp] theorem length_ofString (text : String) :
    (ofString text).length = text.utf8ByteSize := by
  simp [ofString]

theorem ofString_append (first second : String) :
    ofString (first ++ second) = ofString first ++ ofString second := by
  simp [ofString, String.toByteArray_append, ByteArray.data_append]

@[simp] theorem toString?_ofString (text : String) : toString? (ofString text) = some text := by
  simp only [toString?, ofString, String.fromUTF8?, Array.toArray_toList]
  exact dif_pos text.isValidUTF8

/-- How many bytes follow a first one in UTF-8, and between which bounds the next of them lies. -/
def following (first : UInt8) : Nat × UInt8 × UInt8 :=
  if first < 0xC2 then (0, 0x80, 0xBF)
  else if first < 0xE0 then (1, 0x80, 0xBF)
  else if first < 0xF0 then
    (2, if first = 0xE0 then 0xA0 else 0x80, if first = 0xED then 0x9F else 0xBF)
  else if first < 0xF5 then
    (3, if first = 0xF0 then 0x90 else 0x80, if first = 0xF4 then 0x8F else 0xBF)
  else (0, 0x80, 0xBF)

def continuation (count : Nat) (low high : UInt8) : Bytes → Bytes
  | [] => []
  | byte :: rest =>
    if count = 0 || byte < low || high < byte then []
    else byte :: continuation (count - 1) 0x80 0xBF rest

/-- The characters of bytes, one of them in place of every beginning that comes to nothing. -/
def toChars : Bytes → List Char
  | [] => []
  | first :: rest =>
    let (count, low, high) := following first
    let more := continuation count low high rest
    ((toString? (first :: more)).elim ['\uFFFD'] String.toList) ++ toChars (rest.drop more.length)
termination_by bytes => bytes.length
decreasing_by simp only [List.length_drop, List.length_cons]; omega

def text (bytes : Bytes) : String := String.ofList bytes.toChars

def ofHex : List Char → Bytes
  | high :: low :: rest =>
    UInt8.ofNat ((Text.hexValue? high).getD 0 * 16 + (Text.hexValue? low).getD 0) :: ofHex rest
  | _ => []

end Bytes

end SqlDesk
