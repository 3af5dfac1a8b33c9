import SqlDesk.Cell

/-! The byte form of a row: the number of cells as a four-byte word, then for each cell a tag and
its payload. Words are written with the least byte first; text and bytes carry their length as a
four-byte word. Reading takes one row from the front of a buffer and reports how much was missing
when the buffer ends too early. -/

set_option autoImplicit false

namespace SqlDesk

inductive CodecError where
  | bufferTooSmall (required available : Nat)
  | unknownTag (tag : UInt8)
  | invalidText
  deriving DecidableEq, Repr

def CodecError.message : CodecError → String
  | bufferTooSmall required available =>
    s!"buffer too small: need {required} bytes, have {available}"
  | unknownTag tag => s!"unknown value tag: {tag.toNat}"
  | invalidText => "invalid UTF-8 in text value"

namespace Row

def wordWidth : Nat := 4

def lengthPrefixed (data : Bytes) : Bytes :=
  Bytes.littleEndian wordWidth data.length ++ data

def payload : Cell → Bytes
  | .null => []
  | .boolean value => [if value then 1 else 0]
  | .int16 value => Bytes.littleEndian 2 value.toUInt16.toNat
  | .int32 value => Bytes.littleEndian 4 value.toUInt32.toNat
  | .int64 value => Bytes.littleEndian 8 value.toUInt64.toNat
  | .float32 bits => Bytes.littleEndian 4 bits.toNat
  | .float64 bits => Bytes.littleEndian 8 bits.toNat
  | .text value => lengthPrefixed (Bytes.ofString value)
  | .bytes value => lengthPrefixed value

def nullTag : UInt8 := 0

def encodeCell (cell : Cell) : Bytes :=
  match cell.kind? with
  | none => [nullTag]
  | some kind => kind.tag :: payload cell

def encode (row : Row) : Bytes :=
  Bytes.littleEndian wordWidth row.length ++ row.flatMap encodeCell

def payloadSize : Cell → Nat
  | .null => 0
  | .text value => wordWidth + value.utf8ByteSize
  | .bytes value => wordWidth + value.length
  | cell => (cell.kind?.bind Kind.fixedSize?).getD 0

def encodedSize (row : Row) : Nat :=
  wordWidth + row.length + row.foldr (fun cell size => payloadSize cell + size) 0

def takeExactly (count : Nat) (buffer : Bytes) : Except CodecError (Bytes × Bytes) :=
  let front := buffer.take count
  if front.length < count then .error (.bufferTooSmall count buffer.length)
  else .ok (front, buffer.drop count)

def takeWord (width : Nat) (buffer : Bytes) : Except CodecError (Nat × Bytes) :=
  (takeExactly width buffer).map fun (front, rest) => (Bytes.valueOf front, rest)

def takeLengthPrefixed (buffer : Bytes) : Except CodecError (Bytes × Bytes) := do
  let (length, rest) ← takeWord wordWidth buffer
  takeExactly length rest

def decodePayload (kind : Kind) (buffer : Bytes) : Except CodecError (Cell × Bytes) :=
  match kind with
  | .boolean => (takeWord 1 buffer).map fun (word, rest) => (.boolean (word ≠ 0), rest)
  | .int16 => (takeWord 2 buffer).map fun (word, rest) => (.int16 (UInt16.ofNat word).toInt16, rest)
  | .int32 => (takeWord 4 buffer).map fun (word, rest) => (.int32 (UInt32.ofNat word).toInt32, rest)
  | .int64 => (takeWord 8 buffer).map fun (word, rest) => (.int64 (UInt64.ofNat word).toInt64, rest)
  | .float32 => (takeWord 4 buffer).map fun (word, rest) => (.float32 (UInt32.ofNat word), rest)
  | .float64 => (takeWord 8 buffer).map fun (word, rest) => (.float64 (UInt64.ofNat word), rest)
  | .text => do
    let (data, rest) ← takeLengthPrefixed buffer
    match Bytes.toString? data with
    | some value => .ok (.text value, rest)
    | none => .error .invalidText
  | .bytes => (takeLengthPrefixed buffer).map fun (data, rest) => (.bytes data, rest)

def decodeCell (buffer : Bytes) : Except CodecError (Cell × Bytes) :=
  match buffer with
  | [] => .error (.bufferTooSmall 1 0)
  | tag :: rest =>
    if tag = nullTag then .ok (.null, rest)
    else match Kind.ofTag? tag with
      | none => .error (.unknownTag tag)
      | some kind => decodePayload kind rest

def decodeCells : Nat → Bytes → Except CodecError (Row × Bytes)
  | 0, buffer => .ok ([], buffer)
  | count + 1, buffer => do
    let (cell, rest) ← decodeCell buffer
    let (cells, rest) ← decodeCells count rest
    return (cell :: cells, rest)

/-- Reads one row from the front of a buffer and returns what follows it. -/
def decode (buffer : Bytes) : Except CodecError (Row × Bytes) := do
  let (count, rest) ← takeWord wordWidth buffer
  decodeCells count rest

end Row

end SqlDesk
