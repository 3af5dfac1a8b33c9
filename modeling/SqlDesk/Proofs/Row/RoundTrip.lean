import SqlDesk.Row.Codec

/-! Rows written one after another are read back one after another. Every reader of the codec takes
from the front of a buffer exactly what its writer put there and leaves what follows untouched, so
the statements carry an arbitrary rest and compose from words to payloads, cells, rows and streams.
Counts and lengths are words, which is why rows have to fit. -/

set_option autoImplicit false

namespace SqlDesk

/-- Counts and lengths below this bound can be written. -/
def Row.wordLimit : Nat := Nat.pow 2 32

/-- The length of text and bytes can be written. -/
def Cell.Fits : Cell → Prop
  | text value => value.utf8ByteSize < Row.wordLimit
  | bytes value => value.length < Row.wordLimit
  | _ => True

instance : DecidablePred Cell.Fits
  | .text value => inferInstanceAs (Decidable (value.utf8ByteSize < Row.wordLimit))
  | .bytes value => inferInstanceAs (Decidable (value.length < Row.wordLimit))
  | .null | .boolean _ | .int16 _ | .int32 _ | .int64 _ | .float32 _ | .float64 _ => .isTrue trivial

namespace Row

def Fits (row : Row) : Prop := row.length < wordLimit ∧ ∀ cell ∈ row, cell.Fits

instance : DecidablePred Fits := fun row =>
  inferInstanceAs (Decidable (row.length < wordLimit ∧ ∀ cell ∈ row, cell.Fits))

/-! Readers against writers. -/

theorem takeExactly_append (front rest : Bytes) :
    takeExactly front.length (front ++ rest) = .ok (front, rest) := by
  simp [takeExactly]

theorem takeWord_littleEndian (width : Nat) {value : Nat} (small : value < Nat.pow 256 width)
    (rest : Bytes) : takeWord width (Bytes.littleEndian width value ++ rest) = .ok (value, rest) := by
  have taken := takeExactly_append (Bytes.littleEndian width value) rest
  rw [Bytes.length_littleEndian] at taken
  rw [takeWord, taken]
  simp [Except.map, Bytes.valueOf_littleEndian width value small]

theorem takeLengthPrefixed_append {data : Bytes} (small : data.length < wordLimit) (rest : Bytes) :
    takeLengthPrefixed (lengthPrefixed data ++ rest) = .ok (data, rest) := by
  rw [takeLengthPrefixed, lengthPrefixed, List.append_assoc, takeWord_littleEndian wordWidth small]
  exact takeExactly_append data rest

theorem decodePayload_append {cell : Cell} {kind : Kind} (ofKind : cell.kind? = some kind)
    (fits : cell.Fits) (rest : Bytes) :
    decodePayload kind (payload cell ++ rest) = .ok (cell, rest) := by
  cases cell with
  | null => cases ofKind
  | boolean value =>
    cases ofKind
    cases value <;> rfl
  | int16 value =>
    cases ofKind
    have word := takeWord_littleEndian 2 value.toUInt16.toNat_lt rest
    simp [decodePayload, payload, word, Except.map]
  | int32 value =>
    cases ofKind
    have word := takeWord_littleEndian 4 value.toUInt32.toNat_lt rest
    simp [decodePayload, payload, word, Except.map]
  | int64 value =>
    cases ofKind
    have word := takeWord_littleEndian 8 value.toUInt64.toNat_lt rest
    simp [decodePayload, payload, word, Except.map]
  | float32 bits =>
    cases ofKind
    have word := takeWord_littleEndian 4 bits.toNat_lt rest
    simp [decodePayload, payload, word, Except.map]
  | float64 bits =>
    cases ofKind
    have word := takeWord_littleEndian 8 bits.toNat_lt rest
    simp [decodePayload, payload, word, Except.map]
  | text value =>
    cases ofKind
    have small : (Bytes.ofString value).length < wordLimit := by
      rw [Bytes.length_ofString]
      exact fits
    rw [decodePayload, payload, takeLengthPrefixed_append small]
    simp [bind, Except.bind]
  | bytes value =>
    cases ofKind
    rw [decodePayload, payload, takeLengthPrefixed_append fits]
    rfl

theorem decodeCell_append {cell : Cell} (fits : cell.Fits) (rest : Bytes) :
    decodeCell (encodeCell cell ++ rest) = .ok (cell, rest) := by
  unfold encodeCell
  cases ofKind : cell.kind? with
  | none =>
    cases cell <;> cases ofKind
    rfl
  | some kind =>
    have tagged : kind.tag ≠ nullTag := kind.tag_ne_zero
    simp [decodeCell, tagged, decodePayload_append ofKind fits]

theorem decodeCells_append {row : Row} (fit : ∀ cell ∈ row, cell.Fits) (rest : Bytes) :
    decodeCells row.length (row.flatMap encodeCell ++ rest) = .ok (row, rest) := by
  induction row with
  | nil => rfl
  | cons cell row ih =>
    have first : cell.Fits := fit cell (by simp)
    have others := ih fun other member => fit other (by simp [member])
    rw [List.flatMap_cons, List.append_assoc, List.length_cons, decodeCells,
      decodeCell_append first]
    simp [bind, Except.bind, others, pure, Except.pure]

theorem decode_append {row : Row} (fits : row.Fits) (rest : Bytes) :
    decode (encode row ++ rest) = .ok (row, rest) := by
  rw [decode, encode, List.append_assoc, takeWord_littleEndian wordWidth fits.1]
  exact decodeCells_append fits.2 rest

/-! Sizes. -/

theorem length_payload (cell : Cell) : (payload cell).length = payloadSize cell := by
  cases cell <;> simp [payload, payloadSize, lengthPrefixed, Cell.kind?, Kind.fixedSize?]

theorem length_encodeCell (cell : Cell) : (encodeCell cell).length = 1 + payloadSize cell := by
  rw [← length_payload]
  cases cell <;> simp [encodeCell, Cell.kind?, payload, Nat.add_comm]

theorem length_encode (row : Row) : (encode row).length = encodedSize row := by
  have cells : (row.flatMap encodeCell).length =
      row.length + row.foldr (fun cell size => payloadSize cell + size) 0 := by
    induction row with
    | nil => rfl
    | cons cell row ih =>
      simp only [List.flatMap_cons, List.length_append, List.length_cons, List.foldr_cons, ih,
        length_encodeCell]
      omega
  rw [encode, List.length_append, Bytes.length_littleEndian, cells, encodedSize, Nat.add_assoc]

/-! Streams of rows. -/

/-- Reads a number of rows, one after another, and returns what follows the last of them. -/
def decodeStream : Nat → Bytes → Except CodecError (List Row × Bytes)
  | 0, buffer => .ok ([], buffer)
  | count + 1, buffer => do
    let (row, rest) ← decode buffer
    let (rows, rest) ← decodeStream count rest
    return (row :: rows, rest)

theorem decodeStream_append {rows : List Row} (fit : ∀ row ∈ rows, row.Fits) (rest : Bytes) :
    decodeStream rows.length (rows.flatMap encode ++ rest) = .ok (rows, rest) := by
  induction rows with
  | nil => rfl
  | cons row rows ih =>
    have first : row.Fits := fit row (by simp)
    have others := ih fun other member => fit other (by simp [member])
    rw [List.flatMap_cons, List.append_assoc, List.length_cons, decodeStream, decode_append first]
    simp [bind, Except.bind, others, pure, Except.pure]

/-- A stream of rows with anything behind it is read back exactly, and every row takes the room that
its size announces. -/
theorem stream_round_trip (rows : List Row) (trailer : Bytes) (fit : ∀ row ∈ rows, row.Fits) :
    decodeStream rows.length (rows.flatMap encode ++ trailer) = .ok (rows, trailer) ∧
      ∀ row ∈ rows, (encode row).length = encodedSize row :=
  ⟨decodeStream_append fit trailer, fun row _ => length_encode row⟩

/-- Rows of several widths, with a quiet and a signalling NaN, a text of two-byte characters and a
row without cells. -/
def mixedRows : List Row :=
  [[.null, .boolean true, .int16 (-2), .int32 70000, .int64 (-1)], [],
    [.float32 0x7fc00001, .float64 0x7ff0000000000001, .text "é\u0000ß", .bytes [0, 7, 255]]]

theorem stream_round_trip_mixed :
    (∀ row ∈ mixedRows, row.Fits) ∧
      decodeStream 3 (mixedRows.flatMap encode ++ [1, 0, 0]) = .ok (mixedRows, [1, 0, 0]) ∧
      ∀ row ∈ mixedRows, (encode row).length = encodedSize row :=
  have fit : ∀ row ∈ mixedRows, row.Fits := by decide
  ⟨fit, stream_round_trip mixedRows [1, 0, 0] fit⟩

end Row

end SqlDesk
