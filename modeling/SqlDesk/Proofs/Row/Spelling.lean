import Mathlib.Data.List.Forall2
import SqlDesk.Proofs.Row.RoundTrip

/-! What the reader of rows takes. A row is spelled as it is written, but for booleans that hold,
for which any byte but zero may stand; nothing else is read as that row. A spelling that has been cut
off is found too short before anything of what is missing is looked at.

A reader goes together with the spellings of what it reads (`Reads`). Words, payloads, cells and
rows are put together in the order in which the reader takes them, so that both sides, what is taken
and what is too short, come out of one induction. -/

set_option autoImplicit false

namespace SqlDesk

namespace Bytes

theorem valueOf_lt (bytes : Bytes) : valueOf bytes < Nat.pow 256 bytes.length := by
  induction bytes with
  | nil => simp [valueOf]
  | cons byte rest ih =>
    have digit := byte.toNat_lt
    simp only [valueOf, List.length_cons, Nat.pow_eq, Nat.pow_succ] at ih ⊢
    omega

theorem littleEndian_valueOf (bytes : Bytes) :
    littleEndian bytes.length (valueOf bytes) = bytes := by
  induction bytes with
  | nil => rfl
  | cons byte rest ih =>
    have digit := byte.toNat_lt
    have lowest : (byte.toNat + 256 * valueOf rest) % 256 = byte.toNat := by omega
    have others : (byte.toNat + 256 * valueOf rest) / 256 = valueOf rest := by omega
    rw [List.length_cons, valueOf, littleEndian, lowest, others, ih, UInt8.ofNat_toNat]

theorem ofString_of_toString? {bytes : Bytes} {text : String}
    (read : toString? bytes = some text) : ofString text = bytes := by
  simp only [toString?, String.fromUTF8?] at read
  split at read
  · cases read
    simp [ofString, String.toUTF8, String.fromUTF8]
  · cases read

end Bytes

theorem Kind.ofTag?_eq_some_iff {tag : UInt8} {kind : Kind} :
    ofTag? tag = some kind ↔ tag = kind.tag := by
  constructor
  · intro found
    have same := List.find?_some found
    exact (of_decide_eq_true same).symm
  · rintro rfl
    exact ofTag?_tag kind

namespace Row

/-- Takes something from the front of a buffer, and leaves what follows it. -/
abbrev Reader (α : Type) := Bytes → Except CodecError (α × Bytes)

/-- A buffer has been found too short, and no more has been asked for than what is missing from it. -/
def Lacks {α : Type} (missing : Nat) (outcome : Except CodecError α) : Prop :=
  ∃ required available, outcome = .error (.bufferTooSmall required available) ∧
    available < required ∧ required ≤ available + missing

/-- A reader takes the spellings of a value and nothing else, and a spelling that has been cut off is
too short for it. -/
structure Reads {α : Type} (reader : Reader α) (spells : α → Bytes → Prop) : Prop where
  takes : ∀ (buffer : Bytes) (value : α) (rest : Bytes), reader buffer = .ok (value, rest) ↔
    ∃ front, spells value front ∧ buffer = front ++ rest
  lacks : ∀ (value : α) (front back : Bytes), spells value (front ++ back) → back ≠ [] →
    Lacks back.length (reader front)

namespace Reads

variable {α β : Type} {reader : Reader α} {spells : α → Bytes → Prop}

theorem congr {others : α → Bytes → Prop} (reads : Reads reader spells)
    (same : ∀ value bytes, spells value bytes ↔ others value bytes) : Reads reader others := by
  have equal : spells = others := funext fun value => funext fun bytes => propext (same value bytes)
  exact equal ▸ reads

/-- What is found without a look at the buffer is spelled by no bytes at all. -/
theorem still (found : Except CodecError α) :
    Reads (fun rest => found.map fun value => (value, rest))
      (fun value bytes => found = .ok value ∧ bytes = []) where
  takes buffer value rest := by
    cases found with
    | error error => simp [Except.map]
    | ok known =>
      simp only [Except.map, Except.ok.injEq, Prod.mk.injEq]
      constructor
      · rintro ⟨rfl, rfl⟩
        exact ⟨[], ⟨rfl, rfl⟩, rfl⟩
      · rintro ⟨front, ⟨rfl, rfl⟩, rfl⟩
        exact ⟨rfl, rfl⟩
  lacks value front back spelled missing :=
    absurd (List.append_eq_nil_iff.mp spelled.2).2 missing

theorem map (reads : Reads reader spells) (image : α → β) :
    Reads (fun buffer => (reader buffer).map fun (value, rest) => (image value, rest))
      (fun result bytes => ∃ value, spells value bytes ∧ image value = result) where
  takes buffer result rest := by
    constructor
    · intro read
      cases taken : reader buffer with
      | error error =>
        rw [taken] at read
        cases read
      | ok pair =>
        obtain ⟨value, left⟩ := pair
        obtain ⟨front, spelled, same⟩ := (reads.takes buffer value left).mp taken
        rw [taken] at read
        cases read
        exact ⟨front, ⟨value, spelled, rfl⟩, same⟩
    · rintro ⟨front, ⟨value, spelled, rfl⟩, same⟩
      rw [(reads.takes buffer value rest).mpr ⟨front, spelled, same⟩]
      rfl
  lacks result front back := by
    rintro ⟨value, spelled, -⟩ missing
    obtain ⟨required, available, short, bounds⟩ := reads.lacks value front back spelled missing
    exact ⟨required, available, by rw [short]; rfl, bounds⟩

/-- One reader after the other. A cut goes through what the first one takes, or through what is left
for the second. -/
theorem bind {next : α → Reader β} {follows : α → β → Bytes → Prop} (first : Reads reader spells)
    (second : ∀ value, Reads (next value) (follows value)) :
    Reads (fun buffer => do
        let (value, rest) ← reader buffer
        next value rest)
      (fun result bytes => ∃ value front back,
        spells value front ∧ follows value result back ∧ bytes = front ++ back) where
  takes buffer result rest := by
    constructor
    · intro read
      cases taken : reader buffer with
      | error error =>
        rw [taken] at read
        cases read
      | ok pair =>
        obtain ⟨value, left⟩ := pair
        rw [taken] at read
        obtain ⟨front, spelled, rfl⟩ := (first.takes buffer value left).mp taken
        obtain ⟨back, followed, rfl⟩ := ((second value).takes left result rest).mp read
        exact ⟨front ++ back, ⟨value, front, back, spelled, followed, rfl⟩,
          (List.append_assoc front back rest).symm⟩
    · rintro ⟨whole, ⟨value, front, back, spelled, followed, rfl⟩, rfl⟩
      have taken := (first.takes (front ++ back ++ rest) value (back ++ rest)).mpr
        ⟨front, spelled, List.append_assoc front back rest⟩
      rw [taken]
      exact ((second value).takes (back ++ rest) result rest).mpr ⟨back, followed, rfl⟩
  lacks result front back := by
    rintro ⟨value, start, more, spelled, followed, same⟩ missing
    -- The cut goes through the second part; what is in front of it has been taken.
    have behind (left : Bytes) (whole : front = start ++ left) (rest : more = left ++ back) :
        Lacks back.length (do
          let (value, rest) ← reader front
          next value rest) := by
      rw [(first.takes front value left).mpr ⟨start, spelled, whole⟩]
      exact (second value).lacks result left back (rest ▸ followed) missing
    rcases List.append_eq_append_iff.mp same with ⟨left, whole, rest⟩ | ⟨left, whole, rest⟩
    · by_cases complete : left = []
      · subst complete
        exact behind [] (by simpa using whole.symm) rest.symm
      · obtain ⟨required, available, short, less, bound⟩ :=
          first.lacks value front left (whole ▸ spelled) complete
        refine ⟨required, available, by rw [short]; rfl, less, ?_⟩
        rw [rest, List.length_append]
        omega
    · exact behind left whole rest

end Reads

/-! Words, texts and bytes. -/

theorem reads_takeExactly (count : Nat) :
    Reads (takeExactly count) (fun data bytes => data.length = count ∧ bytes = data) where
  takes buffer data rest := by
    constructor
    · intro read
      simp only [takeExactly] at read
      split at read
      · cases read
      · rename_i enough
        cases read
        refine ⟨buffer.take count, ⟨?_, rfl⟩, (List.take_append_drop count buffer).symm⟩
        have bound := List.length_take_le count buffer
        omega
    · rintro ⟨front, ⟨rfl, rfl⟩, rfl⟩
      exact takeExactly_append front rest
  lacks data front back := by
    rintro ⟨length, rfl⟩ missing
    have positive : 0 < back.length := List.length_pos_iff.mpr missing
    rw [List.length_append] at length
    refine ⟨count, front.length, ?_, by omega, by omega⟩
    rw [takeExactly, if_pos]
    rw [List.length_take]
    omega

theorem reads_takeWord (width : Nat) : Reads (takeWord width) fun value bytes =>
    value < Nat.pow 256 width ∧ bytes = Bytes.littleEndian width value := by
  refine ((reads_takeExactly width).map Bytes.valueOf).congr fun value bytes => ?_
  constructor
  · rintro ⟨data, ⟨rfl, rfl⟩, rfl⟩
    exact ⟨Bytes.valueOf_lt bytes, (Bytes.littleEndian_valueOf bytes).symm⟩
  · rintro ⟨small, rfl⟩
    exact ⟨_, ⟨Bytes.length_littleEndian width value, rfl⟩,
      Bytes.valueOf_littleEndian width value small⟩

theorem reads_takeLengthPrefixed : Reads takeLengthPrefixed fun data bytes =>
    data.length < wordLimit ∧ bytes = lengthPrefixed data := by
  refine ((reads_takeWord wordWidth).bind reads_takeExactly).congr fun data bytes => ?_
  constructor
  · rintro ⟨length, front, back, ⟨small, rfl⟩, ⟨rfl, rfl⟩, rfl⟩
    exact ⟨small, rfl⟩
  · rintro ⟨small, rfl⟩
    exact ⟨_, _, _, ⟨small, rfl⟩, ⟨rfl, rfl⟩, rfl⟩

/-! Cells. -/

/-- What is read as the payload of a cell. A boolean holds if its byte is not zero. -/
inductive SpellsPayload : Cell → Bytes → Prop where
  | written (cell : Cell) : SpellsPayload cell (payload cell)
  | nonzero {byte : UInt8} (holds : byte ≠ 0) : SpellsPayload (.boolean true) [byte]

inductive SpellsCell : Cell → Bytes → Prop where
  | null : SpellsCell .null [nullTag]
  | tagged {cell : Cell} {kind : Kind} {bytes : Bytes} (ofKind : cell.kind? = some kind)
      (spelled : SpellsPayload cell bytes) : SpellsCell cell (kind.tag :: bytes)

inductive SpellsCells : Row → Bytes → Prop where
  | nil : SpellsCells [] []
  | cons {cell : Cell} {row : Row} {front back : Bytes} (first : SpellsCell cell front)
      (others : SpellsCells row back) : SpellsCells (cell :: row) (front ++ back)

/-- What is read as a row: the number of its cells, and a spelling of each of them. -/
def Spells (row : Row) (bytes : Bytes) : Prop :=
  ∃ cells, SpellsCells row cells ∧ bytes = Bytes.littleEndian wordWidth row.length ++ cells

def OfKind (kind : Kind) (cell : Cell) (bytes : Bytes) : Prop :=
  cell.kind? = some kind ∧ cell.Fits ∧ SpellsPayload cell bytes

/-- Only a boolean has more than one spelling. -/
theorem spellsPayload_iff {cell : Cell} {kind : Kind} (ofKind : cell.kind? = some kind)
    (plain : kind ≠ .boolean) (bytes : Bytes) : SpellsPayload cell bytes ↔ bytes = payload cell := by
  constructor
  · rintro (_ | _)
    · rfl
    · exact absurd (Option.some.inj ofKind).symm plain
  · rintro rfl
    exact .written cell

/-- A payload that is one word, for values that have each a word of their own. -/
theorem reads_wordCell {τ : Type} {kind : Kind} {width : Nat} (make : τ → Cell) (write : τ → Nat)
    (read : Nat → τ) (plain : kind ≠ .boolean)
    (ofKind : ∀ cell : Cell, cell.kind? = some kind ↔ ∃ value, make value = cell)
    (written : ∀ value, (make value).Fits ∧
      payload (make value) = Bytes.littleEndian width (write value))
    (small : ∀ value, write value < Nat.pow 256 width)
    (readBack : ∀ value, read (write value) = value)
    (writeBack : ∀ word < Nat.pow 256 width, write (read word) = word) :
    Reads (fun buffer => (takeWord width buffer).map fun (word, rest) => (make (read word), rest))
      (OfKind kind) := by
  refine ((reads_takeWord width).map fun word => make (read word)).congr fun cell bytes => ?_
  constructor
  · rintro ⟨word, ⟨bound, rfl⟩, rfl⟩
    obtain ⟨fits, written⟩ := written (read word)
    have known := (ofKind (make (read word))).mpr ⟨_, rfl⟩
    refine ⟨known, fits, (spellsPayload_iff known plain _).mpr ?_⟩
    rw [written, writeBack word bound]
  · rintro ⟨known, -, spelled⟩
    obtain ⟨value, rfl⟩ := (ofKind cell).mp known
    rw [spellsPayload_iff known plain, (written value).2] at spelled
    exact ⟨write value, ⟨small value, spelled⟩, by rw [readBack]⟩

theorem reads_boolean :
    Reads (fun buffer => (takeWord 1 buffer).map fun (word, rest) => (.boolean (word ≠ 0), rest))
      (OfKind .boolean) := by
  refine ((reads_takeWord 1).map fun word => Cell.boolean (word ≠ 0)).congr fun cell bytes => ?_
  constructor
  · rintro ⟨word, ⟨bound, rfl⟩, rfl⟩
    refine ⟨rfl, trivial, ?_⟩
    have small : word % 256 = word := Nat.mod_eq_of_lt bound
    -- Every byte but zero is true, and only one of them is written.
    by_cases zero : word = 0
    · subst zero
      exact .written (.boolean false)
    · have holds : UInt8.ofNat word ≠ 0 := by
        intro same
        have value := congrArg UInt8.toNat same
        rw [UInt8.toNat_ofNat', small] at value
        exact zero value
      simpa [Bytes.littleEndian, small, zero] using SpellsPayload.nonzero holds
  · rintro ⟨known, -, spelled⟩
    cases spelled with
    | @nonzero byte holds =>
      have value : byte.toNat ≠ 0 := fun same => holds (UInt8.toNat_inj.mp same)
      exact ⟨byte.toNat, ⟨byte.toNat_lt, by simp [Bytes.littleEndian]⟩, by simp [value]⟩
    | written =>
      cases cell with
      | boolean value =>
        cases value with
        | false => exact ⟨0, ⟨by decide, rfl⟩, rfl⟩
        | true => exact ⟨1, ⟨by decide, rfl⟩, rfl⟩
      | _ => cases known

theorem decodePayload_text (buffer : Bytes) :
    decodePayload .text buffer = (takeLengthPrefixed buffer).bind fun taken =>
      (Bytes.toString? taken.1).elim (.error .invalidText) fun value =>
        .ok (.text value, taken.2) := by
  simp only [decodePayload]
  cases takeLengthPrefixed buffer with
  | error error => rfl
  | ok taken =>
    obtain ⟨data, rest⟩ := taken
    simp only [bind, Except.bind]
    cases Bytes.toString? data <;> rfl

theorem reads_text : Reads (decodePayload .text) (OfKind .text) := by
  -- The data is checked once it is there: it is the spelling of one string or of none.
  have checks (data : Bytes) : Reads
      (fun rest => (Bytes.toString? data).elim (.error .invalidText) fun value =>
        .ok (Cell.text value, rest))
      (fun cell bytes =>
        (∃ value, Bytes.ofString value = data ∧ Cell.text value = cell) ∧ bytes = []) := by
    cases read : Bytes.toString? data with
    | some value =>
      refine (Reads.still (.ok (Cell.text value))).congr fun cell bytes => ?_
      have written : ∀ other, Bytes.ofString other = data ↔ other = value := by
        intro other
        rw [← Bytes.ofString_of_toString? read]
        constructor
        · intro same
          exact Option.some.inj (by rw [← Bytes.toString?_ofString, same, Bytes.toString?_ofString])
        · rintro rfl
          rfl
      simp [written]
    | none =>
      refine (Reads.still (.error .invalidText)).congr fun cell bytes => ?_
      have unwritten : ∀ other, Bytes.ofString other ≠ data := by
        rintro other rfl
        rw [Bytes.toString?_ofString] at read
        cases read
      simp [unwritten]
  rw [funext decodePayload_text]
  refine (reads_takeLengthPrefixed.bind checks).congr fun cell bytes => ?_
  constructor
  · rintro ⟨_, front, _, ⟨small, rfl⟩, ⟨⟨value, rfl, rfl⟩, rfl⟩, rfl⟩
    rw [Bytes.length_ofString] at small
    exact ⟨rfl, small, by rw [List.append_nil]; exact .written (.text value)⟩
  · rintro ⟨known, fits, spelled⟩
    cases cell with
    | text value =>
      have small : (Bytes.ofString value).length < wordLimit := by
        rw [Bytes.length_ofString]
        exact fits
      exact ⟨_, _, [], ⟨small, rfl⟩, ⟨⟨value, rfl, rfl⟩, rfl⟩,
        ((spellsPayload_iff known (by decide) bytes).mp spelled).trans (List.append_nil _).symm⟩
    | _ => cases known

theorem reads_decodePayload (kind : Kind) : Reads (decodePayload kind) (OfKind kind) := by
  cases kind with
  | boolean => exact reads_boolean
  | int16 =>
    refine reads_wordCell Cell.int16 (fun value => value.toUInt16.toNat)
      (fun word => (UInt16.ofNat word).toInt16) (by decide) (fun cell => ?_) (fun _ => ⟨trivial, rfl⟩)
      (fun value => value.toUInt16.toNat_lt) (fun value => by simp) fun word small => ?_
    · cases cell <;> simp [Cell.kind?]
    · simpa using Nat.mod_eq_of_lt small
  | int32 =>
    refine reads_wordCell Cell.int32 (fun value => value.toUInt32.toNat)
      (fun word => (UInt32.ofNat word).toInt32) (by decide) (fun cell => ?_) (fun _ => ⟨trivial, rfl⟩)
      (fun value => value.toUInt32.toNat_lt) (fun value => by simp) fun word small => ?_
    · cases cell <;> simp [Cell.kind?]
    · simpa using Nat.mod_eq_of_lt small
  | int64 =>
    refine reads_wordCell Cell.int64 (fun value => value.toUInt64.toNat)
      (fun word => (UInt64.ofNat word).toInt64) (by decide) (fun cell => ?_) (fun _ => ⟨trivial, rfl⟩)
      (fun value => value.toUInt64.toNat_lt) (fun value => by simp) fun word small => ?_
    · cases cell <;> simp [Cell.kind?]
    · simpa using Nat.mod_eq_of_lt small
  | float32 =>
    refine reads_wordCell Cell.float32 (fun bits => bits.toNat) UInt32.ofNat (by decide)
      (fun cell => ?_) (fun _ => ⟨trivial, rfl⟩) (fun bits => bits.toNat_lt) (fun bits => by simp)
      fun word small => ?_
    · cases cell <;> simp [Cell.kind?]
    · simpa using Nat.mod_eq_of_lt small
  | float64 =>
    refine reads_wordCell Cell.float64 (fun bits => bits.toNat) UInt64.ofNat (by decide)
      (fun cell => ?_) (fun _ => ⟨trivial, rfl⟩) (fun bits => bits.toNat_lt) (fun bits => by simp)
      fun word small => ?_
    · cases cell <;> simp [Cell.kind?]
    · simpa using Nat.mod_eq_of_lt small
  | text => exact reads_text
  | bytes =>
    refine (reads_takeLengthPrefixed.map Cell.bytes).congr fun cell bytes => ?_
    constructor
    · rintro ⟨data, ⟨small, rfl⟩, rfl⟩
      exact ⟨rfl, small, .written (.bytes data)⟩
    · rintro ⟨known, fits, spelled⟩
      cases cell with
      | bytes data =>
        exact ⟨data, ⟨fits, (spellsPayload_iff known (by decide) bytes).mp spelled⟩, rfl⟩
      | _ => cases known

theorem reads_decodeCell :
    Reads decodeCell (fun cell bytes => cell.Fits ∧ SpellsCell cell bytes) where
  takes buffer cell rest := by
    constructor
    · intro read
      match buffer with
      | [] => cases read
      | tag :: left =>
        simp only [decodeCell] at read
        -- The first byte is that of null, that of a kind, or neither.
        split at read
        · rename_i null
          cases read
          exact ⟨[tag], ⟨trivial, null ▸ .null⟩, rfl⟩
        · split at read
          · cases read
          · rename_i kind known
            obtain ⟨front, ⟨ofKind, fits, spelled⟩, rfl⟩ :=
              ((reads_decodePayload kind).takes left cell rest).mp read
            obtain rfl := Kind.ofTag?_eq_some_iff.mp known
            exact ⟨kind.tag :: front, ⟨fits, .tagged ofKind spelled⟩, rfl⟩
    · rintro ⟨front, ⟨fits, spelled⟩, rfl⟩
      cases spelled with
      | null => rfl
      | @tagged _ kind payload ofKind spelled =>
        have value : kind.tag ≠ nullTag := kind.tag_ne_zero
        have read := ((reads_decodePayload kind).takes (payload ++ rest) cell rest).mpr
          ⟨payload, ⟨ofKind, fits, spelled⟩, rfl⟩
        simpa [decodeCell, value] using read
  lacks cell front back := by
    rintro ⟨fits, spelled⟩ missing
    have positive : 0 < back.length := List.length_pos_iff.mpr missing
    -- Unless nothing is there at all, what is missing is missing from the payload.
    cases front with
    | nil => exact ⟨1, 0, rfl, Nat.one_pos, by omega⟩
    | cons tag left =>
      rw [List.cons_append] at spelled
      generalize same : left ++ back = more at spelled
      cases spelled with
      | null => exact absurd (List.append_eq_nil_iff.mp same).2 missing
      | @tagged _ kind _ ofKind spelled =>
        have value : kind.tag ≠ nullTag := kind.tag_ne_zero
        have short := (reads_decodePayload kind).lacks cell left back
          ⟨ofKind, fits, same.symm ▸ spelled⟩ missing
        simpa [decodeCell, value] using short

/-! Rows. -/

theorem reads_decodeCells (count : Nat) : Reads (decodeCells count) fun row bytes =>
    row.length = count ∧ (∀ cell ∈ row, cell.Fits) ∧ SpellsCells row bytes := by
  induction count with
  | zero =>
    refine (Reads.still (.ok [])).congr fun row bytes => ?_
    constructor
    · rintro ⟨same, rfl⟩
      cases same
      exact ⟨rfl, by simp, .nil⟩
    · rintro ⟨empty, -, spelled⟩
      cases spelled with
      | nil => exact ⟨rfl, rfl⟩
      | cons => cases empty
  | succ count ih =>
    refine (reads_decodeCell.bind fun cell => ih.bind fun cells =>
      .still (.ok (cell :: cells))).congr fun row bytes => ?_
    constructor
    · rintro ⟨cell, front, _, ⟨fits, spelled⟩, ⟨cells, back, _, ⟨rfl, fit, others⟩,
        ⟨same, rfl⟩, rfl⟩, rfl⟩
      cases same
      rw [List.append_nil]
      exact ⟨rfl, by simpa using ⟨fits, fit⟩, .cons spelled others⟩
    · rintro ⟨length, fit, spelled⟩
      cases spelled with
      | nil => cases length
      | @cons cell cells front back first others =>
        rw [List.forall_mem_cons] at fit
        exact ⟨cell, front, back, ⟨fit.1, first⟩, ⟨cells, back, [],
          ⟨Nat.succ.inj length, fit.2, others⟩, ⟨rfl, rfl⟩, (List.append_nil back).symm⟩, rfl⟩

theorem reads_decode : Reads decode fun row bytes => row.Fits ∧ row.Spells bytes := by
  refine ((reads_takeWord wordWidth).bind reads_decodeCells).congr fun row bytes => ?_
  constructor
  · rintro ⟨_, _, cells, ⟨small, rfl⟩, ⟨rfl, fit, spelled⟩, rfl⟩
    exact ⟨⟨small, fit⟩, cells, spelled, rfl⟩
  · rintro ⟨⟨small, fit⟩, cells, spelled, rfl⟩
    exact ⟨row.length, _, cells, ⟨small, rfl⟩, ⟨rfl, fit, spelled⟩, rfl⟩

/-! Spellings against what is written. -/

/-- A byte that is read as one that is written: that byte, or another one that is not zero in the
place of a one. -/
def Alike (byte written : UInt8) : Prop := byte = written ∨ byte ≠ 0 ∧ written = 1

theorem alike_self (bytes : Bytes) : List.Forall₂ Alike bytes bytes :=
  List.forall₂_same.mpr fun _ _ => .inl rfl

theorem SpellsPayload.alike {cell : Cell} {bytes : Bytes} (spelled : SpellsPayload cell bytes) :
    List.Forall₂ Alike bytes (payload cell) := by
  cases spelled with
  | written => exact alike_self _
  | nonzero holds => exact .cons (.inr ⟨holds, rfl⟩) .nil

theorem SpellsCell.alike {cell : Cell} {bytes : Bytes} (spelled : SpellsCell cell bytes) :
    List.Forall₂ Alike bytes (encodeCell cell) := by
  cases spelled with
  | null => exact alike_self _
  | tagged ofKind spelled =>
    rw [encodeCell, ofKind]
    exact .cons (.inl rfl) spelled.alike

theorem SpellsCells.alike {row : Row} {bytes : Bytes} (spelled : SpellsCells row bytes) :
    List.Forall₂ Alike bytes (row.flatMap encodeCell) := by
  induction spelled with
  | nil => exact .nil
  | cons first _ ih => exact List.rel_append first.alike ih

theorem Spells.alike {row : Row} {bytes : Bytes} (spelled : row.Spells bytes) :
    List.Forall₂ Alike bytes (encode row) := by
  obtain ⟨cells, spelled, rfl⟩ := spelled
  exact List.rel_append (alike_self _) spelled.alike

theorem Spells.length {row : Row} {bytes : Bytes} (spelled : row.Spells bytes) :
    bytes.length = encodedSize row :=
  spelled.alike.length_eq.trans (length_encode row)

theorem spellsCell_encodeCell (cell : Cell) : SpellsCell cell (encodeCell cell) := by
  unfold encodeCell
  cases ofKind : cell.kind? with
  | none =>
    cases cell with
    | null => exact .null
    | _ => cases ofKind
  | some kind => exact .tagged ofKind (.written cell)

theorem spells_encode (row : Row) : row.Spells (encode row) := by
  have cells : SpellsCells row (row.flatMap encodeCell) := by
    induction row with
    | nil => exact .nil
    | cons cell row ih => exact .cons (spellsCell_encodeCell cell) ih
  exact ⟨_, cells, rfl⟩

/-- Whenever a row has been read, what has been taken is as long as the row announces and is its
encoding, but for bytes of booleans that hold. Whatever follows in the buffer is left as it is. -/
theorem row_read_is_spelled (buffer rest : Bytes) (row : Row)
    (read : decode buffer = .ok (row, rest)) :
    ∃ front, buffer = front ++ rest ∧ front.length = encodedSize row ∧ row.Spells front ∧
      List.Forall₂ Alike front (encode row) ∧
      ∀ extension, decode (buffer ++ extension) = .ok (row, rest ++ extension) := by
  obtain ⟨front, ⟨fits, spelled⟩, rfl⟩ := (reads_decode.takes buffer row rest).mp read
  refine ⟨front, rfl, spelled.length, spelled, spelled.alike, fun extension => ?_⟩
  exact (reads_decode.takes _ row _).mpr
    ⟨front, ⟨fits, spelled⟩, List.append_assoc front rest extension⟩

/-- A boolean that is written as a seven, in front of a text. -/
theorem row_read_is_spelled_seven :
    decode [2, 0, 0, 0, 1, 7, 7, 2, 0, 0, 0, 0xC3, 0xA9, 9] = .ok ([.boolean true, .text "é"], [9]) ∧
      ∃ front, front.length = 13 ∧ Spells [.boolean true, .text "é"] front ∧
        ∀ extension, decode (front ++ 9 :: extension) =
          .ok ([.boolean true, .text "é"], 9 :: extension) := by
  have read : decode [2, 0, 0, 0, 1, 7, 7, 2, 0, 0, 0, 0xC3, 0xA9, 9] =
      .ok ([.boolean true, .text "é"], [9]) := by rfl
  obtain ⟨front, same, length, spelled, -, stays⟩ := row_read_is_spelled _ _ _ read
  refine ⟨read, front, length, spelled, fun extension => ?_⟩
  have extended := stays extension
  rw [same, List.append_assoc] at extended
  exact extended

/-- Wherever the encoding of a row is cut off, the row is found too short, and by no more than what
is missing. -/
theorem cut_row_is_too_short (row : Row) (fits : row.Fits) (front back : Bytes)
    (cut : front ++ back = encode row) (missing : back ≠ []) :
    ∃ required available, decode front = .error (.bufferTooSmall required available) ∧
      available < required ∧ required ≤ available + back.length :=
  reads_decode.lacks row front back ⟨fits, cut ▸ spells_encode row⟩ missing

/-- The cut goes through a character of two bytes. -/
theorem cut_row_is_too_short_amid :
    ∃ required available,
      decode [1, 0, 0, 0, 7, 2, 0, 0, 0, 0xC3] = .error (.bufferTooSmall required available) ∧
        available < required ∧ required ≤ available + 1 :=
  cut_row_is_too_short [.text "é"] (by decide) [1, 0, 0, 0, 7, 2, 0, 0, 0, 0xC3] [0xA9] (by rfl)
    (by decide)

end Row

end SqlDesk
