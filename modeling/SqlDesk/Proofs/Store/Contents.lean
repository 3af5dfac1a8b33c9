import Mathlib.Algebra.BigOperators.Group.List.Basic
import Mathlib.Algebra.GroupWithZero.Nat
import SqlDesk.Proofs.Row.RoundTrip
import SqlDesk.Store

/-! What an open store holds. In memory the rows stand encoded one by one. In a file they stand back
to back, and the extents tile the file in the order of the rows. A window of either is decoded to
the rows that were appended there. -/

set_option autoImplicit false

namespace SqlDesk

def layout (offset : Nat) : List Nat → List Extent
  | [] => []
  | length :: rest => ⟨offset, length⟩ :: layout (offset + length) rest

@[simp] theorem length_layout (offset : Nat) (lengths : List Nat) :
    (layout offset lengths).length = lengths.length := by
  induction lengths generalizing offset with
  | nil => rfl
  | cons length rest ih => simp [layout, ih]

theorem lengths_layout (offset : Nat) (lengths : List Nat) :
    (layout offset lengths).map Extent.length = lengths := by
  induction lengths generalizing offset with
  | nil => rfl
  | cons length rest ih => simp [layout, ih]

theorem layout_append (offset : Nat) (first second : List Nat) :
    layout offset (first ++ second) = layout offset first ++ layout (offset + first.sum) second := by
  induction first generalizing offset with
  | nil => simp [layout]
  | cons length rest ih => simp [layout, ih, Nat.add_assoc]

theorem layout_window (before window behind : List Nat) :
    ((layout 0 (before ++ window ++ behind)).drop before.length).take window.length =
      layout before.sum window := by
  rw [List.append_assoc, layout_append, layout_append, Nat.zero_add,
    List.drop_left' (length_layout 0 before), List.take_left' (length_layout _ window)]

def encodedLength (row : Row) : Nat := (Row.encode row).length

theorem sum_encodedLength (rows : List Row) :
    (rows.map encodedLength).sum = (rows.flatMap Row.encode).length := by
  induction rows with
  | nil => rfl
  | cons row rest ih => simp [encodedLength, ih]

namespace Medium

/-- The medium holds the rows, encoded and in order. -/
def Keeps (rows : List Row) : Medium → Prop
  | .memory stored => stored.toList = rows.map Row.encode
  | .file content extents fileEnd =>
    content.toList = rows.flatMap Row.encode ∧ extents.toList = layout 0 (rows.map encodedLength) ∧
      fileEnd = (rows.map encodedLength).sum

theorem Keeps.append {medium : Medium} {rows : List Row} (keeps : medium.Keeps rows)
    (row : Row) : (medium.append (Row.encode row)).Keeps (rows ++ [row]) := by
  cases medium with
  | memory stored =>
    have same : stored.toList = rows.map Row.encode := keeps
    simp [Medium.append, Keeps, same]
  | file content extents fileEnd =>
    obtain ⟨bytes, places, stop⟩ := keeps
    refine ⟨?_, ?_, ?_⟩
    · simp [bytes]
    · simp [places, layout_append, layout, stop, encodedLength]
    · simp [stop, encodedLength]

/-- The medium holds the rows, encoded and in order, and perhaps something behind them. -/
def Begins (rows : List Row) : Medium → Prop
  | .memory stored => rows.map Row.encode <+: stored.toList
  | .file content extents _ =>
    rows.flatMap Row.encode <+: content.toList ∧
      layout 0 (rows.map encodedLength) <+: extents.toList

theorem Keeps.begins {medium : Medium} {rows : List Row} (keeps : medium.Keeps rows) :
    medium.Begins rows := by
  cases medium with
  | memory stored =>
    have same : stored.toList = rows.map Row.encode := keeps
    exact ⟨[], by rw [List.append_nil, same]⟩
  | file content extents fileEnd =>
    obtain ⟨bytes, places, -⟩ := keeps
    exact ⟨⟨[], by rw [List.append_nil, bytes]⟩, [], by rw [List.append_nil, places]⟩

theorem Begins.count {medium : Medium} {rows : List Row} (begins : medium.Begins rows) :
    rows.length ≤ medium.count := by
  cases medium with
  | memory stored =>
    have front : rows.map Row.encode <+: stored.toList := begins
    simpa [Medium.count] using front.length_le
  | file content extents fileEnd => simpa [Medium.count] using begins.2.length_le

theorem Keeps.count {medium : Medium} {rows : List Row} (keeps : medium.Keeps rows) :
    medium.count = rows.length := by
  cases medium with
  | memory stored =>
    have same := congrArg List.length (show stored.toList = rows.map Row.encode from keeps)
    simpa [Medium.count] using same
  | file content extents fileEnd =>
    have same := congrArg List.length keeps.2.1
    simpa [Medium.count] using same

end Medium

namespace RowStore

/-- An open store holds the rows; a closed one has kept their number only. -/
structure Keeps (store : RowStore) (rows : List Row) : Prop where
  published : store.published = rows.length
  medium : store.isOpen = true → store.medium.Keeps rows
  fit : ∀ row ∈ rows, row.Fits

/-! Reading a window. -/

theorem decodeRows_encode {rows : List Row} (fit : ∀ row ∈ rows, row.Fits) (number : Nat) :
    decodeRows number (rows.map Row.encode) = .ok rows := by
  induction rows generalizing number with
  | nil => rfl
  | cons row rest ih =>
    have first := Row.decode_append (fit row (by simp)) []
    have others := ih (fun other member => fit other (by simp [member])) (number + 1)
    rw [List.append_nil] at first
    simp [decodeRows, first, others, Except.map]

theorem cut_encode (rows : List Row) :
    cut (rows.map encodedLength) (rows.flatMap Row.encode) = rows.map Row.encode := by
  induction rows with
  | nil => rfl
  | cons row rest ih => simp [cut, encodedLength, ih]

theorem extract_window {before window behind : List Row} {content : Array UInt8}
    (bytes : (before ++ window ++ behind).flatMap Row.encode <+: content.toList) :
    (content.extract (before.map encodedLength).sum
      ((before.map encodedLength).sum + (window.map encodedLength).sum)).toList =
        window.flatMap Row.encode := by
  obtain ⟨others, bytes⟩ := bytes
  rw [Array.toList_extract, ← bytes, sum_encodedLength, sum_encodedLength,
    List.extract_eq_take_drop, List.flatMap_append, List.flatMap_append, List.append_assoc,
    List.append_assoc, List.drop_left, Nat.add_sub_cancel_left, List.take_left]

theorem readExtents_layout {window : List Row} (before behind : List Row)
    (content : Array UInt8)
    (bytes : (before ++ window ++ behind).flatMap Row.encode <+: content.toList) (start : Nat) :
    readExtents content start
      (layout (before.map encodedLength).sum (window.map encodedLength)) =
        decodeRows start (window.map Row.encode) := by
  cases window with
  | nil => rfl
  | cons row rest =>
    have size : ((row :: rest).map encodedLength).foldr (· + ·) 0 =
        ((row :: rest).flatMap Row.encode).length := sum_encodedLength (row :: rest)
    have block := extract_window bytes
    rw [sum_encodedLength (row :: rest)] at block
    have whole := congrArg List.length block
    rw [Array.length_toList] at whole
    have lengths := lengths_layout (before.map encodedLength).sum ((row :: rest).map encodedLength)
    simp only [List.map_cons, layout] at lengths
    simp only [readExtents, List.map_cons, layout, lengths]
    rw [← List.map_cons, size, whole, block, cut_encode]
    simp

theorem take_extract_drop (rows : List Row) {start stop : Nat} (ordered : start ≤ stop) :
    rows.take start ++ rows.extract start stop ++ rows.drop stop = rows := by
  have tail : rows.drop stop = (rows.drop start).drop (stop - start) := by
    rw [List.drop_drop, Nat.add_sub_cancel' ordered]
  rw [List.extract_eq_take_drop, List.append_assoc, tail, List.take_append_drop,
    List.take_append_drop]

theorem extract_of_prefix {α : Type} {front items : List α} (begins : front <+: items)
    {start stop : Nat} (inside : stop ≤ front.length) :
    items.extract start stop = front.extract start stop := by
  obtain ⟨behind, rfl⟩ := begins
  by_cases ordered : start ≤ front.length
  · rw [List.extract_eq_take_drop, List.extract_eq_take_drop, List.drop_append_of_le_length ordered,
      List.take_append_of_le_length (by simp only [List.length_drop]; omega)]
  · have none : stop - start = 0 := by omega
    simp [List.extract_eq_take_drop, none]

theorem decodeRows_window {rows : List Row} {stored : Array Bytes}
    (begins : Medium.Begins rows (.memory stored)) (start : Nat) {stop : Nat}
    (inside : stop ≤ rows.length) :
    decodeRows start (stored.extract start stop).toList =
      decodeRows start ((rows.extract start stop).map Row.encode) := by
  have front : rows.map Row.encode <+: stored.toList := begins
  rw [Array.toList_extract, extract_of_prefix front (by simpa using inside)]
  simp [List.extract_eq_take_drop]

theorem readExtents_window {rows : List Row} {content : Array UInt8} {extents : Array Extent}
    {fileEnd : Nat} (begins : Medium.Begins rows (.file content extents fileEnd)) {start stop : Nat}
    (ordered : start ≤ stop) (inside : stop ≤ rows.length) :
    readExtents content start (extents.extract start stop).toList =
      decodeRows start ((rows.extract start stop).map Row.encode) := by
  obtain ⟨bytes, places⟩ := begins
  have partition := take_extract_drop rows ordered
  have beforeLength : ((rows.take start).map encodedLength).length = start := by
    simp
    omega
  have windowLength : ((rows.extract start stop).map encodedLength).length = stop - start := by
    simp [List.extract_eq_take_drop]
    omega
  have tiled := layout_window ((rows.take start).map encodedLength)
    ((rows.extract start stop).map encodedLength) ((rows.drop stop).map encodedLength)
  rw [beforeLength, windowLength, ← List.map_append, ← List.map_append, partition,
    ← List.extract_eq_take_drop, ← extract_of_prefix places (by simpa using inside),
    ← Array.toList_extract] at tiled
  rw [tiled]
  exact readExtents_layout (rows.take start) (rows.drop stop) content
    (by rw [partition]; exact bytes) start

/-- Reading an open store decodes the window, as far as there are rows. Whether they fit or not,
each is decoded from its own bytes alone. -/
theorem read_eq_decodeRows {store : RowStore} {rows : List Row} (medium : store.medium.Begins rows)
    (published : store.published = rows.length) (opened : store.isOpen = true)
    (start count : Nat) :
    store.read start count =
      decodeRows start ((rows.extract start (min (start + count) rows.length)).map Row.encode) := by
  simp only [RowStore.read, opened, published, Bool.not_true, Bool.false_eq_true, if_false]
  by_cases empty : min (start + count) rows.length ≤ start
  · rw [if_pos empty, List.extract_eq_take_drop, Nat.sub_eq_zero_of_le empty, List.take_zero]
    rfl
  · have there : ¬ store.medium.count < min (start + count) rows.length :=
      Nat.not_lt.mpr (Nat.le_trans (Nat.min_le_right _ _) medium.count)
    rw [if_neg empty, if_neg there]
    cases found : store.medium with
    | memory stored => exact decodeRows_window (found ▸ medium) _ (Nat.min_le_right _ _)
    | file content extents fileEnd =>
      exact readExtents_window (found ▸ medium) (Nat.le_of_not_le empty) (Nat.min_le_right _ _)

/-- Reading an open store gives the rows of the window, as far as there are any. -/
theorem Keeps.read {store : RowStore} {rows : List Row} (keeps : store.Keeps rows)
    (opened : store.isOpen = true) (start count : Nat) :
    store.read start count = .ok (rows.extract start (min (start + count) rows.length)) := by
  have window : ∀ row ∈ rows.extract start (min (start + count) rows.length), row.Fits :=
    fun row member => keeps.fit row (List.mem_of_mem_drop (List.mem_of_mem_take
      (List.extract_eq_take_drop ▸ member)))
  rw [read_eq_decodeRows (keeps.medium opened).begins keeps.published opened]
  exact decodeRows_encode window start

theorem append_of_room {store : RowStore} (row : Row) (opened : store.isOpen = true)
    (room : store.isFull = false) :
    store.append row = .ok { store with
      medium := store.medium.append (Row.encode row)
      published := store.published + 1 } := by
  simp [append, opened, room]

theorem append_of_full {store : RowStore} (row : Row) (full : store.isFull = true) :
    store.append row = .error diskFull := by
  simp [append, full]

theorem isFull_of_refused {store : RowStore} {row : Row} {error : StorageError}
    (opened : store.isOpen = true) (refusal : store.append row = .error error) :
    store.isFull = true ∧ error = diskFull := by
  by_cases full : store.isFull = true
  · rw [append_of_full row full] at refusal
    cases refusal
    exact ⟨full, rfl⟩
  · rw [append_of_room row opened (by simpa using full)] at refusal
    cases refusal

/-- A store that takes a row has room for it, and differs in its content only. -/
theorem eq_of_append {store next : RowStore} {row : Row} (appended : store.append row = .ok next) :
    store.isFull = false ∧ next = { store with
      medium := store.medium.append (Row.encode row)
      published := store.published + 1 } := by
  unfold append at appended
  split at appended
  · cases appended
  · rename_i room
    split at appended <;> cases appended
    exact ⟨by simpa using room, rfl⟩

theorem append_of_closed {store : RowStore} (row : Row) (closed : store.isOpen = false)
    (room : store.isFull = false) : store.append row = .error .closed := by
  simp [append, closed, room]

theorem Keeps.append {store : RowStore} {rows : List Row} (keeps : store.Keeps rows) {row : Row}
    (fits : row.Fits) : RowStore.Keeps { store with
      medium := store.medium.append (Row.encode row)
      published := store.published + 1 } (rows ++ [row]) where
  published := by simp [keeps.published]
  medium opened := (keeps.medium opened).append row
  fit other member := by
    rcases List.mem_append.mp member with earlier | last
    · exact keeps.fit other earlier
    · rw [List.mem_singleton.mp last]
      exact fits

theorem Keeps.close {store : RowStore} {rows : List Row} (keeps : store.Keeps rows) :
    store.close.Keeps rows where
  published := keeps.published
  medium opened := by simp [RowStore.close] at opened
  fit := keeps.fit

end RowStore

theorem StoreMaker.create_keeps {maker : StoreMaker} {key : StoreKey} {store : RowStore}
    (made : (maker.create key).1 = .ok store) :
    store.Keeps [] ∧ store.isOpen = true ∧ store.key = key ∧
      store.room = maker.rooms.ofAttempt maker.attempts := by
  unfold create at made
  split at made
  · cases made
  · cases made
    refine ⟨⟨rfl, fun _ => ?_, by simp⟩, rfl, rfl, rfl⟩
    cases maker.inFile
    · exact rfl
    · exact ⟨rfl, rfl, rfl⟩

end SqlDesk
