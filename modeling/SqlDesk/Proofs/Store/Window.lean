import SqlDesk.Proofs.Store.Contents

/-!
Windows of an open store. A row is read back from its own bytes and from nothing else, so a window is
read exactly if each of its rows can be, and two windows agree on the rows they share. Nothing here
asks whether the rows fit: one that does not may read back as another row, or as none.
-/

set_option autoImplicit false

namespace SqlDesk

namespace RowStore

/-- An open store, and the rows that have been added to it. -/
structure Holds (store : RowStore) (rows : List Row) : Prop where
  isOpen : store.isOpen = true
  published : store.published = rows.length
  medium : store.medium.Keeps rows

theorem Holds.append {store : RowStore} {rows : List Row} (holds : store.Holds rows) (row : Row) :
    RowStore.Holds { store with
      medium := store.medium.append (Row.encode row)
      published := store.published + 1 } (rows ++ [row]) where
  isOpen := holds.isOpen
  published := by simp [holds.published]
  medium := holds.medium.append row

end RowStore

theorem StoreMaker.create_holds {maker : StoreMaker} {key : StoreKey} {store : RowStore}
    (made : (maker.create key).1 = .ok store) : store.Holds [] := by
  obtain ⟨keeps, opened, -, -⟩ := StoreMaker.create_keeps made
  exact ⟨opened, keeps.published, keeps.medium opened⟩

/-- What a stored row reads as. -/
def Row.readBack (row : Row) : Option Row :=
  match Row.decode (Row.encode row) with
  | .ok (row, _) => some row
  | .error _ => none

theorem Row.readBack_of_fits {row : Row} (fits : row.Fits) : row.readBack = some row := by
  have decoded := Row.decode_append fits []
  rw [List.append_nil] at decoded
  simp [Row.readBack, decoded]

/-- A length that is no word is written as one all the same: of a cell that is just too long nothing is
found again. -/
theorem Row.readBack_of_overlong {data : Bytes} (length : data.length = Row.wordLimit) :
    Row.readBack [.bytes data] = some [.bytes []] := by
  have zero : Bytes.littleEndian wordWidth Row.wordLimit = Bytes.littleEndian wordWidth 0 := by
    decide
  have written : encode [.bytes data] = encode [.bytes []] ++ data := by
    simp [encode, encodeCell, payload, lengthPrefixed, Cell.kind?, length, zero]
  have fits : Row.Fits [.bytes []] := by decide
  rw [readBack, written, decode_append fits]

namespace RowStore

theorem decodeRows_eq_ok_iff (rows served : List Row) (number : Nat) :
    decodeRows number (rows.map Row.encode) = .ok served ↔
      rows.map Row.readBack = served.map some := by
  induction rows generalizing number served with
  | nil => cases served <;> simp [decodeRows]
  | cons row rest ih =>
    simp only [List.map_cons, decodeRows, Row.readBack]
    cases decoded : Row.decode (Row.encode row) with
    | error error => cases served <;> simp
    | ok pair =>
      have others := fun served => ih served (number + 1)
      cases behind : decodeRows (number + 1) (rest.map Row.encode) with
      | error error =>
        simp only [behind, reduceCtorEq, false_iff] at others
        cases served with
        | nil => simp [Except.map]
        | cons first served => simpa [Except.map] using fun _ => others served
      | ok tail =>
        simp only [behind, Except.ok.injEq] at others
        cases served with
        | nil => simp [Except.map]
        | cons first served => simp [Except.map, ← others]

theorem extract_min {α : Type} (items : List α) (start count : Nat) :
    items.extract start (min (start + count) items.length) = (items.drop start).take count := by
  rw [List.extract_eq_take_drop, List.take_eq_take_iff, List.length_drop]
  omega

variable {store : RowStore} {rows : List Row}

theorem Holds.read_eq_ok_iff (holds : store.Holds rows) (start count : Nat) (served : List Row) :
    store.read start count = .ok served ↔
      ((rows.drop start).take count).map Row.readBack = served.map some := by
  rw [read_eq_decodeRows holds.medium.begins holds.published holds.isOpen, decodeRows_eq_ok_iff,
    extract_min]

theorem Holds.length_read (holds : store.Holds rows) {start count : Nat} {window : List Row}
    (read : store.read start count = .ok window) : window.length = min count (rows.length - start) := by
  have length := congrArg List.length ((holds.read_eq_ok_iff start count window).mp read)
  simpa only [List.length_map, List.length_take, List.length_drop] using length.symm

/-- The row with a number reads as given. -/
def Serves (store : RowStore) (number : Nat) (row : Row) : Prop := store.read number 1 = .ok [row]

theorem Serves.unique {number : Nat} {row other : Row} (served : store.Serves number row)
    (again : store.Serves number other) : row = other := by
  have same := served.symm.trans again
  simpa using same

theorem Holds.serves_iff (holds : store.Holds rows) (number : Nat) (row : Row) :
    store.Serves number row ↔ rows[number]?.map Row.readBack = some (some row) := by
  rw [Serves, holds.read_eq_ok_iff]
  cases found : rows[number]? with
  | none =>
    have short : rows.length ≤ number := List.getElem?_eq_none_iff.mp found
    simp [List.drop_eq_nil_of_le short]
  | some stored =>
    obtain ⟨inside, same⟩ := List.getElem?_eq_some_iff.mp found
    rw [List.drop_eq_getElem_cons inside, same]
    simp

theorem Holds.serves_of_fits (holds : store.Holds rows) {number : Nat} {row : Row}
    (found : rows[number]? = some row) (fits : row.Fits) : store.Serves number row := by
  rw [holds.serves_iff, found, Option.map_some, Row.readBack_of_fits fits]

theorem Holds.read_of_serves (holds : store.Holds rows) {start count : Nat} {Allowed : Row → Prop}
    (inside : start + count ≤ rows.length)
    (served : ∀ number, start ≤ number → number < start + count →
      ∃ row, store.Serves number row ∧ Allowed row) :
    ∃ window, store.read start count = .ok window ∧ window.length = count ∧
      ∀ row ∈ window, Allowed row := by
  induction count generalizing start with
  | zero =>
    exact ⟨[], by rw [holds.read_eq_ok_iff]; simp, rfl, by simp⟩
  | succ count ih =>
    have filled : start < rows.length := by omega
    obtain ⟨row, first, allowed⟩ := served start (by omega) (by omega)
    have behind : start + 1 + count ≤ rows.length := by omega
    obtain ⟨window, read, length, others⟩ := ih behind fun number above below =>
      served number (by omega) (by omega)
    refine ⟨row :: window, ?_, by simp [length], ?_⟩
    · rw [holds.serves_iff, List.getElem?_eq_getElem filled] at first
      rw [holds.read_eq_ok_iff] at read ⊢
      rw [List.drop_eq_getElem_cons filled, List.take_succ_cons, List.map_cons, read]
      simpa using first
    · intro other member
      rcases List.mem_cons.mp member with rfl | behind
      · exact allowed
      · exact others other behind

theorem Holds.serves_of_read (holds : store.Holds rows) {start count : Nat} {window : List Row}
    (read : store.read start count = .ok window) {place : Nat} {row : Row}
    (found : window[place]? = some row) : store.Serves (start + place) row := by
  rw [holds.read_eq_ok_iff] at read
  have same := congrArg (·[place]?) read
  simp only [List.getElem?_map, found, Option.map_some] at same
  rw [holds.serves_iff]
  rw [List.getElem?_take] at same
  split at same
  · rwa [List.getElem?_drop] at same
  · simp at same

theorem Holds.read_append_iff (holds : store.Holds rows) (start count more : Nat) (window : List Row) :
    store.read start (count + more) = .ok window ↔ ∃ front behind,
      store.read start count = .ok front ∧ store.read (start + count) more = .ok behind ∧
        window = front ++ behind := by
  simp only [holds.read_eq_ok_iff, List.take_add, List.drop_drop, List.map_append]
  constructor
  · intro read
    obtain ⟨front, behind, rfl, first, rest⟩ := List.append_eq_map_iff.mp read
    exact ⟨front, behind, first.symm, rest.symm, rfl⟩
  · rintro ⟨front, behind, first, rest, rfl⟩
    rw [first, rest, List.map_append]

end RowStore

end SqlDesk
