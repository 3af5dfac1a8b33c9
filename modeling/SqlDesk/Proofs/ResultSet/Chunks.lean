import Mathlib.Data.List.Forall2
import SqlDesk.Proofs.Store.Window
import SqlDesk.ResultSet.Export

/-!
A file is written piece by piece. Its rows are read in ranges that lie one behind the other, so reading
the ranges comes to reading all of them at once (`Export.reads_iff`), however they are cut. Writing goes
on until it has finished, a range cannot be read, or a row has too few cells; up to there the pieces
come to one text, wherever they were cut (`Export.writeChunks_stops`).
-/

set_option autoImplicit false

namespace SqlDesk

namespace Export

/-! ## Ranges, one behind the other -/

/-- Ranges one behind the other, the first at the given row. -/
def Tiles (start : Nat) : List (Nat × Nat) → Prop
  | [] => True
  | piece :: rest => piece.1 = start ∧ Tiles (start + piece.2) rest

def total (pieces : List (Nat × Nat)) : Nat := (pieces.map Prod.snd).sum

abbrev Reads (store : RowStore) : List (Nat × Nat) → List (List Row) → Prop :=
  List.Forall₂ fun piece part => store.read piece.1 piece.2 = .ok part

@[simp] theorem total_nil : total [] = 0 := rfl

@[simp] theorem total_cons (piece : Nat × Nat) (rest : List (Nat × Nat)) :
    total (piece :: rest) = piece.2 + total rest := List.sum_cons

@[simp] theorem total_append (front behind : List (Nat × Nat)) :
    total (front ++ behind) = total front + total behind := by
  rw [total, List.map_append, List.sum_append, ← total, ← total]

variable {store : RowStore} {stored rows : List Row} {start count : Nat} {pieces : List (Nat × Nat)}
  {parts : List (List Row)} {columns : Nat × Nat}

theorem tiles_chunks (start count : Nat) : Tiles start (chunks start count) := by
  induction start, count using chunks.induct with
  | case1 start =>
    rw [chunks]
    trivial
  | case2 start count some ih =>
    rw [chunks, if_neg some]
    refine ⟨rfl, ?_⟩
    by_cases last : count ≤ chunkRows
    · rw [Nat.sub_eq_zero_of_le last, chunks]
      trivial
    · rwa [Nat.min_eq_right (by omega)]

@[simp] theorem total_chunks (start count : Nat) : total (chunks start count) = count := by
  induction start, count using chunks.induct with
  | case1 start => rw [chunks]; rfl
  | case2 start count some ih =>
    rw [chunks, if_neg some, total_cons, ih]
    omega

theorem pos_of_mem_chunks {piece : Nat × Nat} (member : piece ∈ chunks start count) : 0 < piece.2 := by
  induction start, count using chunks.induct with
  | case1 start =>
    rw [chunks] at member
    cases member
  | case2 start count some ih =>
    rw [chunks, if_neg some] at member
    rcases List.mem_cons.mp member with rfl | behind
    · simp only [chunkRows]
      omega
    · exact ih behind

theorem tiles_append {front behind : List (Nat × Nat)} :
    Tiles start (front ++ behind) ↔ Tiles start front ∧ Tiles (start + total front) behind := by
  induction front generalizing start with
  | nil => simp [Tiles]
  | cons piece rest ih => simp [Tiles, ih, and_assoc, Nat.add_assoc]

theorem range'_of_tiles (tiles : Tiles start pieces) :
    (pieces.flatMap fun piece => List.range' piece.1 piece.2) = List.range' start (total pieces) := by
  induction pieces generalizing start with
  | nil => rfl
  | cons piece rest ih =>
    obtain ⟨rfl, behind⟩ := tiles
    rw [List.flatMap_cons, ih behind, List.range'_append_1, total_cons]

theorem reads_iff (holds : store.Holds stored) (tiles : Tiles start pieces) (rows : List Row) :
    store.read start (total pieces) = .ok rows ↔ ∃ parts, Reads store pieces parts ∧ parts.flatten = rows := by
  induction pieces generalizing start rows with
  | nil =>
    have none : store.read start 0 = .ok [] := (holds.read_eq_ok_iff start 0 []).mpr rfl
    simp [none, List.forall₂_nil_left_iff, eq_comm]
  | cons piece rest ih =>
    obtain ⟨rfl, behind⟩ := tiles
    rw [total_cons, holds.read_append_iff]
    constructor
    · rintro ⟨front, others, first, read, rfl⟩
      obtain ⟨parts, reads, rfl⟩ := (ih behind others).mp read
      exact ⟨front :: parts, .cons first reads, rfl⟩
    · rintro ⟨parts, reads, rfl⟩
      obtain ⟨front, others, first, read, rfl⟩ := List.forall₂_cons_left_iff.mp reads
      exact ⟨front, others.flatten, first, (ih behind _).mpr ⟨others, read, rfl⟩, rfl⟩

theorem read_of_reads (holds : store.Holds stored) (tiles : Tiles start pieces)
    (reads : Reads store pieces parts) : store.read start (total pieces) = .ok parts.flatten :=
  (reads_iff holds tiles _).mpr ⟨parts, reads, rfl⟩

theorem length_of_reads (holds : store.Holds stored) (tiles : Tiles start pieces)
    (reads : Reads store pieces parts) (inside : total pieces ≤ stored.length - start) :
    parts.flatten.length = total pieces := by
  rw [holds.length_read (read_of_reads holds tiles reads), Nat.min_eq_left inside]

/-- When some ranges have been read, the rest of the rows is what the others are read as. -/
theorem read_iff_rest (holds : store.Holds stored) {done rest : List (Nat × Nat)}
    (tiles : Tiles start (done ++ rest)) (reads : Reads store done parts) (rows : List Row) :
    store.read start (total (done ++ rest)) = .ok rows ↔ ∃ behind,
      store.read (start + total done) (total rest) = .ok behind ∧ rows = parts.flatten ++ behind := by
  have first := read_of_reads holds (tiles_append.mp tiles).1 reads
  simp [holds.read_append_iff, first]

/-! ## The columns of a row -/

def cellsIn (columns : Nat × Nat) (row : Row) : List Cell := (row.drop columns.1).take columns.2

def Wide (columns : Nat × Nat) (rows : List Row) : Prop :=
  ∀ row ∈ rows, columns.1 + columns.2 ≤ row.length

theorem wide_nil : Wide columns [] := List.forall_mem_nil _

theorem wide_append {front behind : List Row} :
    Wide columns (front ++ behind) ↔ Wide columns front ∧ Wide columns behind := List.forall_mem_append

/-- Of rows that have been read, one that lacks some of the columns has its number in the range. -/
theorem exists_narrow (holds : store.Holds stored) (read : store.read start count = .ok rows)
    (narrow : ¬ Wide columns rows) : ∃ number row, start ≤ number ∧ number < start + count ∧
      store.Serves number row ∧ row.length < columns.1 + columns.2 := by
  obtain ⟨row, member, short⟩ : ∃ row ∈ rows, ¬ columns.1 + columns.2 ≤ row.length := by
    simpa [Wide] using narrow
  obtain ⟨place, found⟩ := List.mem_iff_getElem?.mp member
  obtain ⟨early, -⟩ := List.getElem?_eq_some_iff.mp found
  have length := holds.length_read read
  exact ⟨start + place, row, by omega, by omega, holds.serves_of_read read found, by omega⟩

theorem chunkText_of_wide (wide : Wide columns rows) (format : SaveFormat) (names : List String)
    (isFirst : Bool) : chunkText format names columns isFirst rows =
      .ok (rowTexts format names isFirst (rows.map (cellsIn columns))) := by
  have sliced : rows.mapM (slice? columns) = some (rows.map (cellsIn columns)) := by
    induction rows with
    | nil => rfl
    | cons row rest ih =>
      obtain ⟨first, others⟩ := List.forall_mem_cons.mp wide
      simp [List.mapM_cons, ih others, slice?, first, cellsIn]
  rw [chunkText, sliced]

theorem chunkText_of_narrow (narrow : ¬ Wide columns rows) (format : SaveFormat) (names : List String)
    (isFirst : Bool) : chunkText format names columns isFirst rows = .error narrowRow := by
  have sliced : rows.mapM (slice? columns) = none := by
    induction rows with
    | nil => exact absurd wide_nil narrow
    | cons row rest ih =>
      rw [Wide, List.forall_mem_cons, not_and_or] at narrow
      rcases narrow with first | others
      · simp [List.mapM_cons, slice?, first]
      · simp [List.mapM_cons, ih others]
  rw [chunkText, sliced]

theorem rowTexts_append (format : SaveFormat) (names : List String) (isFirst : Bool)
    {front : List (List Cell)} (some : front ≠ []) (rest : List (List Cell)) :
    rowTexts format names isFirst (front ++ rest) =
      rowTexts format names isFirst front ++ rowTexts format names false rest := by
  induction front generalizing isFirst with
  | nil => exact absurd rfl some
  | cons cells front ih =>
    cases front with
    | nil => simp [rowTexts]
    | cons next front =>
      have behind := ih false (by simp)
      simp only [List.cons_append, rowTexts, List.append_assoc] at behind ⊢
      rw [behind]

/-! ## The buffer -/

namespace Draft

def total (draft : Draft) : Bytes := draft.written ++ draft.held

theorem total_add (draft : Draft) (text : List Char) :
    (draft.add text).total = draft.total ++ Bytes.ofString (String.ofList text) := by
  simp only [add, total]
  by_cases full : bufferSize < draft.held.length + (Bytes.ofString (String.ofList text)).length
  · rw [if_pos full]
    split <;> simp
  · rw [if_neg full]
    split
    · -- Only an empty buffer has room for a text as long as the buffer.
      rename_i long
      have empty : draft.held = [] := List.eq_nil_of_length_eq_zero (by omega)
      simp [empty]
    · simp

theorem written_flush (draft : Draft) : draft.flush.written = draft.total := rfl

end Draft

theorem ofString_ofList_append (front rest : List Char) :
    Bytes.ofString (String.ofList front) ++ Bytes.ofString (String.ofList rest) =
      Bytes.ofString (String.ofList (front ++ rest)) := by
  rw [← Bytes.ofString_append, String.ofList_append]

/-! ## Writing -/

/-- Why writing stops in front of the ranges that are left. -/
inductive Stop (store : RowStore) (columns : Nat × Nat) :
    List (Nat × Nat) → Except ResultSetError Unit → Prop where
  | finished : Stop store columns [] (.ok ())
  | unread {piece : Nat × Nat} {rest : List (Nat × Nat)} {error : StorageError}
      (failed : store.read piece.1 piece.2 = .error error) :
      Stop store columns (piece :: rest) (.error (.storage error))
  | narrow {piece : Nat × Nat} {rest : List (Nat × Nat)} {part : List Row}
      (read : store.read piece.1 piece.2 = .ok part) (narrow : ¬ Wide columns part) :
      Stop store columns (piece :: rest) (.error narrowRow)

/-- Writing gets as far as the ranges can be read as rows with all the columns, and writes these rows
as one text. -/
theorem writeChunks_stops (columns : Nat × Nat) (format : SaveFormat) (names : List String)
    (isFirst : Bool) (draft : Draft)
    (filled : ∀ piece ∈ pieces, ∀ part, store.read piece.1 piece.2 = .ok part → part ≠ []) :
    ∃ done rest parts, pieces = done ++ rest ∧ Reads store done parts ∧ Wide columns parts.flatten ∧
      Stop store columns rest (writeChunks store format names columns isFirst draft pieces).2 ∧
      (writeChunks store format names columns isFirst draft pieces).1.total =
        draft.total ++ Bytes.ofString (String.ofList
          (rowTexts format names isFirst (parts.flatten.map (cellsIn columns)))) := by
  have nothing (draft : Draft) (isFirst : Bool) : draft.total = draft.total ++
      Bytes.ofString (String.ofList (rowTexts format names isFirst [])) := by
    simp [rowTexts, Bytes.ofString]
  -- On the ranges: one that can be written joins the text so far, any other is the last.
  induction pieces generalizing isFirst draft with
  | nil => exact ⟨[], [], [], rfl, .nil, wide_nil, .finished, nothing draft isFirst⟩
  | cons piece others ih =>
    obtain ⟨start, count⟩ := piece
    rw [writeChunks]
    cases read : store.read start count with
    | error error => exact ⟨[], _, [], rfl, .nil, wide_nil, .unread read, nothing draft isFirst⟩
    | ok part =>
      by_cases wide : Wide columns part
      · have text := chunkText_of_wide wide format names isFirst
        obtain ⟨done, rest, parts, rfl, reads, allWide, stop, whole⟩ := ih false
          (draft.add (rowTexts format names isFirst (part.map (cellsIn columns))))
          fun piece member => filled piece (List.mem_cons_of_mem _ member)
        have some : part.map (cellsIn columns) ≠ [] := by
          simpa using filled _ List.mem_cons_self part read
        refine ⟨(start, count) :: done, rest, part :: parts, rfl, .cons read reads,
          wide_append.mpr ⟨wide, allWide⟩, ?_, ?_⟩
        · simpa only [text] using stop
        · simp only [text, whole]
          rw [Draft.total_add, List.append_assoc, ofString_ofList_append, List.flatten_cons,
            List.map_append, rowTexts_append _ _ _ some]
      · refine ⟨[], _, [], rfl, .nil, wide_nil, ?_, ?_⟩
        · simp only [chunkText_of_narrow wide]
          exact .narrow read wide
        · simp only [chunkText_of_narrow wide]
          exact nothing draft isFirst

/-! ## The file -/

variable {result : ResultSet}

def namesOf (result : ResultSet) (columns : Nat × Nat) : List String :=
  ((result.columns.drop columns.1).take columns.2).map Column.displayName

/-- What a file has in front of its closing when it has come to the end of some rows. -/
def textUpTo (result : ResultSet) (request : SaveRequest) (columns : Nat × Nat) (rows : List Row) :
    List Char :=
  opening request.format request.headers (namesOf result columns) ++
    rowTexts request.format (namesOf result columns) true (rows.map (cellsIn columns))

/-- A range of rows that a store has is cut into ranges of which none is empty. -/
theorem filled_chunks (holds : store.Holds stored) (inside : count ≤ stored.length - start) :
    ∀ piece ∈ chunks start count, ∀ part, store.read piece.1 piece.2 = .ok part → part ≠ [] := by
  intro piece member part read
  obtain ⟨front, behind, cut⟩ := List.append_of_mem member
  have tiles := tiles_chunks start count
  have whole := total_chunks start count
  rw [cut] at tiles whole
  obtain ⟨-, place, -⟩ := tiles_append.mp tiles
  rw [total_append, total_cons] at whole
  have length := holds.length_read read
  have some := pos_of_mem_chunks member
  rw [← List.length_pos_iff]
  omega

theorem content_eq_run (result : ResultSet) (request : SaveRequest) (rows columns : Nat × Nat) :
    content result request rows columns =
      match writeChunks result.store request.format (namesOf result columns) columns true
        (Draft.empty.add (opening request.format request.headers (namesOf result columns)))
        (chunks rows.1 rows.2) with
      | (draft, .error error) => (draft.written, .error error)
      | (draft, .ok ()) => ((draft.add (closing request.format (rows.2 = 0))).flush.written, .ok ()) :=
  rfl

/-- A file that is finished holds the whole text; one that is given up holds a beginning of what had
been written, as the rest was held back. -/
theorem content_stops (holds : result.store.Holds stored) (inside : count ≤ stored.length - start)
    (request : SaveRequest) (columns : Nat × Nat) :
    ∃ done rest parts, chunks start count = done ++ rest ∧ Reads result.store done parts ∧
      Wide columns parts.flatten ∧
      Stop result.store columns rest (content result request (start, count) columns).2 ∧
      match content result request (start, count) columns with
      | (bytes, .error _) =>
        bytes <+: Bytes.ofString (String.ofList (textUpTo result request columns parts.flatten))
      | (bytes, .ok ()) => bytes = Bytes.ofString (String.ofList
          (textUpTo result request columns parts.flatten ++ closing request.format (count = 0))) := by
  obtain ⟨done, rest, parts, cut, reads, wide, stop, whole⟩ := writeChunks_stops columns request.format
    (namesOf result columns) true
    (Draft.empty.add (opening request.format request.headers (namesOf result columns)))
    (filled_chunks holds inside)
  have empty : Draft.empty.total = [] := rfl
  rw [Draft.total_add, empty, List.nil_append, ofString_ofList_append, ← textUpTo] at whole
  refine ⟨done, rest, parts, cut, reads, wide, ?_⟩
  rw [content_eq_run]
  generalize writeChunks _ _ _ _ _ _ _ = written at stop whole ⊢
  rcases written with ⟨draft, error | _⟩
  · refine ⟨stop, ?_⟩
    rw [← whole]
    exact List.prefix_append _ _
  · refine ⟨stop, ?_⟩
    dsimp only at whole ⊢
    rw [Draft.written_flush, Draft.total_add, whole, ofString_ofList_append]

/-- Once all its rows can be read, a file is written to the end or given up for a row with too few
cells. -/
theorem content_of_read (holds : result.store.Holds stored) (inside : count ≤ stored.length - start)
    (request : SaveRequest) (columns : Nat × Nat) (read : result.store.read start count = .ok rows) :
    (Wide columns rows → content result request (start, count) columns =
        (Bytes.ofString (String.ofList (textUpTo result request columns rows ++
          closing request.format (count = 0))), .ok ())) ∧
      (¬ Wide columns rows → (content result request (start, count) columns).2 = .error narrowRow) := by
  obtain ⟨done, rest, parts, cut, reads, wide, stop, text⟩ := content_stops holds inside request columns
  have tiles := tiles_chunks start count
  have length := total_chunks start count
  rw [cut] at tiles length
  rw [← length, read_iff_rest holds tiles reads] at read
  obtain ⟨behind, restRead, rfl⟩ := read
  generalize content result request (start, count) columns = file at stop text ⊢
  obtain ⟨bytes, outcome⟩ := file
  have onward := (tiles_append.mp tiles).2
  dsimp only at stop
  -- All rows can be read, so the file is finished or meets a narrow row.
  cases stop with
  | finished =>
    obtain rfl : [] = behind := by simpa [holds.read_eq_ok_iff] using restRead
    rw [List.append_nil]
    exact ⟨fun _ => by rw [show bytes = _ from text], fun narrow => absurd wide narrow⟩
  | unread failed =>
    obtain ⟨all, allRead, -⟩ := (reads_iff holds onward behind).mp restRead
    obtain ⟨part, more, read, -, rfl⟩ := List.forall₂_cons_left_iff.mp allRead
    rw [failed] at read
    cases read
  | narrow read narrow =>
    obtain ⟨all, allRead, rfl⟩ := (reads_iff holds onward behind).mp restRead
    obtain ⟨part, more, again, -, rfl⟩ := List.forall₂_cons_left_iff.mp allRead
    rw [read] at again
    cases again
    refine ⟨fun allWide => ?_, fun _ => rfl⟩
    rw [List.flatten_cons, wide_append, wide_append] at allWide
    exact absurd allWide.2.1 narrow

end Export

end SqlDesk
