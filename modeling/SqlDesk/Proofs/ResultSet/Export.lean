import Mathlib
import SqlDesk.Proofs.ResultSet.Chunks
import SqlDesk.Proofs.ResultSet.Csv
import SqlDesk.Proofs.ResultSet.Trees

/-!
Files of comma separated values and the windows of a grid are two ways to look at the same rows.

What a grid shows of a row depends on the row alone (`ResultSet.shows_iff`), whichever window it is
asked in. A file is written in chunks through a buffer, and comes to the records of the selected rows,
one behind the other (`Export.content_csv`). Read by the grammar it gives these records and no others
(`saved_records_are_shown`).
-/

set_option autoImplicit false

namespace SqlDesk

/-- The items between two bounds, both included. A missing bound is the first item or the last. -/
def selected {α : Type} (first last : Option Nat) (items : List α) : List α :=
  (items.take (last.getD (items.length - 1) + 1)).drop (first.getD 0)

def Selects (first last : Option Nat) (count : Nat) : Prop :=
  first.getD 0 ≤ last.getD (count - 1) ∧ last.getD (count - 1) < count

instance (first last : Option Nat) (count : Nat) : Decidable (Selects first last count) :=
  inferInstanceAs (Decidable (_ ∧ _))

theorem selected_eq_range {α : Type} {first last : Option Nat} {items : List α}
    (valid : Selects first last items.length) :
    selected first last items =
      (items.drop (first.getD 0)).take (last.getD (items.length - 1) - first.getD 0 + 1) := by
  obtain ⟨ordered, -⟩ := valid
  rw [selected, List.drop_take]
  congr 1
  omega

theorem selected_range {first last : Option Nat} {count : Nat} (valid : Selects first last count) :
    selected first last (List.range count) =
      (List.range (last.getD (count - 1) - first.getD 0 + 1)).map (first.getD 0 + ·) := by
  have inside : Selects first last (List.range count).length := by simpa using valid
  obtain ⟨ordered, below⟩ := valid
  rw [selected_eq_range inside, List.length_range]
  apply List.ext_getElem
  · simp only [List.length_take, List.length_drop, List.length_map, List.length_range]
    omega
  · simp

theorem map_selected {α β : Type} (f : α → β) (first last : Option Nat) (items : List α) :
    (selected first last items).map f = selected first last (items.map f) := by
  simp [selected, List.map_drop, List.map_take]

/-! ## What a grid shows of a row -/

namespace ResultSet

/-- A window that is answered shows the row with a number, as the given cells. -/
def Shows (result : ResultSet) (number : Nat) (cells : List ShownCell) : Prop :=
  ∃ (start count : Int) (window : Window) (place : Nat), result.window start count = .ok window ∧
    start.toNat + place = number ∧ window.rows[place]? = some cells

theorem window_eq_ok {result : ResultSet} {start count : Int} {window : Window}
    (answered : result.window start count = .ok window) :
    ∃ rows, result.store.read start.toNat (min count.toNat (result.rowCount - start.toNat)) =
        .ok rows ∧
      window.rows = (rows.zipIdx start.toNat).map fun (row, rowId) => shownRow rowId row := by
  unfold ResultSet.window at answered
  split at answered
  · cases answered
  · simp only at answered
    split at answered
    · cases answered
    · rename_i rows read
      cases answered
      exact ⟨rows, read, rfl⟩

theorem window_of_serves {result : ResultSet} {number : Nat} {row : Row}
    (inside : number < result.rowCount) (served : result.store.Serves number row) :
    result.window number 1 = .ok ⟨1, [shownRow number row]⟩ := by
  have one : min (Int.toNat 1) (result.rowCount - number) = 1 := by
    simp only [Int.toNat_one]
    omega
  have valid : ¬((number : Int) < 0 ∨ (1 : Int) ≤ 0 ∨ result.rowCount ≤ (number : Int).toNat) := by
    simp only [Int.toNat_natCast]
    omega
  have read : result.store.read number 1 = .ok [row] := served
  rw [ResultSet.window, if_neg valid]
  simp only [Int.toNat_natCast, one, read]
  rfl

theorem shows_iff {result : ResultSet} {stored : List Row} (holds : result.store.Holds stored)
    (number : Nat) (cells : List ShownCell) :
    result.Shows number cells ↔
      ∃ row, result.store.Serves number row ∧ cells = shownRow number row := by
  constructor
  · rintro ⟨start, count, window, place, answered, rfl, found⟩
    obtain ⟨rows, read, shown⟩ := window_eq_ok answered
    rw [shown, List.getElem?_map, List.getElem?_zipIdx, Option.map_map] at found
    obtain ⟨row, there, same⟩ := Option.map_eq_some_iff.mp found
    exact ⟨row, holds.serves_of_read read there, by simpa [Nat.add_comm] using same.symm⟩
  · -- A window of this row alone shows it.
    rintro ⟨row, served, rfl⟩
    have inside : number < result.rowCount := by
      have found := (holds.serves_iff number row).mp served
      obtain ⟨other, there, -⟩ := Option.map_eq_some_iff.mp found
      obtain ⟨below, -⟩ := List.getElem?_eq_some_iff.mp there
      exact below.trans_eq holds.published.symm
    exact ⟨number, 1, _, 0, window_of_serves inside served, by simp, rfl⟩

end ResultSet

/-! ## What a file comes to -/

namespace Export

theorem columnRange_of_valid {request : SaveRequest} {count : Nat}
    (valid : Selects request.firstColumn request.lastColumn count) :
    columnRange request count = .ok (request.firstColumn.getD 0,
      request.lastColumn.getD (count - 1) - request.firstColumn.getD 0 + 1) := by
  obtain ⟨ordered, below⟩ := valid
  rw [columnRange, if_neg (by omega)]

def cut (request : SaveRequest) (rows : List Row) : List (List Cell) :=
  rows.map (selected request.firstColumn request.lastColumn)

theorem cellsIn_of_valid {request : SaveRequest} {row : Row}
    (valid : Selects request.firstColumn request.lastColumn row.length) :
    cellsIn (request.firstColumn.getD 0,
      request.lastColumn.getD (row.length - 1) - request.firstColumn.getD 0 + 1) row =
        selected request.firstColumn request.lastColumn row := (selected_eq_range valid).symm

/-- A file is its opening, the texts of the selected rows and its closing, whatever its format. -/
theorem content_eq {result : ResultSet} {stored rows : List Row} {request : SaveRequest}
    (holds : result.store.Holds stored)
    (valid : Selects request.firstColumn request.lastColumn result.columns.length)
    {start count : Nat} (read : result.store.read start count = .ok rows)
    (whole : rows.length = count) (wide : ∀ row ∈ rows, row.length = result.columns.length)
    {names : List String}
    (named : names = (selected request.firstColumn request.lastColumn result.columns).map
      Column.displayName) :
    content result request (start, count) (request.firstColumn.getD 0,
        request.lastColumn.getD (result.columns.length - 1) - request.firstColumn.getD 0 + 1) =
      (Bytes.ofString (String.ofList (opening request.format request.headers names ++
        rowTexts request.format names true (cut request rows) ++
          closing request.format (count = 0))), .ok ()) := by
  have inside : count ≤ stored.length - start := by
    have length := congrArg List.length ((holds.read_eq_ok_iff _ _ _).mp read)
    simp only [List.length_map, List.length_take, List.length_drop] at length
    omega
  -- Every row is as wide as the header, so it has the columns that the header has.
  have covered : Wide (request.firstColumn.getD 0,
      request.lastColumn.getD (result.columns.length - 1) - request.firstColumn.getD 0 + 1) rows := by
    obtain ⟨ordered, below⟩ := valid
    intro row member
    rw [wide row member]
    omega
  have cells : rows.map (cellsIn (request.firstColumn.getD 0,
      request.lastColumn.getD (result.columns.length - 1) - request.firstColumn.getD 0 + 1)) =
        cut request rows := by
    apply List.map_congr_left
    intro row member
    rw [← wide row member] at valid ⊢
    exact cellsIn_of_valid valid
  rw [(content_of_read holds inside request _ read).1 covered, textUpTo, cells, named,
    selected_eq_range valid]
  rfl

/-! ## Comma separated values -/

def record (request : SaveRequest) (row : Row) : List (List Char) :=
  (selected request.firstColumn request.lastColumn row).map fun cell => cell.display.toList

theorem rowTexts_csv (names : List String) (isFirst : Bool) (rows : List (List Cell)) :
    rowTexts .csv names isFirst rows =
      rows.flatMap fun cells => Csv.writeRecord (cells.map fun cell => cell.display.toList) := by
  induction rows generalizing isFirst with
  | nil => rfl
  | cons cells rest ih => simp [rowTexts, rowText, ih]

def header (request : SaveRequest) (columns : List Column) : List (List (List Char)) :=
  if request.headers then
    [(selected request.firstColumn request.lastColumn columns).map fun column =>
      column.displayName.toList]
  else []

def csvText (request : SaveRequest) (columns : List Column) (rows : List Row) : List Char :=
  (header request columns ++ rows.map (record request)).flatMap Csv.writeRecord

theorem content_csv {result : ResultSet} {stored rows : List Row} {request : SaveRequest}
    (holds : result.store.Holds stored) (csv : request.format = .csv)
    (valid : Selects request.firstColumn request.lastColumn result.columns.length)
    {start count : Nat} (read : result.store.read start count = .ok rows)
    (whole : rows.length = count) (wide : ∀ row ∈ rows, row.length = result.columns.length) :
    content result request (start, count) (request.firstColumn.getD 0,
        request.lastColumn.getD (result.columns.length - 1) - request.firstColumn.getD 0 + 1) =
      (Bytes.ofString (String.ofList (csvText request result.columns rows)), .ok ()) := by
  have top : opening .csv request.headers
      ((selected request.firstColumn request.lastColumn result.columns).map Column.displayName) =
        (header request result.columns).flatMap Csv.writeRecord := by
    cases asked : request.headers <;> simp [opening, header, asked, Function.comp_def]
  have nothing : closing .csv (decide (count = 0)) = [] := rfl
  rw [content_eq holds valid read whole wide rfl, csv, top, nothing, rowTexts_csv]
  simp [csvText, cut, record, List.flatMap_map]

end Export

/-! ## A file that has been written is there -/

namespace FileTree

theorem step_setFile {tree : FileTree} {here next : Location} {name : String}
    (stepped : tree.step here name = .ok next) (location : Location) (content : Bytes) :
    (tree.setFile location content).step here name = .ok next := by
  have same : (tree.setFile location content).isDirectoryAt here = tree.isDirectoryAt here := rfl
  unfold step at stepped ⊢
  rw [same]
  split at stepped
  · cases stepped
  · rename_i directory
    rw [if_neg directory]
    exact stepped

theorem resolve_setFile {tree : FileTree} {path : String} {found : Location}
    (resolved : tree.resolve path = .ok found) (location : Location) (content : Bytes) :
    (tree.setFile location content).resolve path = .ok found := by
  -- The walk looks at directories alone.
  have walk : ∀ (names : List String) (here : Location), names.foldlM tree.step here = .ok found →
      names.foldlM (tree.setFile location content).step here = .ok found := by
    intro names
    induction names with
    | nil => exact fun _ walked => walked
    | cons name rest ih =>
      intro here walked
      rw [List.foldlM_cons] at walked ⊢
      cases stepped : tree.step here name with
      | error error => simp [stepped, bind, Except.bind] at walked
      | ok next =>
        rw [step_setFile stepped]
        rw [stepped] at walked
        exact ih next walked
  unfold resolve at resolved ⊢
  split_ifs at resolved ⊢ with nul empty long absolute
  · exact walk _ _ resolved
  · exact walk _ _ resolved

theorem read_setFile {tree : FileTree} {path : String} {location : Location}
    (writable : tree.writable path = .ok location) (content : Bytes) :
    (tree.setFile location content).read path = .ok content := by
  have there : (tree.setFile location content).contentAt? location = some content := by
    rw [contentAt?_setFile, if_pos rfl]
  unfold FileTree.writable at writable
  cases resolved : tree.resolve path with
  | error error => simp [resolved, bind, Except.bind] at writable
  | ok found =>
    simp only [resolved, bind, Except.bind] at writable
    split at writable
    · cases writable
    · rename_i free
      cases writable
      have plain : endsWithSlash path = false := by simp_all
      simp [FileTree.read, resolve_setFile resolved, there, plain, bind, Except.bind]

end FileTree

/-! ## A saved file and the grid agree -/

namespace ResultSet

/-- The rows of a result that a request selects, if each of them can be read. -/
theorem read_selected {result : ResultSet} {stored : List Row} (holds : result.store.Holds stored)
    {request : SaveRequest}
    (lines : result.rowCount ≠ 0 → Selects request.firstRow request.lastRow result.rowCount)
    {Allowed : Row → Prop}
    (served : ∀ number ∈ selected request.firstRow request.lastRow (List.range result.rowCount),
      ∃ row, result.store.Serves number row ∧ Allowed row) :
    ∃ start count rows, Export.rowRange request result.rowCount = .ok (start, count) ∧
      result.store.read start count = .ok rows ∧ rows.length = count ∧
      (∀ row ∈ rows, Allowed row) ∧
      selected request.firstRow request.lastRow (List.range result.rowCount) =
        (List.range count).map (start + ·) := by
  -- The bounds of an empty result are not looked at.
  by_cases none : result.rowCount = 0
  · refine ⟨0, 0, [], by simp [Export.rowRange, none], ?_, rfl, by simp, ?_⟩
    · rw [holds.read_eq_ok_iff]
      simp
    · simp [none, selected]
  · have valid := lines none
    have numbers := selected_range valid
    obtain ⟨ordered, below⟩ := valid
    have inside : request.firstRow.getD 0 + (request.lastRow.getD (result.rowCount - 1) -
        request.firstRow.getD 0 + 1) ≤ stored.length := by
      have all : result.rowCount = stored.length := holds.published
      omega
    obtain ⟨rows, read, whole, wide⟩ := holds.read_of_serves inside fun number above beneath =>
      served number (by
        rw [numbers, List.mem_map]
        exact ⟨number - request.firstRow.getD 0, by rw [List.mem_range]; omega, by omega⟩)
    exact ⟨_, _, rows, by rw [Export.rowRange, if_neg none, if_neg (by omega)], read, whole, wide,
      numbers⟩

end ResultSet

theorem ResultSet.beginSave_of_free {result : ResultSet} {path : String}
    (complete : result.complete = true) (free : result.isSavingTo path = false) :
    ∃ accepted, result.beginSave path = .ok accepted ∧ accepted.store = result.store ∧
      accepted.columns = result.columns := by
  refine ⟨{ result with saves := FileTree.components path :: result.saves }, ?_, rfl, rfl⟩
  simp [beginSave, complete, free]

theorem shown_record (request : SaveRequest) (rows : List Row) (start : Nat) :
    ((rows.zipIdx start).map fun (row, rowId) => ResultSet.shownRow rowId row).map
        (fun cells => (selected request.firstColumn request.lastColumn cells).map
          fun cell => cell.text.toList) = rows.map (Export.record request) := by
  have each (row : Row) (rowId : Nat) :
      (selected request.firstColumn request.lastColumn (ResultSet.shownRow rowId row)).map
        (fun cell => cell.text.toList) = Export.record request row := by
    simp [ResultSet.shownRow, Export.record, map_selected, Function.comp_def]
  rw [List.map_map, ← List.zipIdx_map_fst start rows, List.map_map, List.zipIdx_map_fst]
  exact List.map_congr_left fun entry _ => each entry.1 entry.2

theorem records_filled {request : SaveRequest} {columns : List Column} {rows : List Row}
    (valid : Selects request.firstColumn request.lastColumn columns.length)
    (wide : ∀ row ∈ rows, row.length = columns.length) :
    ∀ record ∈ Export.header request columns ++ rows.map (Export.record request), record ≠ [] := by
  have some {α : Type} {items : List α}
      (there : Selects request.firstColumn request.lastColumn items.length) :
      selected request.firstColumn request.lastColumn items ≠ [] := by
    rw [selected_eq_range there, ← List.length_pos_iff]
    obtain ⟨ordered, below⟩ := there
    simp only [List.length_take, List.length_drop]
    omega
  intro record member
  rcases List.mem_append.mp member with top | below
  · unfold Export.header at top
    split at top
    · rw [List.mem_singleton.mp top]
      simpa using some valid
    · cases top
  · obtain ⟨row, inside, rfl⟩ := List.mem_map.mp below
    simpa [Export.record] using some (wide row inside ▸ valid)

/-- A complete result is saved as comma separated values, for any bounds inside it, once its rows can
be read and have the width of the header. The file, read by the grammar, holds the header if it was
asked for, and then a record for each selected row with the texts that a grid shows for its cells:
whatever window a row is asked in, it is shown as these cells and no others. -/
theorem saved_records_are_shown {result : ResultSet} {stored : List Row} {request : SaveRequest}
    {tree : FileTree} {location : Location} (complete : result.complete = true)
    (free : result.isSavingTo request.path = false) (holds : result.store.Holds stored)
    (csv : request.format = .csv)
    (lines : result.rowCount ≠ 0 → Selects request.firstRow request.lastRow result.rowCount)
    (columns : Selects request.firstColumn request.lastColumn result.columns.length)
    (served : ∀ number ∈ selected request.firstRow request.lastRow (List.range result.rowCount),
      ∃ row, result.store.Serves number row ∧ row.length = result.columns.length)
    (writable : tree.writable request.path = .ok location) :
    ∃ accepted saved bytes text shown, result.beginSave request.path = .ok accepted ∧
      Export.write tree accepted request = (saved, .ok ()) ∧
      saved.read request.path = .ok bytes ∧ Bytes.toString? bytes = some text ∧
      List.Forall₂ (fun number cells => ∀ other, result.Shows number other ↔ other = cells)
        (selected request.firstRow request.lastRow (List.range result.rowCount)) shown ∧
      ∀ records, Csv.File records text.toList ↔
        records = Export.header request result.columns ++
          shown.map fun cells => (selected request.firstColumn request.lastColumn cells).map
            fun cell => cell.text.toList := by
  obtain ⟨start, count, rows, range, read, whole, wide, numbers⟩ :=
    ResultSet.read_selected holds lines served
  obtain ⟨accepted, begun, store, names⟩ := ResultSet.beginSave_of_free complete free
  have counted : accepted.rowCount = result.rowCount := congrArg RowStore.published store
  have content := Export.content_csv (store ▸ holds) csv (names ▸ columns) (store ▸ read) whole
    (names ▸ wide)
  rw [names] at content
  have file := Csv.file_writeRecords (records_filled columns wide)
  refine ⟨accepted, _, _, String.ofList (Export.csvText request result.columns rows),
    (rows.zipIdx start).map fun (row, rowId) => ResultSet.shownRow rowId row, begun, ?_,
    FileTree.read_setFile writable _, Bytes.toString?_ofString _, ?_, ?_⟩
  · rw [Export.write, counted, range, names, Export.columnRange_of_valid columns]
    simp only [writable, content]
  · rw [numbers, List.forall₂_iff_get]
    refine ⟨by simp [whole], fun place _ inside other => ?_⟩
    have below : place < rows.length := by simpa using inside
    have here : result.store.Serves (start + place) rows[place] :=
      holds.serves_of_read read (List.getElem?_eq_getElem below)
    have shown : ((rows.zipIdx start).map fun (row, rowId) => ResultSet.shownRow rowId row).get
        ⟨place, inside⟩ = ResultSet.shownRow (start + place) rows[place] := by simp
    rw [shown, List.get_eq_getElem, List.getElem_map, List.getElem_range, ResultSet.shows_iff holds]
    constructor
    · rintro ⟨row, there, rfl⟩
      rw [here.unique there]
    · exact fun same => ⟨_, here, same⟩
  · intro records
    rw [shown_record, String.toList_ofList]
    exact ⟨fun again => again.unique file, fun same => same ▸ file⟩

theorem writable_in_empty : (FileTree.mk [] [] []).writable "a" = .ok ["a"] := by
  have name : FileTree.pieces "a" = ["a"] := by cbv
  simp only [FileTree.writable, FileTree.resolve, name]
  rfl

/-- Rows with separators, quotes and line characters, and one with an empty text. -/
def quotedRows : List Row :=
  [[.int64 1, .text "a,b"], [.int64 2, .text "say \"hi\"\r\n"], [.null, .text ""]]

def quotedResult : ResultSet where
  store := ⟨⟨"o", 0, 0⟩, quotedRows.foldl (fun medium row => medium.append (Row.encode row))
    (.file #[] #[] 0), 3, true, none⟩
  columns := [⟨0, "n", "INTEGER", true⟩, ⟨1, "", "TEXT", true⟩]
  action := ⟨false, false, false⟩
  complete := true
  saves := []

def quotedRequest : SaveRequest := ⟨"a", .csv, some 1, none, some 1, none, true⟩

theorem holds_quotedResult : quotedResult.store.Holds quotedRows where
  isOpen := rfl
  published := rfl
  medium := by
    have empty : Medium.Keeps [] (.file #[] #[] 0) := ⟨rfl, rfl, rfl⟩
    exact ((empty.append _).append _).append _

theorem saved_records_are_shown_quoted :
    quotedResult.complete = true ∧ quotedResult.isSavingTo "a" = false ∧
      quotedResult.store.Holds quotedRows ∧ quotedRequest.format = .csv ∧
      Selects (some 1) none 3 ∧ Selects (some 1) none 2 ∧
      (∀ number ∈ selected (some 1) none (List.range 3),
        ∃ row, quotedResult.store.Serves number row ∧ row.length = 2) ∧
      (FileTree.mk [] [] []).writable "a" = .ok ["a"] ∧
      ∃ accepted saved bytes text shown, quotedResult.beginSave "a" = .ok accepted ∧
        Export.write ⟨[], [], []⟩ accepted quotedRequest = (saved, .ok ()) ∧
        saved.read "a" = .ok bytes ∧ Bytes.toString? bytes = some text ∧
        List.Forall₂ (fun number cells => ∀ other, quotedResult.Shows number other ↔ other = cells)
          [1, 2] shown ∧
        ∀ records, Csv.File records text.toList ↔
          records = ["(No column name)".toList] ::
            shown.map fun cells => (selected (some 1) none cells).map fun cell => cell.text.toList := by
  have served : ∀ number ∈ selected (some 1) none (List.range 3),
      ∃ row, quotedResult.store.Serves number row ∧ row.length = 2 := by
    have fit : ∀ row ∈ quotedRows, row.Fits := by decide
    intro number member
    have which : number = 1 ∨ number = 2 := by simpa [selected, List.range, List.range.loop] using member
    rcases which with rfl | rfl
    · exact ⟨_, holds_quotedResult.serves_of_fits rfl (fit _ (by decide)), rfl⟩
    · exact ⟨_, holds_quotedResult.serves_of_fits rfl (fit _ (by decide)), rfl⟩
  have lines : Selects (some 1) none 3 := by decide
  have columns : Selects (some 1) none 2 := by decide
  refine ⟨rfl, rfl, holds_quotedResult, rfl, lines, columns, served, writable_in_empty, ?_⟩
  exact @saved_records_are_shown quotedResult quotedRows quotedRequest ⟨[], [], []⟩ ["a"] rfl rfl
    holds_quotedResult rfl (fun _ => lines) columns served writable_in_empty

end SqlDesk
