import Mathlib
import SqlDesk.Proofs.Json.Collect
import SqlDesk.Proofs.Json.ReadBack
import SqlDesk.Proofs.ResultSet.Export

/-!
Files of objects. The file of a complete result is read back as an array with an object for each
selected row, in order (`ResultSet.saved_json`). An object has its columns as members, by their display
names, but a name has room for one value: of columns with one name, the object holds the last, at the
place of the first. A row is whole in its object exactly if the names of its columns differ
(`saved_objects_keep_last_columns`).

Floats are left out, as their text is rounded.
-/

set_option autoImplicit false

namespace SqlDesk

def Cell.isFloat : Cell → Bool
  | float32 _ | float64 _ => true
  | _ => false

theorem Cell.isExact_toJson {cell : Cell} (exact : cell.isFloat = false) (depth : Nat) :
    cell.toJson.isExact depth = true := by
  cases cell with
  | float32 bits | float64 bits => cases exact
  | null | boolean value | text value | bytes value => simp [toJson, Json.isExact]
  | int16 value =>
    have least := value.le_toInt
    have most := value.toInt_lt
    exact Json.isExact_integer (by omega) (by omega) depth
  | int32 value =>
    have least := value.le_toInt
    have most := value.toInt_lt
    exact Json.isExact_integer (by omega) (by omega) depth
  | int64 value => exact Json.isExact_integer value.le_toInt value.toInt_lt depth

namespace Export

/-- The selected cells of a row, by the display names of their columns. -/
def rowMembers (request : SaveRequest) (columns : List Column) (row : Row) : List (String × Json) :=
  ((selected request.firstColumn request.lastColumn columns).map Column.displayName).zip
    ((selected request.firstColumn request.lastColumn row).map Cell.toJson)

def rowJson (request : SaveRequest) (columns : List Column) (row : Row) : Json :=
  .object (Json.collect (rowMembers request columns row))

def lineStart : List Char := ['\n', ' ', ' ']

def jsonText (request : SaveRequest) (columns : List Column) (rows : List Row) : List Char :=
  '[' :: Json.series lineStart ['\n'] ']' (rows.map fun row => (rowJson request columns row).chars) ++
    ['\n']

theorem rowTexts_json (names : List String) (rows : List (List Cell)) :
    rowTexts .json names false rows =
      rows.flatMap fun cells => ',' :: (lineStart ++ (rowObject names cells).chars) := by
  induction rows with
  | nil => rfl
  | cons cells rest ih => simp [rowTexts, rowText, ih, lineStart]

theorem content_json {result : ResultSet} {stored rows : List Row} {request : SaveRequest}
    (holds : result.store.Holds stored) (json : request.format = .json)
    (valid : Selects request.firstColumn request.lastColumn result.columns.length)
    {start count : Nat} (read : result.store.read start count = .ok rows)
    (whole : rows.length = count) (wide : ∀ row ∈ rows, row.length = result.columns.length) :
    content result request (start, count) (request.firstColumn.getD 0,
        request.lastColumn.getD (result.columns.length - 1) - request.firstColumn.getD 0 + 1) =
      (Bytes.ofString (String.ofList (jsonText request result.columns rows)), .ok ()) := by
  rw [content_eq holds valid read whole wide rfl, json]
  cases rows with
  | nil =>
    subst whole
    rfl
  | cons row rest =>
    -- The comma in front of a row is the one behind the row before it.
    have some : count ≠ 0 := by
      rw [← whole, List.length_cons]
      omega
    rw [jsonText, List.map_cons, Json.series_eq, cut, List.map_cons, rowTexts, rowTexts_json]
    simp [opening, closing, rowText, lineStart, List.flatMap_map, some, rowJson, rowMembers, rowObject]

theorem isExact_rowJson {request : SaveRequest} {columns : List Column} {row : Row}
    (exact : ∀ cell ∈ row, cell.isFloat = false) (depth : Nat) :
    (rowJson request columns row).isExact (depth + 1) = true := by
  simp only [rowJson, Json.isExact, List.all_eq_true]
  intro member inside
  have known : member ∈ rowMembers request columns row := Json.mem_of_mem_collect inside
  obtain ⟨cell, there, same⟩ := List.mem_map.mp (List.of_mem_zip known).2
  have stored : cell ∈ row := List.mem_of_mem_take (List.mem_of_mem_drop there)
  exact same ▸ Cell.isExact_toJson (exact cell stored) depth

theorem parseRaw?_jsonText (request : SaveRequest) (columns : List Column) {rows : List Row}
    (exact : ∀ row ∈ rows, ∀ cell ∈ row, cell.isFloat = false) :
    Json.parseRaw? (jsonText request columns rows) =
      some (.array (rows.map (rowJson request columns))) := by
  apply Json.parseRaw?_of_spells _ rfl
  intro fuel long
  have each : List.Forall₂ (Json.Spells (Json.readValue? fuel 126))
      (rows.map fun row => (rowJson request columns row).chars)
      (rows.map (rowJson request columns)) := by
    rw [List.forall₂_map_left_iff, List.forall₂_map_right_iff, List.forall₂_same]
    intro row member
    have short := Json.length_lt_series lineStart ['\n'] ']'
      (List.mem_map_of_mem (f := fun row => (rowJson request columns row).chars) member)
    simp only [List.length_cons] at long
    exact Json.spells_chars (isExact_rowJson (exact row member) 125) (by omega)
  have count := Json.count_le_series lineStart ['\n'] ']'
    (rows.map fun row => (rowJson request columns row).chars)
  simp only [List.length_cons] at long
  exact Json.spells_items rfl rfl each (by omega)

end Export

namespace ResultSet

theorem saved_json {result : ResultSet} {stored : List Row} {request : SaveRequest}
    {tree : FileTree} {location : Location} (complete : result.complete = true)
    (free : result.isSavingTo request.path = false) (holds : result.store.Holds stored)
    (json : request.format = .json)
    (lines : result.rowCount ≠ 0 → Selects request.firstRow request.lastRow result.rowCount)
    (columns : Selects request.firstColumn request.lastColumn result.columns.length)
    (served : ∀ number ∈ selected request.firstRow request.lastRow (List.range result.rowCount),
      ∃ row, result.store.Serves number row ∧ row.length = result.columns.length ∧
        ∀ cell ∈ row, cell.isFloat = false)
    (writable : tree.writable request.path = .ok location) :
    ∃ accepted saved text rows, result.beginSave request.path = .ok accepted ∧
      Export.write tree accepted request = (saved, .ok ()) ∧
      saved.read request.path = .ok (Bytes.ofString text) ∧
      List.Forall₂ result.store.Serves
        (selected request.firstRow request.lastRow (List.range result.rowCount)) rows ∧
      Json.parseRaw? text.toList =
        some (.array (rows.map (Export.rowJson request result.columns))) := by
  obtain ⟨start, count, rows, range, read, whole, each, numbers⟩ :=
    ResultSet.read_selected holds lines served
  obtain ⟨accepted, begun, store, names⟩ := ResultSet.beginSave_of_free complete free
  have counted : accepted.rowCount = result.rowCount := congrArg RowStore.published store
  have content := Export.content_json (store ▸ holds) json (names ▸ columns) (store ▸ read) whole
    fun row member => names ▸ (each row member).1
  rw [names] at content
  refine ⟨accepted, _, String.ofList (Export.jsonText request result.columns rows), rows, begun, ?_,
    FileTree.read_setFile writable _, ?_, ?_⟩
  · rw [Export.write, counted, range, names, Export.columnRange_of_valid columns]
    simp only [writable, content]
  · rw [numbers, List.forall₂_iff_get]
    refine ⟨by simp [whole], fun place _ inside => ?_⟩
    have below : place < rows.length := by simpa using inside
    simpa using holds.serves_of_read read (List.getElem?_eq_getElem below)
  · rw [String.toList_ofList]
    exact Export.parseRaw?_jsonText request result.columns fun row member => (each row member).2

end ResultSet

/-- A complete result is saved as an array of objects, for any bounds inside it, once its rows can be
read, have the width of the header and hold no floats. The file is read back as one object for each
selected row, in order. Of the cells with one name an object holds the last, where the first stands; it
holds every selected cell, in the order of the columns, exactly if the display names of the selected
columns differ. -/
theorem saved_objects_keep_last_columns {result : ResultSet} {stored : List Row}
    {request : SaveRequest} {tree : FileTree} {location : Location} (complete : result.complete = true)
    (free : result.isSavingTo request.path = false) (holds : result.store.Holds stored)
    (json : request.format = .json)
    (lines : result.rowCount ≠ 0 → Selects request.firstRow request.lastRow result.rowCount)
    (columns : Selects request.firstColumn request.lastColumn result.columns.length)
    (served : ∀ number ∈ selected request.firstRow request.lastRow (List.range result.rowCount),
      ∃ row, result.store.Serves number row ∧ row.length = result.columns.length ∧
        ∀ cell ∈ row, cell.isFloat = false)
    (writable : tree.writable request.path = .ok location) :
    ∃ accepted saved bytes text rows objects, result.beginSave request.path = .ok accepted ∧
      Export.write tree accepted request = (saved, .ok ()) ∧
      saved.read request.path = .ok bytes ∧ Bytes.toString? bytes = some text ∧
      List.Forall₂ result.store.Serves
        (selected request.firstRow request.lastRow (List.range result.rowCount)) rows ∧
      Json.parseRaw? text.toList = some (.array (objects.map Json.object)) ∧
      List.Forall₂ (fun row => Json.LastOfEach (Export.rowMembers request result.columns row)) rows
        objects := by
  obtain ⟨accepted, saved, text, rows, begun, written, read, shown, parsed⟩ :=
    ResultSet.saved_json complete free holds json lines columns served writable
  refine ⟨accepted, saved, _, text, rows,
    rows.map fun row => Json.collect (Export.rowMembers request result.columns row), begun, written,
    read, Bytes.toString?_ofString text, shown, ?_, ?_⟩
  · rw [parsed, List.map_map]
    rfl
  · rw [List.forall₂_map_right_iff, List.forall₂_same]
    exact fun row _ => Json.lastOfEach_collect _

/-- A row of which two cells have one column name, and one has none. -/
def repeatedRow : Row := [.int64 1, .int64 2, .text "x\n", .null]

def repeatedResult : ResultSet where
  store := ⟨⟨"o", 0, 0⟩, Medium.append (.file #[] #[] 0) (Row.encode repeatedRow), 1, true, none⟩
  columns := [⟨0, "a", "INTEGER", true⟩, ⟨1, "a", "INTEGER", true⟩, ⟨2, "b", "TEXT", true⟩,
    ⟨3, "", "TEXT", true⟩]
  action := ⟨false, false, false⟩
  complete := true
  saves := []

def wholeRequest : SaveRequest := ⟨"a", .json, none, none, none, none, true⟩

theorem holds_repeatedResult : repeatedResult.store.Holds [repeatedRow] where
  isOpen := rfl
  published := rfl
  medium := by
    have empty : Medium.Keeps [] (.file #[] #[] 0) := ⟨rfl, rfl, rfl⟩
    exact empty.append _

theorem served_repeatedResult : ∀ number ∈ selected none none (List.range 1),
    ∃ row, repeatedResult.store.Serves number row ∧ row.length = 4 ∧
      ∀ cell ∈ row, cell.isFloat = false := by
  intro number member
  obtain rfl : number = 0 := by simpa [selected, List.range, List.range.loop] using member
  have fits : repeatedRow.Fits := by decide
  exact ⟨_, holds_repeatedResult.serves_of_fits rfl fits, rfl, by decide⟩

theorem saved_objects_keep_last_columns_repeated :
    repeatedResult.complete = true ∧ repeatedResult.isSavingTo "a" = false ∧
      repeatedResult.store.Holds [repeatedRow] ∧ wholeRequest.format = .json ∧
      Selects none none 1 ∧ Selects none none 4 ∧
      (∀ number ∈ selected none none (List.range 1),
        ∃ row, repeatedResult.store.Serves number row ∧ row.length = 4 ∧
          ∀ cell ∈ row, cell.isFloat = false) ∧
      (FileTree.mk [] [] []).writable "a" = .ok ["a"] ∧
      ∃ accepted saved bytes text rows objects, repeatedResult.beginSave "a" = .ok accepted ∧
        Export.write ⟨[], [], []⟩ accepted wholeRequest = (saved, .ok ()) ∧
        saved.read "a" = .ok bytes ∧ Bytes.toString? bytes = some text ∧
        List.Forall₂ repeatedResult.store.Serves [0] rows ∧
        Json.parseRaw? text.toList = some (.array (objects.map Json.object)) ∧
        List.Forall₂ (fun row =>
          Json.LastOfEach (Export.rowMembers wholeRequest repeatedResult.columns row)) rows objects := by
  have lines : Selects none none 1 := by decide
  have columns : Selects none none 4 := by decide
  refine ⟨rfl, rfl, holds_repeatedResult, rfl, lines, columns, served_repeatedResult,
    writable_in_empty, ?_⟩
  exact @saved_objects_keep_last_columns repeatedResult [repeatedRow] wholeRequest ⟨[], [], []⟩ ["a"]
    rfl rfl holds_repeatedResult rfl (fun _ => lines) columns served_repeatedResult writable_in_empty

/-- The first of two columns with one name is not in the file: four columns are selected, and the
object of the row has three members. -/
theorem repeated_column_is_lost : ∃ accepted saved text,
    repeatedResult.beginSave "a" = .ok accepted ∧
      Export.write ⟨[], [], []⟩ accepted wholeRequest = (saved, .ok ()) ∧
      saved.read "a" = .ok (Bytes.ofString text) ∧
      Export.rowMembers wholeRequest repeatedResult.columns repeatedRow =
        [("a", .integer 1), ("a", .integer 2), ("b", .string "x\n"), ("(No column name)", .null)] ∧
      Json.parseRaw? text.toList = some (.array [.object
        [("a", .integer 2), ("b", .string "x\n"), ("(No column name)", .null)]]) ∧
      Json.parseRaw? text.toList ≠ some (.array [.object
        (Export.rowMembers wholeRequest repeatedResult.columns repeatedRow)]) := by
  have lines : Selects none none 1 := by decide
  have columns : Selects none none 4 := by decide
  obtain ⟨accepted, saved, text, rows, begun, written, read, shown, parsed⟩ :=
    @ResultSet.saved_json repeatedResult [repeatedRow] wholeRequest ⟨[], [], []⟩ ["a"] rfl rfl
      holds_repeatedResult rfl (fun _ => lines) columns served_repeatedResult writable_in_empty
  have numbers : List.Forall₂ repeatedResult.store.Serves [0] rows := shown
  obtain ⟨row, rest, there, none, rfl⟩ := List.forall₂_cons_left_iff.mp numbers
  obtain rfl : rest = [] := List.forall₂_nil_left_iff.mp none
  have fits : repeatedRow.Fits := by decide
  obtain rfl := (holds_repeatedResult.serves_of_fits rfl fits).unique there
  have members : Export.rowMembers wholeRequest repeatedResult.columns repeatedRow =
    [("a", .integer 1), ("a", .integer 2), ("b", .string "x\n"), ("(No column name)", .null)] := rfl
  have object : Json.parseRaw? text.toList = some (.array [.object
      [("a", .integer 2), ("b", .string "x\n"), ("(No column name)", .null)]]) := parsed
  refine ⟨accepted, saved, text, begun, written, read, members, object, ?_⟩
  rw [object, members]
  simp

end SqlDesk
