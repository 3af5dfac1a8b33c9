import SqlDesk.Cell
import SqlDesk.Json.Basic
import SqlDesk.Json.Printer
import SqlDesk.ResultSet

/-! Writing the rows of a result to a file, by ranges of rows and columns, as comma separated values
or as a JSON array with an object per row. Ranges are checked before the file is touched; rows are
read and written in chunks. -/

set_option autoImplicit false

/-! The JSON value of a cell. Binary cells and floats that are no numbers stand as their text. -/

namespace SqlDesk.Cell

def floatJson (bits : UInt64) : Json :=
  match Decimal.binary64.decode bits.toNat with
  | .finite .. => .float bits
  | _ => .string (float64 bits).display

def toJson : Cell → Json
  | null => .null
  | boolean value => .bool value
  | int16 value => .integer value.toInt
  | int32 value => .integer value.toInt
  | int64 value => .integer value.toInt
  | float32 bits =>
    floatJson (UInt64.ofNat (Decimal.convert Decimal.binary32 Decimal.binary64 bits.toNat))
  | float64 bits => floatJson bits
  | text value => .string value
  | bytes value => .string (bytes value).display

end SqlDesk.Cell

/-! Comma separated values after RFC 4180: records end with a carriage return and a line feed, and a
field is quoted when it holds a comma, a quote or a line character; inside quotes a quote is written
twice. A record of one empty field is written as a pair of quotes, so that it is not a blank line. -/

namespace SqlDesk.Csv

def needsQuotes (field : List Char) : Bool :=
  field.any fun c => c = ',' || c = '"' || c = '\r' || c = '\n'

def doubled (field : List Char) : List Char :=
  field.flatMap fun c => if c = '"' then ['"', '"'] else [c]

def writeField (field : List Char) : List Char :=
  if needsQuotes field then '"' :: doubled field ++ ['"'] else field

def writeFields (fields : List (List Char)) : List Char := [','].intercalate (fields.map writeField)

def writeRecord (fields : List (List Char)) : List Char :=
  (if fields = [[]] then ['"', '"'] else writeFields fields) ++ ['\r', '\n']

end SqlDesk.Csv

/-! Ranges, chunks and the file. -/

namespace SqlDesk

inductive SaveFormat where
  | csv
  | json
  deriving DecidableEq, Repr

/-- What to save and where. Bounds count from zero and are included; a missing one is the first or
the last. -/
structure SaveRequest where
  path : String
  format : SaveFormat
  firstRow : Option Nat
  lastRow : Option Nat
  firstColumn : Option Nat
  lastColumn : Option Nat
  headers : Bool
  deriving DecidableEq, Repr

namespace Export

def chunkRows : Nat := 1000

def rowRange (request : SaveRequest) (count : Nat) : Except ResultSetError (Nat × Nat) :=
  if count = 0 then .ok (0, 0)
  else
    let first := request.firstRow.getD 0
    let last := request.lastRow.getD (count - 1)
    if last < first ∨ count ≤ last then
      .error (.invalidSaveRange s!"rows {first}..={last} of {count}")
    else .ok (first, last - first + 1)

/-- First number and length of the columns to save; there is at least one. -/
def columnRange (request : SaveRequest) (count : Nat) : Except ResultSetError (Nat × Nat) :=
  let first := request.firstColumn.getD 0
  let last := request.lastColumn.getD (count - 1)
  if count = 0 ∨ last < first ∨ count ≤ last then
    .error (.invalidSaveRange s!"columns {first}..={last} of {count}")
  else .ok (first, last - first + 1)

def slice? {α : Type} (range : Nat × Nat) (items : List α) : Option (List α) :=
  if range.1 + range.2 ≤ items.length then some ((items.drop range.1).take range.2) else none

def narrowRow : ResultSetError := .invalidSaveRange "row is narrower than columns"

/-- The object of a row; of equal names the first place and the last value count. -/
def rowObject (names : List String) (cells : List Cell) : Json :=
  .object (Json.collect (names.zip (cells.map Cell.toJson)))

def opening (format : SaveFormat) (headers : Bool) (names : List String) : List Char :=
  match format with
  | .csv => if headers then Csv.writeRecord (names.map String.toList) else []
  | .json => ['[']

def rowText (format : SaveFormat) (names : List String) (isFirst : Bool) (cells : List Cell) :
    List Char :=
  match format with
  | .csv => Csv.writeRecord (cells.map fun cell => cell.display.toList)
  | .json =>
    (if isFirst then [] else [',']) ++ ['\n', ' ', ' '] ++ (rowObject names cells).chars

def rowTexts (format : SaveFormat) (names : List String) (isFirst : Bool) :
    List (List Cell) → List Char
  | [] => []
  | cells :: rest => rowText format names isFirst cells ++ rowTexts format names false rest

def closing (format : SaveFormat) (isEmpty : Bool) : List Char :=
  match format with
  | .csv => []
  | .json => if isEmpty then [']', '\n'] else ['\n', ']', '\n']

/-- A file being written: what has reached it and what is held back. -/
structure Draft where
  written : Bytes
  held : Bytes
  deriving DecidableEq

/-- Most bytes that are held back. -/
def bufferSize : Nat := 8192

def Draft.empty : Draft := ⟨[], []⟩

def Draft.add (draft : Draft) (text : List Char) : Draft :=
  let data := Bytes.ofString (String.ofList text)
  let draft :=
    if bufferSize < draft.held.length + data.length then ⟨draft.written ++ draft.held, []⟩ else draft
  if bufferSize ≤ data.length then ⟨draft.written ++ data, draft.held⟩
  else ⟨draft.written, draft.held ++ data⟩

def Draft.flush (draft : Draft) : Draft := ⟨draft.written ++ draft.held, []⟩

def chunks (start count : Nat) : List (Nat × Nat) :=
  if count = 0 then []
  else (start, min count chunkRows) :: chunks (start + chunkRows) (count - chunkRows)
termination_by count
decreasing_by simp [chunkRows]; omega

def chunkText (format : SaveFormat) (names : List String) (columns : Nat × Nat) (isFirst : Bool)
    (rows : List Row) : Except ResultSetError (List Char) :=
  match rows.mapM (slice? columns) with
  | some cells => .ok (rowTexts format names isFirst cells)
  | none => .error narrowRow

def writeChunks (store : RowStore) (format : SaveFormat) (names : List String)
    (columns : Nat × Nat) (isFirst : Bool) (draft : Draft) :
    List (Nat × Nat) → Draft × Except ResultSetError Unit
  | [] => (draft, .ok ())
  | (start, count) :: rest =>
    match store.read start count with
    | .error error => (draft, .error (.storage error))
    | .ok rows => match chunkText format names columns isFirst rows with
      | .error error => (draft, .error error)
      | .ok text => writeChunks store format names columns false (draft.add text) rest

/-- What the file holds in the end, and whether everything has been written. -/
def content (result : ResultSet) (request : SaveRequest) (rows columns : Nat × Nat) :
    Bytes × Except ResultSetError Unit :=
  let names := ((result.columns.drop columns.1).take columns.2).map Column.displayName
  let draft := Draft.empty.add (opening request.format request.headers names)
  match writeChunks result.store request.format names columns true draft (chunks rows.1 rows.2) with
  | (draft, .error error) => (draft.written, .error error)
  | (draft, .ok ()) =>
    ((draft.add (closing request.format (rows.2 = 0))).flush.written, .ok ())

def write (tree : FileTree) (result : ResultSet) (request : SaveRequest) :
    FileTree × Except ResultSetError Unit :=
  match rowRange request result.rowCount, columnRange request result.columns.length with
  | .error error, _ => (tree, .error error)
  | .ok _, .error error => (tree, .error error)
  | .ok rows, .ok columns =>
    match tree.writable request.path with
    | .error error => (tree, .error (.file error))
    | .ok location =>
      let (bytes, outcome) := content result request rows columns
      (tree.setFile location bytes, outcome)

end Export

namespace ResultSet

def isSavingTo (result : ResultSet) (path : String) : Bool :=
  result.saves.contains (FileTree.components path)

/-- Accepts a save; a destination takes one save of a result at a time. -/
def beginSave (result : ResultSet) (path : String) : Except ResultSetError ResultSet :=
  if !result.complete then .error .notComplete
  else if result.isSavingTo path then .error (.saveInProgress path)
  else .ok { result with saves := FileTree.components path :: result.saves }

def endSave (result : ResultSet) (path : String) : ResultSet :=
  { result with saves := result.saves.erase (FileTree.components path) }

end ResultSet

end SqlDesk
