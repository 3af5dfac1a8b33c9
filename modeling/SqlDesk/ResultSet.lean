import SqlDesk.Files
import SqlDesk.Source.Script
import SqlDesk.Store

/-! The result of one statement: its columns and the store its rows go into. A window of rows can be
read while the result is still growing. -/

set_option autoImplicit false

namespace SqlDesk

inductive ResultSetError where
  | outOfRange (start count : Int) (available : Nat)
  | notComplete
  | saveInProgress (path : String)
  | invalidSaveRange (reason : String)
  | cancelled
  | source (error : SourceError)
  | storage (error : StorageError)
  | file (error : FileError)
  deriving DecidableEq

def ResultSetError.message : ResultSetError → String
  | outOfRange start count available =>
    s!"row window start {start} count {count} is out of range ({available} rows available)"
  | notComplete => "result set has not completed yet"
  | saveInProgress path => s!"a save to {path} is already in progress"
  | invalidSaveRange reason => s!"invalid save range: {reason}"
  | cancelled => "read was canceled"
  | source error => error.message
  | storage error => s!"row storage error: {error.message}"
  | file error => s!"failed to write results: {error.message}"

structure ResultSummary where
  id : Nat
  batchId : Nat
  rowCount : Nat
  complete : Bool
  columns : List Column
  action : SpecialAction
  deriving DecidableEq, Repr

def ResultSummary.toJson (summary : ResultSummary) : Json :=
  .object [("id", .ofNat summary.id), ("batchId", .ofNat summary.batchId),
    ("rowCount", .ofNat summary.rowCount), ("complete", .bool summary.complete),
    ("columnInfo", .array (summary.columns.map Column.toJson)),
    ("specialAction", summary.action.toJson)]

structure ShownCell where
  text : String
  isNull : Bool
  rowId : Nat
  deriving DecidableEq, Repr

structure Window where
  rowCount : Nat
  rows : List (List ShownCell)
  deriving DecidableEq, Repr

namespace Window

def cellJson (cell : ShownCell) : Json :=
  .object [("displayValue", .string cell.text), ("isNull", .bool cell.isNull),
    ("rowId", .ofNat cell.rowId)]

def toJson (window : Window) : Json :=
  .object [("rowCount", .ofNat window.rowCount),
    ("rows", .array (window.rows.map fun row => .array (row.map cellJson)))]

end Window

structure ResultSet where
  store : RowStore
  columns : List Column
  action : SpecialAction
  complete : Bool
  /-- Destinations of the saves that are under way. -/
  saves : List (List String)
  deriving DecidableEq

namespace ResultSet

def ofHeader (store : RowStore) (header : Header) : ResultSet :=
  ⟨store, header.columns, .ofHeader header, false, []⟩

def id (result : ResultSet) : Nat := result.store.key.resultId
def batchId (result : ResultSet) : Nat := result.store.key.batchId
def rowCount (result : ResultSet) : Nat := result.store.published

def summary (result : ResultSet) : ResultSummary :=
  ⟨result.id, result.batchId, result.rowCount, result.complete, result.columns, result.action⟩

def shownRow (rowId : Nat) (row : Row) : List ShownCell :=
  row.map fun cell => ⟨cell.display, cell.isNull, rowId⟩

/-- The rows from `start` on, at most `count` of them; the first has to be there already. -/
def window (result : ResultSet) (start count : Int) : Except ResultSetError Window :=
  if start < 0 ∨ count ≤ 0 ∨ result.rowCount ≤ start.toNat then
    .error (.outOfRange start count result.rowCount)
  else
    let first := start.toNat
    match result.store.read first (min count.toNat (result.rowCount - first)) with
    | .error error => .error (.storage error)
    | .ok rows =>
      .ok ⟨rows.length, (rows.zipIdx first).map fun (row, rowId) => shownRow rowId row⟩

def close (result : ResultSet) : ResultSet := { result with store := result.store.close }

end ResultSet

end SqlDesk
