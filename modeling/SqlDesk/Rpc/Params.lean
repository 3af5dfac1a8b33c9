import SqlDesk.Desk
import SqlDesk.Json.Record
import SqlDesk.ResultSet.Export

/-! The parameters of the methods, as records in JSON. Those of a save have to be an object, since
they hold the fields of another record among their own. -/

set_option autoImplicit false

namespace SqlDesk.Rpc

structure ConnectParams where
  owner : String
  database : String
  deriving DecidableEq, Repr

structure OwnerParams where
  owner : String
  deriving DecidableEq, Repr

structure SubsetParams where
  owner : String
  batchId : Nat
  resultId : Nat
  start : Int
  count : Int
  deriving DecidableEq, Repr

structure SaveParams where
  owner : String
  batchId : Nat
  resultId : Nat
  request : SaveRequest
  deriving DecidableEq, Repr

/-- Settings of an owner, or of everyone when no owner is named. -/
structure SettingsParams where
  owner : Option String
  settings : Option Settings
  deriving DecidableEq, Repr

def text? (field : Option Json) : Option String := Json.required? Json.asString? field

def index? (field : Option Json) : Option Nat := Json.required? (Json.asUnsigned? 64) field

def bound? (field : Option Json) : Option (Option Nat) := Json.optional? (Json.asUnsigned? 64) field

def ConnectParams.ofJson? (json : Json) : Option ConnectParams := do
  match ← json.fields? ["ownerUri", "database"] with
  | [owner, database] => return ⟨← text? owner, ← text? database⟩
  | _ => failure

def OwnerParams.ofJson? (json : Json) : Option OwnerParams := do
  match ← json.fields? ["ownerUri"] with
  | [owner] => return ⟨← text? owner⟩
  | _ => failure

def queryRequest? (json : Json) : Option QueryRequest := do
  match ← json.fields? ["ownerUri", "query", "includeActualPlan", "includeEstimatedPlan"] with
  | [owner, query, actual, estimated] =>
    return ⟨← text? owner, ← text? query, ← Json.defaulted? false Json.asBool? actual,
      ← Json.defaulted? false Json.asBool? estimated⟩
  | _ => failure

def SubsetParams.ofJson? (json : Json) : Option SubsetParams := do
  match ← json.fields? ["ownerUri", "batchIndex", "resultSetIndex", "rowsStartIndex", "rowsCount"]
    with
  | [owner, batchId, resultId, start, count] =>
    return ⟨← text? owner, ← index? batchId, ← index? resultId,
      ← Json.required? (Json.asSigned? 64) start, ← Json.required? (Json.asSigned? 64) count⟩
  | _ => failure

def SaveParams.ofJson? (format : SaveFormat) : Json → Option SaveParams
  | .object members => do
    match ← Json.objectFields? ["ownerUri", "batchIndex", "resultSetIndex", "filePath",
      "rowStartIndex", "rowEndIndex", "columnStartIndex", "columnEndIndex", "includeHeaders"]
      members with
    | [owner, batchId, resultId, path, firstRow, lastRow, firstColumn, lastColumn, headers] =>
      let request : SaveRequest := ⟨← text? path, format, ← bound? firstRow, ← bound? lastRow,
        ← bound? firstColumn, ← bound? lastColumn, ← Json.defaulted? true Json.asBool? headers⟩
      return ⟨← text? owner, ← index? batchId, ← index? resultId, request⟩
    | _ => failure
  | _ => none

def SettingsParams.ofJson? (json : Json) : Option SettingsParams := do
  match ← json.fields? ["ownerUri", "settings"] with
  | [owner, settings] =>
    return ⟨← Json.optional? Json.asString? owner, ← Json.optional? Settings.ofJson? settings⟩
  | _ => failure

end SqlDesk.Rpc
