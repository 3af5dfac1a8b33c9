import SqlDesk.Json.Record
import SqlDesk.Text.Ascii

/-! Columns of a result, its header, and what an editor should do with it besides showing a grid. -/

set_option autoImplicit false

namespace SqlDesk

structure Column where
  ordinal : Nat
  name : String
  dataType : String
  allowNull : Bool
  deriving DecidableEq, Repr

namespace Column

def displayName (column : Column) : String :=
  if column.name.isEmpty then "(No column name)" else column.name

def xmlName : String := "XML_F52E2B61-18A1-11d1-B105-00805F49916B"

def jsonName : String := "JSON_F52E2B61-18A1-11d1-B105-00805F49916B"

def planNames : List String := ["id", "parent", "notused", "detail"]

def isPlanShape (columns : List Column) : Bool :=
  columns.length == planNames.length &&
    (columns.zip planNames).all fun (column, name) =>
      Text.sameIgnoringCase column.name.toList name.toList

def toJson (column : Column) : Json :=
  .object [("ordinal", .ofNat column.ordinal), ("name", .string column.name),
    ("dataTypeName", .string column.dataType), ("allowNull", .bool column.allowNull)]

end Column

structure Header where
  columns : List Column
  isPlan : Bool
  deriving DecidableEq, Repr

/-- What a result is besides a grid of rows. -/
structure SpecialAction where
  executionPlan : Bool
  xml : Bool
  json : Bool
  deriving DecidableEq, Repr

namespace SpecialAction

def none : SpecialAction := ⟨false, false, false⟩

def isNone (action : SpecialAction) : Bool := action = none

def combine (left right : SpecialAction) : SpecialAction :=
  ⟨left.executionPlan || right.executionPlan, left.xml || right.xml, left.json || right.json⟩

/-- A document is recognized by the name of its only column. -/
def ofHeader (header : Header) : SpecialAction :=
  let only (name : String) : Bool := match header.columns with
    | [column] => column.name = name
    | _ => false
  ⟨header.isPlan || Column.isPlanShape header.columns, only Column.xmlName, only Column.jsonName⟩

def combineAll (actions : List SpecialAction) : SpecialAction := actions.foldl combine none

def toJson (action : SpecialAction) : Json :=
  .object [("executionPlan", .bool action.executionPlan), ("xml", .bool action.xml),
    ("json", .bool action.json)]

def ofJson? (json : Json) : Option SpecialAction := do
  match ← json.fields? ["executionPlan", "xml", "json"] with
  | [executionPlan, xml, json] =>
    return ⟨← Json.required? Json.asBool? executionPlan, ← Json.required? Json.asBool? xml,
      ← Json.required? Json.asBool? json⟩
  | _ => failure

end SpecialAction

end SqlDesk
