import SqlDesk.Sql.Error
import SqlDesk.Sql.Expression.Scope

/-! Statements of SQL, as far as the desk knows them, and tables as they are defined. -/

set_option autoImplicit false

namespace SqlDesk.Sql

structure TableName where
  database : Option String
  name : String
  deriving DecidableEq, Repr

def TableName.text (table : TableName) : String :=
  table.database.elim table.name fun database => s!"{database}.{table.name}"

/-- Which orders of a table may be gone through. -/
inductive Indexing where
  | free
  /-- That by the numbers of the rows. -/
  | byNumber
  | named (name : String)
  deriving DecidableEq, Repr

/-- A table with the name it has in the rest of the statement. -/
structure Target where
  table : TableName
  otherName : Option String
  indexing : Indexing
  deriving DecidableEq, Repr

def Target.name (target : Target) : String := target.otherName.getD target.table.name

def Target.told (target : Target) : String := target.otherName.getD target.table.text

/-- An item of a selection: every column of the table, or an expression under a name. -/
inductive Item where
  | all
  | allOf (table : String)
  | one (expression : Expression Reference) (label : Option String) (written : String)

structure Selection where
  isDistinct : Bool
  items : List Item
  source : Option Target
  condition : Option (Expression Reference)

inductive Part where
  | select (selection : Selection)
  | values (rows : List (List (Expression Reference)))

structure OrderTerm where
  expression : Expression Reference
  isDescending : Bool
  /-- Whether nothing comes first, where that is told. -/
  nullsFirst : Option Bool

structure Query where
  first : Part
  rest : List (Joint × Part)
  order : List OrderTerm
  limit : Option (Expression Reference)
  offset : Option (Expression Reference)

def Query.isRow (query : Query) : Bool :=
  match query.first, query.rest with
  | .values [_], [] => true
  | _, _ => false

structure ColumnDefinition where
  name : String
  declared : Option String
  collation : Collation
  notNull : Bool
  default : Expression Field

namespace ColumnDefinition

def affinity (column : ColumnDefinition) : Affinity := column.declared.elim .blob .ofDeclared

def typeName (column : ColumnDefinition) : String := column.declared.getD ""

end ColumnDefinition

structure OrderedColumn where
  place : Nat
  collation : Collation
  isDescending : Bool
  deriving DecidableEq, Repr

/-- Columns whose values have to differ together, and by which the rows are kept in order. -/
structure Uniqueness where
  columns : List OrderedColumn
  isKey : Bool
  deriving DecidableEq, Repr

namespace Uniqueness

def places (uniqueness : Uniqueness) : List Nat := uniqueness.columns.map OrderedColumn.place

def isSame (left right : Uniqueness) : Bool :=
  left.places = right.places
    && left.columns.map OrderedColumn.collation = right.columns.map OrderedColumn.collation

end Uniqueness

structure TableDefinition where
  name : String
  columns : List ColumnDefinition
  numberPlace : Option Nat
  /-- Whether numbers are never given twice. -/
  isCounted : Bool
  uniqueness : List Uniqueness
  checks : List (String × Expression Field)

namespace TableDefinition

/-- The name of the order that a constraint of uniqueness keeps, by the number of the constraint. -/
def orderName (table : TableDefinition) (number : Nat) : String :=
  s!"sqlite_autoindex_{table.name}_{number}"

def hasOrder (table : TableDefinition) (name : String) : Bool :=
  (List.range table.uniqueness.length).any fun index => sameName (table.orderName (index + 1)) name

def columnIndex? (table : TableDefinition) (name : String) : Option Nat :=
  table.columns.findIdx? (sameName ·.name name)

def fields (table : TableDefinition) : List (String × Field) :=
  table.columns.zipIdx.map fun (column, place) =>
    (column.name, if table.numberPlace = some place then .rowNumber
      else ⟨some place, column.affinity, column.collation, column.notNull⟩)

def source (table : TableDefinition) (name : String) : Source := ⟨name, table.fields⟩

/-- Adds a constraint of uniqueness, unless it is there already. One that makes the key makes it of
the one that is there. -/
def distinguish (table : TableDefinition) (added : Uniqueness) : TableDefinition :=
  if table.uniqueness.any (·.isSame added) then
    { table with
      uniqueness := table.uniqueness.map fun other =>
        if other.isSame added then { other with isKey := other.isKey || added.isKey } else other }
  else { table with uniqueness := table.uniqueness ++ [added] }

end TableDefinition

/-- A beginning of a transaction, or an end with or without what has been done in it. -/
inductive TransactionStep where
  | start ( isWriting : Bool)
  | commit
  | rollback
  deriving DecidableEq, Repr

inductive Conflict where
  | abort
  | rollback
  | fail
  | ignore
  /-- Rows in the way are removed. -/
  | replace
  deriving DecidableEq, Repr

inductive Statement where
  | query (query : Query)
  | create (table : TableDefinition)
  /-- Nothing needs to be done, as where a table is there already. -/
  | keep
  | transaction (step : TransactionStep)
  /-- Writes the database anew, or a copy under a name. -/
  | vacuum (copy : Option (Expression Reference))
  | analyze (object : Option TableName)
  | reindex (object : TableName)
  | drop (table : TableName) (ifPresent : Bool)
  /-- Rows for some columns or for all; without a query there is one row of defaults. -/
  | insert (target : Target) (conflict : Conflict) (columns : Option (List String))
    (rows : Option Query)
  | update (target : Target) (conflict : Conflict)
    (changes : List (String × Expression Reference)) (condition : Option (Expression Reference))
  | delete (target : Target) (condition : Option (Expression Reference))
  | plan (statement : Statement)

end SqlDesk.Sql
