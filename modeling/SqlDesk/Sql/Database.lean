import SqlDesk.Sql.Table

/-! Databases: their tables by name. -/

set_option autoImplicit false

namespace SqlDesk.Sql

structure Database where
  tables : List Table

namespace Database

def empty : Database := ⟨[]⟩

def table? (database : Database) (name : String) : Option Table :=
  database.tables.find? (sameName ·.name name)

def table (database : Database) (name : TableName) : Except PrepareError Table :=
  match name.database.all (sameName "main"), database.table? name.name with
  | true, some table => .ok table
  | _, _ => .error (.noTable name.text)

def target (database : Database) (target : Target) : Except PrepareError Table := do
  let table ← database.table target.table
  match target.indexing with
  | .named name =>
    if table.definition.hasOrder name then return table else throw (.noObject "index" name)
  | .free | .byNumber => return table

def owner (database : Database) (name : TableName) : Except PrepareError Table :=
  match name.database.all (sameName "main"),
      database.tables.find? fun table => table.definition.hasOrder name.name with
  | true, some table => .ok table
  | _, _ => database.table name

def setTable (database : Database) (table : Table) : Database :=
  ⟨database.tables.map fun other => if sameName other.name table.name then table else other⟩

def addTable (database : Database) (table : Table) : Database := ⟨database.tables ++ [table]⟩

def removeTable (database : Database) (name : String) : Database :=
  ⟨database.tables.filter fun table => !sameName table.name name⟩

end Database

end SqlDesk.Sql
