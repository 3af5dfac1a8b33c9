import SqlDesk.Sql.Answer

/-! Statements that change the rows of a table. Rows are changed one after another as they come; what
happens to those that have been changed when something fails depends on the failure. -/

set_option autoImplicit false

namespace SqlDesk.Sql

structure Effect where
  database : Database
  count : Option Nat
  error : Option ExecutionError
  /-- Whether it ends the transaction, of which nothing stays. -/
  isEnding : Bool

namespace Effect

def none (database : Database) : Effect := ⟨database, Option.none, Option.none, false⟩

end Effect

/-- What becomes of rows that have been changed before something fails. -/
inductive Aftermath where
  | kept
  | undone
  | ended
  deriving DecidableEq, Repr

/-- `isProtected` tells whether the statement can be undone by itself, and `isOpen` whether there is a
transaction that it belongs to. -/
def Aftermath.of (conflict : Conflict) (isProtected isOpen : Bool) (error : ExecutionError) : Aftermath :=
  if error.isConstraint then
    match conflict with
    | .fail => kept
    | .rollback => ended
    | .abort | .ignore | .replace => undone
  else if isProtected then undone
  else if error = .full then ended
  else if isOpen then kept
  else undone

namespace Database

def withChange (database : Database) (conflict : Conflict) (isProtected isOpen : Bool) (change : Change) :
    Effect :=
  match change.error with
  | none => ⟨database.setTable change.table, some change.count, none, false⟩
  | some error =>
    match Aftermath.of conflict isProtected isOpen error with
    | .kept =>
      ⟨database.setTable change.table, some (if error.isConstraint then change.count else 0), some error, false⟩
    | .undone => ⟨database, some 0, some error, false⟩
    | .ended => ⟨database, some 0, some error, true⟩

end Database

namespace Table

/-- Whether a row that breaks a constraint may undo the statement. -/
def mayAbort (table : Table) : Conflict → Bool
  | .abort => true
  | .replace =>
    !table.definition.checks.isEmpty || table.columns.any fun column =>
      column.notNull && (column.default matches .literal .null _)
  | .rollback | .fail | .ignore => false

/-- Whether rows are taken as they are from another table of the same form, whatever is in this one. -/
def mayTransfer (table : Table) (conflict : Conflict) : Bool :=
  table.definition.uniqueness.isEmpty && (conflict = .abort || conflict = .rollback)

def hasCheckCall (table : Table) : Bool := table.definition.checks.any (·.2.hasCall)

/-- The columns that have a default where they need a value and are given none. -/
def replacedDefaults (table : Table) (conflict : Conflict) : List (Expression Field) :=
  if conflict = .replace then
    (table.columns.filter ColumnDefinition.notNull).map ColumnDefinition.default
  else []

end Table

/-- Where the values of an insertion go: a place for every one; the number of the row has none. -/
abbrev Destination := List (Option Nat)

namespace Destination

def ofNames (table : Table) (told : String) (names : Option (List String)) :
    Except PrepareError Destination :=
  match names with
  | none => return (List.range table.columns.length).map some
  | some names => names.mapM fun name =>
    match table.definition.columnIndex? name with
    | some place => return some place
    | none =>
      if rowNumberNames.any (sameName name) then return none
      else throw (.unknownColumn told name)

variable {α : Type}

def at? (destination : Destination) (items : List α) (place : Nat) : Option α :=
  ((destination.zip items).find? fun entry => entry.1 = some place).map Prod.snd

/-- What goes to the number of the row, which a column may stand for; of several the last. -/
def number? (destination : Destination) (table : Table) (items : List α) : Option α :=
  ((destination.zip items).reverse.find? fun entry =>
    entry.1.isNone || entry.1 = table.definition.numberPlace).map Prod.snd

/-- A row for the table; what is not told has its default, and what goes nowhere is not looked at. -/
def given (destination : Destination) (table : Table) (evaluate : α → Except ExecutionError Value)
    (items : List α) : Except ExecutionError GivenRow := do
  let values ← table.columns.zipIdx.mapM fun (column, place) =>
    if table.definition.numberPlace = some place then .ok .null
    else match destination.at? items place with
      | some item => evaluate item
      | none => column.default.value (0, [])
  let number ← ((destination.number? table items).map evaluate).getD (.ok .null)
  return ⟨number, table.definition.numberPlace.elim values fun place => values.set place number⟩

def givenRow (destination : Destination) (table : Table) (row : List (Expression Field)) : Flow GivenRow :=
  .after (destination.given table (·.value (0, [])) row) fun given => .ofList [given]

def isInOrder (destination : Destination) : Bool :=
  destination = (List.range destination.length).map some

def defaults (destination : Destination) (table : Table) : List (Expression Field) :=
  table.columns.zipIdx.filterMap fun (column, place) =>
    if destination.contains (some place) || table.definition.numberPlace = some place then none
    else some column.default

/-- What is wrong with the values that columns are given, and with defaults where nothing is told. -/
def findings (destination : Destination) (table : Table) (row : List (Expression Field)) : Findings :=
  let columns := table.columns.zipIdx.map fun (column, place) =>
    if table.definition.numberPlace = some place then .empty
    else match destination.at? row place with
      | some value => Expression.findings [value]
      | none => if destination.contains (some place) then .empty else Expression.defaultFindings [column.default]
  .all (columns ++ [Expression.findings (destination.number? table row).toList])

end Destination

structure Insertion where
  table : Table
  conflict : Conflict
  rows : Flow GivenRow
  query : Option ResolvedQuery
  hasCalls : Bool
  /-- Whether all columns of another table of the same form are taken. -/
  isTransfer : Bool
  isInOrder : Bool

namespace Insertion

def isProtected (insertion : Insertion) : Bool :=
  insertion.query.isSome && (insertion.hasCalls || insertion.table.mayAbort insertion.conflict)

def change (insertion : Insertion) : Change :=
  let table := insertion.table
  let change := Table.insertAll insertion.conflict table 0 table.highest insertion.rows.items
  match change.error, insertion.rows.failure with
  | none, some failure => ⟨{ change.table with highest := table.highest }, change.count, some failure⟩
  | _, _ => change

def run (insertion : Insertion) (database : Database) (isOpen : Bool) : Effect :=
  database.withChange insertion.conflict insertion.isProtected isOpen insertion.change

end Insertion

/-- A change of the rows of a table that satisfy a condition. -/
structure Selecting where
  table : Table
  target : Target
  condition : Option (Expression Field)

namespace Selecting

def conditions (selecting : Selecting) : List (Expression Field) :=
  selecting.condition.elim [] (·.operands .and)

def survey (selecting : Selecting) : Survey :=
  ⟨selecting.table.definition, selecting.condition.elim [] Expression.places,
    Restriction.ofConditions selecting.conditions, [], [], selecting.target.indexing, false⟩

def path (selecting : Selecting) : Path := (selecting.survey.choose .none).path

def rows (selecting : Selecting) : Flow NumberedRow := selecting.path.visit selecting.table.rows

end Selecting

structure Update where
  selecting : Selecting
  conflict : Conflict
  changes : Table.Changes

namespace Update

def table (update : Update) : Table := update.selecting.table

def setsNumber (update : Update) : Bool :=
  update.changes.any fun (place, _) => place.isNone || place = update.table.definition.numberPlace

def changesListing (update : Update) (listing : Listing) : Bool :=
  update.setsNumber || listing.columns.any fun column => update.changes.any (·.1 = some column.place)

/-- Whether rows may have to go that others are in the way of. -/
def replacesRows (update : Update) : Bool :=
  update.conflict = .replace && (update.setsNumber || update.table.definition.listings.any update.changesListing)

/-- How rows are changed: the only one, or one after another as they are found, or all of them by their
numbers when they have been found. -/
inductive Passing where
  | single
  | following
  | gathered
  deriving DecidableEq, Repr

def passing (update : Update) : Passing :=
  let path := update.selecting.path
  let way := path.walk.way
  if way.isSingle then .single
  else match path with
    | .several .. => .gathered
    | .single _ =>
      if update.setsNumber || update.replacesRows then .gathered
      else if way.isByColumns && update.changesListing way.listing then .gathered
      else .following

def hasCalls (update : Update) : Bool :=
  (update.changes.map Prod.snd ++ update.selecting.condition.toList).any Expression.hasCall
    || update.table.hasCheckCall

def change (update : Update) : Change :=
  let table := update.table
  let found := update.selecting.rows
  let all (rows : List NumberedRow) : Change :=
    Table.updateAll update.conflict update.changes table 0 rows
  match update.passing, found.failure with
  | .gathered, none => all (found.items.mergeSort fun left right => left.1 ≤ right.1)
  | .gathered, some failure => ⟨table, 0, some failure⟩
  | _, none => all found.items
  | _, some failure =>
    let change := all found.items
    { change with error := change.error.or (some failure) }

def run (update : Update) (database : Database) (isOpen : Bool) : Effect :=
  database.withChange update.conflict
    (update.passing ≠ .single && (update.hasCalls || update.table.mayAbort update.conflict)) isOpen
    update.change

end Update

namespace Selecting

def delete (selecting : Selecting) (database : Database) : Effect :=
  match selecting.rows.all with
  | .ok rows =>
    let change := selecting.table.deleteAll rows
    ⟨database.setTable change.table, some change.count, none, false⟩
  | .error failure => ⟨database, some 0, some failure, false⟩

end Selecting

end SqlDesk.Sql
