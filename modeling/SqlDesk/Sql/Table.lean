import SqlDesk.Sql.Statement

/-! Tables. Every row has a number, and rows stand in the order of their numbers. A column declared
as the integer key shows the number itself; a row gets the next number when nothing is given for it.
A row that breaks a constraint is not taken up. -/

set_option autoImplicit false

namespace SqlDesk.Sql

structure Table where
  definition : TableDefinition
  rows : List NumberedRow
  highest : Int

/-- A row as it is given: its number, if one is told, and a value for every column. -/
structure GivenRow where
  number : Value
  values : Values

/-- What changing a table comes to: what there is then, how many rows were changed, and the error that
ended it, if one did. -/
structure Change where
  table : Table
  count : Nat
  error : Option ExecutionError

def greatestNumber : Int := Text.wordBound 63 - 1

namespace Table

def empty (definition : TableDefinition) : Table := ⟨definition, [], 0⟩

def name (table : Table) : String := table.definition.name

def columns (table : Table) : List ColumnDefinition := table.definition.columns

/-- The number of a row that is given none, where numbers up to `used` have been given. A table whose
numbers are never given twice may have none left. -/
def nextNumber (table : Table) (used : Int) : Except ExecutionError Int :=
  let last := (table.rows.getLast?.map Prod.fst).getD 0
  if !table.definition.isCounted then .ok (last + 1)
  else if used = greatestNumber || last = greatestNumber then .error .full
  else .ok (max last used + 1)

def stored (table : Table) (values : Values) : Values :=
  List.zipWith (fun column value => column.affinity.store value) table.columns values

def fullName (table : Table) (place : Nat) : String :=
  table.name ++ "." ++ ((table.columns[place]?).map ColumnDefinition.name).getD ""

def toldNumber (value : Value) : Except ExecutionError (Option Int) :=
  match Affinity.integer.store value with
  | .null => .ok none
  | .integer value => .ok (some value.toInt)
  | _ => .error .mismatch

def defaults (table : Table) : Except ExecutionError Values :=
  table.columns.mapM fun column => column.default.value (0, [])

/-- A row in which columns that need a value have their default, if nothing is given for them. -/
def withDefaults (table : Table) (values : Values) : Except ExecutionError Values :=
  (table.columns.zip values).mapM fun (column, value) =>
    if column.notNull && value.isNull then column.default.value (0, []) else .ok value

def missing? (table : Table) (values : Values) : Option ExecutionError :=
  ((table.columns.zip values).zipIdx.find? fun ((column, value), place) =>
    column.notNull && table.definition.numberPlace ≠ some place && value.isNull).map
      fun (_, place) => .missingValue (table.fullName place)

def checkConditions (table : Table) (row : NumberedRow) : Except ExecutionError Unit :=
  table.definition.checks.forM fun (name, condition) => do
    if !(← (condition.meaning row).holds true) then throw (.failedCheck name)

def repeats (uniqueness : Uniqueness) (row : Values) (other : NumberedRow) : Bool :=
  uniqueness.columns.all fun column =>
    sameValue column.collation (row.getD column.place .null) (other.2.getD column.place .null)

def uniqueness (table : Table) : List Uniqueness := table.definition.uniqueness.reverse

/-- The first constraint of uniqueness that a row would break. -/
def conflict? (table : Table) (row : NumberedRow) : Option ExecutionError :=
  if table.rows.any (·.1 = row.1) then
    match table.definition.numberPlace with
    | some place => some (.repeatedKey [table.fullName place])
    | none => some (.repeatedNumber table.name)
  else
    (table.uniqueness.find? fun uniqueness => table.rows.any (repeats uniqueness row.2)).map
      fun uniqueness =>
        let names := uniqueness.places.map table.fullName
        if uniqueness.isKey then .repeatedKey names else .repeatedValue names

def withoutConflicts (table : Table) (row : NumberedRow) : Table :=
  { table with
    rows := table.rows.filter fun other =>
      other.1 ≠ row.1 && !table.uniqueness.any (repeats · row.2 other) }

def place (table : Table) (row : NumberedRow) : Table :=
  { table with
    rows := table.rows.takeWhile (·.1 < row.1) ++ row :: table.rows.dropWhile (·.1 < row.1) }

def givenNumber (table : Table) (given : GivenRow) : Except ExecutionError (Option Int) :=
  toldNumber <| match table.definition.numberPlace with
    | none => given.number
    | some place => given.values.getD place .null

/-- A row of a number as the table would take it up: what is missing comes first, then the
conditions. -/
def prepared (table : Table) (conflict : Conflict) (number : Int) (values : Values) :
    Except ExecutionError NumberedRow := do
  let values := match table.definition.numberPlace with
    | none => values
    | some place => values.set place (.ofInt number)
  let values ← if conflict = .replace then table.withDefaults values else pure values
  if let some error := table.missing? values then throw error
  let row := (number, table.stored values)
  table.checkConditions row
  return row

/-- Puts a row into the table; what is in its way may have to go. -/
def insertRow (table : Table) (conflict : Conflict) (row : NumberedRow) :
    Except ExecutionError Table :=
  let table := if conflict = .replace then table.withoutConflicts row else table
  match table.conflict? row with
  | some error => .error error
  | none => .ok (table.place row)

def isLeftOut (conflict : Conflict) (error : ExecutionError) : Bool :=
  conflict = .ignore && error.isConstraint

/-- Takes up one row after another, and counts them. Numbers up to `used` have been given before. The
first error ends it; then the numbers that were given do not count. -/
def insertAll (conflict : Conflict) (table : Table) (count : Nat) (used : Int) :
    List GivenRow → Change
  | [] => ⟨{ table with highest := used }, count, none⟩
  | given :: rest =>
    match numbered given with
    | .error error => ⟨table, count, some error⟩
    | .ok number =>
      let used := max used number
      match table.prepared conflict number given.values >>= table.insertRow conflict with
      | .ok changed => insertAll conflict changed (count + 1) used rest
      | .error error =>
        if isLeftOut conflict error then insertAll conflict table count used rest
        else ⟨table, count, some error⟩
where
  numbered (given : GivenRow) : Except ExecutionError Int := do
    match ← table.givenNumber given with
    | some number => return number
    | none => table.nextNumber used

/-- Columns that are set, each to an expression on the row as it was; the number of the row has no
place. -/
abbrev Changes := List (Option Nat × Expression Field)

/-- The changes that count: of several to the same the last. The number of a row is set first, and then
the columns in their order. -/
def effective (table : Table) (changes : Changes) : Changes :=
  let last? (counts : Option Nat → Bool) := changes.reverse.find? fun (place, _) => counts place
  let number := last? fun place => place.isNone || place = table.definition.numberPlace
  let columns := (List.range table.columns.length).filterMap fun place =>
    if table.definition.numberPlace = some place then none else last? (· = some place)
  number.toList ++ columns

def changed (table : Table) (changes : Changes) (row : NumberedRow) : Except ExecutionError GivenRow :=
  changes.foldlM set ⟨.ofInt row.1, row.2⟩
where
  set (given : GivenRow) : Option Nat × Expression Field → Except ExecutionError GivenRow
    | (place, expression) => do
      let value ← expression.value row
      if place.isNone || place = table.definition.numberPlace then
        if (← toldNumber value).isNone then throw .mismatch
      match place.or table.definition.numberPlace with
      | none => return { given with number := value }
      | some place => return { given with values := given.values.set place value }

/-- Changes one row after another, and counts them. A row that had to go meanwhile is passed over. -/
def updateAll (conflict : Conflict) (changes : Changes) (table : Table) (count : Nat) :
    List NumberedRow → Change
  | [] => ⟨table, count, none⟩
  | selected :: rest =>
    match table.rows.find? (·.1 = selected.1) with
    | none => updateAll conflict changes table count rest
    | some old =>
      let others := { table with rows := table.rows.filter (·.1 ≠ old.1) }
      match renewed others old with
      | .ok changed => updateAll conflict changes changed (count + 1) rest
      | .error error =>
        if isLeftOut conflict error then updateAll conflict changes table count rest
        else ⟨table, count, some error⟩
where
  renewed (others : Table) (old : NumberedRow) : Except ExecutionError Table := do
    let given ← others.changed changes old
    let some number := ← others.givenNumber given | throw .mismatch
    others.insertRow conflict (← others.prepared conflict number given.values)

/-- The table with its rows numbered from one on, if no column or order has their numbers. -/
def renumbered (table : Table) : Table :=
  if table.definition.numberPlace.isNone && table.definition.uniqueness.isEmpty then
    { table with rows := table.rows.zipIdx.map fun ((_, values), index) => ((index : Int) + 1, values) }
  else table

def deleteAll (table : Table) (rows : List NumberedRow) : Change :=
  let kept := table.rows.filter fun row => !rows.any (·.1 = row.1)
  ⟨{ table with rows := kept }, table.rows.length - kept.length, none⟩

end Table

end SqlDesk.Sql
