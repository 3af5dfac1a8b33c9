import SqlDesk.Sql.Modification

/-! Statements whose names are known, and their execution. The rows of a query are known at once, since
nothing can come between its preparation and its execution. -/

set_option autoImplicit false

namespace SqlDesk.Sql

inductive Prepared where
  | query (resolved : ResolvedQuery)
  | create (table : TableDefinition)
  | keep
  | transaction (step : TransactionStep)
  | vacuum (copy : Option (Expression Field))
  | analyze
  | drop (table : String)
  | insert (insertion : Insertion)
  | update (changing : Update)
  | delete (selecting : Selecting)
  | plan (prepared : Prepared)

namespace Prepared

def isWriting : Prepared → Bool
  | create _ | drop _ | insert _ | update _ | delete _ | analyze => true
  | query .. | keep | transaction _ | vacuum _ | plan _ => false

end Prepared

namespace TableDefinition

def isLikeColumn (left right : ColumnDefinition) : Bool :=
  left.affinity = right.affinity && left.collation = right.collation
    && (!left.notNull || right.notNull)

def canTake (target source : TableDefinition) : Bool :=
  let defaults (table : TableDefinition) := (table.columns.drop 1).map ColumnDefinition.default
  let areSame (lefts rights : List (Expression Field)) : Bool :=
    lefts.length = rights.length && (List.zipWith Expression.isSame lefts rights).all id
  !sameName target.name source.name && target.numberPlace = source.numberPlace
    && target.columns.length = source.columns.length
    && (List.zipWith isLikeColumn target.columns source.columns).all id
    && areSame (defaults target) (defaults source)
    && (target.uniqueness.all fun own => source.uniqueness.any fun other => own.columns = other.columns)
    && (target.checks.isEmpty || areSame (target.checks.map Prod.snd) (source.checks.map Prod.snd))

end TableDefinition

namespace Database

def checkCount (table : Table) (told : String) (names : Option (List String)) (count : Nat) :
    Except PrepareError Unit :=
  match names with
  | none =>
    if count = table.columns.length then return
    else throw (.wrongWidth told table.columns.length count)
  | some names => if count = names.length then return else throw (.wrongCount names.length count)

/-- The table whose rows are taken as they are, if a query asks for all of it. -/
def transferred? (query : Query) (resolved : ResolvedQuery) : Option Table :=
  match query.first, query.rest, resolved.parts with
  | .select ⟨false, [.all], some _, none⟩, [], [part] =>
    if query.order.isEmpty && query.limit.isNone then part.table else none
  | _, _, _ => none

/-- Rows that go from one table into another one as they are; they keep their numbers where they are
kept in further orders. -/
def transferredRows (target source : Table) : Flow GivenRow :=
  let keepsNumbers : Bool :=
    target.definition.numberPlace.isNone && !target.definition.uniqueness.isEmpty
  .ofList (source.rows.map fun (number, values) =>
    ⟨if keepsNumbers then .ofInt number else .null, values⟩)

/-- The rows of an insertion, which may take all of another table. They are all known beforehand where they
come from the table itself. -/
def insertedRows (destination : Destination) (table : Table) (conflict : Conflict)
    (resolved : ResolvedQuery) (source : Option Table) : Flow GivenRow :=
  let rows := resolved.rows.map (destination.given table .ok)
  let readsTable := resolved.parts.any fun part =>
    part.table.any fun other => sameName other.name table.name
  match source with
  | some source =>
    if table.mayTransfer conflict || table.rows.isEmpty then transferredRows table source else rows
  | none => if readsTable then rows.whole .ofList else rows

/-- Several rows are looked into before they are counted; a single row is counted first. -/
def prepareInsert (database : Database) (target : Target) (conflict : Conflict)
    (names : Option (List String)) (rows : Option Query) : Except PrepareError Prepared := do
  let table ← database.table target.table
  let told := target.told
  let destination ← Destination.ofNames table told names
  let further (row : List (Expression Field)) : Findings :=
    destination.findings table row
      ++ Expression.replacementFindings (table.replacedDefaults conflict)
      ++ Expression.testFindings (table.definition.checks.map Prod.snd)
  match rows with
  | none =>
    if let some names := names then throw (.wrongCount names.length 0)
    Findings.refuse [Destination.findings [] table [] ++ further []]
    return .insert ⟨table, conflict, Destination.givenRow [] table [], none, table.hasCheckCall, false, true⟩
  | some query =>
    let resolved ← ResolvedQuery.ofQuery database query query.isRow
    let stages := if query.isRow then [] else resolved.stages true
    (Findings.first? stages).forM throw
    checkCount table told names resolved.width
    let row := ((resolved.parts.head?.map ResolvedPart.rows).bind List.head?).getD []
    Findings.refuse (stages ++ [further (if query.isRow then row else [])])
    let defaults := destination.defaults table
    let source := if names.isNone then transferred? query resolved else none
    let source := source.filter fun source => table.definition.canTake source.definition
    let hasCalls := table.hasCheckCall || (resolved.expressions ++ defaults).any Expression.hasCall
    let inserted :=
      if query.isRow then destination.givenRow table row
      else insertedRows destination table conflict resolved source
    return .insert ⟨table, conflict, inserted, if query.isRow then none else some resolved, hasCalls, source.isSome,
      destination.isInOrder⟩

def prepareUpdate (database : Database) (target : Target) (conflict : Conflict)
    (changes : List (String × Expression Reference)) (condition : Option (Expression Reference)) :
    Except PrepareError Prepared := do
  let table ← database.target target
  let scope := Scope.ofSource (table.definition.source target.name)
  let changes ← changes.mapM fun (column, expression) => do
    let value ← expression.resolve scope
    match table.definition.columnIndex? column with
    | some place => return (some place, value)
    | none =>
      if rowNumberNames.any (sameName column) then return (none, value)
      else throw (.noColumn column none)
  let condition ← condition.mapM (·.resolve scope)
  let changes := table.effective changes
  let selecting : Selecting := ⟨table, target, condition⟩
  let defaults := (table.columns.zipIdx.filter fun (column, place) =>
    conflict = .replace && column.notNull && changes.any (·.1 = some place)).map (·.1.default)
  let checks := (table.definition.checks.map Prod.snd).filter fun check =>
    check.columns.any fun field => changes.any fun (place, _) =>
      (if place = table.definition.numberPlace then none else place) = field.place
  Findings.refuse <| Restriction.stages selecting.conditions ++
    [Expression.findings (changes.map Prod.snd) ++ Expression.replacementFindings defaults
      ++ Expression.testFindings checks]
  return .update ⟨selecting, conflict, changes⟩

def prepare (database : Database) : Statement → Except PrepareError Prepared
  | .query query => do
    let resolved ← ResolvedQuery.ofQuery database query false
    Findings.refuse (resolved.stages false)
    return .query resolved
  | .create definition => return .create definition
  | .keep => return .keep
  | .transaction step => return .transaction step
  | .vacuum copy => do
    let copy ← copy.mapM (·.resolve .constants)
    Findings.refuse [Expression.findings copy.toList]
    return .vacuum copy
  | .analyze object => do
    let _ ← object.mapM database.owner
    return .analyze
  | .reindex object => match database.owner object with
    | .ok _ => return .keep
    | .error _ => throw .notReindexed
  | .drop table ifPresent => match database.table table with
    | .ok table => return .drop table.name
    | .error error => if ifPresent then return .keep else throw error
  | .insert target conflict names rows => database.prepareInsert target conflict names rows
  | .update target conflict changes condition =>
    database.prepareUpdate target conflict changes condition
  | .delete target condition => do
    let table ← database.target target
    let scope := Scope.ofSource (table.definition.source target.name)
    let condition ← condition.mapM (·.resolve scope)
    let selecting : Selecting := ⟨table, target, condition⟩
    Findings.refuse (Restriction.stages selecting.conditions)
    return .delete selecting
  | .plan statement => do return .plan (← database.prepare statement)

/-- Writes the database anew, where rows whose numbers are nowhere else get new ones. -/
def vacuum (database : Database) (isOpen : Bool) (copy : Option (Expression Field)) : Effect :=
  if isOpen then { Effect.none database with error := some .enclosedVacuum }
  else match copy with
    | none => .none ⟨database.tables.map Table.renumbered⟩
    | some name => match name.value (0, []) with
      | .ok (.text _) => .none database
      | .ok _ => { Effect.none database with error := some .copyName }
      | .error error => { Effect.none database with error := some error }

def execute (database : Database) (isOpen : Bool) : Prepared → Effect
  | .query .. | .keep | .transaction _ | .analyze | .plan _ => .none database
  | .vacuum copy => database.vacuum isOpen copy
  | .create definition => .none (database.addTable (.empty definition))
  | .drop name => .none (database.removeTable name)
  | .insert insertion => insertion.run database isOpen
  | .update changing => changing.run database isOpen
  | .delete selecting => selecting.delete database

end Database

end SqlDesk.Sql
