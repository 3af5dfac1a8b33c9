import SqlDesk.Column
import SqlDesk.Sql.Database
import SqlDesk.Sql.Expression.Known
import SqlDesk.Sql.Expression.Obstacles
import SqlDesk.Sql.Path.Visit

/-! Parts of queries. They are looked at from the last to the first: all tables have to be there, then
all names have to stand for something and all parts have to have the same width. -/

set_option autoImplicit false

namespace SqlDesk.Sql

/-- A result of a part: a column of its table, or an expression. -/
inductive Result where
  | field (name declared : String) (field : Field)
  | one (expression : Expression Reference) (label : Option String) (written : String)

structure LocatedPart where
  joint : Joint
  rows : List (List (Expression Reference))
  /-- Whether the rows go on with those of the part in front of it. -/
  isContinued : Bool
  table : Option Table
  source : Option Source
  target : Option Target
  isDistinct : Bool
  results : List Result
  condition : Option (Expression Reference)

structure ResolvedPart where
  joint : Joint
  /-- Rows that are written out, those that are gathered taken together; of a selection there are none. -/
  groups : List (List (List (Expression Field)))
  table : Option Table
  target : Option Target
  scope : Scope
  isDistinct : Bool
  columns : List Column
  values : List (Expression Field)
  /-- The names of the results for what is around them, where they have some. -/
  outerNames : List String
  labels : List (String × Nat)
  condition : Option (Expression Field)
  asked : List Nat

def plainColumn (name declared : String) : Column := ⟨0, name, declared, true⟩

def numberColumns (columns : List Column) : List Column :=
  columns.zipIdx.map fun (column, ordinal) => { column with ordinal }

def columnLimit : Nat := 2000

namespace ResolvedPart

def rows (part : ResolvedPart) : List (List (Expression Field)) := part.groups.flatten

/-- How a result is compared, if the part tells it. Rows that are taken together are compared like the first
one of them, which tells it in any case. -/
def collation? (part : ResolvedPart) (place : Nat) : Option (String ⊕ Collation) :=
  let own := (part.values[place]?).bind Expression.collation?
  if 1 < part.rows.length then some (own.getD (.inr .exact)) else own

def columnName (place : Nat) : String := s!"column{place + 1}"

/-- A name that is taken by nothing yet: with a number behind it in place of any other one, if need be. -/
def freshName (taken : List String) (name : String) (count : Nat) : Nat → String
  | 0 => name
  | fuel + 1 =>
    if taken.any (sameName name) then
      let front := match name.toList.reverse.dropWhile Char.isDigit with
        | ':' :: front => String.ofList front.reverse
        | _ => name
      freshName taken s!"{front}:{count + 1}" (count + 1) fuel
    else name

/-- Names that are told apart. Words for truth values are no names. -/
def namesApart (names : List (Option String)) : List String :=
  let isName (name : String) : Bool := !(sameName name "TRUE" || sameName name "FALSE")
  names.zipIdx.foldl (fun taken (name, place) =>
    taken ++ [freshName taken ((name.filter isName).getD (columnName place)) 0 (taken.length + 1)]) []

end ResolvedPart

def Expression.columnName? (expression : Expression Reference) : Option String :=
  match expression.withoutCollation with
  | .column reference => some reference.name
  | _ => none

namespace LocatedPart

def ofRows (joint : Joint) (rows : List (List (Expression Reference))) : LocatedPart :=
  ⟨joint, rows, false, none, none, none, false, [], none⟩

def groupsApart (part : LocatedPart) : List LocatedPart :=
  match Expression.gather part.rows with
  | [] => [part]
  | first :: rest => { part with rows := first } :: rest.map fun group =>
    { part with joint := .unionAll, rows := group, isContinued := true }

def allFields (table : Table) : List Result :=
  (table.columns.zip table.definition.fields).map fun (column, name, field) =>
    .field name column.typeName field

def itemResults (table : Option Table) (source : Option Source) : Item → Except PrepareError (List Result)
  | .all => match table with
    | none => .error .noSource
    | some table => .ok (allFields table)
  | .allOf name =>
    if (source.map Source.name).any (sameName name) then .ok (table.elim [] allFields)
    else .error (.noTable name)
  | .one expression label written => .ok [.one expression label written]

def checkColumns (part : LocatedPart) : Except PrepareError Unit :=
  if columnLimit < part.results.length || part.rows.any (columnLimit < ·.length) then
    throw (.excess "columns in result set")
  else return

/-- A selection with its table. What is wrong with its items is told last. -/
def ofSelection (database : Database) (joint : Joint) (selection : Selection) :
    Except PrepareError (LocatedPart × Option PrepareError) := do
  let table ← selection.source.mapM database.target
  let source : Option Source := do return (← table).definition.source (← selection.source).name
  let results := selection.items.map (itemResults table source)
  let error := (results.filterMap fun
    | .error error => some error
    | .ok _ => none).getLast?
  let results := (results.map fun result => result.toOption.getD []).flatten
  return (⟨joint, [], false, table, source, selection.source, selection.isDistinct, results,
    selection.condition⟩, error)

def ofPart (database : Database) (joint : Joint) :
    Part → Except PrepareError (LocatedPart × Option PrepareError)
  | .select selection => ofSelection database joint selection
  | .values rows => return (ofRows joint rows, none)

def fieldColumn (table : Option Table) (written : String) (field : Field) : Column :=
  let definition := table.map Table.definition
  let place := field.place.or (definition.bind TableDefinition.numberPlace)
  match place.bind fun place => definition.bind (·.columns[place]?) with
  | some column => plainColumn column.name column.typeName
  | none => plainColumn (if field.place.isNone then "rowid" else written)
      (if field.place.isNone then "INTEGER" else "")

/-- Rows over no columns, from the last one to the first, all of one width. -/
def resolveRows : List (Scope × List (Expression Reference)) →
    Except PrepareError (List (List (Expression Field)))
  | [] => return []
  | (scope, row) :: rest => do
    let resolved ← resolveRows rest
    let first ← row.mapM (·.resolve scope)
    if resolved.head?.any (·.length ≠ first.length) then throw .unequalRows
    return first :: resolved

/-- The rows of a group with their scopes; those behind the first one are taken as they are written. -/
def scopedRows : List (List (Expression Reference)) → List (Scope × List (Expression Reference))
  | [] => []
  | first :: rest => (.constants, first) :: rest.map (.writtenConstants, ·)

def grouped : List Nat → List (List (Expression Field)) → List (List (List (Expression Field)))
  | [], _ => []
  | count :: counts, rows => rows.take count :: grouped counts (rows.drop count)

/-- Rows that are written out have numbered columns. For what is around them they may have other names. -/
def resolveValues (part : LocatedPart) : Except PrepareError ResolvedPart := do
  let groups := Expression.gather part.rows
  let rows ← resolveRows (groups.flatMap scopedRows)
  let values := rows.headD []
  let columns := (List.range values.length).map fun place =>
    plainColumn (ResolvedPart.columnName place) ""
  let names := ResolvedPart.namesApart ((part.rows.headD []).map Expression.columnName?)
  return ⟨part.joint, grouped (groups.map List.length) rows, none, none, .constants, false,
    numberColumns columns, values, names, if rows.length = 1 then [] else names.zipIdx, none, []⟩

def resolveSelection (part : LocatedPart) : Except PrepareError ResolvedPart := do
  let scope : Scope := ⟨part.source, [], false, none, false⟩
  let resolved ← part.results.mapM fun
    | .field name declared field =>
      return (plainColumn name declared, Expression.column field, some name)
    | .one expression label written => do
      let value ← expression.resolve scope
      let column := match value with
        | .column field => fieldColumn part.table written field
        | _ => plainColumn written ""
      return ({ column with name := label.getD column.name }, value, label)
  let names := part.results.map fun
    | .field name .. => some name
    | .one expression label written => label.or (expression.columnName?.or (some written))
  let labelled := resolved.filterMap fun (_, value, label) => label.map fun label => (label, value)
  -- A result cannot use the labels of the others, a condition can.
  let scope : Scope := { scope with labels := labelled }
  let condition ← part.condition.mapM (·.resolve { scope with isCondition := true })
  let condition := condition.map Expression.settle
  let asked ← part.condition.mapM (·.resolve scope)
  let labels := resolved.zipIdx.filterMap fun ((_, _, label), place) =>
    label.map fun label => (label, place)
  return ⟨part.joint, [], part.table, part.target, scope, part.isDistinct,
    numberColumns (resolved.map Prod.fst), resolved.map (·.2.1), ResolvedPart.namesApart names, labels, condition,
    asked.elim [] Expression.places⟩

def resolve (part : LocatedPart) : Except PrepareError ResolvedPart :=
  if part.rows.isEmpty then part.resolveSelection else part.resolveValues

end LocatedPart

namespace ResolvedPart

def width (part : ResolvedPart) : Nat := part.columns.length

def checkWidth (part next : ResolvedPart) ( isContinued : Bool) : Except PrepareError Unit :=
  if part.width = next.width then return
  else if isContinued || next.rows.length = 1 then throw .unequalRows
  else throw (.unequalParts next.joint)

def ofLocated : List LocatedPart → Except PrepareError (List ResolvedPart)
  | [] => return []
  | part :: rest => do
    let resolved ← ofLocated rest
    let first ← part.resolve
    if let some next := resolved.head? then first.checkWidth next (rest.head?.any LocatedPart.isContinued)
    return first :: resolved

def conditions (part : ResolvedPart) : List (Expression Field) :=
  part.condition.elim [] (·.operands .and)

def tests (part : ResolvedPart) : List (Expression Field) :=
  let (constants, others) := Restriction.tests (Restriction.ofConditions part.conditions)
  constants ++ others

/-- What is wrong with the collations of columns that are equal to constants. -/
def equalityFindings (part : ResolvedPart) : Findings :=
  .ofList <| part.conditions.reverse.flatMap fun
    | .binary (.compare .equal) left right =>
      let isTold (column value : Expression Field) : Bool :=
        (column matches .column _ | .known ..) && value.isOutright && value.affinity?.isNone
      if isTold left right || isTold right left then
        Expression.unknownCollation (Expression.comparisonCollation? left right)
      else []
    | _ => []

/-- What is known about the table of a part, where the terms of an order need some columns as well. -/
def survey (part : ResolvedPart) (table : Table) (order : List SortKey) : Survey :=
  let expressions := part.values ++ order.map SortKey.expression
  ⟨table.definition, part.asked ++ expressions.flatMap Expression.places, Restriction.ofConditions part.conditions, [],
    order, (part.target.map Target.indexing).getD .free, true⟩

def valuesOn (part : ResolvedPart) (row : NumberedRow) : Except ExecutionError Values :=
  part.values.mapM (·.value row)

end ResolvedPart

end SqlDesk.Sql
