import SqlDesk.Sql.Answer.Sorting

/-! What a part of a query gives. Rows come as they are found, and what has been given before something
fails has been given. Rows that are put in order are known as a whole before the first one of them is
given. -/

set_option autoImplicit false

namespace SqlDesk.Sql

/-- A row whose values may still have to be looked at. -/
abbrev Pending := Unit → Except ExecutionError Values

def Pending.known (values : Values) : Pending := fun _ => .ok values

/-- How many rows are left out, and how many of the rest are given. -/
structure Range where
  offset : Nat
  count : Option Nat
  deriving DecidableEq, Repr

namespace Range

def all : Range := ⟨0, none⟩

def room (range : Range) : Option Nat := range.count.map (range.offset + ·)

def apply {α : Type} (range : Range) (flow : Flow α) : Flow α :=
  let rest := flow.drop range.offset
  range.count.elim rest (rest.take ·)

def integer (limit : Expression Field) : Except ExecutionError Int := do
  match Affinity.integer.store (← limit.value (0, [])) with
  | .integer value => return value.toInt
  | _ => throw .mismatch

/-- The range of a limit and an offset, of which the offset is not looked at if nothing is wanted. A
negative limit is none, and so is one that is beyond all words together with the offset. -/
def ofLimits (limit offset : Option (Expression Field)) : Except ExecutionError Range := do
  match limit with
  | none => return all
  | some limit =>
    let count ← integer limit
    if count = 0 then return ⟨0, some 0⟩
    let offset ← match offset with
      | none => pure 0
      | some offset => integer offset
    return ⟨offset.toNat, if count < 0 then none else some count.toNat⟩

end Range

/-- A part that is carried out on its own, with the terms of its order. -/
structure Selected where
  part : ResolvedPart
  order : List SortKey
  limit : Option Estimate

namespace Selected

def alone (part : ResolvedPart) : Selected := ⟨part, [], none⟩

/-- Whether the order is that of all results from the first to the last; then those that are alike come
together in it. -/
def isGrouping (selected : Selected) : Bool :=
  selected.part.isDistinct && selected.order.length = selected.part.values.length
    && (selected.order.zip selected.part.values).all fun (key, value) =>
      !key.isDescending && key.nullsFirst && key.expression.isSame value

def wish (selected : Selected) : Wish :=
  ⟨selected.part.values, selected.part.isDistinct, selected.order, selected.limit⟩

def survey (selected : Selected) (table : Table) : Survey := selected.part.survey table selected.order

def choice? (selected : Selected) : Option Choice :=
  selected.part.table.map fun table =>
    let survey := selected.survey table
    if selected.isGrouping then survey.chooseGroups selected.wish else survey.choose selected.wish

def rows (selected : Selected) : Flow NumberedRow :=
  match selected.part.table, selected.choice? with
  | some table, some choice => choice.path.visit table.rows
  | _, _ => .after (holdAll (0, []) selected.part.conditions) fun holds =>
    .ofList (if holds then [(0, [])] else [])

def satisfied (selected : Selected) : Nat :=
  (selected.choice?.map Choice.satisfied).getD selected.order.length

def distinct (selected : Selected) (rows : Flow (NumberedRow × Values)) : Flow (NumberedRow × Values) :=
  let collations := collationsOf selected.part.values
  ⟨distinctRows (fun left right => areSameRows collations left.2 right.2) rows.items, rows.failure⟩

def results (selected : Selected) : Flow (NumberedRow × Values) :=
  selected.rows.map fun row => do return (row, ← selected.part.valuesOn row)

def keysOn (selected : Selected) (row : NumberedRow) : Except ExecutionError Values :=
  selected.order.mapM (·.expression.value row)

def sorted (selected : Selected) (room : Option Nat) : Flow Values :=
  let sorting : Sorting :=
    ⟨selected.order.map SortKey.direction, selected.satisfied, room,
      room.isNone || selected.part.isDistinct⟩
  if selected.part.isDistinct then
    sorting.flow (fun (row, _) => selected.keysOn row) (fun (_, values) => .ok values)
      (selected.distinct selected.results)
  else sorting.flow selected.keysOn selected.part.valuesOn selected.rows

/-- Groups of results that are alike, of which the first one is given. A group is given when the next one
begins, unless all rows have to be put in order before. -/
def grouped (selected : Selected) : Flow Values :=
  let collations := collationsOf selected.part.values
  let results := selected.results.map fun (_, values) => .ok values
  let distinct (rows : List Values) := distinctRows (areSameRows collations) rows
  if selected.satisfied = selected.order.length then
    ⟨if results.failure.isSome then (distinct results.items).dropLast else distinct results.items,
      results.failure⟩
  else results.whole fun rows =>
    .ofList (distinct (rows.mergeSort fun left right => compareRows collations left right != .gt))

def pending (selected : Selected) (room : Option Nat) : Flow Pending :=
  let part := selected.part
  let known (flow : Flow Values) : Flow Pending := ⟨flow.items.map Pending.known, flow.failure⟩
  if !part.rows.isEmpty then
    .ofList (part.rows.map fun row _ => row.mapM (·.value (0, [])))
  else if selected.isGrouping then known selected.grouped
  else if selected.satisfied < selected.order.length then known (selected.sorted room)
  else if part.isDistinct then
    known ((selected.distinct selected.results).map fun (_, values) => .ok values)
  else
    let rows := selected.rows
    ⟨rows.items.map fun row _ => part.valuesOn row, rows.failure⟩

def flow (selected : Selected) (room : Option Nat) : Flow Values :=
  (selected.pending room).map fun row => row ()

end Selected

end SqlDesk.Sql
