import SqlDesk.Sql.Answer.Order

/-! Putting rows in order. Where they come in the order of the first terms, only rows that are alike in
these are put in order, and they are given as soon as the next ones come. Where no more than so many
rows are wanted, a row that comes behind as many is not looked at further. -/

set_option autoImplicit false

namespace SqlDesk.Sql

structure Sorting where
  directions : List Direction
  satisfied : Nat
  room : Option Nat
  /-- Whether the results are looked at before the terms of the order. -/
  isEager : Bool

structure Entry where
  keys : Values
  results : Values

/-- Rows that have been given, and those that are still put in order, in their order. -/
structure Sorter where
  given : List Values
  block : List Entry

namespace Sorting

def compare (sorting : Sorting) (left right : Entry) : Ordering :=
  Direction.compareAll sorting.directions left.keys right.keys

/-- Whether two rows are alike in the terms that rows come in the order of. -/
def areAlike (sorting : Sorting) (left right : Values) : Bool :=
  Direction.compareAll (sorting.directions.take sorting.satisfied) left right == .eq

def sorted (sorting : Sorting) (block : List Entry) : List Values :=
  (block.mergeSort fun left right => sorting.compare left right != .gt).map Entry.results

def turned (sorting : Sorting) (keys : Values) (sorter : Sorter) : Sorter :=
  match sorter.block with
  | [] => sorter
  | first :: _ =>
    if sorting.areAlike first.keys keys then sorter
    else ⟨sorter.given ++ sorting.sorted sorter.block, []⟩

/-- Whether a row comes in among as many as are wanted. -/
def enters (sorting : Sorting) (keys : Values) (sorter : Sorter) : Bool :=
  match sorting.room with
  | none => true
  | some room =>
    sorter.given.length + sorter.block.length < room
      || sorter.block.any fun entry => sorting.compare ⟨keys, []⟩ entry == .lt

/-- Adds a row; if there are too many then, the last one goes. -/
def added (sorting : Sorting) (entry : Entry) (sorter : Sorter) : Sorter :=
  match sorting.room with
  | none => { sorter with block := sorter.block ++ [entry] }
  | some room =>
    let block := (sorter.block ++ [entry]).mergeSort fun left right => sorting.compare left right != .gt
    { sorter with block := block.take (room - sorter.given.length) }

def isDone (sorting : Sorting) (sorter : Sorter) : Bool :=
  sorting.room.any (· ≤ sorter.given.length)

variable {α : Type}

def step (sorting : Sorting) (keys results : α → Except ExecutionError Values) (sorter : Sorter)
    (row : α) : Except ExecutionError Sorter := do
  if sorting.isEager then
    let results ← results row
    let keys ← keys row
    let sorter := sorting.turned keys sorter
    return if sorting.enters keys sorter then sorting.added ⟨keys, results⟩ sorter else sorter
  else
    let keys ← keys row
    let sorter := sorting.turned keys sorter
    if sorting.isDone sorter then return sorter
    else if sorting.enters keys sorter then return sorting.added ⟨keys, ← results row⟩ sorter
    else return sorter

def run (sorting : Sorting) (keys results : α → Except ExecutionError Values) (failure : Option ExecutionError)
    (sorter : Sorter) : List α → Flow Values
  | [] => match failure with
    | none => .ofList (sorter.given ++ sorting.sorted sorter.block)
    | some failure => ⟨sorter.given, some failure⟩
  | row :: rest =>
    match sorting.step keys results sorter row with
    | .error failure => ⟨sorter.given, some failure⟩
    | .ok sorter =>
      if sorting.isDone sorter && sorter.block.isEmpty then .ofList sorter.given
      else run sorting keys results failure sorter rest

def flow (sorting : Sorting) (keys results : α → Except ExecutionError Values) (rows : Flow α) :
    Flow Values :=
  sorting.run keys results rows.failure ⟨[], []⟩ rows.items

end Sorting

end SqlDesk.Sql
