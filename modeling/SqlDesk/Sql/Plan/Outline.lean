import SqlDesk.Sql.Value

/-! Outlines of how a statement would be carried out. An outline has rows that tell what is done where; a
row is known by the number of steps in front of it, and it is a step itself. -/

set_option autoImplicit false

namespace SqlDesk.Sql

/-- A row of a plan: its number, that of the row it belongs to, its cost and what it says. -/
structure PlanRow where
  number : Nat
  parent : Nat
  cost : Int
  detail : String
  deriving DecidableEq, Repr

namespace PlanRow

def values (plan : PlanRow) : Values :=
  [.ofInt plan.number, .ofInt plan.parent, .ofInt plan.cost, .ofString plan.detail]

end PlanRow

structure Draught where
  next : Nat
  parent : Nat
  rows : List PlanRow

abbrev Outline := StateM Draught

namespace Outline

/-- Some steps that are not told. -/
def pass (count : Nat) : Outline Unit := modify fun draught => { draught with next := draught.next + count }

def tell (detail : String) (cost : Int) : Outline Nat := do
  let draught ← get
  set ({ draught with
    next := draught.next + 1,
    rows := draught.rows ++ [⟨draught.next, draught.parent, cost, detail⟩] } : Draught)
  return draught.next

def inside {α : Type} (number : Nat) (outline : Outline α) : Outline α := do
  let draught ← get
  set { draught with parent := number }
  let value ← outline
  modify fun draught' => { draught' with parent := draught.parent }
  return value

def telling {α : Type} (detail : String) (outline : Outline α) : Outline α := do
  let number ← tell detail 0
  inside number outline

def rows (start : Nat) (outline : Outline Unit) : List PlanRow := (outline.run ⟨start, 0, []⟩).2.rows

end Outline

end SqlDesk.Sql
