import SqlDesk.Sql.Plan.Selection
import SqlDesk.Sql.Prepared

/-! How a statement would be carried out: rows that say which table is visited in which way. Every row has
a number, which grows with the steps that come in front of it. -/

set_option autoImplicit false

namespace SqlDesk.Sql

def Path.uncovered : Path → Path
  | single walk => single { walk with way := { walk.way with isCovering := false } }
  | several walk shared paths => several walk shared paths

namespace Insertion

def transferSteps (insertion : Insertion) : Nat :=
  if insertion.isTransfer then
    14 + 8 * insertion.table.definition.uniqueness.length
      + if insertion.table.definition.numberPlace.isSome then 2 else 0
  else 0

def planRows (insertion : Insertion) : List PlanRow :=
  match insertion.query with
  | none => []
  | some resolved =>
    let ahead := resolved.aheadSteps
    if insertion.isTransfer && insertion.table.mayTransfer insertion.conflict then []
    else if resolved.isGroup then Outline.rows (1 + ahead) (resolved.outline 0 .given)
    else
      let output : Output :=
        if !resolved.placed.isEmpty && !resolved.isSortedLast then .moved
        else if insertion.isInOrder then .delivered
        else .given
      Outline.rows (2 + ahead + insertion.transferSteps) (resolved.outline 216 output)

end Insertion

namespace Update

def planRows (update : Update) : List PlanRow :=
  let path := update.selecting.path
  let isStraight : Bool := path.walk.way.isSingle || (!update.setsNumber && !update.replacesRows)
  Outline.rows 3 ((if isStraight then path.uncovered else path).enter ⟨update.selecting.target.told, false⟩)

end Update

namespace Selecting

def planRows (selecting : Selecting) : List PlanRow :=
  if selecting.condition.isNone then []
  else Outline.rows 2 (selecting.path.uncovered.enter ⟨selecting.target.told, true⟩)

end Selecting

def Prepared.planRows : Prepared → List PlanRow
  | query resolved =>
    Outline.rows (1 + resolved.aheadSteps) (resolved.outline 216 .given)
  | insert insertion => insertion.planRows
  | update changing => changing.planRows
  | delete selecting => selecting.planRows
  | create _ | keep | transaction _ | vacuum _ | analyze | drop _ | plan _ => []

end SqlDesk.Sql
