import SqlDesk.Sql.Path.Choice

/-! The rows that a path gives, one after another. What does not depend on a row is looked at once, in
front of the first one; a row is looked at as soon as it has been found. -/

set_option autoImplicit false

namespace SqlDesk.Sql

/-- Whether all of some conditions hold on a row; none is looked at behind one that does not. -/
def holdAll (row : NumberedRow) : List (Expression Field) → Except ExecutionError Bool
  | [] => .ok true
  | condition :: rest => do
    if ← condition.holds row then holdAll row rest else return false

namespace Walk

def restriction? (walk : Walk) (number : Nat) : Option Restriction := walk.restrictions[number]?

/-- The restrictions that rows are found by: those by one value at a time, and the first and the last
bound, where the walk begins and where it ends. -/
def bounds (walk : Walk) : List Restriction × Option Restriction × Option Restriction :=
  let used := walk.way.uses.filterMap walk.restriction?
  let ranges := used.drop walk.way.equals
  let low := ranges.find? (·.demand = some .above)
  let high := ranges.find? (·.demand = some .below)
  let isDown : Bool := walk.isReversed != walk.way.listing.isDescendingAt walk.way.equals
  (used.take walk.way.equals, if isDown then high else low, if isDown then low else high)

/-- Whether something is left when a column is to be compared with some values. -/
def isOpen (restriction : Restriction) : Except ExecutionError Bool := do
  let values ← restriction.bounds.mapM fun bound => bound.value (0, [])
  return match restriction.demand with
    | some .equal => !values.any Value.isNull
    | some .above | some .below => restriction.isNotNull || !(values.headD .null).isNull
    | _ => true

def satisfying (rows : List NumberedRow) (restriction : Restriction) :
    Except ExecutionError (List NumberedRow) :=
  rows.filterM fun row => restriction.condition.holds row

def between (rows : List NumberedRow) : List (Option Restriction) → Except ExecutionError (List NumberedRow)
  | [] => .ok rows
  | none :: rest => between rows rest
  | some bound :: rest => do
    if rows.isEmpty then return []
    if ← isOpen bound then between (← satisfying rows bound) rest else return []

/-- The rows that have the values that are looked for, and lie within the bounds. -/
def matching (rows : List NumberedRow) (ranges : List (Option Restriction)) (pending : List Restriction) :
    List Restriction → Except ExecutionError (List NumberedRow)
  | [] => do between (← pending.foldlM satisfying rows) ranges
  | restriction :: rest => do
    if ← isOpen restriction then matching rows ranges (pending ++ [restriction]) rest else return []

def ordered (walk : Walk) (rows : List NumberedRow) : List NumberedRow :=
  let isMissing (row : NumberedRow) : Bool :=
    ((walk.way.listing.columns[walk.way.equals]?).map fun column =>
      (row.2.getD column.place .null).isNull).getD false
  let rows := walk.way.listing.arrange rows
  let rows := if walk.hasNullsLast then rows.filter (!isMissing ·) ++ rows.filter isMissing else rows
  if walk.isReversed then rows.reverse else rows

def found (walk : Walk) (rows : List NumberedRow) : Except ExecutionError (List NumberedRow) :=
  let (equalities, first, last) := walk.bounds
  return walk.ordered (← matching rows [first, last] [] equalities)

def constants (walk : Walk) : List (Expression Field) :=
  (walk.restrictions.filter fun restriction => !restriction.isDerived && restriction.isConstant).map
    Restriction.condition

def isSettled (walk : Walk) (number : Nat) : Bool :=
  let children := walk.restrictions.zipIdx.filter fun (restriction, _) => restriction.origin = some number
  let isUsed : Bool := walk.way.uses.contains number && (walk.restriction? number).any fun restriction =>
    !restriction.demand.any Demand.isRange || restriction.bounds.all (·.width = 1)
  isUsed || (!children.isEmpty && children.all fun (_, child) => walk.way.uses.contains child)

/-- The conditions that are left to be looked at on every row; first come those that the listing has all
columns of. -/
def remaining (walk : Walk) : List (Expression Field) :=
  let conditions := (walk.restrictions.zipIdx.filter fun (restriction, number) =>
    !restriction.isDerived && !restriction.isConstant && !walk.isSettled number).map (·.1.condition)
  let isNear (condition : Expression Field) : Bool :=
    walk.way.listing.number.isSome && walk.table.covers walk.way.listing condition.places
  conditions.filter isNear ++ conditions.filter (!isNear ·)

end Walk

def withoutRepeats (seen : List Int) : List NumberedRow → List NumberedRow
  | [] => []
  | row :: rest =>
    if seen.contains row.1 then withoutRepeats seen rest
    else row :: withoutRepeats (row.1 :: seen) rest

namespace Path

def visit (rows : List NumberedRow) (path : Path) : Flow NumberedRow :=
  match path with
  | single walk =>
    .after (holdAll (0, []) walk.constants) fun holds =>
      if !holds then .ofList []
      else .after (walk.found rows) fun found =>
        (Flow.ofList found).filter fun row => holdAll row walk.remaining
  | several walk _ paths =>
    .after (holdAll (0, []) walk.constants) fun holds =>
      if !holds then .ofList []
      else
        let all := visitAll rows paths
        (Flow.mk (withoutRepeats [] all.items) all.failure).filter fun row => holdAll row walk.remaining
where
  visitAll (rows : List NumberedRow) : List Path → Flow NumberedRow
    | [] => .ofList []
    | first :: rest => (first.visit rows).append (visitAll rows rest)

end Path

end SqlDesk.Sql
