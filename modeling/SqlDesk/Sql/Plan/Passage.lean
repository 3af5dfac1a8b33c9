import SqlDesk.Sql.Path.Visit
import SqlDesk.Sql.Plan.Outline
import SqlDesk.Sql.Plan.Steps

/-! Outlines of paths. First what does not depend on a row is looked at and what is read is opened; then
comes the way to a row, what is done with it, and the way to the next one. -/

set_option autoImplicit false

namespace SqlDesk.Sql

def Expression.isKept (affinity : Affinity) (isNegated : Bool) : Expression Field → Bool
  | .plus operand => operand.isKept affinity isNegated
  | .minus operand => operand.isKept affinity true
  | .number .. | .settled .. => affinity.isNumeric
  | .literal (.text _) _ => !isNegated && affinity = .text
  | .literal (.blob _) _ => !isNegated
  | .known field _ => field.place.isNone && affinity.isNumeric
  | _ => false

def Expression.suits (affinity : Affinity) (bound : Expression Field) : Bool :=
  affinity = .blob || bound.isKept affinity false
    || bound.affinity?.any fun own => !own.isNumeric && !affinity.isNumeric

namespace Walk

def name (walk : Walk) (told : String) : String :=
  let listing := walk.way.listing
  let column (index : Nat) : String := walk.table.columnNameIn listing index
  let equals := (List.range walk.way.equals).map fun index => column index ++ "=?"
  let bound (width : Nat) (sign : String) : List String :=
    if width = 0 then []
    else
      let names := (List.range width).map fun offset => column (walk.way.equals + offset)
      let marks := names.map fun _ => "?"
      let group (parts : List String) : String :=
        if width = 1 then String.join parts else "(" ++ String.intercalate "," parts ++ ")"
      [group names ++ sign ++ group marks]
  let parts := equals ++ bound walk.way.low ">" ++ bound walk.way.high "<"
  let range := if parts.isEmpty then "" else " (" ++ String.intercalate " AND " parts ++ ")"
  let verb := if walk.way.isSearch then "SEARCH " else "SCAN "
  let place :=
    if listing.number.isSome then
      (if walk.way.isCovering then " USING COVERING INDEX " else " USING INDEX ")
        ++ walk.table.listingName listing
    else if walk.way.isSearch then " USING INTEGER PRIMARY KEY" else ""
  verb ++ told ++ place ++ range

/-- What is read: the table, unless the listing will do, and the listing. -/
def openings (walk : Walk) : Nat :=
  (if walk.way.isCovering && walk.way.isByColumns then 0 else 1)
    + if walk.way.isByColumns then 1 else 0

/-- Steps for making a list of values to look for, and for taking one of them. -/
def listSteps (hand : Hand) (restriction : Restriction) : Nat :=
  let items := restriction.bounds.map fun bound => bound.steps .empty
  Steps.table items true (hand.hasList restriction.condition) + 3

/-- Whether a bound has to be converted for a column of the listing. Values of lists are in any case, and
so is nothing. -/
def isConverted (walk : Walk) (index : Nat) (restriction : Restriction) : Bool :=
  let affinity := (walk.table.placeIn walk.way.listing index).elim .integer fun place =>
    ((walk.table.columns[place]?).map ColumnDefinition.affinity).getD .blob
  match restriction.demand, restriction.bounds.head? with
  | some (.amongst _), _ | some .nothing, _ => affinity ≠ .blob
  | _, some bound => !restriction.isPattern && !bound.suits affinity
  | _, none => false

def boundSteps (restriction : Restriction) : Nat :=
  if restriction.isPattern then 1
  else match restriction.bounds.head? with
    | some bound => bound.placedSteps + if !restriction.isNotNull && bound.canBeNull then 1 else 0
    | none => 1

def valueSteps (hand : Hand) (isAlone : Bool) (index : Nat) (restriction : Restriction) : Nat :=
  match restriction.demand, restriction.bounds.head? with
  | some (.amongst _), _ => listSteps hand restriction + if 0 < index then 1 else 0
  | some .nothing, _ | _, none => 1
  | demand, some bound =>
    (if isAlone then (bound.steps .empty).make true else bound.placedSteps)
      + if demand = some .equal && bound.canBeNull then 1 else 0

def pattern? (walk : Walk) : Option Restriction :=
  (walk.way.uses.filterMap walk.restriction?).find? (·.isPattern)

def numberSteps (hand : Hand) (walk : Walk) : Nat :=
  let (equalities, first, last) := walk.bounds
  match equalities.head? with
  | some restriction => match restriction.demand, restriction.bounds.head? with
    | some (.amongst _), _ => listSteps hand restriction + 1
    | _, some bound => (bound.steps .empty).make true + 1
    | _, none => 2
  | none =>
    (first.elim 1 fun bound => (bound.bounds.head?.elim 0 Expression.operandSteps) + 1)
      + last.elim 0 fun bound => (bound.bounds.head?.elim 0 Expression.placedSteps) + 2

def listingSteps (hand : Hand) (walk : Walk) (isPart : Bool) : Nat :=
  let (equalities, first, last) := walk.bounds
  let hasRange : Bool := first.isSome || last.isSome
  let column := walk.table.placeIn walk.way.listing walk.way.equals
  let isOpen : Bool := column.isSome && !walk.table.isNotNullIn walk.way.listing walk.way.equals
  let isDown : Bool := walk.isReversed != walk.way.listing.isDescendingAt walk.way.equals
  let skipsNulls : Bool := isOpen && ((0 < walk.way.high && walk.way.low = 0) : Bool)
  let startsPastNulls := skipsNulls && !isDown
  let stopsAtNulls := skipsNulls && isDown
  let isAlone : Bool := walk.way.equals = 1 && !hasRange && !walk.hasNullsLast
  let values := Steps.total (equalities.zipIdx.map fun (restriction, index) => valueSteps hand isAlone index restriction)
  let converted := (equalities.zipIdx.any fun (restriction, index) => walk.isConverted index restriction)
    || first.any (walk.isConverted walk.way.equals)
  let seek := if walk.hasNullsLast then 5 else 1
  let start := first.elim (if startsPastNulls then 1 else 0) boundSteps + (if converted then 1 else 0)
  let finish := (last.elim (if stopsAtNulls then 1 else 0) boundSteps)
    + (if last.any (walk.isConverted walk.way.equals) then 1 else 0)
  let isEnding : Bool := !equalities.isEmpty || last.isSome || stopsAtNulls
  let hasLateList : Bool := (equalities.drop 1).any fun restriction => restriction.demand matches some (.amongst _)
  let isEndingAll : Bool := isEnding || (walk.hasNullsLast && isDown)
  (if walk.pattern?.isSome then 1 else 0) + values + start + seek + finish
    + (if walk.hasNullsLast then 2 else 0)
    + (if isEndingAll then (if walk.hasNullsLast then 2 else 1) else 0)
    + (if hasLateList then 1 else 0) + if walk.way.isCovering && !isPart then 0 else 1

/-- Steps for looking whether a pattern, all of which is in its bounds, takes bytes. -/
def patternSteps (walk : Walk) : Nat :=
  match walk.pattern? with
  | none => 0
  | some restriction =>
    if restriction.origin.isSome && restriction.manner.collation = .noCase then
      1 + restriction.condition.testSteps .empty
    else 0

def entrySteps (hand : Hand) (walk : Walk) (isPart : Bool) : Nat :=
  (if walk.way.isByColumns then walk.listingSteps hand isPart
    else if walk.way.isSearch then walk.numberSteps hand else 1)
    + walk.patternSteps + Steps.total (walk.remaining.map (Expression.testSteps hand))

def exitSteps (walk : Walk) : Nat :=
  let equalities := walk.bounds.1
  let lists := equalities.countP fun restriction => restriction.demand matches some (.amongst _)
  let late := (equalities.drop 1).countP fun restriction => restriction.demand matches some (.amongst _)
  let isWhole : Bool := 0 < lists && !walk.hasNullsLast
    && equalities.length = walk.way.listing.columns.length
    && equalities.all fun restriction => restriction.demand ≠ some .same && restriction.demand ≠ some .nothing
  let isSingle : Bool := walk.way.isSingle || (walk.way.isByNumber && 0 < walk.way.equals) || isWhole
  (if isSingle then 0 else 1) + lists + late + (if walk.hasNullsLast then 1 else 0)
    + if walk.pattern?.isSome then 1 else 0

def constantSteps (walk : Walk) : Nat := Steps.total (walk.constants.map (Expression.testSteps .empty))

end Walk

structure Passage where
  told : String
  mayRepeat : Bool

namespace Path

def tabled (path : Path) : List (Expression Field) :=
  let asked := path.walk.remaining.flatMap Expression.tabled
  match path with
  | single walk =>
    let lists := walk.bounds.1.filter fun restriction => restriction.demand matches some (.amongst _)
    lists.map Restriction.condition ++ asked
  | several .. => asked

/-- What is at hand behind a path for others that share some conditions with it. -/
def handOn (path : Path) (shared : List (Expression Field)) (hand : Hand) : Hand :=
  let nodes := shared.flatMap Expression.nodes
  { hand with lists := hand.lists ++ path.tabled.filter fun list => nodes.any list.isSame }

def enter (passage : Passage) : Path → Outline Unit
  | single walk => do
    Outline.pass (walk.constantSteps + walk.openings)
    let _ ← Outline.tell (walk.name passage.told) walk.way.cost
    Outline.pass (walk.entrySteps .empty false)
  | several walk shared paths => do
    Outline.pass (walk.constantSteps + (if passage.mayRepeat then 2 else 3))
    Outline.telling "MULTI-INDEX OR" (enterAll passage shared .empty 1 paths)
    Outline.pass (1 + Steps.total (walk.remaining.map (Expression.testSteps .empty)))
where
  enterPart (passage : Passage) (hand : Hand) (path : Path) : Outline Unit :=
    match path with
    | single walk => do
      Outline.pass (walk.constantSteps + (if walk.way.isByColumns then 1 else 0) + walk.entrySteps hand true)
      let _ ← Outline.tell (walk.name passage.told) walk.way.cost
      Outline.pass ((if passage.mayRepeat then 1 else 3) + walk.exitSteps)
    | several walk shared paths => do
      Outline.pass (walk.constantSteps + 2)
      Outline.telling "MULTI-INDEX OR" (enterAll passage shared hand 1 paths)
      Outline.pass (1 + Steps.total (walk.remaining.map (Expression.testSteps hand))
        + (if passage.mayRepeat then 2 else 4))
  enterAll (passage : Passage) (shared : List (Expression Field)) (hand : Hand) (number : Nat) :
      List Path → Outline Unit
    | [] => return
    | first :: rest => do
      let number' ← Outline.tell s!"INDEX {number}" 0
      Outline.inside number' (enterPart passage hand first)
      enterAll passage shared (first.handOn shared hand) (number + 1) rest

def exitSteps : Path → Nat
  | single walk => walk.exitSteps
  | several .. => 1

end Path

end SqlDesk.Sql
