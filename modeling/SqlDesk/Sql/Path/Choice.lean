import SqlDesk.Sql.Flow
import SqlDesk.Sql.Path.Fit

/-! Which way is taken through the rows of a table. One that finds a single row by its number or by all
columns of a constraint is taken at once; of all others the cheapest one is, where sorting has its price
as well. -/

set_option autoImplicit false

namespace SqlDesk.Sql

structure Wish where
  results : List (Expression Field)
  isDistinct : Bool
  order : List SortKey
  limit : Option Estimate

namespace Wish

def none : Wish := ⟨[], false, [], Option.none⟩

def resultKeys (wish : Wish) : List SortKey :=
  wish.results.zipIdx.map fun (result, place) => ⟨result, false, true, some place⟩

/-- The estimate of the cost of sorting so many rows, of which the first terms are in order. -/
def sortCost (wish : Wish) (keys : List SortKey) (rows : Estimate) (sorted : Nat) : Estimate :=
  let count := keys.length
  let width := Estimate.ofCount ((wish.results.length + 59) / 30)
  let part := if 0 < sorted then Estimate.ofCount ((count - sorted) * 100 / count) - 66 else 0
  let limited : Estimate := if wish.limit.isSome then (if sorted ≠ 0 then 16 else 10) else 0
  let entering := match wish.limit with
    | some limit => min limit rows
    | Option.none => if wish.isDistinct && 10 < rows then rows - 10 else rows
  rows + width + part + limited + Estimate.search entering

end Wish

inductive Distinction where
  | none
  /-- There are no repetitions. -/
  | needless
  /-- Rows with the same values come together. -/
  | adjacent
  /-- The rows so far are kept. -/
  | gathered
  deriving DecidableEq, Repr

structure Walk where
  table : TableDefinition
  way : Way
  restrictions : List Restriction
  isReversed : Bool
  /-- Whether rows with nothing in the first column behind those that are equal to something come apart from
  the others. -/
  hasNullsLast : Bool

inductive Path where
  | single (walk : Walk)
  /-- One path after another, with the conditions that all of them look at besides their own; rows that
  have been given are not given again. -/
  | several (walk : Walk) (shared : List (Expression Field)) (paths : List Path)

def Path.walk : Path → Walk
  | single walk | several walk _ _ => walk

structure Choice where
  path : Path
  satisfied : Nat
  distinction : Distinction

namespace Survey

def alternative (survey : Survey) (conditions : List (Expression Field)) : Survey :=
  { survey with
    restrictions := Restriction.ofConditions conditions,
    outer := survey.restrictions ++ survey.outer }

def alternatives (condition : Expression Field) : List (List (Expression Field)) :=
  match condition.operands .or with
  | [_] => []
  | several => several.map (·.operands .and)

/-- Columns of which any value satisfies a condition of several alternatives, the last one first. They are
gone through once more, as what is greater than nothing. -/
def presences (condition : Expression Field) : List (Expression Field) :=
  let of? (alternative : Expression Field) : Option (Expression Field) := match alternative with
    | .isNull true (.column field) | .isNull true (.known field _) =>
      if field.place.isSome then some (.column field) else none
    | _ => none
  match condition.operands .or with
  | [_] => []
  | several => (several.filterMap of?).reverse

def unions (survey : Survey) : Nat → List Way
  | 0 => []
  | fuel + 1 => survey.restrictions.zipIdx.filterMap fun (restriction, number) =>
    let again := (presences restriction.condition).map fun column => [Expression.isNull true column]
    match alternatives restriction.condition ++ again with
    | [] => none
    | first :: rest => do
      if restriction.isDerived then none
      let cost ← best fuel first
      let (cost, rows) ← rest.foldlM (fun (cost, rows) conditions => do
        let (nextCost, nextRows) ← best fuel conditions
        return (Estimate.both cost nextCost, Estimate.both rows nextRows)) cost
      return { start with uses := [number], cost := cost + 1, rows, alternatives := some number }
where
  start : Way := ⟨.byNumber, [], 0, 0, 0, false, false, false, false, false, 0, 0, 0, none⟩
  best (fuel : Nat) (conditions : List (Expression Field)) : Option (Estimate × Estimate) :=
    let survey := survey.alternative conditions
    let ways := survey.ways.filter (!·.uses.isEmpty) ++ survey.unions fuel
    match ways with
    | [] => none
    | first :: rest => some (rest.foldl (fun (cost, rows) way =>
        if way.cost ≤ cost then (way.cost, min rows way.rows) else (cost, rows))
      (first.cost, first.rows))

def depth (survey : Survey) : Nat :=
  (survey.restrictions.map fun restriction => restriction.condition.nodes.length).foldr (· + ·) 1

def candidates (survey : Survey) : List Way :=
  (survey.ways ++ survey.unions survey.depth).foldl Way.insert []

/-- A way that finds a row by its number, or by all columns of a constraint. -/
def shortcut? (survey : Survey) : Option Way :=
  if survey.indexing ≠ .free then none else
  let found (listing : Listing) (index : Nat) (isComplete : Bool) : Option Nat :=
    ((survey.serving listing index fun demand =>
      demand = .equal || (isComplete && demand = .same)).head?).map Prod.snd
  let start : Way := ⟨.byNumber, [], 0, 0, 0, false, true, true, false, false, 0, 0, 1, none⟩
  match found .byNumber 0 true with
  | some number => some { start with uses := [number], equals := 1, cost := 33 }
  | none => survey.table.listings.findSome? fun listing => do
    if 3 < listing.columns.length then none
    let uses ← (List.range listing.columns.length).mapM fun index =>
      found listing index (survey.table.isComplete listing)
    return { start with
      listing, uses, equals := uses.length, cost := 39,
      isCovering := survey.table.covers listing survey.used }

structure Offer where
  way : Way
  cost : Estimate
  unsorted : Estimate
  fit : Fit

def Offer.isBetter (offer other : Offer) : Bool :=
  if offer.cost ≠ other.cost then offer.cost < other.cost
  else if offer.way.rows ≠ other.way.rows then offer.way.rows < other.way.rows
  else if offer.unsorted ≠ other.unsorted then offer.unsorted < other.unsorted
  else offer.way.isByColumns && other.way.isByColumns
    && offer.way.listing.width < other.way.listing.width

def bestOffer? : List Offer → Option Offer
  | [] => none
  | first :: rest => some (rest.foldl (fun best offer => if offer.isBetter best then offer else best) first)

def plainOffer (way : Way) : Offer :=
  let cost := Estimate.both way.cost 0
  ⟨way, cost, cost - 2, ⟨0, false, false⟩⟩

def orderedOffer (survey : Survey) (wish : Wish) (usage : OrderUse) (rows : Estimate) (way : Way) : Offer :=
  let fit := survey.fit usage survey.order way
  let unsorted := Estimate.both way.cost 0
  if fit.satisfied < survey.order.length then
    ⟨way, Estimate.both unsorted (wish.sortCost survey.order rows fit.satisfied) + 3, unsorted, fit⟩
  else ⟨way, unsorted, unsorted - 2, fit⟩

def isDistinct (survey : Survey) (wish : Wish) : Bool :=
  let columns := wish.resultKeys.filterMap fun key => key.column?.map fun column => (column, key.collation)
  columns.any (·.1 = none) || survey.table.listings.any fun listing =>
    (List.range listing.columns.length).all fun index =>
      let place := survey.table.placeIn listing index
      !(survey.serving listing index (· = .equal)).isEmpty
        || (columns.contains (place, listing.collationAt index)
          && survey.table.isNotNullIn listing index)

/-- The walk of a way. Where it has bounds, rows with nothing do not come. -/
def walk (survey : Survey) (fit : Fit) (way : Way) : Walk :=
  ⟨survey.table, way, survey.restrictions ++ survey.outer, fit.isReversed,
    fit.hasNullsLast && way.isByColumns && way.low = 0 && way.high = 0⟩

def path (survey : Survey) (fit : Fit) (way : Way) : Nat → Path
  | 0 => .single (survey.walk fit way)
  | fuel + 1 =>
    let walk := survey.walk fit way
    match way.alternatives with
    | none => .single walk
    | some number =>
      let others := (survey.restrictions.zipIdx.filter fun (restriction, other) =>
        other ≠ number && !restriction.isDerived && !restriction.isSlice && !restriction.isConstant
          && restriction.isLookedAt).map fun (restriction, _) => restriction.condition
      let condition := ((survey.restriction? number).map Restriction.condition).getD (.boolean true)
      let again := (presences condition).map fun column =>
        [Expression.binary (.compare .greater) column (.literal .null 0)]
      .several walk others <| (alternatives condition ++ again).map fun conditions =>
        let survey : Survey :=
          { survey with
            restrictions := Restriction.ofConditions (conditions ++ others), outer := [], order := [],
            isSelection := true }
        match bestOffer? (survey.candidates.map plainOffer) with
        | none => .single walk
        | some offer => survey.path offer.fit offer.way fuel

/-- The ways that are left when the best one without regard to the order finds rows by values of
columns: then none is taken that goes through all rows. -/
def remaining (best : Way) (ways : List Way) : List Way :=
  if best.hasEquality || best.hasNull || best.hasList then ways.filter Way.isSearch else ways

/-- How the rows of a way come in the order, where that matters for it as a whole. -/
def finalFit (survey : Survey) (usage : OrderUse) (offer : Offer) : Fit :=
  if usage = .grouping then { offer.fit with isReversed := false, hasNullsLast := false }
  else if 0 < offer.fit.satisfied || offer.way.isSingle
      || (offer.way.isByNumber && offer.way.hasList) then offer.fit
  else
    let fit := survey.fit .eachValue survey.order offer.way
    if fit.satisfied = survey.order.length then { offer.fit with isReversed := fit.isReversed }
    else offer.fit

/-- How repetitions are left out where the rows of a way come in an order so far. -/
def distinction (survey : Survey) (wish : Wish) (offer : Offer) : Distinction :=
  if !wish.isDistinct then .none
  else if survey.isDistinct wish then .needless
  else
    let fit := if wish.order.isEmpty then offer.fit
      else survey.fit .grouping wish.resultKeys offer.way
    if fit.satisfied = wish.results.length then .adjacent else .gathered

def choice (survey : Survey) (wish : Wish) (usage : OrderUse) (offer : Offer) : Choice :=
  ⟨survey.path (survey.finalFit usage offer) offer.way survey.depth,
    if usage = .grouping then 0 else offer.fit.satisfied, survey.distinction wish offer⟩

/-- How the rows that are asked for are found. Without an order, results without repetitions may as well
come together. -/
def choose (survey : Survey) (wish : Wish) : Choice :=
  let survey := { survey with order := wish.order }
  match survey.shortcut? with
  | some way =>
    ⟨survey.path ⟨0, false, false⟩ way 0, wish.order.length,
      if wish.isDistinct then .needless else .none⟩
  | none =>
    let isGrouping : Bool := wish.isDistinct && wish.order.isEmpty && !survey.isDistinct wish
    let usage := if isGrouping then OrderUse.grouping else .sorting
    let survey := if isGrouping then { survey with order := wish.resultKeys } else survey
    let ways := survey.candidates
    match bestOffer? (ways.map plainOffer) with
    | none => ⟨survey.path ⟨0, false, false⟩ .whole 0, 0, .gathered⟩
    | some plain =>
      if survey.order.isEmpty then survey.choice wish usage plain
      else
        let rows := if plain.way.rows < 0 then 1 else plain.way.rows + 1
        let offers := (remaining plain.way ways).map (survey.orderedOffer wish usage rows)
        survey.choice wish usage ((bestOffer? offers).getD plain)

/-- How rows are found whose results come together and in order. -/
def chooseGroups (survey : Survey) (wish : Wish) : Choice :=
  let wish := { wish with isDistinct := false, limit := none }
  let survey := { survey with order := wish.resultKeys }
  match survey.shortcut? with
  | some way => ⟨survey.path ⟨0, false, false⟩ way 0, 0, .adjacent⟩
  | none =>
    let ways := survey.candidates
    match bestOffer? (ways.map plainOffer) with
    | none => ⟨survey.path ⟨0, false, false⟩ .whole 0, 0, .gathered⟩
    | some plain =>
      let rows := if plain.way.rows < 0 then 1 else plain.way.rows + 1
      let offers := (remaining plain.way ways).map (survey.orderedOffer wish .grouping rows)
      let offer := (bestOffer? offers).getD plain
      let together := survey.fit .grouping survey.order offer.way
      let inOrder := survey.fit .sorting survey.order offer.way
      let isOrdered : Bool := inOrder.satisfied = survey.order.length
      let fit : Fit := if isOrdered then inOrder else ⟨0, false, false⟩
      let isTogether : Bool := together.satisfied = survey.order.length
      ⟨survey.path fit offer.way survey.depth, if isTogether && isOrdered then survey.order.length else 0,
        if isTogether then .adjacent else .gathered⟩

end Survey

end SqlDesk.Sql
