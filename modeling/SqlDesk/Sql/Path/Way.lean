import SqlDesk.Sql.Path.Listing
import SqlDesk.Sql.Path.Restriction

/-! Ways through the rows of a table, with what they cost and how many rows they give. A way goes through
a listing as far as some restrictions let it, or through several of them for conditions of which one has
to be satisfied. Of two ways that serve the same order only the better one is kept. -/

set_option autoImplicit false

namespace SqlDesk.Sql

structure SortKey where
  expression : Expression Field
  isDescending : Bool
  nullsFirst : Bool
  result : Option Nat

namespace SortKey

def collation (key : SortKey) : Collation := Expression.collationOf key.expression.collation?

/-- The column that a term is: its place, which the number of a row has none of. -/
def column? (key : SortKey) : Option (Option Nat) :=
  match key.expression.withoutCollation with
  | .column field => some field.place
  | _ => none

/-- Whether nothing comes where the greatest values come. -/
def hasNullsLast (key : SortKey) : Bool := key.nullsFirst = key.isDescending

end SortKey

structure Way where
  listing : Listing
  uses : List Nat
  equals : Nat
  /-- Number of columns that a bound is about, which comes from below or from above. -/
  low : Nat
  high : Nat
  /-- Whether nothing but the listing is needed. -/
  isCovering : Bool
  isSingle : Bool
  hasEquality : Bool
  hasList : Bool
  hasNull : Bool
  /-- Ways of different groups may serve different orders. -/
  group : Nat
  cost : Estimate
  rows : Estimate
  /-- The restriction whose alternatives are gone through one after another, by its number. -/
  alternatives : Option Nat
  deriving DecidableEq, Repr

namespace Way

def whole : Way := ⟨.byNumber, [], 0, 0, 0, false, false, false, false, false, 0, 216, tableRows, none⟩

def isSearch (way : Way) : Bool := 0 < way.equals || 0 < way.low || 0 < way.high

def isByNumber (way : Way) : Bool := way.listing.number.isNone && way.alternatives.isNone

def isByColumns (way : Way) : Bool := way.listing.number.isSome

/-- Whether a way goes by some of what another one goes by, though it is no dearer. -/
def isCheaperPart (way other : Way) : Bool :=
  if other.cost < way.cost && other.rows < way.rows then false
  else if way.equals < other.equals && way.listing.number = other.listing.number then true
  else way.uses.length < other.uses.length && way.uses.all other.uses.contains
    && (!way.isCovering || other.isCovering)

/-- The way with a cost that does not contradict those of other ways. -/
def adjusted (ways : List Way) (way : Way) : Way :=
  if way.isByColumns then
    (ways.filter isByColumns).foldl (fun way other =>
      if other.isCheaperPart way then
        { way with cost := min other.cost way.cost, rows := min (other.rows - 1) way.rows }
      else if way.isCheaperPart other then
        { way with cost := max other.cost way.cost, rows := max (other.rows + 1) way.rows }
      else way) way
  else way

def isNoDearer (way other : Way) : Bool := way.cost ≤ other.cost && way.rows ≤ other.rows

/-- Adds a way to others, unless one of them is no dearer. It takes the place of the first one that is
dearer, and others that are go. -/
def insert (ways : List Way) (added : Way) : List Way :=
  let way := added.adjusted ways
  let rivals := ways.filter (·.group = way.group)
  if rivals.any fun rival => rival.isNoDearer way
      && (ways.takeWhile (· ≠ rival)).all fun front => front.group ≠ way.group || !way.isNoDearer front then
    ways
  else
    let isDearer (other : Way) := other.group = way.group && way.isNoDearer other
    ways.takeWhile (!isDearer ·) ++ way :: (ways.dropWhile (!isDearer ·)).filter (!isDearer ·)

end Way

/-- What is known about a table of which rows are asked for. -/
structure Survey where
  table : TableDefinition
  used : List Nat
  restrictions : List Restriction
  outer : List Restriction
  order : List SortKey
  indexing : Indexing
  isSelection : Bool

def sharedWidth (table : TableDefinition) (listing : Listing) (index : Nat) (condition : Expression Field) :
    Nat :=
  match condition with
  | .binary _ (.tuple lefts) (.tuple rights) =>
    1 + (((lefts.zip rights).zipIdx.drop 1).takeWhile fun ((left, right), offset) =>
      let isSame := match left with
        | .column field =>
          field.place = table.placeIn listing (index + offset)
            && (field.place.isNone
              || ((Manner.ofOperands left right).affinity = field.affinity
                && (Manner.ofOperands left right).collation = listing.collationAt (index + offset)))
        | _ => false
      index + offset < listing.size && isSame
        && listing.isDescendingAt (index + offset) = listing.isDescendingAt index).length
  | _ => 1

namespace Survey

def numbered (survey : Survey) : List (Restriction × Nat) :=
  (survey.restrictions ++ survey.outer).zipIdx

def restriction? (survey : Survey) (number : Nat) : Option Restriction :=
  (survey.restrictions ++ survey.outer)[number]?

def twinLimit : Nat := 11

/-- A column and those that equal it on every row; `pending` are still to be followed. -/
def twins (survey : Survey) : Nat → List (Option Nat) → List (Option Nat) → List (Option Nat)
  | 0, _, _ => []
  | _ + 1, _, [] => []
  | fuel + 1, known, column :: pending =>
    let found := survey.numbered.filterMap fun (restriction, _) =>
      if restriction.column = some column then restriction.twin else none
    let new := found.eraseDups.filter (!known.contains ·)
    column :: twins survey fuel (known ++ new) (pending ++ new)

def isOrderedBy (survey : Survey) (listing : Listing) (index : Nat) (restriction : Restriction) : Bool :=
  match survey.table.placeIn listing index with
  | none => true
  | some place =>
    restriction.demand = some .nothing
      || (restriction.manner.collation = listing.collationAt index
        && match restriction.manner.affinity, (survey.table.columns[place]?).map ColumnDefinition.affinity with
          | .text, some affinity => affinity = .text
          | .blob, _ => true
          | _, some affinity => affinity.isNumeric
          | _, none => false)

def serving (survey : Survey) (listing : Listing) (index : Nat) (isWanted : Demand → Bool) :
    List (Restriction × Nat) :=
  let column := survey.table.placeIn listing index
  (survey.twins twinLimit [column] [column]).flatMap fun column =>
    survey.numbered.filter fun (restriction, _) =>
      restriction.column = some column && restriction.demand.any isWanted
        && survey.isOrderedBy listing index restriction

/-- What the restrictions that a way does not go by make of the number of its rows. -/
def reduced (survey : Survey) (way : Way) : Way :=
  let isUsed (number : Nat) : Bool := way.uses.any fun other =>
    other = number || ((survey.restriction? other).bind Restriction.origin) = some number
  let further := survey.restrictions.zipIdx.filter fun (restriction, number) =>
    !restriction.isDerived && !restriction.isConstant && !isUsed number
  let reductions : List Estimate := further.map fun (restriction, _) =>
    if restriction.demand.any Demand.isEquality then
      match restriction.bounds.head?.bind Expression.integer? with
      | some value => if -1 ≤ value && value ≤ 1 then 10 else 20
      | none => 20
    else 0
  { way with
    rows := min (way.rows - further.length) (tableRows - reductions.foldl max 0) }

def rowCost (survey : Survey) (listing : Listing) : Estimate :=
  if listing.number.isNone then 16
  else 1 + 15 * listing.width / survey.table.rowWidth

def within (rows : Estimate) (low high : Option Restriction) : Estimate :=
  let reduction (bound : Option Restriction) : Estimate :=
    if bound.any (!·.isNotNull) then 20 else 0
  let count (bound : Option Restriction) : Estimate := if bound.isSome then 1 else 0
  let narrowed := rows - reduction low - reduction high - (if low.isSome && high.isSome then 20 else 0)
  min (max narrowed 10) (rows - count low - count high)

/-- The ways that go on from one by a further restriction; it gives so many rows, and is taken so many
times for the values of lists. -/
def extensions (survey : Survey) (rows times : Estimate) : Nat → Way → List Way
  | 0, _ => []
  | fuel + 1, way =>
    let listing := way.listing
    let isWanted (demand : Demand) : Bool := way.low = 0 || demand = .below
    let mayServe (restriction : Restriction) : Bool :=
      !((restriction.demand = some .nothing || restriction.isNotNull)
          && survey.table.isNotNullIn listing way.equals)
        && !(restriction.isPattern && restriction.demand = some .below)
    let searchCost := Estimate.search tableRows
    ((survey.serving listing way.equals isWanted).filter (mayServe ·.1)).flatMap fun (restriction, number) =>
      let next := extended way restriction number
      let lower := if 0 < next.low then
          (if restriction.demand = some .above then some restriction
            else way.uses.getLast?.bind survey.restriction?)
        else none
      let upper := if 0 < next.high then
          (if restriction.demand = some .below then some restriction
            else survey.restriction? (number + 1))
        else none
      let isRange := 0 < next.low || 0 < next.high
      let given : Estimate :=
        if isRange then within rows lower upper
        else rows + repetitions listing.columns.length next.equals
          - repetitions listing.columns.length way.equals
          + (if restriction.demand = some .nothing then 10 else 0)
      let size : Estimate := match restriction.demand with
        | some (.amongst size) => size
        | _ => 0
      let inListing := Estimate.both searchCost (given + survey.rowCost listing)
      let cost := if next.isCovering || listing.number.isNone then inListing
        else Estimate.both inListing (given + 16)
      let complete := survey.reduced { next with cost := cost + times + size, rows := given + times + size }
      let further :=
        if next.high = 0 && next.equals < listing.size && !(listing.isKey && next.equals + 1 = listing.size)
        then survey.extensions (if isRange then rows else given) (times + size) fuel next
        else []
      complete :: further
where
  extended (way : Way) (restriction : Restriction) (number : Nat) : Way :=
    let listing := way.listing
    let width := sharedWidth survey.table listing way.equals restriction.condition
    let way := { way with uses := way.uses ++ [number] }
    match restriction.demand with
    | some .above =>
      if restriction.isPattern then
        { way with uses := way.uses ++ [number + 1], low := width, high := 1 }
      else { way with low := width }
    | some .below => { way with high := width }
    | some .nothing => { way with equals := way.equals + 1, hasNull := true }
    | some (.amongst _) => { way with equals := way.equals + 1, hasList := true }
    | some demand =>
      let isLast := way.equals + 1 = listing.size
        || (times = 0 && way.equals + 2 = listing.size
          && (survey.table.isComplete listing
            || (listing.columns.length = 1 && demand = .equal)))
      { way with equals := way.equals + 1, hasEquality := true, isSingle := isLast }
    | none => way

def helps (survey : Survey) (listing : Listing) : Bool :=
  survey.order.any fun key => match key.column? with
    | some none => true
    | some (some place) => listing.columns.any (·.place = place)
    | none => false

/-- The conditions of which a listing has all columns, up to the first one that needs more. -/
def lookups (survey : Survey) (listing : Listing) : Estimate :=
  let covered := survey.restrictions.takeWhile fun restriction =>
    survey.table.covers listing restriction.condition.places
  covered.foldl (fun rows restriction =>
    rows - 1 - (if restriction.demand.any Demand.isEquality then 19 else 0)) (tableRows + 16)

def waysThrough (survey : Survey) (listing : Listing) (group : Nat) : List Way :=
  let isHelping := survey.helps listing
  let isCovering := listing.number.isSome && survey.table.covers listing survey.used
  let start : Way :=
    ⟨listing, [], 0, 0, 0, isCovering, false, false, false, false, if isHelping then group else 0, 0,
      tableRows, none⟩
  let inListing := tableRows + survey.rowCost listing
  let cost := if isCovering || listing.number.isNone then inListing
    else Estimate.both inListing (survey.lookups listing)
  let isWalked := listing.number.isNone || isHelping || survey.indexing ≠ .free
    || (isCovering && listing.width < survey.table.rowWidth && survey.isSelection)
  (if isWalked then [survey.reduced { start with cost }] else [])
    ++ survey.extensions tableRows 0 (listing.size + 2) start

def ways (survey : Survey) : List Way :=
  (survey.table.listingsFor survey.indexing).zipIdx.flatMap fun (listing, index) =>
    survey.waysThrough listing (index + 1)

end Survey

end SqlDesk.Sql
