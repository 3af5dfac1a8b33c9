import SqlDesk.Sql.Answer.Merge

/-! What a query gives. Parts that are put together without repetitions, and rows that are put in order,
are known as a whole before the first one of them is given. -/

set_option autoImplicit false

namespace SqlDesk.Sql

/-- Several parts of which the last one is told by what joins it to the others. -/
structure ResolvedQuery where
  /-- Rows that are written out in front are parts of their own unless they are gathered. -/
  parts : List ResolvedPart
  /-- Whether the parts are the rows of a single clause. -/
  isOneClause : Bool
  order : List SortKey
  /-- The order of several parts. -/
  placed : List OrderTerm.Placed
  limit : Option (Expression Field)
  offset : Option (Expression Field)

namespace ResolvedQuery

/-- The tables of the parts, looked for from the last one to the first. Something wrong with an item
of an earlier part comes in front of the same in a later one. -/
def locate (database : Database) (isRow : Bool) :
    List (Joint × Part) → Except PrepareError (List LocatedPart × Option PrepareError)
  | [] => return ([], none)
  | (joint, part) :: rest => do
    let (later, laterError) ← locate database isRow rest
    let (located, error) ← LocatedPart.ofPart database joint part
    if !isRow then located.checkColumns
    return (located :: later, error.or laterError)

/-- `isRow` tells whether it is a single row that has no limit of its own. -/
def ofQuery (database : Database) (query : Query) (isRow : Bool) : Except PrepareError ResolvedQuery := do
  let (located, error) ← locate database isRow ((.unionAll, query.first) :: query.rest)
  if let some error := error then throw error
  let limit ← query.limit.mapM (·.resolve .constants)
  let offset ← query.offset.mapM (·.resolve .constants)
  let parts ← ResolvedPart.ofLocated (match located with
    | [] => []
    | first :: rest => first.groupsApart ++ rest)
  let isOneClause : Bool := query.rest.isEmpty
  match parts with
  | [part] => return ⟨[part], isOneClause, ← OrderTerm.resolveAll part query.order, [], limit, offset⟩
  | parts => return ⟨parts, isOneClause, [], ← OrderTerm.placeAll parts query.order, limit, offset⟩

/-- Whether the parts are put together before they are put in order. That is so where repetitions are left
out, and the order has a collation of its own. -/
def isSortedLast (query : ResolvedQuery) : Bool :=
  query.parts.any (·.joint ≠ .unionAll) && query.placed.any (·.isCollated)

/-- The columns are those of the first part. Where an order comes last, they have names that are told apart
and the types of the last part. -/
def columns (query : ResolvedQuery) : List Column :=
  let first := (query.parts.head?.map ResolvedPart.columns).getD []
  if query.isSortedLast then
    let names := (query.parts.head?.map ResolvedPart.outerNames).getD []
    let last := (query.parts.getLast?.map ResolvedPart.columns).getD []
    (first.zip (names.zip last)).map fun (column, name, other) =>
      { column with name, dataType := other.dataType }
  else first

def width (query : ResolvedQuery) : Nat := query.columns.length

/-- How the parts tell that the column at a place is compared. -/
def collationsAt (query : ResolvedQuery) (place : Nat) : List (Option (String ⊕ Collation)) :=
  query.parts.map (·.collation? place)

/-- How the columns of all parts are compared: as those of the first part that tells it. -/
def collations (query : ResolvedQuery) : Collations :=
  (List.range query.width).map fun place => Expression.firstCollation (query.collationsAt place)

def expressions (query : ResolvedQuery) : List (Expression Field) :=
  query.parts.flatMap (fun part => part.values ++ part.rows.flatten ++ part.condition.toList)
    ++ query.order.map SortKey.expression ++ query.limit.toList ++ query.offset.toList

def limitEstimate (query : ResolvedQuery) : Option Estimate :=
  (query.limit.bind Expression.integer?).bind fun count =>
    if 0 < count then some (.ofCount count.toNat) else none

def combined (joint : Joint) (collations : Collations) (left : List Values) (right : Flow Values) :
    Except ExecutionError (List Values) := do
  match joint with
  | .unionAll => return left ++ (← right.all)
  | .union => return sortedSet collations (left ++ (← right.all))
  | .except | .intersect =>
    let left := sortedSet collations left
    if left.isEmpty then return []
    let others ← right.all
    let isThere (row : Values) : Bool := others.any (areSameRows collations row)
    return left.filter fun row => isThere row == (joint = .intersect)

def keptRows (part : ResolvedPart) : Flow Values := (Selected.alone { part with isDistinct := false }).flow none

def joined (collations : Collations) (rows : List Values) : List ResolvedPart → Except ExecutionError (List Values)
  | [] => .ok rows
  | part :: rest => do joined collations (← combined part.joint collations rows (keptRows part)) rest

/-- The parts up to the last one that is not simply put behind those in front of it, and the others. -/
def split (parts : List ResolvedPart) : List ResolvedPart × List ResolvedPart :=
  let following := (parts.drop 1).reverse.takeWhile (·.joint = .unionAll)
  (parts.take (parts.length - following.length), following.reverse)

/-- Whether rows that are put in order at the end are looked through for repetitions once more. That is so if
the last part has none. -/
def isDistinctLast (query : ResolvedQuery) : Bool :=
  query.isSortedLast && (query.parts.getLast?.map ResolvedPart.isDistinct).getD false

/-- How the columns are compared once more in the end: as the first part tells it. -/
def lastCollations (query : ResolvedQuery) : Collations :=
  (List.range query.width).map fun place =>
    Expression.collationOf ((query.parts.head?).bind (·.collation? place))

/-- The terms of an order that comes last, over the columns as the first part tells that they are compared. -/
def lastTerms (query : ResolvedQuery) : List MergeTerm :=
  query.placed.map fun term =>
    let told := term.collation.map fun name => (Collation.ofName? name).getD .exact
    ⟨term.place, some (told.getD (query.lastCollations.getD term.place .exact)), term.isDescending,
      term.nullsFirst⟩

def merge? (query : ResolvedQuery) : Option Merge :=
  let terms : List MergeTerm := query.placed.map fun term =>
    ⟨term.place, term.collation.map fun name => (Collation.ofName? name).getD .exact, term.isDescending,
      term.nullsFirst⟩
  Merge.ofParts 0 terms (query.parts.length + 1) query.parts

def followed (rows : Flow Pending) (parts : List ResolvedPart) : Flow Pending :=
  parts.foldl (fun rows part => rows.append ((Selected.alone part).pending none)) rows

def unsortedRows (query : ResolvedQuery) (limits : Except ExecutionError Range) : Flow Values :=
  let give (range : Range) (rows : Flow Pending) (following : List ResolvedPart) : Flow Values :=
    if range.count = some 0 then .ofList []
    else (range.apply (followed rows following)).map fun row => row ()
  match split query.parts with
  | ([], _) => .ofList []
  | ([first], following) => .after limits fun range =>
    give range ((⟨first, [], query.limitEstimate⟩ : Selected).pending none) following
  | (first :: others, following) =>
    .after (do joined query.collations (← (keptRows first).all) others) fun rows =>
      .after limits fun range => give range (.ofList (rows.map Pending.known)) following

def sortedRows (query : ResolvedQuery) (range : Range) : Flow Values :=
  if query.isSortedLast then
    (query.unsortedRows (.ok .all)).whole fun rows =>
      let rows := if query.isDistinctLast then distinctRows (areSameRows query.lastCollations) rows else rows
      .ofList (rows.mergeSort fun left right => MergeTerm.compare query.lastTerms left right != .gt)
  else (query.merge?.map (·.rows range.room)).getD (.ofList [])

def selected (query : ResolvedQuery) (part : ResolvedPart) : Selected :=
  ⟨part, query.order, query.limitEstimate⟩

def rows (query : ResolvedQuery) : Flow Values :=
  let within (make : Range → Flow Values) : Flow Values :=
    .after (Range.ofLimits query.limit query.offset) fun range =>
      if range.count = some 0 then .ofList [] else make range
  match query.parts with
  | [part] => within fun range =>
    (range.apply ((query.selected part).pending range.room)).map fun row => row ()
  | _ =>
    if query.placed.isEmpty then query.unsortedRows (Range.ofLimits query.limit query.offset)
    else within fun range => range.apply (query.sortedRows range)

def limitFindings (query : ResolvedQuery) : Findings :=
  Expression.findings (query.limit.toList ++ query.offset.toList)

def collationFindings (values : List (Expression Field)) : Findings :=
  .ofList (values.flatMap fun value => Expression.unknownCollation value.collation?)

/-- What is wrong with a part. In front of the first row the collations of the order are looked at, then the
limits and the collations of columns that may not come twice. -/
def partStages (query : ResolvedQuery) (part : ResolvedPart) : List Findings :=
  let order := query.order.map SortKey.expression
  [collationFindings order ++ query.limitFindings
    ++ if part.isDistinct then collationFindings part.values else .empty]
    ++ part.equalityFindings :: Restriction.stages part.conditions
    ++ [Expression.findings (part.values ++ part.rows.flatten ++ order)]

def mergeStages (query : ResolvedQuery) (ahead : Findings) : Merge → List Findings
  | .part _ part _ => query.partStages part
  | .join _ _ _ wrong left right =>
    (.ofList wrong ++ ahead) :: (query.mergeStages .empty left ++ query.mergeStages .empty right)

/-- What is wrong with the collations of rows that others are taken together with, from the last part to
the first. The rows of a later part are taken together as a whole, if they are not gathered; all parts are
where an order comes last. -/
def leadFindings (query : ResolvedQuery) : Findings :=
  let leads (part : ResolvedPart) : List (List (Expression Field)) :=
    (part.groups.reverse.filter (1 < ·.length)).filterMap List.head?
      ++ if 1 < part.groups.length then part.rows.take 1 else []
  collationFindings <| (query.parts.reverse.flatMap leads).flatten
    ++ if query.isSortedLast then (query.parts.head?.map ResolvedPart.values).getD [] else []

def isGroup (query : ResolvedQuery) : Bool :=
  match query.parts with
  | [part] => part.groups.length = 1
  | _ => false

/-- What is wrong with parts that are put together in no order. -/
def joinedStages (query : ResolvedQuery) : List Findings :=
  let isPlain : Bool := query.parts.all (·.joint = .unionAll)
  query.parts.flatMap query.partStages ++
    [.ofList (if isPlain then [] else (List.range query.width).flatMap fun place =>
      Expression.unknownAmong (query.collationsAt place))]

/-- What is wrong with a query. A group of rows that is inserted is not looked at as a whole. -/
def stages (query : ResolvedQuery) (isInserted : Bool) : List Findings :=
  let leads := if isInserted && query.isGroup then [] else [query.leadFindings]
  let own := query.placed.flatMap fun term => Expression.unknownCollation (term.collation.map .inl)
  leads ++
    if query.placed.isEmpty then query.joinedStages
    else if query.isSortedLast then
      let inner := query.joinedStages
      [⟨(Findings.ofList (Findings.first? inner).toList).now, inner.flatMap Findings.later⟩
        ++ .ofList own ++ query.limitFindings]
    else (query.merge?.map (query.mergeStages (.ofList own ++ query.limitFindings))).getD []

end ResolvedQuery

end SqlDesk.Sql
