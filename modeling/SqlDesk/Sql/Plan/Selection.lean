import SqlDesk.Sql.Answer
import SqlDesk.Sql.Plan.Passage

/-! Outlines of queries. Parts that follow one another are carried out in turn, others are put into a
table first, and parts in an order are merged. -/

set_option autoImplicit false

namespace SqlDesk.Sql

inductive Output where
  /-- It is shown, or handed on. -/
  | given
  /-- It is handed on in a place that is known before. -/
  | delivered
  /-- It is put into a table. -/
  | kept
  /-- It is taken out of a table. -/
  | removed
  /-- It is handed on after it has been put in its place. -/
  | moved
  deriving DecidableEq, Repr

namespace Output

def steps : Output → Nat
  | given | delivered | removed => 1
  | kept | moved => 2

def hasSingleRows (output : Output) : Bool := output = .kept || output = .removed

end Output

structure Ending where
  limit : Option (Expression Field)
  offset : Option (Expression Field)
  isOwn : Bool

namespace Ending

def none : Ending := ⟨Option.none, Option.none, false⟩

def hasOffset (ending : Ending) : Bool := ending.limit.isSome && ending.offset.isSome

def steps (ending : Ending) : Nat :=
  match ending.limit with
  | Option.none => 0
  | some limit =>
    (match limit.integer? with
      | some count => if count = 0 then 2 else 1
      | Option.none => limit.placedSteps + 2)
      + ending.offset.elim 0 fun offset => offset.placedSteps + 2

def ownSteps (ending : Ending) : Nat := if ending.isOwn then ending.steps else 0

def skipSteps (ending : Ending) : Nat := if ending.hasOffset then 1 else 0

def stopSteps (ending : Ending) : Nat := if ending.limit.isSome then 1 else 0

end Ending

structure Stage where
  selected : Selected
  output : Output
  ending : Ending

namespace Stage

def results (stage : Stage) : List (Expression Field) := stage.selected.part.values

def width (stage : Stage) : Nat := stage.results.length

def resultSteps (stage : Stage) : Nat := Steps.total (stage.results.map Expression.placedSteps)

def distinction (stage : Stage) : Distinction :=
  match stage.selected.choice? with
  | some choice => choice.distinction
  | none =>
    if !stage.selected.part.isDistinct then .none
    else if stage.selected.order.isEmpty then .adjacent
    else .needless

def distinctSteps (stage : Stage) : Nat :=
  match stage.distinction with
  | .none | .needless => 0
  | .adjacent => stage.width + 1
  | .gathered => 3

def order (stage : Stage) : List SortKey := stage.selected.order

def satisfied (stage : Stage) : Nat := stage.selected.satisfied

def isSorted (stage : Stage) : Bool := stage.satisfied < stage.order.length

def placeSteps (stage : Stage) (valueSteps : Nat) : Nat :=
  valueSteps + (if stage.ending.limit.isSome then 5 else 0) + 2

/-- Steps for putting a row in order, some values of which may be there already. -/
def sortSteps (stage : Stage) (valueSteps : Nat) : Nat :=
  stage.placeSteps valueSteps
    + if 0 < stage.satisfied then (if stage.ending.limit.isSome then 7 else 6) else 0

def sortedValueSteps (stage : Stage) : Nat :=
  let keySteps (key : SortKey) : Nat := key.expression.placedSteps
  if stage.selected.part.isDistinct then
    stage.resultSteps + stage.distinctSteps
      + Steps.total (stage.order.map fun key => if key.result.isSome then 1 else keySteps key)
  else
    let repeated := (stage.order.drop stage.satisfied).filterMap SortKey.result
    let others := (stage.results.zipIdx.filter fun (_, place) => !repeated.contains place).map Prod.fst
    Steps.total (others.map Expression.placedSteps) + Steps.total (stage.order.map keySteps)

def otherPlaces (stage : Stage) (satisfied : Nat) : List Nat :=
  let repeated := (stage.order.drop satisfied).filterMap SortKey.result
  (List.range stage.width).filter (!repeated.contains ·)

/-- Steps for moving values that have a place already to where they are put in order. -/
def moveSteps (stage : Stage) (satisfied : Nat) : Nat :=
  let isMoved : Bool := stage.selected.part.isDistinct || !(stage.otherPlaces satisfied).isEmpty
  if stage.output = .delivered && isMoved then 1 else 0

def givenSteps (stage : Stage) : Nat :=
  stage.resultSteps + stage.distinctSteps + stage.ending.skipSteps + stage.output.steps
    + stage.ending.stopSteps

/-- How the terms are told that are left to be put in order. -/
def sortDetail (stage : Stage) (satisfied : Nat) : String :=
  let left := stage.order.length - satisfied
  if satisfied = 0 then "USE TEMP B-TREE FOR ORDER BY"
  else if left = 1 then "USE TEMP B-TREE FOR LAST TERM OF ORDER BY"
  else s!"USE TEMP B-TREE FOR LAST {left} TERMS OF ORDER BY"

/-- Giving the rows that have been put in order, some terms of which they have come in. -/
def giveSorted (stage : Stage) (satisfied : Nat) : Outline Unit := do
  let _ ← Outline.tell (stage.sortDetail satisfied) 0
  let hasLimit := stage.ending.limit.isSome
  Outline.pass <| (if satisfied = 0 then 0 else if hasLimit then 3 else 4)
    + (if hasLimit then 1 + (if stage.ending.hasOffset then 2 else 0) else 3)
    + stage.width + stage.output.steps + 1

/-- The way to the rows of a part. Without a table there is one; then what comes in front of it is told
unless repetitions would be left out. -/
def enter (stage : Stage) : Outline Unit := do
  match stage.selected.choice? with
  | some choice => choice.path.enter ⟨(stage.selected.part.target.map Target.told).getD "", false⟩
  | none =>
    if stage.selected.part.isDistinct && !stage.selected.isGrouping then Outline.pass 1
    else let _ ← Outline.tell "SCAN CONSTANT ROW" 0
    Outline.pass (Steps.total (stage.selected.part.tests.map (Expression.testSteps .empty)))

def exitSteps (stage : Stage) : Nat := stage.selected.choice?.elim 0 fun choice => choice.path.exitSteps

def columns (stage : Stage) : List Field := (stage.results.flatMap Expression.columns).eraseDups

def groupSteps (stage : Stage) : Nat :=
  let resetting := if stage.columns.isEmpty then 0 else 1
  6 + stage.placeSteps (Expression.heldSteps stage.results) + 1 + resetting + 2

def outlineGrouped (stage : Stage) : Outline Unit := do
  Outline.pass (1 + stage.ending.ownSteps + 1 + 3)
  stage.enter
  let isTogether : Bool := stage.selected.choice?.all fun choice => choice.distinction ≠ .gathered
  if !isTogether then
    let _ ← Outline.tell "USE TEMP B-TREE FOR DISTINCT" 0
    Outline.pass (stage.resultSteps + 2 + stage.exitSteps)
  else
    let keeping := Steps.total (stage.columns.map fun field => (Expression.column field).placedSteps)
    Outline.pass (stage.resultSteps + 6 + (if stage.columns.isEmpty then 0 else 1 + keeping) + 1
      + stage.exitSteps)
    let isInOrder : Bool := stage.selected.choice?.any fun choice => choice.satisfied = stage.order.length
    if !isInOrder then
      Outline.pass stage.groupSteps
      let _ ← Outline.tell "USE TEMP B-TREE FOR ORDER BY" 0

def outline (stage : Stage) : Outline Unit := do
  if stage.selected.isGrouping then stage.outlineGrouped
  else
    Outline.pass ((if stage.order.isEmpty then 0 else 1) + stage.ending.ownSteps
      + if stage.selected.part.isDistinct then 1 else 0)
    stage.enter
    Outline.pass ((if stage.isSorted then stage.sortSteps stage.sortedValueSteps + stage.moveSteps stage.satisfied
        else stage.givenSteps)
      + stage.exitSteps)
    if stage.distinction = .gathered then
      let _ ← Outline.tell "USE TEMP B-TREE FOR DISTINCT" 0
    if stage.isSorted then stage.giveSorted stage.satisfied

end Stage

/-- A row that is written out, or several that have been gathered. -/
abbrev Group := List (List (Expression Field))

namespace Group

def valueSteps (row : List (Expression Field)) : Nat := Steps.total (row.map Expression.placedSteps)

def aheadSteps (group : Group) : Nat :=
  if group.length = 1 then 0 else 2 + Steps.total (group.map fun row => valueSteps row + 1)

def size (group : Group) : Estimate := if group.length = 1 then 0 else tableRows

def stage (values : List (Expression Field)) (output : Output) (ending : Ending) (order : List SortKey) : Stage :=
  ⟨⟨⟨.unionAll, [], none, none, .constants, false, [], values, [], [], none, []⟩, order, none⟩, output, ending⟩

/-- The outline of rows that are there already under a name; repetitions may be left out of them. -/
def outlineNamed (name : String) (cost : Int) (isDistinct : Bool) (stage : Stage) : Outline Unit := do
  Outline.pass ((if stage.order.isEmpty then 0 else 1) + stage.ending.ownSteps + if isDistinct then 1 else 0)
  let _ ← Outline.tell s!"SCAN {name}" cost
  Outline.pass 2
  if stage.order.isEmpty then
    Outline.pass (stage.width + stage.ending.skipSteps + stage.output.steps + stage.ending.stopSteps + 1)
  else
    let values := if isDistinct then stage.width + 3 else (stage.otherPlaces 0).length
    Outline.pass (stage.placeSteps (values + stage.order.length) + stage.moveSteps 0 + 1)
    if isDistinct then
      let _ ← Outline.tell "USE TEMP B-TREE FOR DISTINCT" 0
    stage.giveSorted 0

def outline (cost : Nat) (output : Output) (ending : Ending)
    (order : List (Expression Field) → List SortKey) (group : Group) : Outline Unit := do
  let values := group.headD []
  let stage := stage values output ending (order values)
  if group.length = 1 then
    Outline.pass ((if stage.order.isEmpty then 0 else 1) + ending.ownSteps)
    let _ ← Outline.tell "SCAN CONSTANT ROW" 0
    Outline.pass stage.givenSteps
  else outlineNamed s!"{group.length}-ROW VALUES CLAUSE" cost false stage

end Group

/-- What a part of a query consists of where rows that are written out are taken apart. -/
inductive Member where
  | selected (part : ResolvedPart)
  | group (rows : Group)
  | enclosed (groups : List Group)

namespace Member

def ofPart (part : ResolvedPart) : Member :=
  match part.groups with
  | [] => selected part
  | [only] => group only
  | groups => enclosed groups

def aheadSteps : Member → Nat
  | selected _ => 0
  | group rows => rows.aheadSteps
  | enclosed groups => Steps.total (groups.map Group.aheadSteps)

def isRow : Member → Bool
  | group rows => rows.length = 1
  | _ => false

def count : Member → Nat
  | selected _ => 1
  | group rows => groupCount rows
  | enclosed groups => (groups.map groupCount).foldr (· + ·) 0 + 1
where
  groupCount (rows : Group) : Nat := if rows.length = 1 then 1 else 2

def size (isKept : Bool) : Member → Estimate
  | selected part =>
    let isDistinct := part.isDistinct && !isKept
    let rows := ((Selected.alone { part with isDistinct }).choice?).elim 0 fun choice => choice.path.walk.way.rows
    rows - if isDistinct then 30 else 0
  | group rows => rows.size
  | enclosed groups =>
    if groups.all (·.length = 1) then groups.length
    else match groups.map Group.size with
      | [] => 0
      | first :: rest => rest.foldl Estimate.both first

def outlineGroups (cost : Nat) (groups : List Group) : Outline Unit := do
  let given (group : Group) : Outline Unit := group.outline cost .given .none fun _ => []
  if groups.all (·.length = 1) then
    let _ ← Outline.tell s!"SCAN {groups.length} CONSTANT ROWS" 0
    Outline.pass (Steps.total (groups.flatten.map fun row => Group.valueSteps row + 1))
  else
    Outline.telling "COMPOUND QUERY" do
      match groups with
      | [] => return
      | first :: rest =>
        Outline.telling "LEFT-MOST SUBQUERY" (given first)
        rest.forM fun group => Outline.telling "UNION ALL" (given group)

/-- The outline of a member; `cost` is that of gathered rows, and `before` the number of selections in
front of it. -/
def outline (cost before : Nat) (output : Output) (ending : Ending) (limit : Option Estimate)
    (order : List (Expression Field) → List SortKey) : Member → Outline Unit
  | selected part =>
    let part := { part with isDistinct := part.isDistinct && !output.hasSingleRows }
    (⟨⟨part, order part.values, limit⟩, output, ending⟩ : Stage).outline
  | group rows => rows.outline cost output ending order
  | enclosed groups => do
    let values := (groups.flatten).headD []
    let name := if groups.all (·.length = 1) then "0-ROW VALUES CLAUSE"
      else s!"(subquery-{before + (enclosed groups).count - 1})"
    Outline.pass 1
    Outline.telling s!"CO-ROUTINE {name}" (outlineGroups cost groups)
    Outline.pass 1
    Group.outlineNamed name ((enclosed groups).size false + 16) false (Group.stage values output ending (order values))

end Member

/-- A member with what joins it to those in front of it. -/
structure JoinedMember where
  joint : Joint
  member : Member
  before : Nat

namespace JoinedMember

def number (before : Nat) : List (Joint × Member) → List JoinedMember
  | [] => []
  | (joint, member) :: rest => ⟨joint, member, before⟩ :: number (before + member.count) rest

def outline (cost : Nat) (output : Output) (ending : Ending) (limit : Option Estimate)
    (order : List (Expression Field) → List SortKey) (joined : JoinedMember) : Outline Unit :=
  joined.member.outline cost joined.before output ending limit order

def size (links : List JoinedMember) : Estimate :=
  let following := ((links.drop 1).reverse.takeWhile (·.joint = .unionAll)).length
  let sizes := links.zipIdx.map fun (link, place) =>
    (link.joint, link.member.size (place + following < links.length))
  match sizes with
  | [] => 0
  | (_, first) :: rest => rest.foldl (fun size (joint, own) =>
    match joint with
    | .unionAll | .union => Estimate.both size own
    | .except => own
    | .intersect => min size own) first

end JoinedMember

namespace ResolvedQuery

def links (query : ResolvedQuery) : List JoinedMember :=
  JoinedMember.number 0 (query.parts.map fun part => (part.joint, Member.ofPart part))

def ending (query : ResolvedQuery) : Ending := ⟨query.limit, query.offset, true⟩

variable (query : ResolvedQuery)

/-- Giving the rows of a table that parts have been put into. Where they are matched with those of another
one, the range of rows that are wanted is known before. -/
def giveSteps (output : Output) (isMatched : Bool) (ending : Ending) : Nat :=
  1 + (if isMatched then 2 else ending.steps) + ending.skipSteps + query.width + output.steps
    + ending.stopSteps + (if isMatched then 3 else 2)

/-- The outline of members that are put together, the last one first. What it returns is the number of the
row that they all belong to. -/
def outlineJoined (cost : Nat) (output : Output) (ending : Ending) : List JoinedMember → Outline Nat
  | [] => return 0
  | last :: rest => do
    let isFollowing : Bool := last.joint = .unionAll
    let isInside : Bool := output = .kept && (last.joint = .union || last.joint = .except : Bool)
    let frontOutput := if isFollowing then output else .kept
    let frontEnding := if isFollowing then ending else .none
    let before := if isFollowing || isInside then 0 else 1
    let whole ← match rest with
      | [only] => do
        let whole ← Outline.tell "COMPOUND QUERY" 0
        Outline.inside whole do
          Outline.telling "LEFT-MOST SUBQUERY" do
            Outline.pass before
            only.outline cost frontOutput frontEnding query.limitEstimate fun _ => []
        pure whole
      | rest => do
        Outline.pass before
        outlineJoined cost frontOutput frontEnding rest
    let behind (detail : String) (output : Output) (ending : Ending) : Outline Unit :=
      Outline.inside whole do
        Outline.telling detail (last.outline cost output ending none fun _ => [])
    match last.joint with
    | .unionAll =>
      Outline.pass (ending.stopSteps + ending.skipSteps)
      behind "UNION ALL" output { ending with isOwn := false }
    | .union => behind "UNION USING TEMP B-TREE" .kept .none
    | .except =>
      Outline.pass 1
      behind "EXCEPT USING TEMP B-TREE" .removed .none
    | .intersect =>
      Outline.pass (ending.steps + 2)
      behind "INTERSECT USING TEMP B-TREE" .kept .none
    if !isFollowing && !isInside then
      Outline.pass (query.giveSteps output (last.joint = .intersect) ending)
    return whole

def mergedSteps (joint : Joint) (output : Output) (ending : Ending) : Nat :=
  (if joint = .unionAll then 0 else 5) + ending.skipSteps + output.steps + ending.stopSteps + 1

def mergeSteps (joint : Joint) (output : Output) (ending : Ending) : Nat :=
  let row := mergedSteps joint output ending
  match joint with
  | .unionAll => 2 * row + 3 + 3 + 3 + 0 + 3 + 2 + 3
  | .union => 2 * row + 3 + 3 + 3 + 2 + 3 + 2 + 3
  | .except => row + 0 + 3 + 3 + 2 + 2 + 2 + 3
  | .intersect => row + 0 + 0 + 3 + 0 + 2 + 2 + 3

def outlineMerged (cost : Nat) (links : List JoinedMember) (output : Output) (ending : Ending) :
    Merge → Outline Unit
  | .part place _ terms =>
    (links[place]?).elim (pure ()) fun link =>
      link.outline cost (if output = .moved then .given else output) ending none (MergeTerm.keys terms)
  | .join joint _ _ _ left right => do
    let isFollowing : Bool := joint = .unionAll
    let isLimited : Bool := ending.limit.isSome && isFollowing
    Outline.pass ((if isFollowing then 0 else 1) + ending.ownSteps + if isLimited then 2 else 0)
    let inner : Ending := if isLimited then ⟨ending.limit, none, false⟩ else .none
    Outline.telling s!"MERGE ({joint.text})" do
      Outline.pass 1
      Outline.telling "LEFT" (outlineMerged cost links .moved inner left)
      Outline.pass 2
      Outline.telling "RIGHT" (outlineMerged cost links .moved inner right)
      Outline.pass 1
    Outline.pass (mergeSteps joint output ending)

def outlineSortedLast (cost : Nat) (output : Output) (links : List JoinedMember) : Outline Unit := do
  let name := s!"(subquery-{(links.map (·.member.count)).foldr (· + ·) 0})"
  Outline.pass 1
  Outline.telling s!"CO-ROUTINE {name}" do
    let _ ← query.outlineJoined cost .given .none links.reverse
  Outline.pass 1
  let values := (query.parts.head?.map ResolvedPart.values).getD []
  Group.outlineNamed name (JoinedMember.size links + 16) query.isDistinctLast
    (Group.stage values output query.ending (MergeTerm.keys query.lastTerms values))

/-- The outline of a query, where gathered rows have been looked at already. -/
def outline (cost : Nat) (output : Output) : Outline Unit := do
  let links := query.links
  match links with
  | [only] => only.outline cost output query.ending query.limitEstimate fun _ => query.order
  | _ =>
    if query.isOneClause && links.all (·.member.isRow) then
      let _ ← Outline.tell s!"SCAN {links.length} CONSTANT ROWS" 0
    else if query.placed.isEmpty then let _ ← query.outlineJoined cost output query.ending links.reverse
    else if query.isSortedLast then query.outlineSortedLast cost output links
    else (query.merge?.map (outlineMerged cost links output query.ending)).getD (pure ())

def aheadSteps : Nat := Steps.total (query.links.map fun link => link.member.aheadSteps)

end ResolvedQuery

end SqlDesk.Sql
