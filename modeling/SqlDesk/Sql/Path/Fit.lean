import SqlDesk.Sql.Path.Way

/-! How far the rows of a way come in an order that is asked for. -/

set_option autoImplicit false

namespace SqlDesk.Sql

inductive OrderUse where
  | sorting
  /-- Rows with the same values have to come together; in which order does not matter. -/
  | grouping
  /-- The values of one list may come one after another. -/
  | eachValue
  deriving DecidableEq, Repr

structure Fit where
  satisfied : Nat
  isReversed : Bool
  hasNullsLast : Bool
  deriving DecidableEq, Repr

/-- A fit as far as the columns of a listing have been looked at. -/
structure FitDraft where
  done : List Nat
  direction : Option Bool
  hasNullsLast : Bool
  /-- Whether no two rows have the same values in the columns so far. -/
  isDistinct : Bool
  hasNumber : Bool
  isOver : Bool

namespace Survey

def orderLimit : Nat := 63

def isFixed (survey : Survey) (usage : OrderUse) (way : Way) (key : SortKey) : Bool :=
  match key.column? with
  | none => false
  | some column =>
    let found := ((survey.twins twinLimit [column] [column]).flatMap fun other =>
      survey.numbered.filter fun (restriction, _) => restriction.column = some other).filter
        fun (restriction, _) => match restriction.demand with
          | some .equal | some .same | some .nothing => true
          | some (.amongst _) => usage = .eachValue
          | _ => false
    let isEquality (entry : Restriction × Nat) : Bool := entry.1.demand.any Demand.isEquality
    match (found.find? isEquality).or found.head? with
    | none => false
    | some (restriction, number) => match restriction.demand with
      | some (.amongst _) => way.uses.contains number
      | some .equal | some .same => column.isNone || key.collation = restriction.manner.collation
      | _ => true

def fitColumn (survey : Survey) (usage : OrderUse) (keys : List SortKey) (way : Way)
    (draft : FitDraft) (index : Nat) : FitDraft :=
  let demand := (way.uses[index]?).bind fun number =>
    (survey.restriction? number).bind Restriction.demand
  let isPinned : Bool := index < way.equals && match demand with
    | some (.amongst _) => usage = .eachValue
    | _ => true
  if draft.isOver then draft
  else if isPinned then
    { draft with isDistinct := draft.isDistinct && demand ≠ some .nothing && demand ≠ some .same }
  else
    let listing := way.listing
    let place := survey.table.placeIn listing index
    let isDistinct := draft.isDistinct
      && !(place.isSome && way.equals ≤ index && !survey.table.isNotNullIn listing index)
    let open? := keys.zipIdx.filter fun (_, number) => !draft.done.contains number
    let candidates := if usage = .grouping then open? else open?.take 1
    let isSame (key : SortKey) : Bool :=
      key.column? = some place && (place.isNone || key.collation = listing.collationAt index)
    let found := candidates.find? fun (key, _) => isSame key
    let isReversed (key : SortKey) : Bool := listing.isDescendingAt index != key.isDescending
    let isAllowed (key : SortKey) : Bool :=
      draft.direction.all (· = isReversed key) && (!key.hasNullsLast || index = way.equals)
    match found with
    | none => stopped draft isDistinct index
    | some (key, number) =>
      let direction := draft.direction.or (some (isReversed key))
      if isAllowed key then
        { draft with
          done := number :: draft.done, direction, isDistinct,
          hasNullsLast := draft.hasNullsLast || key.hasNullsLast,
          hasNumber := draft.hasNumber || place.isNone }
      else stopped { draft with direction } isDistinct index
where
  stopped (draft : FitDraft) (isDistinct : Bool) (index : Nat) : FitDraft :=
    { draft with
      isOver := true,
      isDistinct := isDistinct && index ≠ 0 && way.listing.columns.length ≤ index }

def fit (survey : Survey) (usage : OrderUse) (keys : List SortKey) (way : Way) : Fit :=
  if orderLimit < keys.length || way.alternatives.isSome then ⟨0, false, false⟩
  else
    let fixed := (keys.zipIdx.filter fun (key, _) => survey.isFixed usage way key).map Prod.snd
    let start : FitDraft := ⟨fixed, none, false, true, false, false⟩
    let draft := if way.isSingle then start
      else (List.range way.listing.size).foldl (survey.fitColumn usage keys way) start
    let isDistinct := draft.isDistinct || draft.hasNumber
    let isDone (number : Nat) : Bool := draft.done.contains number
    let satisfied :=
      if isDistinct || (List.range keys.length).all isDone then keys.length
      else ((List.range keys.length).takeWhile isDone).length
    ⟨satisfied, draft.direction.getD false, draft.hasNullsLast⟩

end Survey

end SqlDesk.Sql
