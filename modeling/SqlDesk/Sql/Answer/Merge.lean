import SqlDesk.Sql.Answer.Selected

/-! Parts of a query that come in an order. They are merged two by two: of rows in one order from either
side the one that comes first is looked at next. Where repetitions are left out, the order goes by all
columns. How a column is compared is told by the first of the parts that are merged. -/

set_option autoImplicit false

namespace SqlDesk.Sql

structure MergeTerm where
  place : Nat
  collation : Option Collation
  isDescending : Bool
  nullsFirst : Bool

namespace MergeTerm

def direction (term : MergeTerm) : Direction :=
  ⟨term.collation.getD .exact, term.isDescending, term.nullsFirst⟩

/-- The terms with those places of a row of so many columns that they do not have. -/
def complete (width : Nat) (terms : List MergeTerm) : List MergeTerm :=
  terms ++ ((List.range width).filter fun place => !terms.any (·.place = place)).map fun place =>
    ⟨place, none, false, true⟩

def keys (terms : List MergeTerm) (values : List (Expression Field)) : List SortKey :=
  terms.map fun term =>
    ⟨.collated (values.getD term.place (.literal .null 0)) term.direction.collation.name,
      term.isDescending, term.nullsFirst, some term.place⟩

def compare (terms : List MergeTerm) (left right : Values) : Ordering :=
  let values (row : Values) : Values := terms.map fun term => row.getD term.place .null
  Direction.compareAll (terms.map direction) (values left) (values right)

end MergeTerm

inductive Merge where
  | part (place : Nat) (own : ResolvedPart) (terms : List MergeTerm)
  /-- Two sides; `wrong` is what is wrong with the collations that their columns are compared by. -/
  | join (joint : Joint) (terms : List MergeTerm) (collations : Collations) (wrong : List PrepareError)
    (left right : Merge)

namespace Merge

/-- How many of the last parts are merged apart from those in front of them: about half of those that are
joined alike. -/
def apart (parts : List ResolvedPart) : Nat :=
  match parts.getLast? with
  | none => 1
  | some last =>
    let alike := if last.joint = .unionAll || last.joint = .union then
        1 + ((parts.drop 1).reverse.takeWhile (·.joint = last.joint)).length
      else 1
    if alike ≤ 3 then 1 else 1 + (alike - 1) / 2

def ofParts (place : Nat) (terms : List MergeTerm) : Nat → List ResolvedPart → Option Merge
  | 0, _ | _, [] => none
  | _ + 1, [only] => some (part place only terms)
  | fuel + 1, first :: second :: rest => do
    let parts := first :: second :: rest
    let joint := (parts.getLast?.map ResolvedPart.joint).getD .unionAll
    let isFollowing : Bool := joint = .unionAll
    -- Equal rows meet only where every column sorts; a union of all of them need not find any.
    let terms := if isFollowing then terms else MergeTerm.complete first.width terms
    let told (place : Nat) : List (Option (String ⊕ Collation)) := parts.map (·.collation? place)
    let untold := (terms.filter (·.collation.isNone)).map MergeTerm.place
    let wrong := (untold ++ if isFollowing then [] else List.range first.width).flatMap fun place =>
      Expression.unknownAmong (told place)
    let terms := terms.map fun term =>
      { term with collation := term.collation.or (some (Expression.firstCollation (told term.place))) }
    let collations := (List.range first.width).map fun place => Expression.firstCollation (told place)
    let front := parts.length - apart parts
    return join joint terms collations wrong (← ofParts place terms fuel (parts.take front))
      (← ofParts (place + front) terms fuel (parts.drop front))

/-- Rows in one order from two sides, as far as both come; the ends are what each side fails with. -/
def rowsOf (joint : Joint) (compare : Values → Values → Ordering) (leftEnd rightEnd : Option ExecutionError) :
    List Values → List Values → Flow Values
  | [], rights =>
    if leftEnd.isSome || joint = .except || joint = .intersect then ⟨[], leftEnd⟩ else ⟨rights, rightEnd⟩
  | left :: lefts, [] =>
    if rightEnd.isSome || joint = .intersect then ⟨[], rightEnd⟩ else ⟨left :: lefts, leftEnd⟩
  | left :: lefts, right :: rights =>
    let giving (isGiven : Bool) (row : Values) (rest : Flow Values) : Flow Values :=
      if isGiven then (Flow.ofList [row]).append rest else rest
    match compare left right with
    | .lt => giving (joint ≠ .intersect) left (rowsOf joint compare leftEnd rightEnd lefts (right :: rights))
    | .eq => giving (joint = .unionAll || joint = .intersect) left
        (rowsOf joint compare leftEnd rightEnd lefts (right :: rights))
    | .gt => giving (joint = .unionAll || joint = .union) right
        (rowsOf joint compare leftEnd rightEnd (left :: lefts) rights)
termination_by lefts rights => lefts.length + rights.length

def withoutRepeats (same : Values → Values → Bool) : List Values → List Values
  | [] => []
  | first :: rest => first :: behind first rest
where
  behind (last : Values) : List Values → List Values
    | [] => []
    | row :: rest => if same last row then behind last rest else row :: behind row rest

/-- The rows in their order. Up to so many are wanted of either side where all rows are given. -/
def rows (room : Option Nat) : Merge → Flow Values
  | part _ own terms =>
    let selected : Selected := ⟨own, MergeTerm.keys terms own.values, none⟩
    let rows := selected.flow room
    if own.rows.length ≤ 1 then rows
    else rows.whole fun rows => .ofList (rows.mergeSort fun left right => MergeTerm.compare terms left right != .gt)
  | join joint terms collations _ left right =>
    let room := if joint = .unionAll then room else none
    let lefts := left.rows room
    let rights := right.rows room
    let merged := rowsOf joint (MergeTerm.compare terms) lefts.failure rights.failure lefts.items rights.items
    if joint = .unionAll then merged
    else { merged with items := withoutRepeats (areSameRows collations) merged.items }

end Merge

end SqlDesk.Sql
