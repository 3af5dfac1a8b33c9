import SqlDesk.Sql.Answer.Part
import SqlDesk.Sql.Expression.Same

/-! Orders of results. A term of an order is a result by its number, its name or its expression, or an
expression of its own. -/

set_option autoImplicit false

namespace SqlDesk.Sql

abbrev Collations := List Collation

def collationsOf (values : List (Expression Field)) : Collations :=
  values.map fun value => Expression.collationOf value.collation?

def compareRows : Collations → Values → Values → Ordering
  | collation :: more, left :: lefts, right :: rights =>
    (compareValues collation left right).then (compareRows more lefts rights)
  | _, _, _ => .eq

def areSameRows (collations : Collations) (left right : Values) : Bool :=
  compareRows collations left right == .eq

/-- The rows without repetitions, the first of equal ones staying. -/
def distinctRows {α : Type} (same : α → α → Bool) : List α → List α
  | [] => []
  | first :: rest => first :: (distinctRows same rest).filter (!same first ·)

def sortedSet (collations : Collations) (rows : List Values) : List Values :=
  let ordered := rows.mergeSort fun left right => compareRows collations left right != .gt
  (distinctRows (areSameRows collations) ordered.reverse).reverse

structure Direction where
  collation : Collation
  isDescending : Bool
  nullsFirst : Bool
  deriving DecidableEq, Repr

namespace Direction

def compare (direction : Direction) (left right : Value) : Ordering :=
  match left, right with
  | .null, .null => .eq
  | .null, _ => if direction.nullsFirst then .lt else .gt
  | _, .null => if direction.nullsFirst then .gt else .lt
  | left, right =>
    let order := compareValues direction.collation left right
    if direction.isDescending then order.swap else order

def compareAll : List Direction → Values → Values → Ordering
  | direction :: more, left :: lefts, right :: rights =>
    (direction.compare left right).then (compareAll more lefts rights)
  | _, _, _ => .eq

end Direction

def SortKey.direction (key : SortKey) : Direction := ⟨key.collation, key.isDescending, key.nullsFirst⟩

namespace OrderTerm

variable (term : OrderTerm)

def comesNullsFirst : Bool := term.nullsFirst.getD !term.isDescending

def split : Option String × Expression Reference :=
  (match term.expression with
    | .collated _ name => some name
    | _ => none, term.expression.withoutCollation)

def named? (part : ResolvedPart) : Expression Reference → Option Nat
  | .column reference =>
    if reference.qualifiers.isEmpty then
      (part.labels.find? fun label => sameName label.1 reference.name).map Prod.snd
    else none
  | _ => none

def key (expression : Expression Field) : SortKey :=
  ⟨expression, term.isDescending, term.comesNullsFirst, none⟩

def keyAt (part : ResolvedPart) (place : Nat) : SortKey :=
  let value := part.values.getD place (.literal .null 0)
  let key := term.key (match term.split.1 with
    | some name => .collated value name
    | none => value)
  { key with result := some place }

/-- Where the number of a column is told that there is none of. -/
def place? (expression : Expression Reference) : Option Nat := expression.offset?

/-- A term of the order of a single part, by the number of a result if it stands for one. A number is
told to be out of range at once if no result has it in any case. -/
def resolve (part : ResolvedPart) (index : Nat) : Except PrepareError (SortKey ⊕ Nat) :=
  let bare := term.split.2
  match named? part bare with
  | some place => return .inr place
  | none => match bare.integer? with
    | some number =>
      if 1 ≤ number ∧ number < Text.wordBound 16 then return .inr (number.toNat - 1)
      else throw (.orderRange (index + 1) part.width (place? bare))
    | none => do
      let expression ← term.expression.resolve part.scope
      match (part.values.zipIdx.filter fun (value, _) => value.isSame expression).getLast? with
      | some (_, place) => return .inr place
      | none => return .inl (term.key expression)

def resolveAll (part : ResolvedPart) (terms : List OrderTerm) : Except PrepareError (List SortKey) := do
  if columnLimit < terms.length then throw (.excess "terms in ORDER BY clause")
  let resolved ← terms.zipIdx.mapM fun (term, index) => do
    return (term, index, ← term.resolve part index)
  resolved.mapM fun (term, index, found) =>
    match found with
    | .inl key => return key
    | .inr place =>
      if place < part.width then return term.keyAt part place
      else throw (.orderRange (index + 1) part.width none)

/-- The result of a part that a term of an order of several parts stands for. -/
def placeIn? (part : ResolvedPart) (index : Nat) : Except PrepareError (Option Nat) :=
  let bare := term.split.2
  match bare.integer? with
  | some number =>
    if 1 ≤ number ∧ number ≤ part.width then return some (number.toNat - 1)
    else throw (.orderRange (index + 1) part.width (place? bare))
  | none => match named? part bare with
    | some place => return some place
    | none => match bare.resolve part.scope with
      | .ok expression =>
        return part.values.findIdx? fun value => value.withoutCollation.isSame expression.withoutCollation
      | .error _ => return none

/-- The results that the terms of an order of several parts stand for. One part after another is looked
at, as long as there are terms that stand for none of its results. -/
def placesIn (terms : List OrderTerm) (found : List (Option Nat)) :
    List ResolvedPart → Except PrepareError (List (Option Nat))
  | [] => return found
  | part :: rest => do
    if found.all Option.isSome then return found
    let found ← (terms.zip found).zipIdx.mapM fun ((term, place), index) =>
      match place with
      | some place => return some place
      | none => term.placeIn? part index
    placesIn terms found rest

/-- A term of the order of several parts with the place of its result. -/
structure Placed where
  place : Nat
  collation : Option String
  isCollated : Bool
  isDescending : Bool
  nullsFirst : Bool
  deriving DecidableEq, Repr

def placeAll (parts : List ResolvedPart) (terms : List OrderTerm) : Except PrepareError (List Placed) := do
  if columnLimit < terms.length then throw (.excess "terms in ORDER BY clause")
  let found ← placesIn terms (terms.map fun _ => none) parts
  ((terms.zip found).zipIdx).mapM fun ((term, place), index) =>
    match place with
    | some place =>
      return ⟨place, term.split.1, term.expression.tellsCollation, term.isDescending, term.comesNullsFirst⟩
    | none => throw (.orderMismatch (index + 1))

end OrderTerm

end SqlDesk.Sql
