import SqlDesk.Sql.Expression

/-! How the operands of a comparison are compared. Columns and conversions carry an affinity into it,
columns and words a collation. -/

set_option autoImplicit false

namespace SqlDesk.Sql

namespace Expression

variable {κ : Type}

def affinity? : Expression Field → Option Affinity
  | column field | known field _ => some field.affinity
  | cast _ affinity => some affinity
  | collated operand _ => operand.affinity?
  | tuple (first :: _) => first.affinity?
  | _ => none

/-- Whether an expression tells a collation that goes for all of it. -/
def tellsCollation : Expression κ → Bool
  | collated .. => true
  | plus operand | minus operand | complement operand | not operand | cast operand _
  | isNull _ operand | between operand .. => operand.tellsCollation
  | binary _ left right => left.tellsCollation || right.tellsCollation
  | member operand list => operand.tellsCollation || listTells list
  | choice operand branches otherwise =>
    optionTells operand || branchesTell branches || optionTells otherwise
  | call _ arguments => listTells arguments
  | tuple (first :: _) => first.tellsCollation
  | _ => false
where
  listTells : List (Expression κ) → Bool
    | [] => false
    | first :: rest => first.tellsCollation || listTells rest
  branchesTell : List (Expression κ × Expression κ) → Bool
    | [] => false
    | (test, result) :: rest => test.tellsCollation || result.tellsCollation || branchesTell rest
  optionTells : Option (Expression κ) → Bool
    | none => false
    | some expression => expression.tellsCollation

/-- The name of the collation that an expression brings into a comparison: one that is told, or that
of a column; nothing else has one. -/
def collation? : Expression Field → Option (String ⊕ Collation)
  | column field | known field _ => if field.place.isSome then some (.inr field.collation) else none
  | collated _ name => some (.inl name)
  | plus operand | cast operand _ => operand.collation?
  | minus operand | complement operand | not operand | isNull _ operand | between operand .. =>
    if operand.tellsCollation then operand.collation? else none
  | binary _ left right =>
    if left.tellsCollation then left.collation?
    else if right.tellsCollation then right.collation? else none
  | member operand list => if operand.tellsCollation then operand.collation? else ofList list
  | choice operand branches otherwise =>
    ((ofOption operand).or (ofBranches branches)).or (ofOption otherwise)
  | call _ arguments => ofList arguments
  | tuple (first :: _) => first.collation?
  | _ => none
where
  ofList : List (Expression Field) → Option (String ⊕ Collation)
    | [] => none
    | first :: rest => if first.tellsCollation then first.collation? else ofList rest
  ofBranches : List (Expression Field × Expression Field) → Option (String ⊕ Collation)
    | [] => none
    | (test, result) :: rest =>
      if test.tellsCollation then test.collation?
      else if result.tellsCollation then result.collation? else ofBranches rest
  ofOption : Option (Expression Field) → Option (String ⊕ Collation)
    | none => none
    | some expression => if expression.tellsCollation then expression.collation? else none

/-- The collation of a comparison: the left operand's word comes first, unless only the right one
tells it. -/
def comparisonCollation? (left right : Expression Field) : Option (String ⊕ Collation) :=
  if left.tellsCollation then left.collation?
  else if right.tellsCollation then right.collation?
  else left.collation?.or right.collation?

def collationOf (name : Option (String ⊕ Collation)) : Collation :=
  match name with
  | some (.inl name) => (Collation.ofName? name).getD .exact
  | some (.inr collation) => collation
  | none => .exact

end Expression

/-- The affinity of a comparison: numbers win over texts, and a column over what has no affinity. -/
def comparisonAffinity (left right : Option Affinity) : Affinity :=
  match left, right with
  | some left, some right => if left.isNumeric || right.isNumeric then .numeric else .blob
  | some affinity, none | none, some affinity => affinity
  | none, none => .blob

structure Manner where
  affinity : Affinity
  collation : Collation
  deriving DecidableEq, Repr

namespace Manner

def ofOperands (left right : Expression Field) : Manner :=
  ⟨comparisonAffinity left.affinity? right.affinity?,
    Expression.collationOf (Expression.comparisonCollation? left right)⟩

def ofPair (left right : Expression Field) : List Manner :=
  List.zipWith ofOperands left.parts right.parts

def ofMember (operand : Expression Field) : List Manner :=
  operand.parts.map fun part =>
    ⟨part.affinity?.getD .blob, Expression.collationOf part.collation?⟩

def operand (affinity : Affinity) (other value : Value) : Value :=
  if affinity.isNumeric then toNumber value
  else if affinity = .text ∧ rank other = 2 then toText value
  else value

def order (manner : Manner) (left right : Value) : Ordering :=
  compareValues manner.collation (operand manner.affinity right left)
    (operand manner.affinity left right)

def compared (manner : Manner) (comparison : Comparison) (left right : Value) : Truth :=
  if left.isNull || right.isNull then none else some (comparison.holds (manner.order left right))

def same (manners : List Manner) (left right : Values) : Bool :=
  (manners.zip (left.zip right)).all fun (manner, left, right) => manner.order left right == .eq

def equal (manners : List Manner) (left right : Values) : Truth :=
  (manners.zip (left.zip right)).foldr
    (fun (manner, left, right) rest => (manner.compared .equal left right).and rest) (some true)

/-- What a comparison of values comes to, where the first that differ decide. -/
def lexicographic (comparison : Comparison) : List Manner → Values → Values → Truth
  | manner :: manners, left :: lefts, right :: rights =>
    if lefts.isEmpty then manner.compared comparison left right
    else if left.isNull || right.isNull then none
    else match manner.order left right with
      | .eq => lexicographic comparison manners lefts rights
      | order => some (comparison.holds order)
  | _, _, _ => some (comparison.holds .eq)

def apply (operator : Operator) (manners : List Manner) (left right : Values) : Truth :=
  match operator with
  | .is => some (same manners left right)
  | .isNot => some (!same manners left right)
  | .compare .equal => equal manners left right
  | .compare .unequal => (equal manners left right).not
  | .compare comparison => lexicographic comparison manners left right
  | _ => none

end Manner

end SqlDesk.Sql
