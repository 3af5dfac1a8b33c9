import SqlDesk.Sql.Function

/-! Expressions over columns of some kind. An expression in a statement knows its columns by names; what
it is worth depends on the columns of a row, which are put in their place. -/

set_option autoImplicit false

namespace SqlDesk.Sql

inductive Comparison where
  | equal
  | unequal
  | less
  | lessOrEqual
  | greater
  | greaterOrEqual
  deriving DecidableEq, Repr

namespace Comparison

def holds : Comparison → Ordering → Bool
  | equal, order => order == .eq
  | unequal, order => order != .eq
  | less, order => order == .lt
  | lessOrEqual, order => order != .gt
  | greater, order => order == .gt
  | greaterOrEqual, order => order != .lt

def flipped : Comparison → Comparison
  | equal => equal
  | unequal => unequal
  | less => greater
  | lessOrEqual => greaterOrEqual
  | greater => less
  | greaterOrEqual => lessOrEqual

end Comparison

inductive Operator where
  | and
  | or
  | is
  | isNot
  | compare (comparison : Comparison)
  | add
  | subtract
  | multiply
  | divide
  | modulo
  | concat
  | bitAnd
  | bitOr
  | shiftLeft
  | shiftRight
  deriving DecidableEq, Repr

/-- Whether an operator compares its operands, which may be several values in a row. -/
def Operator.isComparing : Operator → Bool
  | is | isNot | compare _ => true
  | _ => false

inductive Expression (κ : Type) where
  | literal (value : Value) (offset : Nat)
  /-- A number as a statement tells it, with a minus sign in front of it or not. -/
  | number (numeral : Numeral) (negative : Bool) (token : Token)
  /-- A truth value that has been found while reading. `isPlain` tells whether it counts as one that is
  written. -/
  | settled (value isPlain : Bool)
  | parameter (offset : Nat)
  | boolean (value : Bool)
  | column (reference : κ)
  /-- A column whose value is known. -/
  | known (reference : κ) (value : Expression κ)
  /-- An operand with a plus sign, which is a column no more. -/
  | plus (operand : Expression κ)
  | minus (operand : Expression κ)
  | complement (operand : Expression κ)
  | not (operand : Expression κ)
  | collated (operand : Expression κ) (collation : String)
  | cast (operand : Expression κ) (affinity : Affinity)
  | isNull (negated : Bool) (operand : Expression κ)
  | binary (operator : Operator) (left right : Expression κ)
  | between (operand low high : Expression κ)
  | member (operand : Expression κ) (list : List (Expression κ))
  /-- The value of the first branch whose test holds, or is the operand if there is one. -/
  | choice (operand : Option (Expression κ)) (branches : List (Expression κ × Expression κ))
    (otherwise : Option (Expression κ))
  | call (function : Token) (arguments : List (Expression κ))
  /-- Several values in a row, where one is expected. -/
  | tuple (items : List (Expression κ))

structure Field where
  place : Option Nat
  affinity : Affinity
  collation : Collation
  notNull : Bool
  deriving DecidableEq, Repr

abbrev NumberedRow := Int × Values

def Field.value (field : Field) (row : NumberedRow) : Value :=
  match field.place with
  | none => .ofInt row.1
  | some place => row.2.getD place .null

namespace Expression

variable {κ : Type}

mutual

def nodes : Expression κ → List (Expression κ)
  | known reference value => known reference value :: value.nodes
  | plus operand => plus operand :: operand.nodes
  | minus operand => minus operand :: operand.nodes
  | complement operand => complement operand :: operand.nodes
  | not operand => not operand :: operand.nodes
  | collated operand collation => collated operand collation :: operand.nodes
  | cast operand affinity => cast operand affinity :: operand.nodes
  | isNull negated operand => isNull negated operand :: operand.nodes
  | binary operator left right => binary operator left right :: (left.nodes ++ right.nodes)
  | between operand low high => between operand low high :: (operand.nodes ++ low.nodes ++ high.nodes)
  | member operand list => member operand list :: (operand.nodes ++ nodesOfList list)
  | choice operand branches otherwise =>
    choice operand branches otherwise ::
      (nodesOfOption operand ++ nodesOfBranches branches ++ nodesOfOption otherwise)
  | call function arguments => call function arguments :: nodesOfList arguments
  | tuple items => tuple items :: nodesOfList items
  | leaf => [leaf]

def nodesOfList : List (Expression κ) → List (Expression κ)
  | [] => []
  | first :: rest => first.nodes ++ nodesOfList rest

def nodesOfBranches : List (Expression κ × Expression κ) → List (Expression κ)
  | [] => []
  | (test, result) :: rest => test.nodes ++ result.nodes ++ nodesOfBranches rest

def nodesOfOption : Option (Expression κ) → List (Expression κ)
  | none => []
  | some expression => expression.nodes

end

def columns (expression : Expression κ) : List κ :=
  expression.nodes.filterMap fun
    | column reference | known reference _ => some reference
    | _ => none

/-- Whether an expression has one value whatever is around it, where some names and some functions of
a number of arguments do. -/
def isConstantBy (isName : κ → Bool) (isFunction : Token → Nat → Bool) (expression : Expression κ) :
    Bool :=
  expression.nodes.all fun
    | column reference => isName reference
    | call function arguments => isFunction function arguments.length
    | _ => true

def isConstant (expression : Expression Field) : Bool :=
  expression.isConstantBy (fun _ => false) fun _ _ => true

/-- Whether an expression has neither columns nor columns whose values are known. -/
def isOutright (expression : Expression κ) : Bool := expression.columns.isEmpty

def hasCall (expression : Expression κ) : Bool :=
  expression.nodes.any fun
    | call .. => true
    | _ => false

/-- Whether an expression tells what is around it that there is a function in it. -/
def showsCall : Expression κ → Bool
  | call .. => true
  | plus operand | minus operand | complement operand | not operand | cast operand _
  | isNull _ operand | between operand .. => operand.showsCall
  | binary _ left right => left.showsCall || right.showsCall
  | member operand list => operand.showsCall || listShows list
  | choice operand branches otherwise =>
    optionShows operand || branchesShow branches || optionShows otherwise
  | tuple (first :: _) => first.showsCall
  | _ => false
where
  listShows : List (Expression κ) → Bool
    | [] => false
    | first :: rest => first.showsCall || listShows rest
  branchesShow : List (Expression κ × Expression κ) → Bool
    | [] => false
    | (test, result) :: rest => test.showsCall || result.showsCall || branchesShow rest
  optionShows : Option (Expression κ) → Bool
    | none => false
    | some expression => expression.showsCall

def withoutCollation : Expression κ → Expression κ
  | collated operand _ => operand.withoutCollation
  | expression => expression

def width : Expression κ → Nat
  | tuple items => items.length
  | _ => 1

def parts : Expression κ → List (Expression κ)
  | tuple items => items
  | expression => [expression]

def plainTruth? : Expression κ → Option Bool
  | number numeral false token => if token.isPlainNumber then numeral.small?.map (· ≠ 0) else none
  | settled value true => some value
  | boolean value => some value
  | _ => none

/-- A connective without an operand that is plainly of no account. -/
def simplified : Expression κ → Expression κ
  | binary .and left right =>
    let first := left.simplified
    let second := right.simplified
    if first.plainTruth? = some true || second.plainTruth? = some false then second
    else if second.plainTruth? = some true || first.plainTruth? = some false then first
    else binary .and left right
  | binary .or left right =>
    let first := left.simplified
    let second := right.simplified
    if first.plainTruth? = some true || second.plainTruth? = some false then first
    else if second.plainTruth? = some true || first.plainTruth? = some false then second
    else binary .or left right
  | expression => expression

end Expression

end SqlDesk.Sql
