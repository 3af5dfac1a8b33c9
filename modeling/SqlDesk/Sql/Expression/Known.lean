import SqlDesk.Sql.Expression.Value

/-! Columns whose value a condition tells. Where a column has to equal a constant, the other conditions
that have to hold with it may look at the constant instead of the column. A column without a type is
replaced only where it is compared, since nothing says there of which kind its value is. -/

set_option autoImplicit false

namespace SqlDesk.Sql

/-- The values of columns by their places, of which the number of a row has none. -/
abbrev KnownColumns := List (Option Nat × Expression Field)

namespace Expression

def conjuncts : Expression Field → List (Expression Field)
  | binary .and left right => left.conjuncts ++ right.conjuncts
  | condition => [condition]

def definition? (condition : Expression Field) : Option (Option Nat × Expression Field) :=
  match condition with
  | binary (.compare .equal) left right =>
    let isExact : Bool := collationOf (comparisonCollation? left right) = .exact
    let told (operand other : Expression Field) : Option (Option Nat × Expression Field) :=
      match operand with
      | column field => if isExact && other.isConstant && other.affinity?.isNone then some (field.place, other) else none
      | _ => none
    (told right left).or (told left right)
  | _ => none

/-- Whether an operator compares values as they are. -/
def comparesDirectly (operator : Operator) (right : Expression Field) : Bool :=
  match operator with
  | .compare .unequal | .isNot => false
  | .is => !(right.withoutCollation matches .boolean _)
  | operator => operator.isComparing

def replaced (known : KnownColumns) (isCompared : Bool) (expression : Expression Field) :
    Expression Field :=
  match expression with
  | column field =>
    if isCompared || field.affinity ≠ .blob then
      match known.lookup field.place with
      | some value => .known field value
      | none => column field
    else column field
  | expression => expression

def withKnown (columns : KnownColumns) (expression : Expression Field) : Expression Field :=
  match expression with
  | column field => replaced columns false (column field)
  | plus operand => .plus (operand.withKnown columns)
  | minus operand => .minus (operand.withKnown columns)
  | complement operand => .complement (operand.withKnown columns)
  | not operand => .not (operand.withKnown columns)
  | collated operand collation => .collated (operand.withKnown columns) collation
  | cast operand affinity => .cast (operand.withKnown columns) affinity
  | isNull negated operand => .isNull negated (operand.withKnown columns)
  | binary operator left right =>
    if comparesDirectly operator right then
      .binary operator (replaced columns true (left.withKnown columns))
        (replaced columns (left.affinity? ≠ some .text) (right.withKnown columns))
    else .binary operator (left.withKnown columns) (right.withKnown columns)
  | between operand low high =>
    .between (operand.withKnown columns) (low.withKnown columns) (high.withKnown columns)
  | member operand list => .member (operand.withKnown columns) (listWithKnown columns list)
  | choice operand branches otherwise =>
    .choice (optionWithKnown columns operand) (branchesWithKnown columns branches)
      (optionWithKnown columns otherwise)
  | call function arguments => .call function (listWithKnown columns arguments)
  | tuple items => .tuple (listWithKnown columns items)
  | leaf => leaf
where
  listWithKnown (columns : KnownColumns) : List (Expression Field) → List (Expression Field)
    | [] => []
    | first :: rest => first.withKnown columns :: listWithKnown columns rest
  branchesWithKnown (columns : KnownColumns) :
      List (Expression Field × Expression Field) → List (Expression Field × Expression Field)
    | [] => []
    | (test, result) :: rest =>
      (test.withKnown columns, result.withKnown columns) :: branchesWithKnown columns rest
  optionWithKnown (columns : KnownColumns) : Option (Expression Field) → Option (Expression Field)
    | none => none
    | some expression => some (expression.withKnown columns)

/-- Conditions with the values that others tell of columns. Of several that tell a value of a column the last
one counts, and stays as it is. -/
def settleOnce (conditions : List (Expression Field)) : List (Expression Field) :=
  let told := conditions.zipIdx.reverse.filterMap fun (condition, index) =>
    condition.definition?.map fun (place, value) => (place, value, index)
  let isFirst (place : Option Nat) (index : Nat) : Bool :=
    (told.find? (·.1 = place)).any (·.2.2 = index)
  let definers := told.filter fun (place, _, index) => isFirst place index
  let known : KnownColumns := definers.map fun (place, value, _) => (place, value)
  conditions.zipIdx.map fun (condition, index) =>
    if definers.any (·.2.2 = index) then condition else condition.withKnown known

def openColumns (expression : Expression Field) : Nat :=
  expression.nodes.countP fun
    | column _ => true
    | _ => false

/-- Conditions with the values that are known, as long as further ones become known. -/
def settleAll : Nat → List (Expression Field) → List (Expression Field)
  | 0, conditions => conditions
  | fuel + 1, conditions =>
    let settled := settleOnce conditions
    let count (conditions : List (Expression Field)) : Nat :=
      (conditions.map openColumns).foldr (· + ·) 0
    if count settled < count conditions then settleAll fuel settled else conditions

/-- A condition whose parts are those given, one for each that it joins. -/
def rejoined : Expression Field → List (Expression Field) → Expression Field
  | binary .and left right, parts =>
    let count := left.conjuncts.length
    .binary .and (left.rejoined (parts.take count)) (right.rejoined (parts.drop count))
  | condition, parts => parts.headD condition

/-- A condition in which columns are replaced by the values that it tells of them. -/
def settle (condition : Expression Field) : Expression Field :=
  condition.rejoined (settleAll (condition.openColumns + 1) condition.conjuncts)

end Expression

end SqlDesk.Sql
