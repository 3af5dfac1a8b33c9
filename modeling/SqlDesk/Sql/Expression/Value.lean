import SqlDesk.Sql.Expression.Affinity

/-! What an expression is worth on a row, unless a function fails. Where only the truth of an expression
is asked for, no more of it is looked at than decides; where its value is, both operands of a connective
are looked at, unless one of them is plainly of no account. -/

set_option autoImplicit false

namespace SqlDesk.Sql

/-- The meaning of an expression: its values, which are several for a tuple only, and whether it holds.
What is neither true nor false holds if it is allowed to. -/
structure Meaning where
  values : Unit → Except ExecutionError Values
  holds : (orNull : Bool) → Except ExecutionError Bool

namespace Meaning

def passes (orNull : Bool) (truth : Truth) : Bool := truth.getD orNull

def single (values : Values) : Value := values.headD .null

/-- An expression that holds as its value does. -/
def ofValues (values : Unit → Except ExecutionError Values) : Meaning :=
  ⟨values, fun orNull => do return passes orNull (Truth.ofValue (single (← values ())))⟩

def ofValue (value : Unit → Except ExecutionError Value) : Meaning :=
  ofValues fun _ => do return [← value ()]

def constant (value : Value) : Meaning := ofValue fun _ => .ok value

def value (meaning : Meaning) : Except ExecutionError Value := do return single (← meaning.values ())

def truth (meaning : Meaning) : Except ExecutionError Truth := do
  return Truth.ofValue (← meaning.value)

def map (change : Value → Value) (meaning : Meaning) : Meaning :=
  ofValue fun _ => do return change (← meaning.value)

/-- A value made of two others, of which the left one is looked at first. -/
def map₂ (change : Value → Value → Value) (left right : Meaning) : Meaning :=
  ofValue fun _ => do
    let first ← left.value
    return change first (← right.value)

def not (meaning : Meaning) : Meaning :=
  ⟨fun _ => do return [(← meaning.truth).not.value],
    fun orNull => do return !(← meaning.holds (!orNull))⟩

def and (left right : Meaning) : Meaning :=
  ⟨fun _ => do
      let first ← left.truth
      return [(first.and (← right.truth)).value],
    fun orNull => do if ← left.holds orNull then right.holds orNull else return false⟩

def or (left right : Meaning) : Meaning :=
  ⟨fun _ => do
      let first ← left.truth
      return [(first.or (← right.truth)).value],
    fun orNull => do if ← left.holds orNull then return true else right.holds orNull⟩

def asTruth (meaning : Meaning) : Meaning :=
  ⟨fun _ => do return [(← meaning.truth).value], meaning.holds⟩

def isTruth (expected : Bool) (meaning : Meaning) : Meaning :=
  ⟨fun _ => do return [.ofBool ((← meaning.truth) == some expected)],
    fun _ => do if expected then meaning.holds false else return !(← meaning.holds true)⟩

def compare (operator : Operator) (manners : List Manner) (left right : Meaning) : Meaning :=
  ofValue fun _ => do
    let first ← left.values ()
    return (Manner.apply operator manners first (← right.values ())).value

def between (lowManners highManners : List Manner) (operand low high : Meaning) : Meaning :=
  let above (values : Values) : Except ExecutionError Truth := do
    return Manner.apply (.compare .greaterOrEqual) lowManners values (← low.values ())
  let below (values : Values) : Except ExecutionError Truth := do
    return Manner.apply (.compare .lessOrEqual) highManners values (← high.values ())
  ⟨fun _ => do
      let values ← operand.values ()
      let first ← above values
      return [(first.and (← below values)).value],
    fun orNull => do
      let values ← operand.values ()
      if passes orNull (← above values) then return passes orNull (← below values) else return false⟩

/-- Looks for values in a list, from its beginning. What is not found is left open if nothing was
compared with something. -/
def search (manners : List Manner) (values : Values) (open? : Bool) :
    List Meaning → Except ExecutionError Truth
  | [] => .ok (if open? then none else some false)
  | first :: rest => do
    match Manner.equal manners values (← first.values ()) with
    | some true => return some true
    | some false => search manners values open? rest
    | none => search manners values true rest

/-- Whether an expression is one of a list. A long list of constants is looked at first, as a whole. -/
def member (manners : List Manner) (isPrepared : Bool) (operand : Meaning) (list : List Meaning) :
    Meaning :=
  ofValue fun _ => do
    if isPrepared then let _ ← list.mapM fun item => item.values ()
    return (← search manners (← operand.values ()) false list).value

def firstValue : List Meaning → Except ExecutionError Value
  | [] => .ok .null
  | [last] => last.value
  | first :: rest => do
    let value ← first.value
    if value.isNull then firstValue rest else return value

end Meaning

namespace Expression

variable {κ : Type}

inductive Share where
  | left
  | right
  | both
  deriving DecidableEq, Repr

/-- An operand that is plainly of no account is not looked at, nor is one beside an operand that plainly
decides. -/
def share (operator : Operator) (left right : Expression κ) : Share :=
  let first := left.simplified.plainTruth?
  let second := right.simplified.plainTruth?
  if first = some true || second = some false then (if operator = .or then .left else .right)
  else if second = some true || first = some false then (if operator = .or then .right else .left)
  else .both

def isPreparedList (list : List (Expression Field)) : Bool :=
  2 < list.length && list.all isConstant

def operate (operator : Operator) : Value → Value → Value :=
  match operator with
  | .add => arithmetic (· + ·) (· + ·)
  | .subtract => arithmetic (· - ·) (· - ·)
  | .multiply => arithmetic (· * ·) (· * ·)
  | .divide => Sql.divide
  | .modulo => Sql.modulo
  | .concat => Sql.concat
  | .bitAnd => onWords (· &&& ·)
  | .bitOr => onWords (· ||| ·)
  | .shiftLeft => onWords fun a b => shift a b.toInt
  | .shiftRight => onWords fun a b => shift a (-b.toInt)
  | .and | .or | .is | .isNot | .compare _ => fun _ _ => .null

def argumentCollation (arguments : List (Expression Field)) : Collation :=
  collationOf (arguments.findSome? collation?)

def applied (function : Token) (collation : Collation) (arguments : List Meaning) :
    Except ExecutionError Value :=
  match Function.find? ((function.identifier?).getD function.text) arguments.length with
  | none => .ok .null
  | some function => match function.body with
    | .firstValue => Meaning.firstValue arguments
    | .value apply => do apply collation (← arguments.mapM Meaning.value)

def meaning (row : NumberedRow) : Expression Field → Meaning
  | literal value _ => .constant value
  | number numeral negative _ => .constant (numeral.value negative)
  | settled value _ | boolean value => .constant (.ofBool value)
  | parameter _ => .constant .null
  | column field => .constant (field.value row)
  | known field value => (value.meaning row).map field.affinity.store
  | plus operand | collated operand _ => .ofValues (operand.meaning row).values
  | minus operand => (operand.meaning row).map negate
  | complement operand => (operand.meaning row).map Sql.complement
  | not operand => (operand.meaning row).not
  | cast operand affinity => (operand.meaning row).map (Sql.cast affinity)
  | isNull negated operand => (operand.meaning row).map fun value => .ofBool (value.isNull != negated)
  | binary operator left right =>
    let first := left.meaning row
    let second := right.meaning row
    match operator, right.withoutCollation with
    | .is, boolean expected => first.isTruth expected
    | .isNot, boolean expected => (first.isTruth expected).not
    | .and, _ => match share .and left right with
      | .left => first.asTruth
      | .right => second.asTruth
      | .both => first.and second
    | .or, _ => match share .or left right with
      | .left => first.asTruth
      | .right => second.asTruth
      | .both => first.or second
    | operator, _ =>
      if operator.isComparing then .compare operator (Manner.ofPair left right) first second
      else .map₂ (operate operator) first second
  | between operand low high =>
    .between (Manner.ofPair operand low) (Manner.ofPair operand high) (operand.meaning row)
      (low.meaning row) (high.meaning row)
  | member operand list =>
    .member (Manner.ofMember operand) (isPreparedList list) (operand.meaning row)
      (meanings row list)
  | choice none branches otherwise =>
    .ofValue fun _ => chosen row (fun _ test => test.holds false) branches (otherwiseOf row otherwise)
  | choice (some operand) branches otherwise =>
    let values := (operand.meaning row).values
    .ofValue fun _ => do
      let values ← values ()
      let isSame (test : Expression Field) (meaning : Meaning) : Except ExecutionError Bool := do
        return Manner.equal (Manner.ofPair operand test) values (← meaning.values ()) == some true
      chosen row isSame branches (otherwiseOf row otherwise)
  | call function arguments =>
    let collation := argumentCollation arguments
    let values := meanings row arguments
    .ofValue fun _ => applied function collation values
  | tuple items => .ofValues fun _ => do
    return (← (meanings row items).mapM fun item => item.values ()).flatten
where
  meanings (row : NumberedRow) : List (Expression Field) → List Meaning
    | [] => []
    | first :: rest => first.meaning row :: meanings row rest
  otherwiseOf (row : NumberedRow) : Option (Expression Field) → Meaning
    | none => .constant .null
    | some expression => expression.meaning row
  chosen (row : NumberedRow)
      (isFulfilled : Expression Field → Meaning → Except ExecutionError Bool) :
      List (Expression Field × Expression Field) → Meaning → Except ExecutionError Value
    | [], otherwise => otherwise.value
    | (test, result) :: rest, otherwise => do
      if ← isFulfilled test (test.meaning row) then (result.meaning row).value
      else chosen row isFulfilled rest otherwise

def value (row : NumberedRow) (expression : Expression Field) : Except ExecutionError Value :=
  (expression.meaning row).value

def holds (condition : Expression Field) (row : NumberedRow) : Except ExecutionError Bool :=
  (condition.meaning row).holds false

def places (expression : Expression Field) : List Nat := expression.columns.filterMap Field.place

end Expression

end SqlDesk.Sql
