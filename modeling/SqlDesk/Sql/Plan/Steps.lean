import SqlDesk.Sql.Expression.Same
import SqlDesk.Sql.Expression.Scope

/-! How many steps it takes to find out what an expression is worth, or to go elsewhere by whether it
holds. Constants among the operands may be put aside; they are found once, which takes no step where
they are needed, unless there is a function in them. -/

set_option autoImplicit false

namespace SqlDesk.Sql

/-- What is at hand where the steps of an expression are counted. -/
structure Hand where
  /-- Whether the values of columns have been put into places of their own. -/
  hasColumns : Bool
  lists : List (Expression Field)

namespace Hand

def empty : Hand := ⟨false, []⟩

def columns : Hand := ⟨true, []⟩

def hasList (hand : Hand) (membership : Expression Field) : Bool := hand.lists.any membership.isSame

end Hand

structure Steps where
  /-- Whether it may be put aside. -/
  isConstant : Bool
  isSettled : Bool
  /-- Whether it shows that there is a function in it, as it is and under a collation. -/
  showsCall : Bool
  coversCall : Bool
  /-- Whether it is a function, with or without a plus sign or a collation. -/
  isCall : Bool
  isHeld : Bool
  canBeNull : Bool
  /-- Steps for its value, where constants are put aside or are not. -/
  make : (aside : Bool) → Nat
  /-- Steps for the only operand of a connective that is looked at. -/
  picked : Option ((aside : Bool) → Nat)
  /-- Steps for going elsewhere if it holds, or if it does not; `orNull` tells whether that is done as
  well if it is neither. -/
  jump : (aside ifTrue orNull : Bool) → Nat

namespace Steps

def once (steps : Steps) : Nat := 1 + steps.make false

def found (steps : Steps) (aside : Bool) : Nat := if steps.isHeld then 0 else steps.make aside

/-- A value of which nothing is left but what is looked at. -/
def reduced (steps : Steps) (aside : Bool) : Nat := (steps.picked.getD steps.found) aside

def operand (steps : Steps) (aside : Bool) : Nat :=
  if aside && steps.isConstant then (if steps.coversCall then steps.once else 0) else steps.found aside

def placed (steps : Steps) (aside : Bool) : Nat :=
  steps.make aside + if aside && steps.isConstant && steps.isCall then 1 else 0

def argument (steps : Steps) (aside : Bool) : Nat :=
  if aside && steps.isConstant then (if steps.showsCall then steps.once else 0) else steps.placed aside

def total (counts : List Nat) : Nat := counts.foldr (· + ·) 0

/-- Making a table of the values of a list, or taking one that has been made. -/
def table (list : List Steps) (aside isMade : Bool) : Nat :=
  if isMade then 3 else 5 + total (list.map fun item => item.placed aside + 2)

/-- Whether a table is made of the values of a list where something is looked for in it. -/
def isTabled (list : List Steps) : Bool := 2 < list.length && list.all Steps.isSettled

/-- Whether something is in a list, whose table may have been made. `isShort` tells whether nothing comes
of it either way if it is not. -/
def membership (operand : Steps) (list : List Steps) (isMade aside isShort : Bool) : Nat :=
  if isTabled list then
    table list aside isMade + operand.found false
      + (if operand.canBeNull then 1 else 0) + (if isShort then 2 else 10)
  else
    operand.found false + (if isShort then 0 else 3)
      + total (list.map fun item =>
        item.operand aside + 1 + (if !isShort && item.canBeNull then 1 else 0))

def pairs (operator : Operator) (lefts rights : List Steps) (aside : Bool) : Nat :=
  let count := lefts.length
  let isRange : Bool := match operator with
    | .compare .equal | .compare .unequal | .is | .isNot => false
    | _ => true
  1 + total ((lefts ++ rights).map (·.operand aside)) + 2 * count + (count - 1)
    + (if isRange then count - 1 else 0)
    + (if operator = .compare .unequal || operator = .isNot then 1 else 0)

def ofMake (expression : Expression Field) (isCall : Bool) (make : Bool → Nat) : Steps :=
  let constant := expression.isOutright
  let called := expression.withoutCollation.showsCall
  ⟨constant, expression.isConstant, expression.showsCall, called, isCall, false, expression.canBeNull, make, none,
    fun aside ifTrue _ =>
    match expression.plainTruth? with
    | some truth => if truth = ifTrue then 1 else 0
    | none =>
      (if aside && constant then (if called then 1 + make false else 0) else make aside) + 1⟩

end Steps

namespace Expression

def pick (operator : Operator) (left right : Expression Field) (first second : Steps) : Option Steps :=
  match share operator left right with
  | .left => some first
  | .right => some second
  | .both => none

def steps (hand : Hand) (expression : Expression Field) : Steps :=
  match expression with
  | column field =>
    { Steps.ofMake (.column field) false fun _ =>
        if field.affinity = .real && field.place.isSome && !hand.hasColumns then 2 else 1 with
      isHeld := hand.hasColumns }
  | known field value =>
    let own := value.steps hand
    .ofMake (.known field value) false fun aside =>
      own.make aside + if field.affinity = .blob then 0 else 1
  | plus operand =>
    let own := operand.steps hand
    { Steps.ofMake (.plus operand) own.isCall own.make with isHeld := own.isHeld }
  | collated operand name =>
    let own := operand.steps hand
    { Steps.ofMake (.collated operand name) own.isCall own.make with isHeld := own.isHeld }
  | minus operand =>
    let own := operand.steps hand
    .ofMake (.minus operand) false fun aside => own.operand aside + (if aside then 1 else 2)
  | complement operand =>
    let own := operand.steps hand
    .ofMake (.complement operand) false fun aside => own.operand aside + 1
  | cast operand affinity =>
    let own := operand.steps hand
    .ofMake (.cast operand affinity) false fun aside => own.placed aside + 1
  | not operand =>
    let own := operand.steps hand
    { Steps.ofMake (.not operand) false fun aside => own.operand aside + 1 with
      jump := fun aside ifTrue orNull => own.jump aside (!ifTrue) orNull }
  | isNull negated operand =>
    let own := operand.steps hand
    { Steps.ofMake (.isNull negated operand) false fun aside => own.operand aside + 3 with
      jump := fun aside _ _ => own.operand aside + 1 }
  | binary operator left right =>
    let first := left.steps hand
    let second := right.steps hand
    let whole := Steps.ofMake (.binary operator left right) false
    match operator, right.withoutCollation with
    | .is, boolean expected =>
      { whole fun aside => first.operand aside + 1 with
        jump := fun aside ifTrue _ => first.jump aside (expected == ifTrue) (!ifTrue) }
    | .isNot, boolean expected =>
      { whole fun aside => first.operand aside + 1 with
        jump := fun aside ifTrue _ => first.jump aside (expected != ifTrue) ifTrue }
    | .and, _ => match pick .and left right first second with
      | some own =>
        { whole fun aside => own.reduced aside + 1 with
          picked := some own.reduced
          jump := own.jump }
      | none =>
        { whole fun aside => first.found aside + second.operand aside + 1 with
          jump := fun aside ifTrue orNull =>
            first.jump aside false (orNull != ifTrue) + second.jump aside ifTrue orNull }
    | .or, _ => match pick .or left right first second with
      | some own =>
        { whole fun aside => own.reduced aside + 1 with
          picked := some own.reduced
          jump := own.jump }
      | none =>
        { whole fun aside => first.found aside + second.operand aside + 1 with
          jump := fun aside ifTrue orNull =>
            first.jump aside true (orNull == ifTrue) + second.jump aside ifTrue orNull }
    | operator, _ =>
      if operator.isComparing then
        if 1 < left.width then
          whole fun aside => Steps.pairs operator (partSteps left) (partSteps right) aside
        else
          { whole fun aside => first.operand aside + second.operand aside + 3 with
            jump := fun aside _ _ => first.operand aside + second.operand aside + 1 }
      else whole fun aside => first.operand aside + second.operand aside + 1
  | between operand low high =>
    let own := operand.steps hand
    let first := low.steps hand
    let second := high.steps hand
    { Steps.ofMake (.between operand low high) false fun aside =>
        own.operand aside + first.operand aside + second.operand aside + 7 with
      jump := fun aside _ _ => own.operand aside + first.operand aside + second.operand aside + 2 }
  | member operand list =>
    let own := operand.steps hand
    let items := listSteps list
    let isMade := hand.hasList (.member operand list)
    { Steps.ofMake (.member operand list) false fun aside => 3 + own.membership items isMade aside false with
      jump := fun aside ifTrue orNull =>
        own.membership items isMade aside (orNull != ifTrue) + if ifTrue then 1 else 0 }
  | choice operand branches otherwise =>
    let tests := branchSteps branches
    let last := optionSteps otherwise
    let start := optionSteps operand
    .ofMake (.choice operand branches otherwise) false fun aside =>
      (start.elim 0 (·.operand aside))
        + Steps.total (tests.map fun (test, result) =>
          (if start.isSome then test.operand aside + 1 else test.jump aside false true)
            + result.placed aside + 1)
        + last.elim 1 (·.placed aside)
  | call function arguments =>
    let items := listSteps arguments
    let found := Function.find? ((function.identifier?).getD function.text) arguments.length
    let inside (aside : Bool) : Nat := match found.map Function.body with
      | some .firstValue => Steps.total (items.map (·.placed aside)) + (items.length - 1)
      | _ =>
        Steps.total (items.map (·.argument aside)) + (if found.any (·.comparesTexts) then 1 else 0) + 1
    let isKnown := (call function arguments).isOutright
    .ofMake (.call function arguments) true fun aside =>
      if aside && isKnown then 1 + inside false else inside aside
  | tuple items =>
    let all := listSteps items
    .ofMake (.tuple items) false fun aside => Steps.total (all.map (·.operand aside))
  | leaf => .ofMake leaf false fun _ => 1
where
  listSteps : List (Expression Field) → List Steps
    | [] => []
    | first :: rest => first.steps hand :: listSteps rest
  branchSteps : List (Expression Field × Expression Field) → List (Steps × Steps)
    | [] => []
    | (test, result) :: rest => (test.steps hand, result.steps hand) :: branchSteps rest
  optionSteps : Option (Expression Field) → Option Steps
    | none => none
    | some expression => some (expression.steps hand)
  partSteps : Expression Field → List Steps
    | tuple items => listSteps items
    | expression => [expression.steps hand]

def placedSteps (expression : Expression Field) : Nat := (expression.steps .empty).placed true

def operandSteps (expression : Expression Field) : Nat := (expression.steps .empty).operand true

def testSteps (hand : Hand) (condition : Expression Field) : Nat :=
  (condition.withoutCollation.steps hand).jump true false true

def tabled (expression : Expression Field) : List (Expression Field) :=
  expression.nodes.filter fun
    | member _ list => Steps.isTabled (list.map fun item => item.steps .empty)
    | _ => false

def uncovered : Expression Field → Expression Field
  | plus operand => operand.uncovered
  | collated operand _ => operand.uncovered
  | expression => expression

def heldSteps (values : List (Expression Field)) : Nat :=
  let held := (values.flatMap columns).eraseDups
  let places := values.map fun value => match value.uncovered with
    | column field => some (held.idxOf field)
    | _ => none
  let isNext : Option Nat × Option Nat → Bool
    | (some first, some second) => second = first + 1
    | _ => false
  Steps.total (values.map fun value => (value.steps .columns).placed true)
    - (places.zip (places.drop 1)).countP isNext

end Expression

end SqlDesk.Sql
