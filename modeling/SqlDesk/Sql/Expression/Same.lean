import SqlDesk.Sql.Expression

/-! When two expressions are the same as they are written, wherever they stand. -/

set_option autoImplicit false

namespace SqlDesk.Sql

namespace Expression

def isSame : Expression Field → Expression Field → Bool
  | literal left _, literal right _ => left = right
  | number left leftNegative _, number right rightNegative _ =>
    left = right && leftNegative = rightNegative
  | settled left _, settled right _ => left = right
  | parameter left, parameter right => left = right
  | boolean left, boolean right => left = right
  | column left, column right | column left, known right _ | known left _, column right
  | known left _, known right _ => left = right
  | plus left, plus right | minus left, minus right | complement left, complement right
  | not left, not right => left.isSame right
  | collated left leftName, collated right rightName =>
    Text.sameIgnoringCase leftName.toList rightName.toList && left.isSame right
  | cast left leftAffinity, cast right rightAffinity =>
    leftAffinity = rightAffinity && left.isSame right
  | isNull leftNegated left, isNull rightNegated right =>
    leftNegated = rightNegated && left.isSame right
  | binary leftOperator left₁ left₂, binary rightOperator right₁ right₂ =>
    leftOperator = rightOperator && left₁.isSame right₁ && left₂.isSame right₂
  | between left leftLow leftHigh, between right rightLow rightHigh =>
    left.isSame right && leftLow.isSame rightLow && leftHigh.isSame rightHigh
  | member left leftList, member right rightList => left.isSame right && areSame leftList rightList
  | choice left leftBranches leftOtherwise, choice right rightBranches rightOtherwise =>
    optionsSame left right && branchesSame leftBranches rightBranches
      && optionsSame leftOtherwise rightOtherwise
  | call left leftArguments, call right rightArguments =>
    Text.sameIgnoringCase left.chars right.chars && areSame leftArguments rightArguments
  | tuple left, tuple right => areSame left right
  | _, _ => false
where
  areSame : List (Expression Field) → List (Expression Field) → Bool
    | [], [] => true
    | left :: lefts, right :: rights => left.isSame right && areSame lefts rights
    | _, _ => false
  branchesSame : List (Expression Field × Expression Field) →
      List (Expression Field × Expression Field) → Bool
    | [], [] => true
    | (leftTest, left) :: lefts, (rightTest, right) :: rights =>
      leftTest.isSame rightTest && left.isSame right && branchesSame lefts rights
    | _, _ => false
  optionsSame : Option (Expression Field) → Option (Expression Field) → Bool
    | none, none => true
    | some left, some right => left.isSame right
    | _, _ => false

end Expression

end SqlDesk.Sql
