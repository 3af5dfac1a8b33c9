import SqlDesk.Sql.Expression.Obstacles
import SqlDesk.Sql.Expression.Same
import SqlDesk.Sql.Expression.Scope
import SqlDesk.Sql.Path.Estimate

/-! What a condition demands of the rows of a table. A condition is cut into restrictions that all have
to be satisfied; one that compares a column with something else lets rows be found by that column.
Some conditions have others as their consequence, and these may serve where they do not. -/

set_option autoImplicit false

namespace SqlDesk.Sql

inductive Demand where
  | equal
  /-- To be the same, nothing being the same as nothing. -/
  | same
  | nothing
  /-- To be one of some, of which there is an estimate. -/
  | amongst (size : Estimate)
  | above
  | below
  deriving DecidableEq, Repr

namespace Demand

def ofOperator? : Operator → Option Demand
  | .is => some same
  | .compare .equal => some equal
  | .compare .less | .compare .lessOrEqual => some below
  | .compare .greater | .compare .greaterOrEqual => some above
  | _ => none

def flipped : Demand → Demand
  | above => below
  | below => above
  | demand => demand

def isRange (demand : Demand) : Bool := demand = above || demand = below

def isEquality (demand : Demand) : Bool := demand = equal || demand = same

end Demand

structure Restriction where
  condition : Expression Field
  column : Option (Option Nat)
  demand : Option Demand
  manner : Manner
  bounds : List (Expression Field)
  /-- A column that equals it on every row. -/
  twin : Option (Option Nat)
  /-- Whether it is a consequence of others only. -/
  isDerived : Bool
  /-- The restriction that is satisfied together with it, by its number. -/
  origin : Option Nat
  isNotNull : Bool
  /-- Whether it is one of two bounds of the texts that a pattern takes. -/
  isPattern : Bool
  /-- Whether it is a part of a comparison of several values. -/
  isSlice : Bool
  /-- Whether it does not depend on the row. -/
  isConstant : Bool

namespace Expression

def readsRow (expression : Expression Field) : Bool := !expression.isConstant

def operands (operator : Operator) : Expression Field → List (Expression Field)
  | binary own left right =>
    if own = operator then left.operands operator ++ right.operands operator
    else [binary own left right]
  | collated operand collation =>
    match operand.withoutCollation with
    | binary own _ _ => if own = operator then operand.operands operator else [collated operand collation]
    | _ => [collated operand collation]
  | expression => [expression]

def withPlainTests : Expression Field → Expression Field
  | isNull false operand =>
    if operand.withoutCollation.canBeNull then .isNull false operand else .boolean false
  | binary .and left right => .binary .and left.withPlainTests right.withPlainTests
  | binary .or left right => .binary .or left.withPlainTests right.withPlainTests
  | condition => condition

/-- The column that an operand of a comparison is. Of several values in a row the first counts where
the order is asked for. -/
def comparedColumn? (isRange : Bool) (operand : Expression Field) : Option Field :=
  match operand.withoutCollation with
  | column field | known field _ => some field
  | tuple (column field :: _) | tuple (known field _ :: _) => if isRange then some field else none
  | _ => none

def isKnown (operand : Expression Field) : Bool := operand.withoutCollation matches known ..

def areOneColumn (left right : Expression Field) : Bool :=
  match left.withoutCollation, right with
  | column first, column second | column first, known second _ | known first _, column second
  | known first _, known second _ => first.place = second.place
  | _, _ => false

def integer? {κ : Type} : Expression κ → Option Int
  | number numeral negative token =>
    if token.isPlainNumber then
      numeral.small?.map fun value => if negative then -(value : Int) else value
    else none
  | settled value true => some (if value then 1 else 0)
  | plus operand => operand.integer?
  | minus operand => operand.integer?.map (- ·)
  | _ => none

end Expression

namespace Restriction

def plain (condition : Expression Field) : Restriction :=
  ⟨condition, none, none, ⟨.blob, .exact⟩, [], none, false, none, false, false, false,
    !condition.readsRow⟩

/-- Whether it has a form by which rows could be found, were it not for what its column is compared
with. -/
def isLookedAt (restriction : Restriction) : Bool :=
  restriction.column.isSome || match restriction.condition with
    | .binary .or _ _ => true
    | _ => false

/-- Whether two columns that are compared by a manner are interchangeable. -/
def areTwins (operator : Operator) (manner : Manner) (left right : Field) : Bool :=
  (operator = .is || operator = .compare .equal)
    && (left.affinity = right.affinity || (left.affinity.isNumeric && right.affinity.isNumeric))
    && (manner.collation = .exact || left.collation = right.collation)

def ofComparison (operator : Operator) (left right : Expression Field) : Restriction × Option Restriction :=
  let condition := Expression.binary operator left right
  let manner := Manner.ofOperands left right
  let isMixed := left.readsRow && right.readsRow
  match Demand.ofOperator? operator with
  | none => (plain condition, none)
  | some demand =>
    let base := { plain condition with manner }
    let other := if right.isKnown then none else right.comparedColumn? demand.isRange
    match left.comparedColumn? demand.isRange, other with
    | some first, some second =>
      let twin (field : Field) := if areTwins operator manner first second then some field.place else none
      let turned := { base with column := some second.place, isDerived := true }
      ({ base with column := some first.place, twin := twin second },
        some (if left.readsRow then { turned with twin := twin first }
          else { turned with demand := some demand.flipped, bounds := [left] }))
    | some field, none =>
      let isUseless := isMixed || (demand.isEquality && Expression.areOneColumn left right)
      ({ base with
        column := some field.place, demand := if isUseless then none else some demand,
        bounds := [right] }, none)
    | none, some field =>
      ({ base with
        column := some field.place, demand := if isMixed then none else some demand.flipped,
        bounds := [left] }, none)
    | none, none => (base, none)

def ofMember (operand : Expression Field) (list : List (Expression Field)) : Restriction :=
  let base := plain (.member operand list)
  match operand.comparedColumn? false with
  | none => base
  | some field =>
    { base with
      column := some field.place,
      demand := if list.any Expression.readsRow then none else some (.amongst (.ofCount list.length)),
      manner := (Manner.ofMember operand).headD base.manner, bounds := list }

def ofCondition : Expression Field → Restriction
  | .binary .is left right =>
    match right.withoutCollation with
    | .boolean _ => plain (.binary .is left right)
    | _ => (ofComparison .is left right).1
  | .binary operator left right => (ofComparison operator left right).1
  | .isNull false operand =>
    let base := plain (.isNull false operand)
    match operand.comparedColumn? false with
    | some field => { base with column := some field.place, demand := some .nothing }
    | none => base
  | .member operand list => ofMember operand list
  | condition => plain condition

def sharesColumn (left right : Restriction) : Bool :=
  left.column.isSome && left.column = right.column

end Restriction

/-- A text that a pattern begins with, and whether nothing but a mark for any text follows it. -/
structure PatternFront where
  text : List Char
  isWhole : Bool

namespace PatternFront

def isIrregular (c : Char) : Bool := 0xFFFD ≤ c.toNat && c.toNat ≤ 0xFFFF

/-- The characters up to the first mark, with those of escape among them, and what follows. -/
def literal (marks : List Char) (escape : Option Char) : List Char → List Char × List Char
  | [] => ([], [])
  | c :: rest =>
    if marks.contains c || isIrregular c then ([], c :: rest)
    else match rest with
      | d :: after =>
        if escape = some c && d.toNat < 0x80 then
          let (front, left) := literal marks escape after
          (c :: d :: front, left)
        else
          let (front, left) := literal marks escape (d :: after)
          (c :: front, left)
      | [] => ([c], [])

def unescaped (escape : Option Char) : List Char → List Char
  | [] => []
  | [c] => if escape = some c then [] else [c]
  | c :: d :: rest =>
    if escape = some c then d :: unescaped escape rest else c :: unescaped escape (d :: rest)

/-- The front of a pattern with some marks, of which the first one stands for any text. -/
def ofPattern? (marks : List Char) (escape : Option Char) (pattern : List Char) :
    Option PatternFront :=
  let (front, rest) := literal marks escape pattern
  if front.isEmpty || (front.length = 1 && front.head? = escape) then none
  else some ⟨unescaped escape front, rest.length = 1 && rest.head? = marks.head?⟩

def isNumeric (front : PatternFront) : Bool :=
  let bytes := Bytes.ofString (String.ofList front.text)
  let next := bytes.dropLast ++ (bytes.getLast?.map (· + 1)).toList
  (NumberFront.ofBytes bytes).isNumber || front.text = ['-'] || (NumberFront.ofBytes next).isNumber

end PatternFront

inductive Origin where
  | nowhere
  | condition
  | previous
  deriving DecidableEq, Repr

namespace Restriction

def derived (operator : Operator) (left right : Expression Field) : List (Restriction × Origin) :=
  let (first, second) := ofComparison operator left right
  ({ first with isDerived := true }, .condition) :: second.toList.map (·, .previous)

def patternMarks : List (String × List Char × Collation) :=
  [("like", ['%', '_'], .noCase), ("glob", ['*', '?', '['], .exact)]

def ofPattern (function : Token) (arguments : List (Expression Field)) : List (Restriction × Origin) :=
  let name := (function.identifier?).getD function.text
  let entry := patternMarks.find? fun entry => sameName entry.1 name
  let escape : Option (Option Char) := match arguments.drop 2 with
    | [] => some none
    | .literal (.text bytes) _ :: _ => match bytes.toChars with
      | [c] => if c.toNat < 0x80 then some (some c) else none
      | _ => none
    | _ => none
  match entry, arguments, escape with
  | some (_, marks, collation), pattern :: operand :: _, some escape =>
    match pattern.withoutCollation, operand.withoutCollation with
    | .literal (.text bytes) _, .column field | .literal (.text bytes) _, .known field _ =>
      let isFixed := escape.all fun c => !(marks.take 2).contains c
      match PatternFront.ofPattern? marks escape bytes.toChars with
      | some front =>
        let isText := (operand matches .column _ | .known ..) && field.affinity = .text
        if isFixed && (isText || !front.isNumeric) then
          let base :=
            { plain (.call function arguments) with
              column := some field.place, manner := ⟨field.affinity, collation⟩, isDerived := true,
              isPattern := true }
          let origin := if front.isWhole then Origin.condition else .nowhere
          [({ base with demand := some .above }, origin), ({ base with demand := some .below }, origin)]
        else []
      | none => []
    | _, _ => []
  | _, _, _ => []

def together? (left right : Restriction) : Option Restriction :=
  let isMatched := left.sharesColumn right && left.manner = right.manner
    && left.bounds.length = right.bounds.length
    && (List.zipWith Expression.isSame left.bounds right.bounds).all id
    && !left.isNotNull && !right.isNotNull && !left.isPattern && !right.isPattern
  let common? : Option Demand := match left.demand, right.demand with
    | some .equal, some demand | some demand, some .equal =>
      if demand = .equal || demand.isRange then some demand else none
    | some .above, some .above => some .above
    | some .below, some .below => some .below
    | _, _ => none
  if isMatched then
    common?.map fun demand =>
      { left with
        condition := .binary .or left.condition right.condition, demand := some demand,
        isDerived := true, origin := none }
  else none

/-- A list of what a column may equal, if all alternatives demand one value of one column. -/
def listed? (alternatives : List Restriction) : Option Restriction :=
  let operand? (restriction : Restriction) : Option (Expression Field) :=
    match restriction.condition with
    | .binary _ left right => if left.readsRow then some left else some right
    | _ => none
  match alternatives.head?, alternatives.getLast?.bind operand? with
  | some first, some operand =>
    let isLike (restriction : Restriction) :=
      restriction.demand = some .equal && restriction.sharesColumn first
        && restriction.bounds.all fun bound =>
          bound.affinity?.all fun affinity => (operand? restriction).bind (·.affinity?) = some affinity
    if alternatives.all isLike then
      some { ofMember operand (alternatives.flatMap Restriction.bounds) with isDerived := true }
    else none
  | _, _ => none

def rowListSize : Estimate := 46

def consequences (condition : Expression Field) : List (Restriction × Origin) :=
  match condition with
  | .binary .or left right => ofAlternatives ((Expression.binary .or left right).operands .or)
  | .binary operator left right =>
    if (operator = .is || operator = .compare .equal) && 1 < left.width && left.width = right.width then
      (List.zipWith (slices operator) left.parts right.parts).flatten
    else match (ofComparison operator left right).2 with
      | some other => [(other, .condition)]
      | none => []
  | .between operand low high =>
    derived (.compare .greaterOrEqual) operand low ++ derived (.compare .lessOrEqual) operand high
  | .isNull true (.column field) | .isNull true (.known field _) =>
    if field.place.isSome then
      [({ plain condition with
        column := some field.place, demand := some .above,
        manner := ⟨field.affinity, field.collation⟩, bounds := [.literal .null 0], isDerived := true,
        isNotNull := true }, .condition)]
    else []
  | .member (.tuple items) list =>
    if list.any Expression.readsRow then []
    else items.filterMap fun item =>
      (item.comparedColumn? false).map fun field =>
        ({ plain condition with
          column := some field.place, demand := some (.amongst rowListSize),
          manner := (Manner.ofMember item).headD ⟨.blob, .exact⟩, bounds := list,
          isDerived := true }, .condition)
  | .call function arguments => ofPattern function arguments
  | _ => []
where
  /-- A part of a comparison of several values, which is a restriction of its own. -/
  slices (operator : Operator) (left right : Expression Field) : List (Restriction × Origin) :=
    let (first, second) := ofComparison operator left right
    ({ first with isSlice := true }, .nowhere) :: second.toList.map (·, .previous)
  ofAlternatives (alternatives : List (Expression Field)) : List (Restriction × Origin) :=
    let own := alternatives.map ofCondition
    let isFound (restriction : Restriction) := restriction.demand.isSome
    let listed := if own.all isFound then (listed? own).toList else []
    let parts (alternative : Expression Field) : List Restriction :=
      let restriction := ofCondition alternative
      if isFound restriction then [restriction] else (alternative.operands .and).map ofCondition
    let common := match alternatives with
      | [left, right] =>
        (parts left).flatMap fun first => (parts right).filterMap (together? first)
      | _ => []
    common.map (·, .nowhere) ++ listed.map (·, .condition)

/-- The restriction that a condition is itself. Several values that are equal to others are compared one
by one. -/
def own (condition : Expression Field) : Restriction :=
  let isCompared : Bool := match condition with
    | .binary operator left right =>
      (operator = .is || operator = .compare .equal) && 1 < left.width && left.width = right.width
    | _ => false
  if isCompared then { plain condition with isDerived := true } else ofCondition condition

def withConsequences (number : Nat) (restrictions : List Restriction) :
    List (Restriction × Origin) → List Restriction
  | [] => restrictions
  | (first, origin) :: rest =>
    let place := match origin with
      | .nowhere => none
      | .condition => some number
      | .previous => some (restrictions.length - 1)
    withConsequences number (restrictions ++ [{ first with origin := place }]) rest

/-- The restriction that a condition is without tests that cannot succeed. Where these are alternatives it
depends on the row nevertheless. -/
def ownPlain (condition : Expression Field) : Restriction :=
  let restriction := own condition.withPlainTests
  match condition with
  | .binary .or _ _ => { restriction with isConstant := !condition.readsRow }
  | _ => restriction

/-- The restrictions of conditions that all have to be satisfied, with their consequences, those of the
last condition first. -/
def ofConditions (conditions : List (Expression Field)) : List Restriction :=
  conditions.zipIdx.reverse.foldl
    (fun restrictions (condition, number) =>
      withConsequences number restrictions (consequences condition.withPlainTests))
    (conditions.map ownPlain)

/-- The conditions as they are looked at one by one: first those that do not depend on the row, then the
others. -/
def tests (restrictions : List Restriction) : List (Expression Field) × List (Expression Field) :=
  let (constants, others) := (restrictions.filter (!·.isDerived)).partition isConstant
  let conditions (restrictions : List Restriction) : List (Expression Field) :=
    restrictions.map fun restriction => restriction.condition.withoutCollation
  (conditions constants, conditions others)

def stages (conditions : List (Expression Field)) : List Findings :=
  let (constants, others) := tests (ofConditions conditions)
  [Expression.testFindings constants, Expression.testFindings others]

end Restriction

end SqlDesk.Sql
