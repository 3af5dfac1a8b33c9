import SqlDesk.Sql.Expression.Scope
import SqlDesk.Sql.Reader

/-! Reading expressions. Every operator binds with a strength; an operand ends in front of an operator
that binds less than the one it belongs to. -/

set_option autoImplicit false

namespace SqlDesk.Sql

namespace Numeral

def isSeparated (chars : List Char) : Bool :=
  let isHexadecimal := match chars with
    | '0' :: 'x' :: _ | '0' :: 'X' :: _ => true
    | _ => false
  let isDigitOf c := if isHexadecimal then (Text.hexValue? c).isSome else isDigit c
  (chars.zip (chars.drop 1)).all (fun (c, d) =>
      (c ≠ '_' || isDigitOf d) && (d ≠ '_' || isDigitOf c))
    && chars.getLast? ≠ some '_'

end Numeral

namespace Expression

variable {κ : Type}

/-- A minus sign becomes part of a number, and takes the place of a plus sign. -/
def withMinus : Expression κ → Expression κ
  | number numeral false token => .number numeral true token
  | plus (number numeral false token) => .number numeral true token
  | plus operand => .minus operand
  | operand => .minus operand

def withPlus : Expression κ → Expression κ
  | plus operand => .plus operand
  | operand => .plus operand

/-- What is plainly false makes a conjunction false, whatever the other operand is, unless there are
functions in them. -/
def joined (operator : Operator) (left right : Expression κ) : Expression κ :=
  if operator = .and && (left.plainTruth? = some false || right.plainTruth? = some false)
      && !left.showsCall && !right.showsCall then
    .settled false true
  else .binary operator left right

/-- Whether something is the same as another thing; nothing has a test of its own. -/
def identical (negated : Bool) (left : Expression κ) : Expression κ → Expression κ
  | literal .null _ => .isNull negated left
  | right => .binary (if negated then .isNot else .is) left right

/-- Whether something is one of a list. One constant is compared with, and nothing is in an empty
list. -/
def amongst (left : Expression Reference) (list : List (Expression Reference)) : Expression Reference :=
  match list with
  | [] => .boolean false
  | [only] =>
    if only.isPlainConstant && !(left matches .tuple _) then
      .binary (.compare .equal) left (.plus only)
    else .member left list
  | _ => .member left list

end Expression

def symbolOperators : List (String × Nat × Operator) :=
  [("=", 4, .compare .equal), ("==", 4, .compare .equal), ("<>", 4, .compare .unequal),
    ("!=", 4, .compare .unequal), ("<", 5, .compare .less), ("<=", 5, .compare .lessOrEqual),
    (">", 5, .compare .greater), (">=", 5, .compare .greaterOrEqual), ("&", 7, .bitAnd),
    ("|", 7, .bitOr), ("<<", 7, .shiftLeft), (">>", 7, .shiftRight), ("+", 8, .add),
    ("-", 8, .subtract), ("*", 9, .multiply), ("/", 9, .divide), ("%", 9, .modulo),
    ("||", 10, .concat)]

def wordOperators : List (String × Nat × Operator) := [("OR", 1, .or), ("AND", 2, .and)]

def operatorOf? (token : Token) : Option (Nat × Operator) :=
  ((symbolOperators.find? fun entry => token.isSymbol entry.1).or
    (wordOperators.find? fun entry => token.isWord entry.1)).map Prod.snd

/-- Operators that are functions of a pattern and a text. -/
def isPatternWord (token : Token) : Bool := ["LIKE", "GLOB", "REGEXP", "MATCH"].any token.isWord

/-- Strengths of negation, of the comparisons by words, of collations and of signs. -/
def negationStrength : Nat := 3
def comparisonStrength : Nat := 4
def collationStrength : Nat := 11
def signStrength : Nat := 12

/-- How far an expression goes: up to an operator that binds less than a strength, or up to a
conjunction that is none of its own. -/
structure Extent where
  strength : Nat
  stopsAtAnd : Bool

def Extent.all : Extent := ⟨0, false⟩
def Extent.from (strength : Nat) : Extent := ⟨strength, false⟩

namespace Reader

abbrev Inner := Extent → Reader (Expression Reference)

def numberToken (token : Token) : Reader (Expression Reference) := do
  advance
  if !token.isPlainNumber && !Numeral.isSeparated token.chars then note (.misplacedSeparator token)
  return .number (.ofChars token.chars) false token

def parameterLimit : Nat := 32766

/-- A parameter, which is bound to nothing. Every one has a number: the one it tells, that of the same
name, or the next one. -/
def parameter (token : Token) : Reader (Expression Reference) := do
  advance
  match token.chars with
  | '?' :: c :: digits =>
    let number := Decimal.Numeral.digitsValue (c :: digits)
    if number = 0 || parameterLimit < number then note (.parameterNumber token)
    else modify fun front => { front with parameters := max front.parameters number }
  | '#' :: c :: _ => if isDigit c then note (.unexpected token) else named
  | ['?'] => next
  | _ => named
  return .parameter token.offset
where
  next : Reader Unit := do
    modify fun front => { front with parameters := front.parameters + 1 }
    if parameterLimit < (← get).parameters then note (.excessOfParameters token)
  named : Reader Unit := do
    if !(← get).names.contains token.chars then
      modify fun front => { front with names := token.chars :: front.names }
      next

/-- The words of a type with the numbers that may follow them, and the place they take. -/
def declaredType : Reader (Option (Nat × Nat)) := do
  let start := (← peek).elim 0 Token.offset
  if !(← sees fun token => token.bareName?.isSome) then return none
  words (← get).tokens.length
  if ← symbol? "(" then
    number
    if ← symbol? "," then number
    symbol ")"
  return some (start, (← get).passed)
where
  words : Nat → Reader Unit
    | 0 => return
    | fuel + 1 => do if ← passes fun token => token.bareName?.isSome then words fuel
  number : Reader Unit := do
    let _ ← passes fun token => token.isSymbol "+" || token.isSymbol "-"
    if !(← passes Token.isPlainNumber) then refuse

def column (first : Token) (value : String) : Reader (Expression Reference) := do
  if ← symbol? "." then
    let (second, _) ← name
    if ← symbol? "." then
      let (third, _) ← name
      return .column ⟨[value, second], third, false, false, first.offset⟩
    else return .column ⟨[value], second, false, false, first.offset⟩
  else return .column ⟨[], value, first.isDoubleQuoted, first.kind = .word, first.offset⟩

def arguments (inner : Inner) : Reader (List (Expression Reference)) := do
  if ← symbol? "*" then
    symbol ")"
    return []
  else if ← symbol? ")" then return []
  else
    let _ ← passes fun token => token.isWord "DISTINCT" || token.isWord "ALL"
    let list ← items (inner .all)
    symbol ")"
    return list

def made (expression : Expression Reference) : Reader (Expression Reference) := do
  if depthLimit < expression.depth then note .deepExpression
  return expression

def branches (inner : Inner) : Nat → Reader (List (Expression Reference × Expression Reference))
  | 0 => refuse
  | fuel + 1 => do
    word "WHEN"
    let test ← inner .all
    word "THEN"
    let result ← inner .all
    if ← sees (·.isWord "WHEN") then return (test, result) :: (← branches inner fuel)
    else return [(test, result)]

def choice (inner : Inner) : Reader (Expression Reference) := do
  let operand ← if ← sees (·.isWord "WHEN") then pure none else do pure (some (← inner .all))
  let branches ← branches inner ((← get).tokens.length + 1)
  let otherwise ← if ← word? "ELSE" then do pure (some (← inner .all)) else pure none
  word "END"
  made (.choice operand branches otherwise)

def argumentLimit : Nat := 1000

def call (inner : Inner) (token : Token) : Reader (Expression Reference) := do
  let arguments ← arguments inner
  if argumentLimit < arguments.length then note (.excess s!"arguments on function {token.text}")
  made (.call token arguments)

def parenthesized (inner : Inner) : Reader (Expression Reference) := do
  match ← items (inner .all) with
  | [single] =>
    symbol ")"
    return single
  | several =>
    symbol ")"
    return .tuple several

/-- What begins with a word or a name: a choice, a conversion, a function or a column. -/
def named (inner : Inner) (token : Token) : Reader (Expression Reference) := do
  if token.isWord "NULL" then
    advance
    return .literal .null token.offset
  else if token.isWord "CASE" then
    advance
    choice inner
  else if token.isWord "CAST" then
    advance
    symbol "("
    let operand ← inner .all
    word "AS"
    -- The type counts word by word as it is written, since its affinity is read off the words.
    let following := (← get).tokens
    let place ← declaredType
    let written := following.takeWhile fun token => place.any (token.offset < ·.2)
    symbol ")"
    return .cast operand (.ofDeclared (String.intercalate " " (written.map Token.text)))
  else if token.isWord "RAISE" || token.isWord "EXISTS" then
    advance
    symbol "("
    refuse
  -- These functions are called without parentheses.
  else if ["CURRENT_DATE", "CURRENT_TIME", "CURRENT_TIMESTAMP"].any token.isWord then
    advance
    return .call token []
  else match token.identifier? with
    | none => refuse
    | some value =>
      advance
      if ← symbol? "(" then call inner token else column token value

def operand (inner : Inner) : Reader (Expression Reference) := do
  match ← peek with
  | none => refuse
  | some token => match token.kind with
    | .number => numberToken token
    | .parameter => parameter token
    | .blob value =>
      advance
      return .literal (.blob value) token.offset
    | .text value =>
      advance
      if ← sees (·.isSymbol ".") then column token value
      else return .literal (.ofString value) token.offset
    | .word => if token.isWord "NOT" then negation else named inner token
    | .name _ => named inner token
    | .symbol =>
      if ← symbol? "-" then made (← inner (.from signStrength)).withMinus
      else if ← symbol? "+" then made (← inner (.from signStrength)).withPlus
      else if ← symbol? "~" then made (.complement (← inner (.from signStrength)))
      else if ← symbol? "(" then parenthesized inner
      else refuse
    | .illegal | .clause => refuse
where
  negation : Reader (Expression Reference) := do
    advance
    made (.not (← inner (.from negationStrength)))

def identity (inner : Inner) (left : Expression Reference) : Reader (Expression Reference) := do
  let negated ← word? "NOT"
  let distinct ← word? "DISTINCT"
  if distinct then word "FROM"
  let right ← inner (.from (comparisonStrength + 1))
  made (.identical (negated != distinct) left right)

def between (inner : Inner) (left : Expression Reference) : Reader (Expression Reference) := do
  let low ← inner ⟨0, true⟩
  word "AND"
  let high ← inner (.from (comparisonStrength + 1))
  made (.between left low high)

def checkWidths (left : Expression Reference) (list : List (Expression Reference)) : Reader Unit := do
  if left matches .tuple _ then
    if let some row := list.find? fun row => row.width ≠ left.width then
      note (.tupleWidth row.width left.width)

def membership (inner : Inner) (left : Expression Reference) : Reader (Expression Reference) := do
  symbol "("
  if ← symbol? ")" then return .amongst left []
  else
    let list ← items (inner .all)
    symbol ")"
    checkWidths left list
    made (.amongst left list)

def pattern (inner : Inner) (function : Token) (left : Expression Reference) :
    Reader (Expression Reference) := do
  let right ← inner (.from (comparisonStrength + 1))
  if ← word? "ESCAPE" then
    made (.call function [right, left, ← inner (.from (comparisonStrength + 1))])
  else made (.call function [right, left])

def wordComparison? (inner : Inner) (left : Expression Reference) :
    Reader (Option (Expression Reference)) := do
  if ← word? "BETWEEN" then return some (← between inner left)
  else if ← word? "IN" then return some (← membership inner left)
  else match ← peek with
    | none => return none
    | some token =>
      if isPatternWord token then
        advance
        return some (← pattern inner token left)
      else return none

def negated : Expression Reference → Expression Reference
  | .boolean value => .boolean (!value)
  | comparison => .not comparison

/-- What follows an operand by a word, if the word binds strongly enough. -/
def suffix? (inner : Inner) (extent : Extent) (left : Expression Reference) :
    Reader (Option (Expression Reference)) := do
  let may (strength : Nat) (keyword : String) : Reader Bool :=
    if extent.strength ≤ strength then word? keyword else return false
  if ← may negationStrength "NOT" then
    if ← word? "NULL" then return some (← made (.isNull true left))
    else match ← wordComparison? inner left with
      | some comparison => return some (← made (negated comparison))
      | none => refuse
  else if ← may comparisonStrength "IS" then return some (← identity inner left)
  else if ← may comparisonStrength "ISNULL" then return some (← made (.isNull false left))
  else if ← may comparisonStrength "NOTNULL" then return some (← made (.isNull true left))
  else if ← may collationStrength "COLLATE" then
    return some (.collated left (← nameBy Token.bareName?).1)
  else if extent.strength ≤ comparisonStrength then wordComparison? inner left
  else return none

def operations (inner : Inner) (extent : Extent) (left : Expression Reference) :
    Nat → Reader (Expression Reference)
  | 0 => return left
  | fuel + 1 => do
    match (← peek).bind operatorOf? with
    | some (strength, operator) =>
      if strength < extent.strength || (extent.stopsAtAnd && operator = .and) then return left
      else
        advance
        let right ← inner (.from (strength + 1))
        operations inner extent (← made (.joined operator left right)) fuel
    | none => match ← suffix? inner extent left with
      | some further => operations inner extent further fuel
      | none => return left

def expressionFrom : Nat → Inner
  | 0 => fun _ => refuse
  | fuel + 1 => fun extent => do
    let left ← operand (expressionFrom fuel)
    operations (expressionFrom fuel) extent left fuel

def expression : Reader (Expression Reference) := do
  expressionFrom ((← get).tokens.length + 2) .all

end Reader

end SqlDesk.Sql
