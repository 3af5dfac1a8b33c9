import SqlDesk.Sql.Error
import SqlDesk.Sql.Value.Operation
import SqlDesk.Sql.Value.Pattern

/-! Functions of SQL on the values of one row. -/

set_option autoImplicit false

namespace SqlDesk.Sql

inductive FunctionBody where
  /-- A value of all arguments, whose texts are compared in a collation. -/
  | value (apply : Collation → Values → Except ExecutionError Value)
  | firstValue

structure Function where
  name : String
  fewest : Nat
  most : Option Nat
  /-- Whether the collation of an argument matters. -/
  comparesTexts : Bool
  body : FunctionBody

namespace Function

def unary (name : String) (apply : Value → Except ExecutionError Value) : Function :=
  ⟨name, 1, some 1, false, .value fun _ values => apply (values.headD .null)⟩

/-- A function of one argument that makes nothing of nothing. -/
def strict (name : String) (apply : Value → Except ExecutionError Value) : Function :=
  unary name fun value => if value.isNull then .ok .null else apply value

def patternLimit : Nat := 50000

def escapeOf (value : Value) : Except ExecutionError Nat :=
  match CodePoint.ofBytes (textOf value) with
  | [character] => .ok character
  | _ => .error .escapeLength

def matched (pattern text : Value) (test : Bytes → Bytes → Bool) : Value :=
  if pattern.isNull || text.isNull then .null else .ofBool (test (textOf pattern) (textOf text))

def checkPattern (pattern : Value) : Except ExecutionError Unit :=
  if patternLimit < (textOf pattern).length then .error .complexPattern else .ok ()

def like : Values → Except ExecutionError Value
  | [pattern, text] => do
    checkPattern pattern
    return matched pattern text (Pattern.isLike none)
  | [pattern, text, escape] => do
    checkPattern pattern
    if escape.isNull then return .null
    let character ← escapeOf escape
    return matched pattern text (Pattern.isLike (some character))
  | _ => .ok .null

def glob : Values → Except ExecutionError Value
  | [pattern, text] => do
    checkPattern pattern
    return matched pattern text Pattern.isGlob
  | _ => .ok .null

def typeName : Value → String
  | .null => "null"
  | .text _ => "text"
  | .blob _ => "blob"
  | .real _ => "real"
  | .integer _ => "integer"

/-- Characters of a text in front of the first NUL, and bytes of anything else. -/
def length : Value → Nat
  | .text bytes => (CodePoint.ofBytes bytes).length
  | value => (textOf value).length

def magnitude (value : Value) : Except ExecutionError Value :=
  match value with
  | .integer word =>
    if fitsWord word.toInt.natAbs then .ok (.ofInt word.toInt.natAbs) else .error .integerOverflow
  | value =>
    let number := floatOf value
    .ok (.ofFloat (if number < 0 then -number else number))

def hexadecimal (value : Value) : Value :=
  .ofString (String.ofList ((textOf value).flatMap Cell.hexByte))

def mapBytes (change : UInt8 → UInt8) (value : Value) : Value := .text ((textOf value).map change)

def unlessEqual (collation : Collation) : Values → Value
  | [left, right] => if compareValues collation left right == .eq then .null else left
  | _ => .null

/-- One of the values at the end of an order, if none of them is nothing. `replaces` tells of an order
between the best one so far and the next whether the next takes its place. -/
def extreme (replaces : Ordering → Bool) (collation : Collation) : Values → Value
  | [] => .null
  | first :: rest =>
    if (first :: rest).any Value.isNull then .null
    else rest.foldl (fun best value =>
      if replaces (compareValues collation best value) then value else best) first

def library : List Function :=
  [⟨"like", 2, some 3, false, .value fun _ => like⟩, ⟨"glob", 2, some 2, false, .value fun _ => glob⟩,
    unary "typeof" fun value => .ok (.ofString (typeName value)),
    strict "length" fun value => .ok (.ofInt (length value)), strict "abs" magnitude,
    unary "hex" fun value => .ok (hexadecimal value),
    strict "lower" fun value => .ok (mapBytes Collation.lowerByte value),
    strict "upper" fun value => .ok (mapBytes Collation.upperByte value),
    ⟨"coalesce", 2, none, false, .firstValue⟩, ⟨"ifnull", 2, some 2, false, .firstValue⟩,
    ⟨"nullif", 2, some 2, true, .value fun collation values => .ok (unlessEqual collation values)⟩,
    ⟨"min", 2, none, true, .value fun collation values => .ok (extreme (· != .lt) collation values)⟩,
    ⟨"max", 2, none, true, .value fun collation values => .ok (extreme (· == .lt) collation values)⟩]

def named (name : String) : List Function :=
  library.filter fun function => Text.sameIgnoringCase function.name.toList name.toList

def takes (function : Function) (count : Nat) : Bool :=
  function.fewest ≤ count && function.most.all (count ≤ ·)

def find? (name : String) (count : Nat) : Option Function := (named name).find? (·.takes count)

end Function

end SqlDesk.Sql
