import SqlDesk.Sql.Expression.Value

/-! The names that an expression may use, and what they stand for. A name is looked for among the
columns, then it may stand for the number of the row, for a result under its label, for a text if it
is in double quotes, and for a truth value. -/

set_option autoImplicit false

namespace SqlDesk.Sql

structure Reference where
  qualifiers : List String
  name : String
  isDoubleQuoted : Bool
  isBare : Bool
  offset : Nat
  deriving DecidableEq, Repr

namespace Reference

def text (reference : Reference) : String :=
  String.intercalate "." (reference.qualifiers ++ [reference.name])

def boolean? (reference : Reference) : Option Bool :=
  if reference.isBare && reference.qualifiers.isEmpty then
    if sameName reference.name "TRUE" then some true
    else if sameName reference.name "FALSE" then some false
    else none
  else none

end Reference

def databaseNames : List String := ["main", "temp"]

def rowNumberNames : List String := ["_ROWID_", "OID", "ROWID"]

def Field.rowNumber : Field := ⟨none, .integer, .exact, true⟩

structure Source where
  name : String
  columns : List (String × Field)

namespace Source

def isCalled (source : Source) : List String → Bool
  | [] => true
  | [table] => sameName table source.name
  | [database, table] => sameName database "main" && sameName table source.name
  | _ => false

def column? (source : Source) (name : String) : Option Field :=
  (source.columns.find? fun column => sameName column.1 name).map Prod.snd

def field? (source : Source) (name : String) : Option Field :=
  (source.column? name).orElse fun _ =>
    if rowNumberNames.any (sameName name) then some .rowNumber else none

end Source

/-- Parts of the definition of a table. There are no parameters in them. -/
inductive DefinitionPart where
  | check
  /-- A term of a key, which names nothing but columns, and those by their own names alone. -/
  | keyTerm
  deriving DecidableEq, Repr

def DefinitionPart.text : DefinitionPart → String
  | check => "CHECK constraints"
  | keyTerm => "index expressions"

structure Scope where
  source : Option Source
  labels : List (String × Expression Field)
  isCondition : Bool
  /-- What the expression is a part of, if it stands in the definition of a table. -/
  part : Option DefinitionPart
  /-- Whether an expression is taken as it is written: words for truth values are numbers in it, which do not
  ask whether something holds, and what is wrong with its parts shows when it is carried out. -/
  isWritten : Bool

namespace Scope

def constants : Scope := ⟨none, [], false, none, false⟩

def writtenConstants : Scope := { constants with isWritten := true }

def ofSource (source : Source) : Scope := ⟨some source, [], false, none, false⟩

def field? (scope : Scope) (reference : Reference) : Option Field := do
  let source ← scope.source
  if !source.isCalled reference.qualifiers then none
  else if scope.part = some .keyTerm then source.column? reference.name
  else source.field? reference.name

def labelled? (scope : Scope) (reference : Reference) : Option (Expression Field) :=
  if reference.qualifiers.isEmpty then
    (scope.labels.find? fun entry => sameName entry.1 reference.name).map Prod.snd
  else none

def expression (scope : Scope) (reference : Reference) : Except PrepareError (Expression Field) :=
  match scope.field? reference with
  | some field => .ok (.column field)
  | none => match scope.labelled? reference with
    | some expression =>
      if expression.width = 1 then .ok expression else .error (.tupleMisused none)
    | none =>
      if reference.isDoubleQuoted && reference.qualifiers.isEmpty then
        .ok (.literal (.ofString reference.name) reference.offset)
      else match reference.boolean? with
        | some value => .ok (.boolean value)
        | none => .error (.noColumn reference.text (some reference.offset))

end Scope

/-- Looking up names. What was found wrong last is kept; a name that stands for nothing ends it. -/
abbrev Lookup := OptionT (StateM (Option PrepareError))

namespace Lookup

def proceed : Lookup Unit := do
  if (← get).isSome then failure

def note (error : PrepareError) : Lookup Unit := set (some error)

/-- What is found, if anything is; something wrong in it does not end what is around it. -/
def attempt {α : Type} (lookup : Lookup α) : Lookup (Option α) := fun state =>
  let (found, state) := lookup.run state
  (some found, state)

end Lookup

namespace Expression

def offset? : Expression Reference → Option Nat
  | literal _ offset | parameter offset => some offset
  | number _ _ token => some token.offset
  | column reference | known reference _ => some reference.offset
  | call function _ => some function.offset
  | plus operand | minus operand | complement operand | not operand | collated operand _
  | cast operand _ | isNull _ operand | between operand .. | member operand _ => operand.offset?
  | binary _ left _ => left.offset?
  | choice (some operand) .. => operand.offset?
  | settled .. | boolean _ | choice none .. | tuple _ => none

def callError? (function : Token) (count : Nat) : Option PrepareError :=
  match Function.named ((function.identifier?).getD function.text) with
  | [] => some (.noFunction function)
  | functions => if functions.any (·.takes count) then none else some (.argumentCount function)

def canBeNull : Expression Field → Bool
  | plus operand | minus operand => operand.canBeNull
  | number .. | settled .. => false
  | literal value _ => value.isNull
  | column field | known field _ => !field.notNull
  | _ => true

/-- Whether something is nothing; of a condition this is settled if it cannot be. -/
def nullTest (isCondition negated : Bool) (operand : Expression Field) : Expression Field :=
  if isCondition && !operand.canBeNull then .settled negated false else .isNull negated operand

def lookUp (scope : Scope) : Expression Reference → Lookup (Expression Field)
  | literal value offset => do
    Lookup.proceed
    return .literal value offset
  | number numeral negative token => do
    Lookup.proceed
    return .number numeral negative token
  | settled value isPlain => do
    Lookup.proceed
    return .settled value isPlain
  | parameter offset => do
    (scope.part).forM fun part => Lookup.note (.prohibited "parameters" part.text offset)
    Lookup.proceed
    return .parameter offset
  | boolean value => do
    Lookup.proceed
    return .boolean value
  | column reference | known reference _ => do
    if scope.part = some .keyTerm && !reference.qualifiers.isEmpty then
      Lookup.note (.prohibited "the \".\" operator" DefinitionPart.keyTerm.text reference.offset)
    match scope.expression reference with
    | .ok expression => return expression
    | .error error =>
      Lookup.note error
      failure
  | plus operand => do
    Lookup.proceed
    return .plus (← operand.lookUp scope)
  | minus operand => do
    Lookup.proceed
    return .minus (← operand.lookUp scope)
  | complement operand => do
    Lookup.proceed
    return .complement (← operand.lookUp scope)
  | not operand => do
    Lookup.proceed
    return .not (← operand.lookUp scope)
  | collated operand collation => do
    Lookup.proceed
    return .collated (← operand.lookUp scope) collation
  | cast operand affinity => do
    Lookup.proceed
    return .cast (← operand.lookUp scope) affinity
  | isNull negated operand => do
    match ← Lookup.attempt (operand.lookUp scope) with
    | some operand => return nullTest scope.isCondition negated operand
    | none => return .isNull negated (.literal .null 0)
  | binary operator left right => do
    let isTruth ← match operator, right.withoutCollation with
      | .is, column reference | .isNot, column reference =>
        if reference.qualifiers.isEmpty then
          match scope.expression reference with
          | .ok found => pure (found.withoutCollation matches .boolean _)
          | .error error =>
            Lookup.note error
            failure
        else pure false
      | .is, boolean _ | .isNot, boolean _ =>
        Lookup.proceed
        pure true
      | _, _ => pure false
    if operator.isComparing && !isTruth && !scope.isWritten && left.width ≠ right.width then
      Lookup.note (.tupleMisused left.offset?)
    if !isTruth then Lookup.proceed
    let left ← left.lookUp scope
    let right ← right.lookUp scope
    return .binary operator left (if isTruth && scope.isWritten then .plus right else right)
  | between operand low high => do
    if !scope.isWritten && (operand.width ≠ low.width || operand.width ≠ high.width) then
      Lookup.note (.tupleMisused operand.offset?)
    Lookup.proceed
    let operand ← operand.lookUp scope
    let low ← low.lookUp scope
    return .between operand low (← high.lookUp scope)
  | member operand list => do
    Lookup.proceed
    let operand ← operand.lookUp scope
    return .member operand (← lookUpList scope list)
  | choice operand branches otherwise => do
    Lookup.proceed
    let operand ← lookUpOption scope operand
    let branches ← lookUpBranches scope branches
    return .choice operand branches (← lookUpOption scope otherwise)
  | call function arguments => do
    if !scope.isWritten then (callError? function arguments.length).forM Lookup.note
    let arguments ← Lookup.attempt (lookUpList scope arguments)
    return .call function (arguments.getD [])
  | tuple items => do
    Lookup.proceed
    return .tuple (← lookUpList scope items)
where
  lookUpList (scope : Scope) : List (Expression Reference) → Lookup (List (Expression Field))
    | [] => return []
    | first :: rest => do
      let first ← first.lookUp scope
      return first :: (← lookUpList scope rest)
  lookUpBranches (scope : Scope) : List (Expression Reference × Expression Reference) →
      Lookup (List (Expression Field × Expression Field))
    | [] => return []
    | (test, result) :: rest => do
      let test ← test.lookUp scope
      let result ← result.lookUp scope
      return (test, result) :: (← lookUpBranches scope rest)
  lookUpOption (scope : Scope) : Option (Expression Reference) → Lookup (Option (Expression Field))
    | none => return none
    | some expression => return some (← expression.lookUp scope)

/-- Longest way from an expression to a part of it. A collation hides what is in front of it, and what
a value lies between does not count, nor does a tuple. -/
def depth : Expression Reference → Nat
  | number _ negative _ => if negative then 2 else 1
  | plus operand | minus operand | complement operand | not operand | cast operand _
  | isNull _ operand | between operand .. => operand.depth + 1
  | binary _ left right => max left.depth right.depth + 1
  | member operand list => max operand.depth (listDepth list) + 1
  | choice operand branches otherwise =>
    max (optionDepth operand) (max (branchesDepth branches) (optionDepth otherwise)) + 1
  | call _ arguments => listDepth arguments + 1
  | _ => 1
where
  listDepth : List (Expression Reference) → Nat
    | [] => 0
    | first :: rest => max first.depth (listDepth rest)
  branchesDepth : List (Expression Reference × Expression Reference) → Nat
    | [] => 0
    | (test, result) :: rest => max (max test.depth result.depth) (branchesDepth rest)
  optionDepth : Option (Expression Reference) → Nat
    | none => 0
    | some expression => expression.depth

/-- The expression with the columns that its names stand for. What was found wrong last is told. -/
def resolve (scope : Scope) (expression : Expression Reference) :
    Except PrepareError (Expression Field) :=
  if depthLimit < expression.depth then .error .deepExpression
  else match (expression.lookUp scope).run none with
    | (_, some error) => .error error
    | (some resolved, none) => .ok resolved
    | (none, none) => .error .incomplete

/-- Whether an expression of a statement has one value whatever is around it. A word that stands for a
truth value has one. -/
def isPlainConstant (expression : Expression Reference) : Bool :=
  expression.isConstantBy (·.boolean?.isSome) fun function count => (callError? function count).isNone

def isConverted {κ : Type} : Expression κ → Bool
  | cast .. => true
  | collated operand _ => operand.isConverted
  | _ => false

/-- Whether a row that is written out is gathered with the one in front of it. Only constants are
gathered, and the first of them have no conversions. -/
def isGathered (isBegun : Bool) (last row : List (Expression Reference)) : Bool :=
  row.all isPlainConstant
    && (isBegun || last.all fun value => value.isPlainConstant && !value.isConverted)

/-- Rows that are written out, those that are gathered taken together. -/
def gather : List (List (Expression Reference)) → List (List (List (Expression Reference)))
  | [] => []
  | first :: rest => behind [] first rest
where
  behind (group : List (List (Expression Reference))) (last : List (Expression Reference)) :
      List (List (Expression Reference)) → List (List (List (Expression Reference)))
    | [] => [(last :: group).reverse]
    | row :: rest =>
      if isGathered (!group.isEmpty) last row then behind (last :: group) row rest
      else (last :: group).reverse :: behind [] row rest

end Expression

end SqlDesk.Sql
