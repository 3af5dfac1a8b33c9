import SqlDesk.Sql.Expression.Scope

/-! What keeps an expression from being carried out, though its names are known: a number that is too
large, a collation that is not known, several values where one is needed. An expression is gone through
as it would be carried out. Constants among the operands are put aside and looked at when all else is done. -/

set_option autoImplicit false

namespace SqlDesk.Sql

structure Finding where
  error : PrepareError
  /-- Whether it counts only where nothing has been found before. -/
  isWeak : Bool

/-- What has been found wrong, and what will be when the constants are looked at. -/
structure Findings where
  now : List Finding
  later : List Finding

namespace Findings

def empty : Findings := ⟨[], []⟩

def ofList (errors : List PrepareError) : Findings := ⟨errors.map (⟨·, false⟩), []⟩

def ofWeak (errors : List PrepareError) : Findings := ⟨errors.map (⟨·, true⟩), []⟩

instance : Append Findings := ⟨fun first second => ⟨first.now ++ second.now, first.later ++ second.later⟩⟩

def all (findings : List Findings) : Findings := findings.foldr (· ++ ·) empty

def putOff (findings : Findings) : Findings := ⟨[], findings.now ++ findings.later⟩

def map (change : PrepareError → PrepareError) (findings : Findings) : Findings :=
  let changed (finding : Finding) : Finding := { finding with error := change finding.error }
  ⟨findings.now.map changed, findings.later.map changed⟩

/-- What is told of several findings: the last one that counts. -/
def told? (findings : List Finding) : Option PrepareError :=
  findings.foldl (fun told finding =>
    if finding.isWeak && told.isSome then told else some finding.error) none

def first? (stages : List Findings) : Option PrepareError := stages.findSome? fun stage => told? stage.now

/-- Refuses what something is wrong with. Only if there is nothing else do the constants count. -/
def refuse (stages : List Findings) : Except PrepareError Unit :=
  match first? stages, told? (stages.flatMap later) with
  | some error, _ => throw error
  | none, some (.noCollation name) => throw (.noConstantCollation name)
  | none, some error => throw error
  | none, none => return

end Findings

structure Obstacles where
  /-- Whether it may be put aside. -/
  isOutright : Bool
  /-- Whether it shows that there is a function in it, as it is and under a collation. -/
  showsCall : Bool
  coversCall : Bool
  /-- Where its value is put into a place, constants among its operands being put aside or not. -/
  place : (aside : Bool) → Findings
  /-- Where it decides what comes next. -/
  test : (aside : Bool) → Findings

namespace Obstacles

/-- Where the expression is an operand. A function that is put aside is carried out at once. -/
def operand (obstacles : Obstacles) (aside : Bool) : Findings :=
  if aside && obstacles.isOutright then
    if obstacles.coversCall then obstacles.place false else (obstacles.place false).putOff
  else obstacles.place aside

def argument (obstacles : Obstacles) (aside : Bool) : Findings :=
  if aside && obstacles.isOutright && !obstacles.showsCall then (obstacles.place false).putOff
  else obstacles.operand aside

def ofPlace (expression : Expression Field) (place : Bool → Findings) : Obstacles :=
  let own : Obstacles := ⟨expression.isOutright, expression.showsCall,
    expression.withoutCollation.showsCall, place, fun _ => .empty⟩
  { own with test := fun aside => if expression.plainTruth?.isSome then .empty else own.operand aside }

end Obstacles

namespace Expression

def unknownCollation (name : Option (String ⊕ Collation)) : List PrepareError :=
  match name with
  | some (.inl name) => if (Collation.ofName? name).isSome then [] else [.noCollation name]
  | _ => []

def collationFindings (left right : Expression Field) : Findings :=
  .ofWeak (unknownCollation (comparisonCollation? left right))

def comparisonFindings (lefts rights : List (Obstacles × Expression Field)) (aside : Bool) : Findings :=
  .all <| List.zipWith (fun (left, leftPart) (right, rightPart) =>
    left.operand aside ++ right.operand aside ++ collationFindings leftPart rightPart) lefts rights

def unknownAmong : List (Option (String ⊕ Collation)) → List PrepareError
  | [] => []
  | first :: rest =>
    let errors := unknownCollation first
    if first.isSome && errors.isEmpty then [] else errors ++ unknownAmong rest

def firstCollation (names : List (Option (String ⊕ Collation))) : Collation :=
  collationOf ((names.find? fun name => name.isSome && (unknownCollation name).isEmpty).getD none)

def obstacles (expression : Expression Field) : Obstacles :=
  match expression with
  | number numeral negative token =>
    .ofPlace (.number numeral negative token) fun _ =>
      .ofList (if numeral.isTooLarge negative then [.oversizedNumber negative token] else [])
  | known field value =>
    let own := value.obstacles
    .ofPlace (.known field value) own.place
  | plus operand =>
    let own := operand.obstacles
    .ofPlace (.plus operand) own.place
  | collated operand name =>
    let own := operand.obstacles
    .ofPlace (.collated operand name) own.place
  | minus operand =>
    let own := operand.obstacles
    .ofPlace (.minus operand) own.operand
  | complement operand =>
    let own := operand.obstacles
    .ofPlace (.complement operand) own.operand
  | cast operand affinity =>
    let own := operand.obstacles
    .ofPlace (.cast operand affinity) own.place
  | not operand =>
    let own := operand.obstacles
    { Obstacles.ofPlace (.not operand) own.operand with test := own.test }
  | isNull negated operand =>
    let own := operand.obstacles
    { Obstacles.ofPlace (.isNull negated operand) own.operand with test := own.operand }
  | binary operator left right =>
    let first := left.obstacles
    let second := right.obstacles
    let both (aside : Bool) : Findings := first.operand aside ++ second.operand aside
    let joined (aside : Bool) : Findings := first.place aside ++ second.operand aside
    let whole := Obstacles.ofPlace (.binary operator left right)
    match operator, right.withoutCollation with
    | .is, boolean _ | .isNot, boolean _ => { whole first.operand with test := first.test }
    | .and, _ | .or, _ => match share operator left right with
      | .left => { whole first.place with test := first.test }
      | .right => { whole second.place with test := second.test }
      | .both => { whole joined with test := fun aside => first.test aside ++ second.test aside }
    | operator, _ =>
      if !operator.isComparing then whole both
      else if 1 < left.width then
        if left.width = right.width then
          whole (comparisonFindings ((partObstacles left).zip left.parts) ((partObstacles right).zip right.parts))
        else whole fun _ => .ofList [.tupleMisused none]
      else
        let compared (aside : Bool) : Findings := both aside ++ collationFindings left right
        { whole compared with test := compared }
  | between operand low high =>
    let own := operand.obstacles
    let first := low.obstacles
    let second := high.obstacles
    let compared (aside : Bool) : Findings :=
      if 1 < operand.width && operand.width = low.width && operand.width = high.width then
        let parts := (partObstacles operand).zip operand.parts
        comparisonFindings parts ((partObstacles low).zip low.parts) aside
          ++ comparisonFindings parts ((partObstacles high).zip high.parts) aside
      else
        own.operand aside ++ first.operand aside ++ collationFindings operand low
          ++ second.operand aside ++ collationFindings operand high
    { Obstacles.ofPlace (.between operand low high) compared with test := compared }
  | member operand list =>
    let own := if 1 < operand.width then Obstacles.ofPlace operand fun _ => .empty else operand.obstacles
    let items := (listObstacles list).zip list
    let one (inside : Obstacles → Findings) : Obstacles × Expression Field → Findings
      | (item, written) => if written.width = operand.width && 1 < operand.width then .empty else inside item
    let collation : Findings := .ofList (unknownCollation operand.collation?)
    -- A longer list of constants is put into a table first, and the operand is looked up in it.
    let isTabled : Bool := 2 < list.length && list.all isConstant
    let looked (aside : Bool) : Findings :=
      if isTabled then
        collation ++ .all (items.map (one (·.place aside))) ++ own.place false
      else own.place false ++ .all (items.map (one (·.operand aside))) ++ collation
    { Obstacles.ofPlace (.member operand list) looked with test := looked }
  | choice operand branches otherwise =>
    let start := optionObstacles operand
    let all := (branchObstacles branches).zip branches
    let last := optionObstacles otherwise
    .ofPlace (.choice operand branches otherwise) fun aside =>
      (start.elim .empty (·.operand aside))
        ++ .all (all.map fun ((test, result), written, _) =>
          (match operand with
            | some operand => test.operand aside ++ collationFindings operand written
            | none => test.test aside) ++ result.place aside)
        ++ last.elim .empty (·.place aside)
  | call function arguments =>
    let items := listObstacles arguments
    let name := (function.identifier?).getD function.text
    let found := Function.find? name arguments.length
    let isKnown := (call function arguments).isOutright
    let collations : Findings :=
      .ofList (if found.any (·.comparesTexts) then unknownAmong (arguments.map collation?) else [])
    .ofPlace (.call function arguments) fun aside =>
      let aside := aside && !isKnown
      if (callError? function arguments.length).isSome then .ofList [.unknownFunction function]
      else match found.map Function.body with
        | some .firstValue => .all (items.map (·.place aside))
        | _ => collations ++ .all (items.map (·.argument aside))
  | tuple items => .ofPlace (.tuple items) fun _ => .ofList [.tupleMisused none]
  | leaf => .ofPlace leaf fun _ => .empty
where
  listObstacles : List (Expression Field) → List Obstacles
    | [] => []
    | first :: rest => first.obstacles :: listObstacles rest
  branchObstacles : List (Expression Field × Expression Field) → List (Obstacles × Obstacles)
    | [] => []
    | (test, result) :: rest => (test.obstacles, result.obstacles) :: branchObstacles rest
  optionObstacles : Option (Expression Field) → Option Obstacles
    | none => none
    | some expression => some expression.obstacles
  partObstacles : Expression Field → List Obstacles
    | tuple items => listObstacles items
    | expression => [expression.obstacles]

def findings (values : List (Expression Field)) : Findings :=
  .all (values.map fun value => value.obstacles.place true)

def testFindings (conditions : List (Expression Field)) : Findings :=
  .all (conditions.map fun condition => condition.obstacles.test true)

/-- What is wrong with what columns are given by themselves. These have no place in a statement. -/
def withoutPlaces (findings : Findings) : Findings :=
  findings.map fun
    | .oversizedNumber negative token => .oversizedDefault negative token
    | error => error

/-- What is wrong with what columns are given by themselves; it is put aside. -/
def defaultFindings (defaults : List (Expression Field)) : Findings :=
  withoutPlaces (.all (defaults.map fun value => (value.obstacles.place false).putOff))

/-- What is wrong with what columns are given in place of nothing. -/
def replacementFindings (defaults : List (Expression Field)) : Findings :=
  withoutPlaces (findings defaults)

end Expression

end SqlDesk.Sql
