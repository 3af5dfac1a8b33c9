import SqlDesk.Sql.Expression.Obstacles
import SqlDesk.Sql.Expression.Reader
import SqlDesk.Sql.Statement

/-! Reading queries. Rows written out are looked at while they are read: constant rows that follow one
another are gathered, and have to have the same width. -/

set_option autoImplicit false

namespace SqlDesk.Sql

namespace Reader

def target : Reader Target := do
  let (database, name, _) ← qualifiedName
  let table : TableName := ⟨database.map Prod.fst, name⟩
  if ← word? "AS" then return ⟨table, some (← Reader.name).1, .free⟩ else return ⟨table, none, .free⟩

def indexed (target : Target) : Reader Target := do
  if ← word? "NOT" then
    word "INDEXED"
    return { target with indexing := .byNumber }
  else if ← word? "INDEXED" then
    word "BY"
    return { target with indexing := .named (← name).1 }
  else return target

def unknownClause (beginnings : List String) : Reader Unit := do
  if ← passes fun token => beginnings.any token.isWord then refuse

def joining : Reader Unit := do
  if ← symbol? "," then refuse
  unknownClause ["CROSS", "FULL", "INNER", "JOIN", "LEFT", "NATURAL", "OUTER", "RIGHT"]
  if ← word? "ON" then
    let _ ← expression
    note (.noJoin "ON")
  else if ← word? "USING" then
    symbol "("
    let _ ← items name
    symbol ")"
    note (.noJoin "USING")

def withAlias (target : Target) : Reader Target := do
  if target.otherName.isSome then return target
  else if ← word? "AS" then return { target with otherName := some (← name).1 }
  else if ← sees fun token => token.bareName?.isSome then
    return { target with otherName := some (← nameBy Token.bareName?).1 }
  else return target

/-- A table that rows are taken from; there may be parentheses around it. -/
def sourceTarget : Reader Target := do
  if ← symbol? "(" then
    let inner ← indexed (← withAlias (← target))
    joining
    symbol ")"
    let target ← withAlias inner
    joining
    return target
  else
    let target ← indexed (← withAlias (← target))
    joining
    return target

def condition : Reader (Option (Expression Reference)) := do
  if ← word? "WHERE" then return some (← expression) else return none

def withoutBlankEnd (chars : List Char) : List Char := (chars.reverse.dropWhile isSpace).reverse

/-- An item of a selection. Where it has no label, its text counts, with the comments up to the next
token. -/
def selectItem (source : List Char) : Reader Item := do
  match (← get).tokens with
  | first :: second :: third :: _ =>
    if first.name?.isSome && second.isSymbol "." && third.isSymbol "*" then
      advance
      advance
      advance
      return .allOf ((first.name?).getD "")
    else single
  | _ => single
where
  single : Reader Item := do
    if ← symbol? "*" then return .all
    else
      let start := (← peek).elim 0 Token.offset
      let value ← expression
      let stop := (← peek).elim (Text.byteSize source) Token.offset
      let written := String.ofList (withoutBlankEnd (Text.slice start stop source))
      if ← word? "AS" then return .one value (some (← name).1) written
      else if ← sees fun token => token.bareName?.isSome then
        return .one value (some (← nameBy Token.bareName?).1) written
      else return .one value none written

def valueRow : Reader (List (Expression Reference)) := do
  symbol "("
  let row ← items expression
  symbol ")"
  return row

/-- Tells what is wrong with the expressions of a row without a table. -/
def noteObstacles (row : List (Expression Reference)) (isFirst : Bool) : Reader Unit := do
  match row.mapM (·.resolve (if isFirst then .constants else .writtenConstants)) with
  | .ok row => (Findings.first? [Expression.findings row]).forM note
  | .error error => note error

/-- More rows after one; `width` is that of the rows gathered so far, if there are any. -/
def moreRows (done : List (List (Expression Reference)))
    (last : List (Expression Reference)) (width : Option Nat) :
    Nat → Reader (List (List (Expression Reference)))
  | 0 => refuse
  | fuel + 1 => do
    if ← symbol? "," then
      let row ← valueRow
      if Expression.isGathered width.isSome last row then
        if width.isNone then noteObstacles last true
        let width := width.getD last.length
        if (← get).pending.isNone then
          if row.length = width then noteObstacles row false else note .unequalRows
        moreRows (last :: done) row (some width) fuel
      else moreRows (last :: done) row none fuel
    else return (last :: done).reverse

def valueRows : Reader (List (List (Expression Reference))) := do
  let row ← valueRow
  moreRows [] row none ((← get).tokens.length + 1)

def orderTerm : Reader OrderTerm := do
  let expression ← expression
  let isDescending ← word? "DESC"
  let _ ← if isDescending then pure true else word? "ASC"
  if ← word? "NULLS" then
    if ← word? "FIRST" then return ⟨expression, isDescending, some true⟩
    else
      word "LAST"
      return ⟨expression, isDescending, some false⟩
  else return ⟨expression, isDescending, none⟩

def orderTerms : Reader (List OrderTerm) := do
  if ← word? "ORDER" then
    word "BY"
    items orderTerm
  else return []

/-- A limit with an offset, which stands in front of it where a comma is between them. -/
def limits : Reader (Option (Expression Reference) × Option (Expression Reference)) := do
  if ← word? "LIMIT" then
    let first ← expression
    if ← word? "OFFSET" then return (some first, some (← expression))
    else if ← symbol? "," then return (some (← expression), some first)
    else return (some first, none)
  else return (none, none)

structure Clauses where
  part : Part
  order : List OrderTerm
  limit : Option (Expression Reference)
  offset : Option (Expression Reference)

def Clauses.misplaced? (clauses : Clauses) : Option String :=
  if !clauses.order.isEmpty then some "ORDER BY"
  else if clauses.limit.isSome then some "LIMIT"
  else none

def part (source : List Char) : Reader Clauses := do
  if ← word? "VALUES" then return ⟨.values (← valueRows), [], none, none⟩
  else
    word "SELECT"
    let isDistinct ← word? "DISTINCT"
    let _ ← if isDistinct then pure true else word? "ALL"
    let selected ← items (selectItem source)
    let table ← if ← word? "FROM" then pure (some (← sourceTarget)) else pure none
    let condition ← condition
    if ← word? "GROUP" then
      word "BY"
      refuse
    unknownClause ["HAVING"]
    let order ← orderTerms
    let (limit, offset) ← limits
    return ⟨.select ⟨isDistinct, selected, table, condition⟩, order, limit, offset⟩

def joint? : Reader (Option Joint) := do
  if ← word? "UNION" then
    return some (if ← word? "ALL" then .unionAll else .union)
  else if ← word? "EXCEPT" then return some .except
  else if ← word? "INTERSECT" then return some .intersect
  else return none

def termLimit : Nat := 500

/-- Tells of a query that it has too many selections, of which gathered rows are one, and so are all rows
of a later part. It does not count if it ends with a single row, or has one part. -/
def checkTerms (first : Part) (rest : List Part) : Reader Unit := do
  let own := match first with
    | .select _ => 1
    | .values rows => (Expression.gather rows).length
  let counts : Bool := match rest.getLast? with
    | none => false
    | some (.select _) => true
    | some (.values rows) => 1 < rows.length
  if counts && termLimit < own + rest.length then note (.excess "terms in compound SELECT")

/-- Parts after a first one, which may not be in order yet; what is wrong with its clauses is told at
the end. -/
def partsFrom (source : List Char) (last : Clauses) (done : List (Joint × Part))
    (wrong : Option PrepareError) : Nat → Reader (List (Joint × Part) × Clauses)
  | 0 => refuse
  | fuel + 1 => do
    match ← joint? with
    | none =>
      wrong.forM note
      return (done.reverse, last)
    | some joint =>
      let wrong := (last.misplaced?.map (PrepareError.misplacedClause · joint)).or wrong
      let next ← part source
      partsFrom source next ((joint, next.part) :: done) wrong fuel

def query (source : List Char) : Reader Query := do
  let first ← part source
  let (rest, last) ← partsFrom source first [] none ((← get).tokens.length + 1)
  checkTerms first.part (rest.map Prod.snd)
  return ⟨first.part, rest, last.order, last.limit, last.offset⟩

end Reader

end SqlDesk.Sql
