import SqlDesk.Sql.Query.Reader
import SqlDesk.Sql.TableDefinition.Reader

/-! Reading a statement from its tokens. -/

set_option autoImplicit false

namespace SqlDesk.Sql

namespace Reader

def nameError? (isThere : String → Bool) (ifAbsent : Bool) (database : Option (String × Token))
    (name : String) (token : Token) : Option PrepareError :=
  match database with
  | some (database, databaseToken) =>
    if databaseNames.any (sameName database) then ofName else some (.noDatabase databaseToken)
  | none => ofName
where
  ofName : Option PrepareError :=
    if Text.sameIgnoringCase (name.toList.take 7) "sqlite_".toList then some (.reservedName name)
    else if isThere name && !ifAbsent then some (.tableExists token)
    else none

def createTable (source : List Char) (isThere : String → Bool) : Reader Statement := do
  if ← passes fun token => token.isWord "TEMP" || token.isWord "TEMPORARY" then
    unknownClause ["TRIGGER", "VIEW"]
  else unknownClause ["INDEX", "TRIGGER", "UNIQUE", "VIEW", "VIRTUAL"]
  word "TABLE"
  let ifAbsent ← word? "IF"
  if ifAbsent then
    word "NOT"
    word "EXISTS"
  let (database, table, token) ← qualifiedName
  (nameError? isThere ifAbsent database table token).forM note
  match ← tableDefinition source (!isThere table) table with
  | some definition => return .create definition
  | none => return .keep

def dropped : Reader (TableName × Bool) := do
  let ifPresent ← word? "IF"
  if ifPresent then word "EXISTS"
  let (database, name, _) ← qualifiedName
  return (⟨database.map Prod.fst, name⟩, ifPresent)

/-- Drops something of another kind than tables; there is nothing of the kind. -/
def dropOther (kind : String) : Reader Statement := do
  let (name, ifPresent) ← dropped
  if !ifPresent then note (.noObject kind name.text)
  return .keep

def drop (isThere : String → Bool) : Reader Statement := do
  if ← word? "INDEX" then dropOther "index"
  else if ← word? "TRIGGER" then dropOther "trigger"
  else if ← word? "VIEW" then
    let (name, ifPresent) ← dropped
    if isThere name.name then note (.noView name.name)
    else if !ifPresent then note (.noObject "view" name.text)
    return .keep
  else
    word "TABLE"
    let (name, ifPresent) ← dropped
    return .drop name ifPresent

def transactionName : Reader Unit := do
  if ← word? "TRANSACTION" then
    if ← sees fun token => token.name?.isSome then
      let _ ← name

def conflict : Reader Conflict := do
  if ← word? "OR" then
    if ← word? "REPLACE" then return .replace
    else if ← word? "IGNORE" then return .ignore
    else if ← word? "FAIL" then return .fail
    else if ← word? "ROLLBACK" then return .rollback
    else if ← word? "ABORT" then return .abort
    else refuse
  else return .abort

def insertInto (source : List Char) (conflict : Conflict) : Reader Statement := do
  word "INTO"
  let target ← target
  let columns ←
    if ← symbol? "(" then do
      let names ← items name
      symbol ")"
      pure (some (names.map Prod.fst))
    else pure none
  if ← word? "DEFAULT" then
    word "VALUES"
    unknownClause ["RETURNING"]
    return .insert target conflict columns none
  else
    unknownClause ["WITH"]
    let rows ← query source
    if ← word? "ON" then
      word "CONFLICT"
      refuse
    unknownClause ["RETURNING"]
    return .insert target conflict columns (some rows)

def assignment : Reader (String × Expression Reference) := do
  let (column, _) ← name
  if !(← passes fun token => token.isSymbol "=" || token.isSymbol "==") then refuse
  return (column, ← expression)

def update : Reader Statement := do
  let conflict ← conflict
  let target ← indexed (← target)
  word "SET"
  let changes ← items assignment
  unknownClause ["FROM"]
  let condition ← condition
  unknownClause ["RETURNING"]
  return .update target conflict changes condition

/-- Words that begin statements that are not known. -/
def otherBeginnings : List String :=
  ["ALTER", "ATTACH", "DETACH", "PRAGMA", "RELEASE", "SAVEPOINT", "WITH"]

def object? : Reader (Option (Option (String × Token) × String)) := do
  if ← sees fun token => token.name?.isSome then
    let (database, name, _) ← qualifiedName
    database.forM fun (name, token) => noteDatabase name token
    return some (database, name)
  else return none
where
  noteDatabase (name : String) (token : Token) : Reader Unit :=
    if databaseNames.any (sameName name) then return else note (.noDatabase token)

def vacuum : Reader Statement := do
  let database ← if ← sees fun token => token.name?.isSome && !token.isWord "INTO" then
      let (name, token) ← name
      if !databaseNames.any (sameName name) then note (.noDatabase token)
      pure name
    else pure "main"
  let copy ← if ← word? "INTO" then pure (some (← expression)) else pure none
  return if sameName database "temp" then .keep else .vacuum copy

def analyze : Reader Statement := do
  match ← object? with
  | none => return .analyze none
  | some (none, name) =>
    if sameName name "temp" then return .keep
    else return .analyze (if sameName name "main" then none else some ⟨none, name⟩)
  | some (some (database, _), name) => return .analyze (some ⟨some database, name⟩)

def reindex : Reader Statement := do
  match ← object? with
  | none => return .keep
  | some (database, name) =>
    if database.isNone && (Collation.ofName? name).isSome then return .keep
    else return .reindex ⟨database.map Prod.fst, name⟩

def statement (source : List Char) (isThere : String → Bool) : Reader Statement := do
  if ← word? "CREATE" then createTable source isThere
  else if ← word? "DROP" then drop isThere
  else if ← word? "INSERT" then insertInto source (← conflict)
  else if ← word? "REPLACE" then insertInto source .replace
  else if ← word? "UPDATE" then update
  else if ← word? "DELETE" then
    word "FROM"
    let target ← indexed (← target)
    let condition ← condition
    unknownClause ["RETURNING"]
    return .delete target condition
  else if ← word? "BEGIN" then
    let isWriting ← passes fun token => ["EXCLUSIVE", "IMMEDIATE"].any token.isWord
    if !isWriting then
      let _ ← word? "DEFERRED"
    transactionName
    return .transaction (.start isWriting)
  else if ← passes fun token => token.isWord "COMMIT" || token.isWord "END" then
    transactionName
    return .transaction .commit
  else if ← word? "ROLLBACK" then
    transactionName
    return .transaction .rollback
  else if ← word? "VACUUM" then vacuum
  else if ← word? "ANALYZE" then analyze
  else if ← word? "REINDEX" then reindex
  else if ← sees fun token => token.isWord "SELECT" || token.isWord "VALUES" then
    return .query (← query source)
  else
    unknownClause otherBeginnings
    refuse

def whole (source : List Char) (isThere : String → Bool) : Reader Statement := do
  let isPlan ← word? "EXPLAIN"
  if isPlan then
    if ← word? "QUERY" then word "PLAN"
  let statement ← statement source isThere
  finish
  return if isPlan then .plan statement else statement

end Reader

/-- Reads the tokens of a statement, which stand in `source`; `isThere` tells the tables. -/
def Statement.ofTokens (source : List Char) (isThere : String → Bool) (tokens : List Token) :
    Except PrepareError Statement :=
  (Reader.whole source isThere (.ofTokens (markClauses none tokens))).map Prod.fst

end SqlDesk.Sql
