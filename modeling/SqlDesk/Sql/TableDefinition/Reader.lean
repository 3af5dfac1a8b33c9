import SqlDesk.Sql.Query.Reader

/-! Reading the definition of a table. A table that is there already is read as well, but nothing is
wrong with its columns. -/

set_option autoImplicit false

namespace SqlDesk.Sql

/-- Types that are told in capital letters however they are written. -/
def standardTypes : List String := ["ANY", "BLOB", "INT", "INTEGER", "REAL", "TEXT"]

def isQuote (c : Char) : Bool := c = '\x27' || c = '"' || c = '[' || c.toNat = 0x60

def withoutQuotes (written : List Char) : List Char :=
  let inner := (written.drop 1).dropLast
  if written.head?.any isQuote && !inner.any isQuote then inner else written

/-- What the quotes at the front of a text hold, if there are quotes. -/
def unquoted (written : List Char) : String :=
  match written with
  | [] => ""
  | c :: rest =>
    if isQuote c then
      ((quoted? (if c = '[' then ']' else c) [] 0 rest).map Prod.fst).getD (String.ofList rest)
    else String.ofList written

def withoutLastBlanks (chars : List Char) : List Char := (chars.reverse.dropWhile isSpace).reverse

/-- Text without a word at its end and the blanks in front of it, if it ends so. -/
def withoutLast? (word : String) (chars : List Char) : Option (List Char) :=
  let length := chars.length - word.length
  if Text.sameIgnoringCase (chars.drop length) word.toList && word.length ≤ chars.length then
    some (withoutLastBlanks (chars.take length))
  else none

/-- Fewest bytes of a type in front of which words for generated columns are looked for. -/
def generatedWidth : Nat := 16

/-- A type without the words that announce how a column is generated. -/
def withoutGenerated (written : List Char) : List Char :=
  if Text.byteSize written < generatedWidth then written
  else match withoutLast? "always" written with
    | none => written
    | some front => (withoutLast? "generated" front).getD front

def typeText (written : List Char) : String :=
  let written := if 3 ≤ Text.byteSize written then withoutQuotes written else written
  (standardTypes.find? fun standard =>
    3 ≤ Text.byteSize written && Text.sameIgnoringCase standard.toList written).getD (unquoted written)

structure Draft where
  /-- Whether the table is to be made. -/
  isMade : Bool
  hasKey : Bool
  table : TableDefinition
  checks : List (String × Expression Reference)

namespace Draft

def ofName (isMade : Bool) (name : String) : Draft :=
  ⟨isMade, false, ⟨name, [], none, false, [], []⟩, []⟩

def addColumn (draft : Draft) (name : String) (declared : Option String) : Draft :=
  { draft with
    table.columns := draft.table.columns ++ [⟨name, declared, .exact, false, .literal .null 0⟩] }

def lastColumn (draft : Draft) (isDescending : Bool) : OrderedColumn :=
  ⟨draft.table.columns.length - 1, (draft.table.columns.getLast?.map (·.collation)).getD .exact,
    isDescending⟩

def changeLast (draft : Draft) (change : ColumnDefinition → ColumnDefinition) : Draft :=
  { draft with
    table.columns := draft.table.columns.modify (draft.table.columns.length - 1) change }

/-- Gives the column that was added last another collation, in the constraints on it as well. -/
def collate (draft : Draft) (collation : Collation) : Draft :=
  let last := draft.table.columns.length - 1
  let draft := draft.changeLast fun column => { column with collation }
  { draft with
    table.uniqueness := draft.table.uniqueness.map fun uniqueness =>
      match uniqueness.columns with
      | [column] =>
        if column.place = last then { uniqueness with columns := [{ column with collation }] }
        else uniqueness
      | _ => uniqueness }

/-- Makes the key of some columns, or tells why it cannot be. One column of integers shows the number
of the row, unless it is a key in descending order by its own word. -/
def addKey (draft : Draft) (columns : List OrderedColumn) (isOwn isCounted : Bool) :
    Draft × Option PrepareError :=
  let integral : Bool := match columns with
    | [column] =>
      ((draft.table.columns[column.place]?).map ColumnDefinition.typeName) = some "INTEGER"
        && !(isOwn && column.isDescending)
    | _ => false
  if draft.hasKey then (draft, some (.severalKeys draft.table.name))
  else if integral then
    ({ draft with
      hasKey := true, table.numberPlace := columns.head?.map (·.place),
      table.isCounted := isCounted }, none)
  else if isCounted then ({ draft with hasKey := true }, some .countedKey)
  else ({ draft with hasKey := true, table := draft.table.distinguish ⟨columns, true⟩ }, none)

end Draft

namespace Reader

def noteOf (draft : Draft) (error : Option PrepareError) : Reader Unit :=
  if draft.isMade then error.forM note else return

/-- The value of a column where none is given, if it is a constant. What is wrong with its functions
shows later. -/
def constant? (expression : Expression Reference) : Option (Expression Field) :=
  let isFixed := expression.isConstantBy (·.boolean?.isSome) (fun _ _ => true)
    && expression.nodes.all fun
      | .parameter _ => false
      | _ => true
  if isFixed then some ((expression.resolve .writtenConstants).toOption.getD (.literal .null 0)) else none

def term : Reader (Expression Reference) := do
  match ← peek with
  | none => refuse
  | some token => match token.kind with
    | .number => numberToken token
    | .blob value =>
      advance
      return .literal (.blob value) token.offset
    | .text value =>
      advance
      return .literal (.ofString value) token.offset
    | _ =>
      if token.isWord "NULL" then
        advance
        return .literal .null token.offset
      else refuse

def defaultWord : Reader (Expression Reference) := do
  let (value, token) ← nameBy fun token =>
    if token.isWord "INDEXED" then some token.text else
      match token.kind with
      | .text _ => none
      | _ => token.bareName?
  let reference : Reference := ⟨[], value, false, token.kind = .word, token.offset⟩
  return match reference.boolean? with
    | some value => .boolean value
    | none => .literal (.ofString value) token.offset

/-- An expression in parentheses, or a term with a sign or without, or a word. -/
def defaultExpression : Reader (Expression Reference) := do
  if ← symbol? "(" then
    let inner ← expression
    symbol ")"
    return inner
  else if ← symbol? "-" then return (← term).withMinus
  else if ← symbol? "+" then term
  else match ← peek with
    | none => refuse
    | some token => match token.kind with
      | .number | .blob _ | .text _ => term
      | _ => if token.isWord "NULL" then term else defaultWord

def defaultValue (draft : Draft) : Reader Draft := do
  let expression ← defaultExpression
  let name := (draft.table.columns.getLast?.map ColumnDefinition.name).getD ""
  match constant? expression with
  | some default => return draft.changeLast fun column => { column with default }
  | none =>
    noteOf draft (some (.defaultNotConstant name))
    return draft

def check (source : List Char) (draft : Draft) (label : Option String) : Reader Draft := do
  symbol "("
  let start := (← get).passed
  let condition ← expression
  let stop := (← peek).elim start Token.offset
  symbol ")"
  let inner := (Text.slice start stop source).dropWhile isSpace
  let written := (inner.reverse.dropWhile isSpace).reverse
  return { draft with checks := draft.checks ++ [(label.getD (unquoted written), condition)] }

/-- When a constraint is looked at, which does not matter to those that are known. -/
def deferral : Reader Unit := do
  if ← word? "INITIALLY" then
    if !(← passes fun token => token.isWord "DEFERRED" || token.isWord "IMMEDIATE") then refuse

/-- What is said about a column after its type; `label` names the next constraint. -/
def columnConstraints (source : List Char) (draft : Draft) (label : Option String) :
    Nat → Reader Draft
  | 0 => return draft
  | fuel + 1 => do
    if ← word? "CONSTRAINT" then columnConstraints source draft (some (← name).1) fuel
    else if ← word? "UNIQUE" then
      let table := draft.table.distinguish ⟨[draft.lastColumn false], false⟩
      columnConstraints source { draft with table } label fuel
    else if ← word? "NOT" then
      if ← word? "DEFERRABLE" then
        deferral
        columnConstraints source draft label fuel
      else
        word "NULL"
        columnConstraints source (draft.changeLast fun column => { column with notNull := true })
          label fuel
    else if ← word? "DEFERRABLE" then
      deferral
      columnConstraints source draft label fuel
    else if ← word? "NULL" then columnConstraints source draft label fuel
    else if ← word? "PRIMARY" then
      word "KEY"
      let isDescending ← word? "DESC"
      let _ ← if isDescending then pure true else word? "ASC"
      let (draft, error) := draft.addKey [draft.lastColumn isDescending] true (← word? "AUTOINCREMENT")
      noteOf draft error
      columnConstraints source draft label fuel
    else if ← word? "DEFAULT" then columnConstraints source (← defaultValue draft) label fuel
    else if ← word? "CHECK" then columnConstraints source (← check source draft label) label fuel
    else if ← passes fun token => token.isWord "AS" || token.isWord "REFERENCES" then refuse
    else if ← word? "COLLATE" then
      let (name, _) ← nameBy Token.bareName?
      match Collation.ofName? name with
      | some collation => columnConstraints source (draft.collate collation) label fuel
      | none =>
        noteOf draft (some (.noCollation name))
        columnConstraints source draft label fuel
    else return draft

def columnLimit : Nat := 2000

def columnDefinition (source : List Char) (draft : Draft) : Reader Draft := do
  let (name, _) ← name
  let place ← declaredType
  let written := withoutGenerated (place.elim [] fun place => Text.slice place.1 place.2 source)
  let declared := if written.isEmpty then none else some (typeText written)
  if columnLimit ≤ draft.table.columns.length then
    noteOf draft (some (.excess s!"columns on {draft.table.name}"))
  else if (draft.table.columnIndex? name).isSome then noteOf draft (some (.repeatedColumn name))
  columnConstraints source (draft.addColumn name declared) none ((← get).tokens.length + 1)

def keyTerm : Expression Reference → Expression Reference
  | .literal (.text name) offset => .column ⟨[], String.ofList name.toChars, false, false, offset⟩
  | .collated operand collation => .collated (keyTerm operand) collation
  | expression => expression

/-- The column that a term of a constraint on the whole table is, or why it is none. -/
def constraintColumn (draft : Draft) (term : OrderTerm) : Except PrepareError OrderedColumn := do
  let scope : Scope :=
    ⟨some (draft.table.source draft.table.name), [], false, some .keyTerm, false⟩
  let resolved ← (keyTerm term.expression).resolve scope
  let .column field := resolved.withoutCollation | throw .keyExpression
  match resolved with
  | .collated _ name => match Collation.ofName? name with
    | some collation => return ⟨(field.place.or draft.table.numberPlace).getD 0, collation, term.isDescending⟩
    | none => throw (.noCollation name)
  | _ => return ⟨(field.place.or draft.table.numberPlace).getD 0, field.collation, term.isDescending⟩

def numberPlace? (draft : Draft) (terms : List OrderTerm) : Option Nat :=
  match terms.map fun term => (keyTerm term.expression).withoutCollation with
  | [.column ⟨[], name, _, _, _⟩] =>
    (draft.table.columnIndex? name).filter fun place =>
      ((draft.table.columns[place]?).map ColumnDefinition.typeName) = some "INTEGER"
  | _ => none

def checkNulls (terms : List OrderTerm) : Except PrepareError Unit :=
  (terms.findSome? OrderTerm.nullsFirst).forM fun first => throw (.nullsPlaced first)

def constraintColumns (draft : Draft) (terms : List OrderTerm) : Except PrepareError (List OrderedColumn) := do
  checkNulls terms
  terms.mapM (constraintColumn draft)

def constraintTerms : Reader (List OrderTerm) := do
  symbol "("
  items orderTerm

def tableConstraint (source : List Char) (draft : Draft) (label : Option String) : Reader Draft := do
  if ← word? "PRIMARY" then
    word "KEY"
    let terms ← constraintTerms
    let isCounted ← word? "AUTOINCREMENT"
    symbol ")"
    let key : Except PrepareError (List OrderedColumn) := match numberPlace? draft terms with
      | some place => do
        checkNulls terms
        return [⟨place, .exact, false⟩]
      | none => if isCounted then throw .countedKey else constraintColumns draft terms
    match key with
    | .error error =>
      noteOf draft (some (if draft.hasKey then .severalKeys draft.table.name else error))
      return { draft with hasKey := true }
    | .ok columns =>
      let (draft, error) := draft.addKey columns false isCounted
      noteOf draft error
      return draft
  else if ← word? "UNIQUE" then
    let terms ← constraintTerms
    symbol ")"
    match constraintColumns draft terms with
    | .error error =>
      noteOf draft (some error)
      return draft
    | .ok columns => return { draft with table := draft.table.distinguish ⟨columns, false⟩ }
  else if ← word? "FOREIGN" then
    word "KEY"
    refuse
  else
    word "CHECK"
    check source draft label

/-- Constraints on the whole table; the commas between them may be left out. -/
def tableConstraints (source : List Char) (draft : Draft) (label : Option String) :
    Nat → Reader Draft
  | 0 => refuse
  | fuel + 1 => do
    if ← word? "CONSTRAINT" then
      let (name, _) ← name
      if ← sees (·.isSymbol ")") then return draft
      else if ← symbol? "," then tableConstraints source draft none fuel
      else tableConstraints source draft (some name) fuel
    else
      let draft ← tableConstraint source draft label
      if ← symbol? "," then tableConstraints source draft none fuel
      else if ← sees (·.isSymbol ")") then return draft
      else tableConstraints source draft label fuel

def constraintWords : List String := ["CHECK", "CONSTRAINT", "FOREIGN", "PRIMARY", "UNIQUE"]

def definitions (source : List Char) (draft : Draft) : Nat → Reader Draft
  | 0 => refuse
  | fuel + 1 => do
    let draft ← columnDefinition source draft
    if ← symbol? "," then
      if ← sees fun token => constraintWords.any token.isWord then
        tableConstraints source draft none ((← get).tokens.length + 1)
      else definitions source draft fuel
    else return draft

def tableOption : Reader Unit := do
  if ← word? "WITHOUT" then note (.unknownOption (← name).2.text)
  else note (.unknownOption (← name).2.text)

def tableOptions : Reader Unit := do
  if ← symbol? "," then
    let _ ← items tableOption
  else if ← sees fun token => token.name?.isSome then
    let _ ← items tableOption

def resolveChecks (draft : Draft) : Except PrepareError TableDefinition := do
  let scope : Scope :=
    ⟨some (draft.table.source draft.table.name), [], false, some .check, false⟩
  let checks ← draft.checks.mapM fun (name, condition) => do
    return (name, ← condition.resolve scope)
  return { draft.table with checks }

def tableDefinition (source : List Char) (isMade : Bool) (name : String) :
    Reader (Option TableDefinition) := do
  symbol "("
  let draft ← definitions source (.ofName isMade name) ((← get).tokens.length + 1)
  symbol ")"
  tableOptions
  if !isMade then return none
  else match resolveChecks draft with
    | .ok table => return some table
    | .error error =>
      note error
      return none

end Reader

end SqlDesk.Sql
