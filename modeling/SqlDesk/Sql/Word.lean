import SqlDesk.Sql.Token

/-! Words and names. Most keywords are names where they have no other meaning; some are none unless
they are quoted, and those that join tables are names only where nothing can be joined. A text in
quotes of its own may stand for a name as well. -/

set_option autoImplicit false

namespace SqlDesk.Sql

def reservedWords : List String :=
  ["ADD", "ALL", "ALTER", "AND", "AS", "AUTOINCREMENT", "BETWEEN", "CASE", "CHECK", "COLLATE",
    "COMMIT", "CONSTRAINT", "CREATE", "DEFAULT", "DEFERRABLE", "DELETE", "DISTINCT", "DROP", "ELSE",
    "ESCAPE", "EXCEPT", "EXISTS", "FOREIGN", "FROM", "GROUP", "HAVING", "IN", "INDEX", "INSERT",
    "INTERSECT", "INTO", "IS", "ISNULL", "JOIN", "LIMIT", "NOT", "NOTHING", "NOTNULL", "NULL", "ON",
    "OR", "ORDER", "PRIMARY", "REFERENCES", "RETURNING", "SELECT", "SET", "TABLE", "THEN", "TO",
    "TRANSACTION", "UNION", "UNIQUE", "UPDATE", "USING", "VALUES", "WHEN", "WHERE"]

/-- Words that are names only where no table could be joined to another. -/
def joinWords : List String :=
  ["CROSS", "FULL", "INDEXED", "INNER", "LEFT", "NATURAL", "OUTER", "RIGHT"]

namespace Token

def isReserved (token : Token) : Bool := reservedWords.any token.isWord

/-- The name that a token is in quotes or without, if it is no word of a meaning of its own. -/
def identifier? (token : Token) : Option String :=
  match token.kind with
  | .word => if token.isReserved then none else some token.text
  | .name value => some value
  | _ => none

def name? (token : Token) : Option String :=
  match token.kind with
  | .text value => some value
  | _ => token.identifier?

/-- The name that a token stands for where something else could come. -/
def bareName? (token : Token) : Option String :=
  if joinWords.any token.isWord then none else token.name?

end Token

def beginsClause (before : Option Token) (token : Token) (after : List Token) : Bool :=
  let isClosed := before.any (·.isSymbol ")")
  let isName (token : Token) := token.name?.isSome && !token.isWord "INDEXED"
  if token.isWord "FILTER" then isClosed && after.head?.any (·.isSymbol "(")
  else if token.isWord "OVER" then
    isClosed && after.head?.any fun next => next.isSymbol "(" || isName next
  else if token.isWord "WINDOW" then
    after.head?.any isName && (after.drop 1).head?.any (·.isWord "AS")
  else false

def markClauses (before : Option Token) : List Token → List Token
  | [] => []
  | token :: rest =>
    (if beginsClause before token rest then { token with kind := .clause } else token) ::
      markClauses (some token) rest

def sameName (left right : String) : Bool := Text.sameIgnoringCase left.toList right.toList

end SqlDesk.Sql
