import SqlDesk.Sql.Error

/-! Reading from tokens. The first token that cannot go on what stands before it is the error; where
the tokens run out, the input is incomplete. What is wrong with something that has been read
completely is told as soon as the next token goes on, and that token's own error comes first. -/

set_option autoImplicit false

namespace SqlDesk.Sql

structure Front where
  tokens : List Token
  passed : Nat
  pending : Option PrepareError
  parameters : Nat
  names : List (List Char)

def Front.ofTokens (tokens : List Token) : Front := ⟨tokens, 0, none, 0, []⟩

abbrev Reader := StateT Front (Except PrepareError)

namespace Reader

def refuse {α : Type} : Reader α := fun front =>
  match front.tokens with
  | [] => .error .incomplete
  | token :: _ =>
    .error (if token.kind = .illegal then .unrecognized token else .unexpected token)

def note (error : PrepareError) : Reader Unit :=
  modify fun front => { front with pending := some error }

def peek : Reader (Option Token) := do return (← get).tokens.head?

def sees (test : Token → Bool) : Reader Bool := do return (← peek).any test

def advance : Reader Unit := fun front =>
  match front.tokens, front.pending with
  | [], _ => .ok ((), front)
  | _ :: _, some error => .error error
  | token :: rest, none => .ok ((), { front with tokens := rest, passed := token.endOffset })

def passes (test : Token → Bool) : Reader Bool := do
  if ← sees test then
    advance
    return true
  else return false

def word? (keyword : String) : Reader Bool := passes (·.isWord keyword)
def symbol? (symbol : String) : Reader Bool := passes (·.isSymbol symbol)

def word (keyword : String) : Reader Unit := do
  if !(← word? keyword) then refuse

def symbol (symbol : String) : Reader Unit := do
  if !(← symbol? symbol) then refuse

/-- Items between commas; `done` holds those already read in reverse, which the next one may depend
on. -/
def itemsFrom {α : Type} (item : List α → Reader α) (done : List α) : Nat → Reader (List α)
  | 0 => refuse
  | fuel + 1 => do
    let value ← item done
    if ← symbol? "," then itemsFrom item (value :: done) fuel
    else return (value :: done).reverse

def itemsAfter {α : Type} (item : List α → Reader α) : Reader (List α) := do
  itemsFrom item [] ((← get).tokens.length + 1)

def items {α : Type} (item : Reader α) : Reader (List α) := itemsAfter fun _ => item

def nameBy (name? : Token → Option String) : Reader (String × Token) := do
  match ← peek with
  | none => refuse
  | some token => match name? token with
    | none => refuse
    | some value =>
      advance
      return (value, token)

def name : Reader (String × Token) := nameBy Token.name?

def qualifiedName : Reader (Option (String × Token) × String × Token) := do
  let first ← name
  if ← symbol? "." then return (some first, ← name) else return (none, first)

def finish : Reader Unit := do
  match ← peek, (← get).pending with
  | none, none => return
  | none, some error => throw error
  | some token, pending =>
    if !token.isSeparator then refuse
    else if let some error := pending then throw error

end Reader

end SqlDesk.Sql
