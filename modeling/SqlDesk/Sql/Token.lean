import SqlDesk.Bytes
import SqlDesk.Decimal.Numeral
import SqlDesk.Text.Offset

/-! Tokens of SQL text, each with the place where it stands, counted in bytes. Blanks and comments
separate tokens and are none themselves; a block comment may stay open to the end of the text. -/

set_option autoImplicit false

namespace SqlDesk.Sql

inductive TokenKind where
  | word
  /-- A word that begins a clause where it stands. -/
  | clause
  | name (value : String)
  | text (value : String)
  | blob (value : Bytes)
  | number
  /-- A parameter; parameters are never bound. -/
  | parameter
  | symbol
  /-- What no token begins with, or a token that does not end. -/
  | illegal
  deriving DecidableEq

structure Token where
  kind : TokenKind
  chars : List Char
  offset : Nat
  deriving DecidableEq

namespace Token

def text (token : Token) : String := String.ofList token.chars

def isWord (token : Token) (keyword : String) : Bool :=
  token.kind = .word && Text.sameIgnoringCase token.chars keyword.toList

def isSymbol (token : Token) (symbol : String) : Bool :=
  token.kind = .symbol && token.chars == symbol.toList

def isSeparator (token : Token) : Bool := token.isSymbol ";"

/-- Whether a name stands in double quotes, which texts may stand in as well. -/
def isDoubleQuoted (token : Token) : Bool := token.chars.head? = some '"'

def isPlainNumber (token : Token) : Bool := token.kind = .number && !token.chars.contains '_'

end Token

def Token.endOffset (token : Token) : Nat := token.offset + Text.byteSize token.chars

/-- Characters that separate tokens. A vertical tab does so only behind another one. -/
def isBlank (c : Char) : Bool := c = ' ' || c = '\t' || c = '\n' || c = '\x0c' || c = '\r'

def isSpace (c : Char) : Bool := isBlank c || c = '\x0b'

def isNameStart (c : Char) : Bool := Text.isAsciiLetter c || c = '_' || 0x80 ≤ c.toNat

def isDigit : Char → Bool := Decimal.Numeral.isDigit

def isNameChar (c : Char) : Bool := isNameStart c || isDigit c || c = '$'

def blockLength : List Char → Nat
  | '*' :: '/' :: _ => 2
  | _ :: rest => blockLength rest + 1
  | [] => 0

def blankLength (chars : List Char) : Nat :=
  match chars with
  | '-' :: '-' :: rest =>
    let line := (rest.takeWhile (· ≠ '\n')).length
    2 + line + blankLength (rest.drop line)
  | '/' :: '*' :: c :: rest =>
    let block := blockLength (c :: rest)
    2 + block + blankLength ((c :: rest).drop block)
  | c :: rest =>
    if isBlank c then
      let run := (rest.takeWhile isSpace).length
      1 + run + blankLength (rest.drop run)
    else if c = '\ufeff' then 1 + blankLength rest
    else 0
  | [] => 0
termination_by chars.length
decreasing_by all_goals simp; try omega

/-- What is quoted and the number of characters it takes, after the opening quote; a quote is
written twice to stand for itself. -/
def quoted? (close : Char) (value : List Char) (count : Nat) : List Char → Option (String × Nat)
  | [] => none
  | [c] => if c = close then some (String.ofList value.reverse, count + 1) else none
  | c :: d :: rest =>
    if c ≠ close then quoted? close (c :: value) (count + 1) (d :: rest)
    else if d = close ∧ close ≠ ']' then quoted? close (close :: value) (count + 2) rest
    else some (String.ofList value.reverse, count + 1)

def scanQuoted (close : Char) (kind : String → TokenKind) (rest : List Char) : TokenKind × Nat :=
  match quoted? close [] 0 rest with
  | some (value, count) => (kind value, count)
  | none => (.illegal, rest.length)

/-- A binary literal after its mark and its opening quote. -/
def scanBlob (rest : List Char) : TokenKind × Nat :=
  let digits := rest.takeWhile fun c => (Text.hexValue? c).isSome
  let after := rest.drop digits.length
  if digits.length % 2 = 0 ∧ after.head? = some '\x27' then (.blob (Bytes.ofHex digits), digits.length + 1)
  else
    let length := (rest.takeWhile (· ≠ '\x27')).length
    (.illegal, if length < rest.length then length + 1 else length)

def digitRun (isDigit : Char → Bool) (chars : List Char) : Nat :=
  (chars.takeWhile fun c => isDigit c || c = '_').length

def exponentLength (chars : List Char) : Nat :=
  match chars with
  | 'e' :: rest | 'E' :: rest =>
    match rest with
    | '+' :: c :: digits | '-' :: c :: digits =>
      if isDigit c then 3 + digitRun isDigit digits else 0
    | c :: digits => if isDigit c then 2 + digitRun isDigit digits else 0
    | [] => 0
  | _ => 0

def numberLength (chars : List Char) : Nat :=
  let isHexadecimal c := (Text.hexValue? c).isSome
  match chars with
  | '0' :: x :: c :: rest =>
    if (x = 'x' ∨ x = 'X') ∧ isHexadecimal c then 3 + digitRun isHexadecimal rest
    else decimal
  | _ => decimal
where
  decimal :=
    let whole := digitRun isDigit chars
    let fraction := match chars.drop whole with
      | '.' :: digits => 1 + digitRun isDigit digits
      | _ => 0
    whole + fraction + exponentLength (chars.drop (whole + fraction))

def scanNumber (chars : List Char) : TokenKind × Nat :=
  let length := numberLength chars
  let excess := ((chars.drop length).takeWhile isNameChar).length
  (if excess = 0 then .number else .illegal, length + excess - 1)

/-- A parameter by name after its mark. Colons may stand in the name by pairs, and a part in
parentheses at its end; `named` tells whether there is a name in front of it. -/
def scanParameter (named : Bool) (chars : List Char) : TokenKind × Nat :=
  match chars with
  | ':' :: ':' :: rest =>
    let (kind, count) := scanParameter named rest
    (kind, count + 2)
  | c :: rest =>
    if isNameChar c then
      let (kind, count) := scanParameter true rest
      (kind, count + 1)
    else if c = '(' ∧ named then
      let part := (rest.takeWhile fun c => !isSpace c && c ≠ ')').length
      if (rest.drop part).head? = some ')' then (.parameter, part + 2) else (.illegal, part + 1)
    else (if named then .parameter else .illegal, 0)
  | [] => (if named then .parameter else .illegal, 0)

def longSymbols : List (List Char) :=
  ["->>", "==", "<=", "<>", "<<", ">=", ">>", "!=", "||", "->"].map String.toList

def singles : List Char :=
  ['(', ')', ';', '+', '-', '*', '/', '%', '=', '<', '>', ',', '&', '~', '|', '.']

/-- The kind of the token that begins with a character, and how many more characters it has. -/
def scan (c : Char) (rest : List Char) : TokenKind × Nat :=
  let more := (rest.takeWhile isNameChar).length
  if c = '\x27' then scanQuoted '\x27' .text rest
  else if c = '"' ∨ c.toNat = 0x60 then scanQuoted c .name rest
  else if c = '[' then scanQuoted ']' .name rest
  else if (c = 'x' ∨ c = 'X') ∧ rest.head? = some '\x27' then
    let (kind, count) := scanBlob (rest.drop 1)
    (kind, count + 1)
  else if isNameStart c then (.word, more)
  else if isDigit c ∨ (c = '.' ∧ rest.head?.any isDigit) then scanNumber (c :: rest)
  else if c = '?' then (.parameter, (rest.takeWhile isDigit).length)
  else if c = ':' ∨ c = '@' ∨ c = '#' ∨ c = '$' then scanParameter false rest
  else match longSymbols.find? (·.isPrefixOf (c :: rest)) with
    | some symbol => (.symbol, symbol.length - 1)
    | none => (if singles.contains c then .symbol else .illegal, 0)

def nextToken? (offset : Nat) (chars : List Char) : Option (Token × List Char) :=
  let skipped := blankLength chars
  match chars.drop skipped with
  | [] => none
  | c :: rest =>
    let (kind, count) := scan c rest
    some (⟨kind, c :: rest.take count, offset + Text.byteSize (chars.take skipped)⟩, rest.drop count)

theorem length_of_nextToken? {offset : Nat} {chars rest : List Char} {token : Token}
    (found : nextToken? offset chars = some (token, rest)) : rest.length < chars.length := by
  simp only [nextToken?] at found
  split at found
  · simp at found
  · next c after dropped =>
    have shorter : (c :: after).length ≤ chars.length := by
      rw [← dropped]
      simp
    obtain ⟨-, rfl⟩ : _ ∧ _ := by simpa using found
    simp only [List.length_drop, List.length_cons] at shorter ⊢
    omega

/-- The tokens up to the end of the first statement, and the text after it. Separators in front of
the statement come along, and nothing is read beyond an illegal token. -/
def cut (offset : Nat) (begun : Bool) (chars : List Char) : List Token × List Char :=
  match _found : nextToken? offset chars with
  | none => ([], [])
  | some (token, rest) =>
    if (begun && token.isSeparator) || token.kind = .illegal then ([token], rest)
    else
      let (tokens, rest) := cut token.endOffset (begun || !token.isSeparator) rest
      (token :: tokens, rest)
termination_by chars.length
decreasing_by exact length_of_nextToken? _found

end SqlDesk.Sql
