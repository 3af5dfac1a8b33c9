import SqlDesk.Json.Number

/-! Reading JSON texts. Containers may be nested `nestingLimit` deep; control characters in strings
and halves of surrogate pairs are refused. Reading keeps repeated names, as messages have to tell
them apart; `parse?` collects them. -/

set_option autoImplicit false

namespace SqlDesk.Json

abbrev Reader (α : Type) := List Char → Option (α × List Char)

def nestingLimit : Nat := 127

def isSpace (c : Char) : Bool := c = ' ' || c = '\n' || c = '\t' || c = '\r'

def skipSpace (text : List Char) : List Char := text.dropWhile isSpace

def readUnit? : Reader Nat
  | a :: b :: c :: d :: rest => do
    let a ← Text.hexValue? a
    let b ← Text.hexValue? b
    let c ← Text.hexValue? c
    let d ← Text.hexValue? d
    return (((a * 16 + b) * 16 + c) * 16 + d, rest)
  | _ => none

def isLeadingSurrogate (unit : Nat) : Bool := 0xD800 ≤ unit && unit < 0xDC00
def isTrailingSurrogate (unit : Nat) : Bool := 0xDC00 ≤ unit && unit < 0xE000

/-- The character of an escape by code unit, after its `u`; a leading surrogate needs its other
half. -/
def readCodePoint? : Reader Char := fun text => do
  let (unit, rest) ← readUnit? text
  if isLeadingSurrogate unit then
    match rest with
    | '\\' :: 'u' :: rest =>
      let (second, rest) ← readUnit? rest
      if isTrailingSurrogate second then
        return (Char.ofNat (0x10000 + (unit - 0xD800) * 0x400 + (second - 0xDC00)), rest)
      else none
    | _ => none
  else if isTrailingSurrogate unit then none
  else return (Char.ofNat unit, rest)

def readEscape? : Reader Char
  | '"' :: rest => some ('"', rest)
  | '\\' :: rest => some ('\\', rest)
  | '/' :: rest => some ('/', rest)
  | 'b' :: rest => some ('\x08', rest)
  | 'f' :: rest => some ('\x0c', rest)
  | 'n' :: rest => some ('\n', rest)
  | 'r' :: rest => some ('\r', rest)
  | 't' :: rest => some ('\t', rest)
  | 'u' :: rest => readCodePoint? rest
  | _ => none

/-- The rest of a string after its opening quote; `done` holds its characters in reverse. -/
def readStringTail? (done : List Char) : Nat → Reader String
  | 0, _ => none
  | _ + 1, [] => none
  | _ + 1, '"' :: rest => some (String.ofList done.reverse, rest)
  | fuel + 1, '\\' :: rest =>
    match readEscape? rest with
    | none => none
    | some (c, rest) => readStringTail? (c :: done) fuel rest
  | fuel + 1, c :: rest =>
    if c.toNat < 0x20 then none else readStringTail? (c :: done) fuel rest

/-- Items and the bracket that ends them; `done` holds the items already read in reverse. -/
def readItems? (item : Reader Json) (done : List Json) : Nat → Reader (List Json)
  | 0, _ => none
  | fuel + 1, text =>
    match item (skipSpace text) with
    | none => none
    | some (value, rest) =>
      match skipSpace rest with
      | ',' :: rest => readItems? item (value :: done) fuel rest
      | ']' :: rest => some ((value :: done).reverse, rest)
      | _ => none

def readMember? (fuel : Nat) (item : Reader Json) : Reader (String × Json)
  | '"' :: rest =>
    match readStringTail? [] fuel rest with
    | none => none
    | some (name, rest) =>
      match skipSpace rest with
      | ':' :: rest => (item (skipSpace rest)).map fun (value, rest) => ((name, value), rest)
      | _ => none
  | _ => none

def readMembers? (member : Reader (String × Json)) (done : List (String × Json)) :
    Nat → Reader (List (String × Json))
  | 0, _ => none
  | fuel + 1, text =>
    match member (skipSpace text) with
    | none => none
    | some (value, rest) =>
      match skipSpace rest with
      | ',' :: rest => readMembers? member (value :: done) fuel rest
      | '\x7d' :: rest => some ((value :: done).reverse, rest)
      | _ => none

def readWord? (word : String) (value : Json) : Reader Json := fun text =>
  (word.toList.isPrefixOf? text).map (value, ·)

/-- A value at the front of a text, nested at most `depth` deep. The fuel bounds every loop by the
length of the whole text. -/
def readValue? (fuel : Nat) : Nat → Reader Json
  | depth, text =>
    match text with
    | '"' :: rest => (readStringTail? [] fuel rest).map fun (value, rest) => (.string value, rest)
    | '[' :: rest =>
      match depth with
      | 0 => none
      | depth + 1 =>
        match skipSpace rest with
        | ']' :: rest => some (.array [], rest)
        | rest => (readItems? (readValue? fuel depth) [] fuel rest).map
            fun (items, rest) => (.array items, rest)
    | '\x7b' :: rest =>
      match depth with
      | 0 => none
      | depth + 1 =>
        match skipSpace rest with
        | '\x7d' :: rest => some (.object [], rest)
        | rest => (readMembers? (readMember? fuel (readValue? fuel depth)) [] fuel rest).map
            fun (members, rest) => (.object members, rest)
    | 'n' :: _ => readWord? "null" .null text
    | 't' :: _ => readWord? "true" (.bool true) text
    | 'f' :: _ => readWord? "false" (.bool false) text
    | _ => readNumber? text

def parseRaw? (text : List Char) : Option Json :=
  match readValue? (text.length + 1) nestingLimit (skipSpace text) with
  | some (value, rest) => if (skipSpace rest).isEmpty then some value else none
  | none => none

def parse? (text : String) : Option Json := (parseRaw? text.toList).map settle

end SqlDesk.Json
