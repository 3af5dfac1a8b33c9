import SqlDesk.Config.Toml
import SqlDesk.Decimal.Numeral
import SqlDesk.Json.Reader

/-! The grammar of TOML: keys, strings, numbers, dates, arrays, inline tables, headers and lines. -/

set_option autoImplicit false

namespace SqlDesk.Toml

open Json (Reader)

/-- Containers inside containers, and names in a key, stay below this number. -/
def nestingLimit : Nat := 80

def isBlank (c : Char) : Bool := c = ' ' || c = '\t'

def skipBlanks (text : List Char) : List Char := text.dropWhile isBlank

/-- Control characters other than the tab have no place in a text. -/
def isControl (c : Char) : Bool := (c.toNat < 0x20 && c ≠ '\t') || c.toNat = 0x7F

def lineEnding? : List Char → Option (List Char)
  | '\n' :: rest => some rest
  | '\r' :: '\n' :: rest => some rest
  | _ => none

def skipComment? : List Char → Option (List Char)
  | '#' :: rest =>
    let rest := rest.dropWhile fun c => !isControl c
    if rest.isEmpty || (lineEnding? rest).isSome then some rest else none
  | rest => some rest

def skipLayout? : Nat → List Char → Option (List Char)
  | 0, _ => none
  | fuel + 1, text => do
    let rest ← skipComment? (skipBlanks text)
    match lineEnding? rest with
    | some rest => skipLayout? fuel rest
    | none => some rest

/-! Strings. -/

def characterOf? (digits : List Char) : Option Char := do
  let values ← digits.mapM Text.hexValue?
  let point := values.foldl (fun number digit => number * 16 + digit) 0
  if point.isValidChar then some (Char.ofNat point) else none

def readEscape? : Reader Char
  | 'b' :: rest => some ('\x08', rest)
  | 't' :: rest => some ('\t', rest)
  | 'n' :: rest => some ('\n', rest)
  | 'f' :: rest => some ('\x0c', rest)
  | 'r' :: rest => some ('\r', rest)
  | '"' :: rest => some ('"', rest)
  | '\\' :: rest => some ('\\', rest)
  | 'u' :: rest =>
    if 4 ≤ rest.length then (characterOf? (rest.take 4)).map (·, rest.drop 4) else none
  | 'U' :: rest =>
    if 8 ≤ rest.length then (characterOf? (rest.take 8)).map (·, rest.drop 8) else none
  | _ => none

def readBasicTail? (done : List Char) : Nat → Reader String
  | 0, _ => none
  | _ + 1, [] => none
  | _ + 1, '"' :: rest => some (String.ofList done.reverse, rest)
  | fuel + 1, '\\' :: rest =>
    match readEscape? rest with
    | none => none
    | some (c, rest) => readBasicTail? (c :: done) fuel rest
  | fuel + 1, c :: rest => if isControl c then none else readBasicTail? (c :: done) fuel rest

def readLiteral? : Reader String := fun text =>
  let body := text.takeWhile fun c => c ≠ '\'' && !isControl c
  match text.drop body.length with
  | '\'' :: rest => some (String.ofList body, rest)
  | _ => none

/-- The end of a string of several lines: up to two quotes may stand before the closing three. -/
def closing? (quote : Char) (text : List Char) : Option (List Char × List Char) :=
  let count := (text.takeWhile (· = quote)).length
  if count < 3 then none
  else
    let inside := min (count - 3) 2
    some (List.replicate inside quote, text.drop (inside + 3))

def skipFold : Nat → List Char → List Char
  | 0, text => text
  | fuel + 1, text =>
    match lineEnding? (skipBlanks text) with
    | some rest => skipFold fuel rest
    | none => skipBlanks text

def readManyBasic? (done : List Char) : Nat → Reader String
  | 0, _ => none
  | fuel + 1, text =>
    match closing? '"' text with
    | some (inside, rest) => some (String.ofList (done.reverse ++ inside), rest)
    | none =>
      match text with
      | [] => none
      | '\\' :: rest =>
        -- A backslash that ends its line folds the text: blanks and lines up to the next word go.
        match lineEnding? (skipBlanks rest) with
        | some after => readManyBasic? done fuel (skipFold fuel after)
        | none =>
          match readEscape? rest with
          | none => none
          | some (c, rest) => readManyBasic? (c :: done) fuel rest
      | c :: rest =>
        match lineEnding? (c :: rest) with
        | some after => readManyBasic? ('\n' :: done) fuel after
        | none => if isControl c then none else readManyBasic? (c :: done) fuel rest

def readManyLiteral? (done : List Char) : Nat → Reader String
  | 0, _ => none
  | fuel + 1, text =>
    match closing? '\'' text with
    | some (inside, rest) => some (String.ofList (done.reverse ++ inside), rest)
    | none =>
      match text with
      | [] => none
      | c :: rest =>
        match lineEnding? (c :: rest) with
        | some after => readManyLiteral? ('\n' :: done) fuel after
        | none => if isControl c then none else readManyLiteral? (c :: done) fuel rest

/-- A line ending right after the opening quotes does not count. -/
def withoutFirstEnding (text : List Char) : List Char := (lineEnding? text).getD text

def readString? (fuel : Nat) : Reader String
  | '"' :: '"' :: '"' :: rest => readManyBasic? [] fuel (withoutFirstEnding rest)
  | '\'' :: '\'' :: '\'' :: rest => readManyLiteral? [] fuel (withoutFirstEnding rest)
  | '"' :: rest => readBasicTail? [] fuel rest
  | '\'' :: rest => readLiteral? rest
  | _ => none

/-! Keys. -/

def isBareKeyChar (c : Char) : Bool :=
  Text.isAsciiLetter c || (Text.digitValue? c).isSome || c = '_' || c = '-'

def readKeyPart? (fuel : Nat) : Reader String
  | '"' :: rest => readBasicTail? [] fuel rest
  | '\'' :: rest => readLiteral? rest
  | text =>
    let name := text.takeWhile isBareKeyChar
    if name.isEmpty then none else some (String.ofList name, text.drop name.length)

def readKey? (done : List String) : Nat → Reader (List String × String)
  | 0, _ => none
  | fuel + 1, text =>
    match readKeyPart? (fuel + 1) (skipBlanks text) with
    | none => none
    | some (name, rest) =>
      match skipBlanks rest with
      | '.' :: rest => readKey? (name :: done) fuel rest
      | rest => if done.length + 1 < nestingLimit then some ((done.reverse, name), rest) else none

/-! Numbers and dates. -/

def digits? (value? : Char → Option Nat) (base : Nat) (text : List Char) : Option Nat :=
  let rec go (number : Nat) (afterDigit : Bool) : List Char → Option Nat
    | [] => if afterDigit then some number else none
    | '_' :: rest => if afterDigit then go number false rest else none
    | c :: rest => (value? c).bind fun digit =>
        if digit < base then go (number * base + digit) true rest else none
  go 0 false text

def asInteger? (value : Int) : Option Json :=
  if -(Text.wordBound 63 : Int) ≤ value ∧ value < Text.wordBound 63 then some (.integer value) else none

def hasLeadingZero : List Char → Bool
  | '0' :: _ :: _ => true
  | _ => false

def decimal? (text : List Char) : Option Nat :=
  if hasLeadingZero text then none else digits? Text.digitValue? 10 text

def integer? : List Char → Option Json
  | '0' :: 'x' :: rest => (digits? Text.hexValue? 16 rest).bind fun value => asInteger? value
  | '0' :: 'o' :: rest => (digits? Text.digitValue? 8 rest).bind fun value => asInteger? value
  | '0' :: 'b' :: rest => (digits? Text.digitValue? 2 rest).bind fun value => asInteger? value
  | '-' :: rest => (decimal? rest).bind fun value => asInteger? (-value)
  | '+' :: rest => (decimal? rest).bind fun value => asInteger? value
  | text => (decimal? text).bind fun value => asInteger? value

def signedRest : List Char → Bool × List Char
  | '-' :: rest => (true, rest)
  | '+' :: rest => (false, rest)
  | rest => (false, rest)

def realOfMagnitude (negative : Bool) (pattern : Nat) : Json :=
  .float (UInt64.ofNat ((if negative then Decimal.binary64.signBit else 0) + pattern))

def isDigitRun (text : List Char) : Bool := (digits? Text.digitValue? 10 text).isSome

def splitAt? (sep : Char → Bool) (text : List Char) : List Char × Option (List Char) :=
  let front := text.takeWhile (!sep ·)
  (front, match text.drop front.length with
    | [] => none
    | _ :: rest => some rest)

/-- Numbers with a fraction or an exponent, infinities and values that are no numbers. One beyond the
greatest number is refused; one beyond the least is taken for infinite. -/
def real? (text : List Char) : Option Json :=
  let (negative, body) := signedRest text
  if body = ['i', 'n', 'f'] then some (realOfMagnitude negative Decimal.binary64.infinity)
  else if body = ['n', 'a', 'n'] then
    some (realOfMagnitude negative (Decimal.binary64.infinity + Decimal.binary64.infinity / 2048))
  else
    let (mantissa, exponent) := splitAt? (fun c => c = 'e' || c = 'E') body
    let (whole, fraction) := splitAt? (· = '.') mantissa
    let wellFormed := (decimal? whole).isSome && (exponent.isSome || fraction.isSome)
      && fraction.all isDigitRun && exponent.all fun part => isDigitRun (signedRest part).2
    if !wellFormed then none
    else
      let magnitude := (Decimal.Numeral.ofChars (body.filter (· ≠ '_'))).magnitude
      if !negative && magnitude = Decimal.binary64.infinity then none
      else some (realOfMagnitude negative magnitude)

def twoDigits? (least greatest : Nat) : Reader Nat
  | a :: b :: rest => do
    let value := (← Text.digitValue? a) * 10 + (← Text.digitValue? b)
    if least ≤ value ∧ value ≤ greatest then some (value, rest) else none
  | _ => none

def isLeapYear (year : Nat) : Bool := year % 4 = 0 && (year % 100 ≠ 0 || year % 400 = 0)

def daysOfMonth (year month : Nat) : Nat :=
  if month = 2 then (if isLeapYear year then 29 else 28)
  else if month = 4 || month = 6 || month = 9 || month = 11 then 30 else 31

def skipChar? (expected : Char) : List Char → Option (List Char)
  | c :: rest => if c = expected then some rest else none
  | [] => none

def skipDate? (text : List Char) : Option (List Char) := do
  let (century, rest) ← twoDigits? 0 99 text
  let (year, rest) ← twoDigits? 0 99 rest
  let rest ← skipChar? '-' rest
  let (month, rest) ← twoDigits? 1 12 rest
  let rest ← skipChar? '-' rest
  let (_, rest) ← twoDigits? 1 (daysOfMonth (century * 100 + year) month) rest
  return rest

def skipTime? (text : List Char) : Option (List Char) := do
  let (_, rest) ← twoDigits? 0 23 text
  let rest ← skipChar? ':' rest
  let (_, rest) ← twoDigits? 0 59 rest
  let rest ← skipChar? ':' rest
  let (_, rest) ← twoDigits? 0 60 rest
  match rest with
  | '.' :: rest =>
    let fraction := rest.takeWhile Json.isDigit
    if fraction.isEmpty then none else some (rest.drop fraction.length)
  | rest => some rest

def skipOffset? : List Char → Option (List Char)
  | 'Z' :: rest | 'z' :: rest => some rest
  | '+' :: rest | '-' :: rest => do
    let (_, rest) ← twoDigits? 0 23 rest
    let rest ← skipChar? ':' rest
    let (_, rest) ← twoDigits? 0 59 rest
    return rest
  | rest => some rest

def skipMoment? (text : List Char) : Option (List Char) :=
  match skipDate? text with
  | none => skipTime? text
  | some rest =>
    match rest with
    | 'T' :: time | 't' :: time => (skipTime? time).bind skipOffset?
    | ' ' :: time => ((skipTime? time).bind skipOffset?).orElse fun _ => some rest
    | rest => some rest

/-- A moment is a table of one member without known name. -/
def momentValue (text : List Char) : Json := .object [("", .string (String.ofList text))]

def isNumberChar (c : Char) : Bool :=
  Text.isAsciiLetter c || Json.isDigit c || c = '+' || c = '-' || c = '_' || c = '.'

def readScalar? : Reader Json := fun text =>
  match skipMoment? text with
  | some rest => some (momentValue (text.take (text.length - rest.length)), rest)
  | none =>
    let word := text.takeWhile isNumberChar
    let rest := text.drop word.length
    let value :=
      if word = "true".toList then some (.bool true)
      else if word = "false".toList then some (.bool false)
      else (integer? word).orElse fun _ => real? word
    value.map (·, rest)

/-! Values. -/

/-- Items of an array up to its bracket. A comma may follow the last one. -/
def readItems? (value : Reader Json) (done : List Json) : Nat → Reader Json
  | 0, _ => none
  | fuel + 1, text =>
    match skipLayout? (fuel + 1) text with
    | none => none
    | some (']' :: rest) => some (.array done.reverse, rest)
    | some text =>
      match value text with
      | none => none
      | some (item, rest) =>
        match skipLayout? (fuel + 1) rest with
        | some (',' :: rest) => readItems? value (item :: done) fuel rest
        | some (']' :: rest) => some (.array (item :: done).reverse, rest)
        | _ => none

def readBinding? (value : Reader Json) (fuel : Nat) : Reader ((List String × String) × Json) :=
  fun text =>
    match readKey? [] fuel text with
    | some (key, '=' :: rest) => (value (skipBlanks rest)).map fun (item, rest) => ((key, item), rest)
    | _ => none

def readBindings? (value : Reader Json) (members : Members) : Nat → Reader Json
  | 0, _ => none
  | fuel + 1, text =>
    match readBinding? value (fuel + 1) text with
    | none => none
    | some (((steps, name), item), rest) =>
      match setKey steps name (.closed item) members with
      | none => none
      | some members =>
        match skipBlanks rest with
        | ',' :: rest => readBindings? value members fuel rest
        | '\x7d' :: rest => some (.object (membersToJson members), rest)
        | _ => none

def readValue? (fuel : Nat) : Nat → Reader Json
  | depth, text =>
    match text with
    | '[' :: rest =>
      match depth with
      | 0 => none
      | depth + 1 => readItems? (readValue? fuel depth) [] fuel rest
    | '\x7b' :: rest =>
      match depth with
      | 0 => none
      | depth + 1 =>
        match skipBlanks rest with
        | '\x7d' :: rest => some (.object [], rest)
        | rest => readBindings? (readValue? fuel depth) [] fuel rest
    | '"' :: _ | '\'' :: _ => (readString? fuel text).map fun (value, rest) => (.string value, rest)
    | _ => readScalar? text

/-! Documents. -/

/-- A document as far as it has been read: its members and the path of the open table. -/
structure Draft where
  members : Members
  path : List String

inductive Header where
  | table (steps : List String) (name : String)
  | next (steps : List String) (name : String)

def readHeader? (fuel : Nat) : Reader Header
  | '[' :: '[' :: rest =>
    match readKey? [] fuel rest with
    | some ((steps, name), ']' :: ']' :: rest) => some (.next steps name, rest)
    | _ => none
  | '[' :: rest =>
    match readKey? [] fuel rest with
    | some ((steps, name), ']' :: rest) => some (.table steps name, rest)
    | _ => none
  | _ => none

def Draft.begin (draft : Draft) : Header → Option Draft
  | .table steps name => (openTable steps name draft.members).map (⟨·, steps ++ [name]⟩)
  | .next steps name => (openNext steps name draft.members).map (⟨·, steps ++ [name]⟩)

def Draft.enter (draft : Draft) (steps : List String) (name : String) (value : Json) :
    Option Draft :=
  (alterAt false (fun _ => setKey steps name (.closed value)) .header draft.path draft.members).map
    (⟨·, draft.path⟩)

def endLine? (text : List Char) : Option (List Char) := do
  let rest ← skipComment? (skipBlanks text)
  if rest.isEmpty then some [] else lineEnding? rest

def readLines? (whole : Nat) (draft : Draft) : Nat → List Char → Option Members
  | 0, _ => none
  | fuel + 1, text =>
    match skipLayout? whole text with
    | none => none
    | some [] => some draft.members
    | some ('[' :: rest) => do
      let (header, rest) ← readHeader? whole ('[' :: rest)
      readLines? whole (← draft.begin header) fuel (← endLine? rest)
    | some text => do
      let (((steps, name), value), rest) ← readBinding? (readValue? whole (nestingLimit - 1)) whole text
      readLines? whole (← draft.enter steps name value) fuel (← endLine? rest)

def withoutMark : List Char → List Char
  | '\uFEFF' :: rest => rest
  | text => text

def parse? (text : String) : Option Json :=
  let text := withoutMark text.toList
  let fuel := text.length + 2
  (readLines? fuel ⟨[], []⟩ fuel text).map fun members => .object (membersToJson members)

end SqlDesk.Toml
