import SqlDesk.Regex
import SqlDesk.Text.Alphanumeric
import SqlDesk.Text.Layout

/-! Reading regular expressions. They stand in braces here, so that no brace is closed in them: a
repetition that is counted, or anything else that begins with a brace, never comes to its end. -/

set_option autoImplicit false

namespace SqlDesk.Regex

structure Front where
  rest : List Char
  isSpaced : Bool
  names : List (List Char)
  deriving DecidableEq, Repr

abbrev Reader := StateT Front Option

namespace Reader

def refuse {α : Type} : Reader α := fun _ => none

def peek : Reader (Option Char) := do return (← get).rest.head?

def advance : Reader Unit := modify fun front => { front with rest := front.rest.drop 1 }

def passes (text : String) : Reader Bool := do
  match text.toList.isPrefixOf? (← get).rest with
  | some rest =>
    modify fun front => { front with rest }
    return true
  | none => return false

/-- Passes the first of several texts that comes next, and tells whether one does. -/
def passesOne : List String → Reader Bool
  | [] => return false
  | text :: others => do
    if ← passes text then return true
    passesOne others

def withoutBlanks (inComment : Bool) : List Char → List Char
  | [] => []
  | c :: rest =>
    if inComment then withoutBlanks (c ≠ '\n') rest
    else if Text.isBlank c then withoutBlanks false rest
    else if c = '#' then withoutBlanks true rest
    else c :: rest

def skip : Reader Unit :=
  modify fun front =>
    if front.isSpaced then { front with rest := withoutBlanks false front.rest } else front

/-- The next character that is no blank; the mark of a comment is passed once. -/
def glimpse (inComment : Bool) : List Char → Option Char
  | [] => none
  | c :: rest =>
    if Text.isBlank c then glimpse inComment rest
    else if c = '#' && !inComment then glimpse true rest
    else some c

/-- The character that seems to follow the next one. -/
def peekBehind : Reader (Option Char) := do
  let front ← get
  let rest := front.rest.drop 1
  return if front.isSpaced then (glimpse false rest).or rest.head? else rest.head?

def flagOf? : Char → Option Flag
  | 'i' => some .caseless
  | 'm' => some .manyLines
  | 's' => some .anyLine
  | 'U' => some .lazy
  | 'u' => some .unicode
  | 'R' => some .carriageReturns
  | 'x' => some .spaced
  | _ => none

/-- Flags up to a colon or a closing parenthesis; behind a dash they are switched off, and one at
least has to be. -/
def flags (isOn : Bool) (done : Flags) : Nat → Reader Flags
  | 0 => refuse
  | fuel + 1 => do
    match ← peek with
    | none => refuse
    | some c =>
      if c = ':' || c = ')' then
        return done.reverse
      advance
      if c = '-' then
        if !isOn || (← peek) = some ':' || (← peek) = some ')' then refuse
        else flags false done fuel
      else match flagOf? c with
        | none => refuse
        | some flag =>
          if done.any (·.1 = flag) then refuse else flags isOn ((flag, isOn) :: done) fuel

/-- The name of a group up to its closing angle; every group has another one. -/
def groupName : Reader Unit := do
  let front ← get
  let isPart (c : Char) := Text.isAlphanumeric c || ['_', '.', '[', ']'].contains c
  let name := front.rest.takeWhile isPart
  let isName := name.head?.any fun c => c = '_' || Text.isAlphabetic c
  if !isName || front.names.contains name then refuse
  set { front with rest := front.rest.drop name.length, names := name :: front.names }
  if !(← passes ">") then refuse

def hexDigits (value : Nat) : Nat → Reader Nat
  | 0 => return value
  | count + 1 => do
    skip
    match (← peek).bind Text.hexValue? with
    | none => refuse
    | some digit =>
      advance
      hexDigits (value * 16 + digit) count

def numbered (digits : Nat) : Reader Atom := do
  let value ← hexDigits 0 digits
  if Nat.isValidChar value then return .character (Char.ofNat value) (digits = 2) else refuse

/-- Characters that mean something by themselves, and nothing but themselves behind a backslash. -/
def metaCharacters : List Char :=
  ['\\', '.', '+', '*', '?', '(', ')', '|', '[', ']', '\x7b', '\x7d', '^', '$', '#', '&', '-', '~']

def controlOf? : Char → Option Char
  | 'a' => some '\x07'
  | 'f' => some '\x0c'
  | 't' => some '\t'
  | 'n' => some '\n'
  | 'r' => some '\r'
  | 'v' => some '\x0b'
  | _ => none

/-- What a letter or a sign other than those for numbers stands for behind a backslash. -/
def escaped? (c : Char) : Option Atom :=
  if ['d', 's', 'w'].contains c then some (.shorthand false)
  else if ['D', 'S', 'W'].contains c then some (.shorthand true)
  else if ['A', 'z'].contains c then some (.place false)
  else if ['b', 'B', '<', '>'].contains c then some (.place true)
  else if metaCharacters.contains c || (isAscii c && !c.isAlphanum) then some (.character c false)
  else (controlOf? c).map (.character · false)

def escape : Reader Atom := do
  match ← peek with
  | none => refuse
  | some c =>
    advance
    if c = 'x' then numbered 2
    else if c = 'u' then numbered 4
    else if c = 'U' then numbered 8
    else match escaped? c with
      | none => refuse
      | some found => return found

/-- What stands for one character or one place outside brackets. -/
def atom : Reader Atom := do
  match ← peek with
  | none => refuse
  | some c =>
    advance
    if c = '\\' then escape
    else if c = '.' then return .anyCharacter
    else if c = '^' || c = '$' then return .place false
    else return .character c false

def classNames : List String :=
  ["alnum", "alpha", "ascii", "blank", "cntrl", "digit", "graph", "lower", "print", "punct", "space",
    "upper", "word", "xdigit"]

def namedClass? : Reader (Option CharSet) := fun front =>
  match front.rest with
  | '[' :: ':' :: rest =>
    let negated := rest.head? = some '^'
    let rest := if negated then rest.drop 1 else rest
    let name := rest.takeWhile (· ≠ ':')
    match rest.drop name.length with
    | ':' :: ']' :: rest =>
      if classNames.contains (String.ofList name) then
        some (some (.named negated), { front with rest })
      else some (none, front)
    | _ => some (none, front)
  | _ => some (none, front)

def setAtom : Reader Atom := do
  match ← peek with
  | none => refuse
  | some c =>
    advance
    if c = '\\' then escape else return .character c false

def setOfAtom : Atom → Option CharSet
  | .character value _ => some (.range value value)
  | .shorthand negated => some (.shorthand negated)
  | _ => none

/-- An item in brackets, or a range of characters. A dash in front of another one or of the closing
bracket makes no range. -/
def setRange : Reader CharSet := do
  let first ← setAtom
  skip
  let behind ← peekBehind
  if (← peek) ≠ some '-' || behind = some ']' || behind = some '-' then
    match setOfAtom first with
    | none => refuse
    | some item => return item
  else
    advance
    skip
    match first, ← setAtom with
    | .character low _, .character high _ => if low ≤ high then return .range low high else refuse
    | _, _ => refuse

def unionOf : List CharSet → CharSet
  | [] => .empty
  | [item] => item
  | items => .union items

def operationOf (left : Option CharSet) (items : List CharSet) : CharSet :=
  left.elim (unionOf items) (.operation · (unionOf items))

/-- The items of a set up to its closing bracket; `left` is what stands in front of an operation, and
`done` holds the items since then in reverse. -/
def setItems (nested : Reader CharSet) (left : Option CharSet) (done : List CharSet) :
    Nat → Reader CharSet
  | 0 => refuse
  | fuel + 1 => do
    skip
    if ← passes "]" then return operationOf left done.reverse
    else if ← passesOne ["&&", "--", "~~"] then
      setItems nested (some (operationOf left done.reverse)) [] fuel
    else if (← peek) = some '[' then
      match ← namedClass? with
      | some item => setItems nested left (item :: done) fuel
      | none => setItems nested left ((← nested) :: done) fuel
    else setItems nested left ((← setRange) :: done) fuel

def dashes (done : List CharSet) : Nat → Reader (List CharSet)
  | 0 => refuse
  | fuel + 1 => do
    skip
    if ← passes "-" then dashes (.range '-' '-' :: done) fuel else return done

/-- A set from its opening bracket on. A closing bracket in front of all items stands for itself. -/
def bracketed (nested : Reader CharSet) : Reader (Bool × CharSet) := do
  if !(← passes "[") then refuse
  skip
  let negated ← passes "^"
  let fuel := (← get).rest.length + 1
  let done ← dashes [] fuel
  if !done.isEmpty then return (negated, ← setItems nested none done fuel)
  let done := if ← passes "]" then [.range ']' ']'] else []
  return (negated, ← setItems nested none done fuel)

def nestedSet : Nat → Reader CharSet
  | 0 => refuse
  | fuel + 1 => do
    let (negated, inner) ← bracketed (nestedSet fuel)
    return .bracketed negated inner

def sequenceOf : List Regex → Regex
  | [] => .empty
  | [item] => item
  | items => .sequence items

def choiceOf : List Regex → Regex
  | [branch] => branch
  | branches => .choice branches

def isRepeatable : Regex → Bool
  | .empty | .flags _ => false
  | _ => true

def closed (inner : Reader Regex) (flags : Flags) : Reader Regex := do
  let isSpaced := (← get).isSpaced
  modify fun front => { front with isSpaced := flags.value .spaced isSpaced }
  let regex ← inner
  if !(← passes ")") then refuse
  modify fun front => { front with isSpaced }
  return .group flags regex

/-- A group after its opening parenthesis, or flags. What looks around is not known. -/
def group (inner : Reader Regex) : Reader Regex := do
  skip
  for prefixed in ["?=", "?!", "?<=", "?<!"] do
    if ← passes prefixed then refuse
  if ← passesOne ["?P<", "?<"] then
    groupName
    closed inner []
  else if ← passes "?" then
    let flags ← flags true [] ((← get).rest.length + 1)
    if ← passes ":" then closed inner flags
    else
      advance
      if flags.isEmpty then refuse
      modify fun front => { front with isSpaced := flags.value .spaced front.isSpaced }
      return .flags flags
  else closed inner []

/-- Expressions one behind the other, up to a bar, a closing parenthesis or the end. -/
def sequence (group : Reader Regex) (done : List Regex) : Nat → Reader Regex
  | 0 => refuse
  | fuel + 1 => do
    skip
    match ← peek with
    | none | some '|' | some ')' => return sequenceOf done.reverse
    | some '(' =>
      advance
      sequence group ((← group) :: done) fuel
    | some '[' =>
      let (negated, set) ← bracketed (nestedSet fuel)
      sequence group (.bracketed negated set :: done) fuel
    | some '\x7b' => refuse
    | some c =>
      -- What is repeated must stand in front; a `?` behind the quantifier only makes it lazy.
      if ['?', '*', '+'].contains c then
        match done with
        | last :: done =>
          if !isRepeatable last then refuse
          advance
          let _ ← passes "?"
          sequence group (.repeated last :: done) fuel
        | [] => refuse
      else sequence group (.atom (← atom) :: done) fuel

def choice (group : Reader Regex) (done : List Regex) : Nat → Reader Regex
  | 0 => refuse
  | fuel + 1 => do
    let branch ← sequence group [] ((← get).rest.length + 1)
    if ← passes "|" then choice group (branch :: done) fuel
    else return choiceOf (branch :: done).reverse

/-- An expression whose groups are nested at most as deep as the fuel. -/
def regexFrom : Nat → Reader Regex
  | 0 => refuse
  | fuel + 1 => choice (group (regexFrom fuel)) [] fuel

end Reader

def ofChars? (text : List Char) : Option Regex :=
  match Reader.regexFrom (text.length + 2) ⟨text, false, []⟩ with
  | some (regex, front) => if front.rest.isEmpty then some regex else none
  | none => none

end SqlDesk.Regex
