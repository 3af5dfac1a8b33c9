/-! Regular expressions without tables of characters: what needs the Unicode properties of
characters, be it a class, the case of letters or the boundary of a word, can only be told of bytes.
An expression of bytes in turn may not match what is no UTF-8. -/

set_option autoImplicit false

namespace SqlDesk

namespace Regex

inductive Flag where
  | caseless
  | manyLines
  | anyLine
  | lazy
  | unicode
  | carriageReturns
  /-- Blanks and comments in the expression do not count. -/
  | spaced
  deriving DecidableEq, Repr

abbrev Flags := List (Flag × Bool)

def Flags.value (flags : Flags) (flag : Flag) (before : Bool) : Bool :=
  (flags.lookup flag).getD before

inductive Atom where
  | character (value : Char) (isByte : Bool)
  | anyCharacter
  /-- A place in the text, which may depend on the words of the text. -/
  | place (dependsOnWords : Bool)
  | shorthand (negated : Bool)
  deriving DecidableEq, Repr

inductive CharSet where
  | empty
  | range (low high : Char)
  | named (negated : Bool)
  | shorthand (negated : Bool)
  | bracketed (negated : Bool) (inner : CharSet)
  | union (items : List CharSet)
  /-- What two sets have in common, or what only one of them has. -/
  | operation (left right : CharSet)
  deriving Repr

end Regex

inductive Regex where
  | empty
  | atom (atom : Regex.Atom)
  | bracketed (negated : Bool) (set : Regex.CharSet)
  | flags (flags : Regex.Flags)
  | repeated (operand : Regex)
  | group (flags : Regex.Flags) (inner : Regex)
  | sequence (items : List Regex)
  /-- Two expressions at least, any of which may match. -/
  | choice (branches : List Regex)
  deriving Repr

namespace Regex

/-- What the flags come to on which it depends whether an expression can be used. -/
structure Mode where
  isCaseless : Bool
  isUnicode : Bool
  deriving DecidableEq, Repr

namespace Mode

def initial : Mode := ⟨false, true⟩

def behind (mode : Mode) (flags : Flags) : Mode :=
  ⟨flags.value .caseless mode.isCaseless, flags.value .unicode mode.isUnicode⟩

end Mode

def isAscii (c : Char) : Bool := c.toNat < 0x80

namespace Atom

def isSupported (mode : Mode) : Atom → Bool
  | character value isByte =>
    if mode.isUnicode then !mode.isCaseless
    else !isByte || isAscii value || 0xFF < value.toNat
  | anyCharacter => mode.isUnicode
  | place dependsOnWords => !mode.isUnicode || !dependsOnWords
  | shorthand negated => !mode.isUnicode && !negated

end Atom

namespace CharSet

def depth : CharSet → Nat
  | empty | range .. | named _ | shorthand _ => 0
  | bracketed _ inner => 1 + inner.depth
  | union items => 1 + deepest items
  | operation left right => 1 + max left.depth right.depth
where
  deepest : List CharSet → Nat
    | [] => 0
    | first :: rest => max first.depth (deepest rest)

/-- Whether a set is one of characters whose case does not count, or one of bytes. Without the case
of letters a set may have no characters at all. -/
def isSupported (mode : Mode) : CharSet → Bool
  | empty => true
  | range low high => if mode.isUnicode then !mode.isCaseless else isAscii low && isAscii high
  | named negated => if mode.isUnicode then !mode.isCaseless else !negated
  | shorthand negated => !mode.isUnicode && !negated
  | bracketed negated inner => (mode.isUnicode || !negated) && inner.isSupported mode
  | union items => areSupported mode items
  | operation left right => left.isSupported mode && right.isSupported mode
where
  areSupported (mode : Mode) : List CharSet → Bool
    | [] => true
    | first :: rest => first.isSupported mode && areSupported mode rest

end CharSet

def depth : Regex → Nat
  | empty | atom _ | flags _ => 0
  | bracketed _ set => 1 + set.depth
  | repeated operand => 1 + operand.depth
  | group _ inner => 1 + inner.depth
  | sequence items | choice items => 1 + deepest items
where
  deepest : List Regex → Nat
    | [] => 0
    | first :: rest => max first.depth (deepest rest)

def depthLimit : Nat := 250

/-- The mode behind an expression, if the expression can be used in the mode in front of it. -/
def modeAfter? (mode : Mode) : Regex → Option Mode
  | empty => some mode
  | atom value => if value.isSupported mode then some mode else none
  | bracketed negated set =>
    if (CharSet.bracketed negated set).isSupported mode then some mode else none
  | flags changed => some (mode.behind changed)
  | repeated operand => operand.modeAfter? mode
  | group changed inner => (inner.modeAfter? (mode.behind changed)).map fun _ => mode
  | sequence items | choice items => afterAll? mode items
where
  afterAll? (mode : Mode) : List Regex → Option Mode
    | [] => some mode
    | first :: rest => match first.modeAfter? mode with
      | none => none
      | some mode => afterAll? mode rest

def isUsable (regex : Regex) : Bool :=
  regex.depth ≤ depthLimit && (regex.modeAfter? .initial).isSome

end Regex

end SqlDesk
