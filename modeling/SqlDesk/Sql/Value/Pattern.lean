import SqlDesk.Bytes

/-! Patterns that texts are compared with. One style has marks for any text and for any character,
and takes ASCII letters of both cases for the same; the other one has sets of characters besides. -/

set_option autoImplicit false

namespace SqlDesk.Sql

/-! The code points of a text whose bytes may be anything. A text is read up to its first NUL; a byte
that no character begins with is a code point of its own. -/

namespace CodePoint

def isContinuation (byte : UInt8) : Bool := 0x80 ≤ byte && byte < 0xC0

def leadingBits (byte : UInt8) : Nat :=
  let value := byte.toNat
  if value < 0xE0 then value % 32
  else if value < 0xF0 then value % 16
  else if value < 0xF8 then value % 8
  else if value < 0xFC then value % 4
  else if value < 0xFE then value % 2
  else 0

def withMore (value : Nat) (bytes : Bytes) : Nat :=
  bytes.foldl (fun value byte => (value * 64 + byte.toNat % 64) % Text.wordBound 32) value

/-- What stands in place of a code point that no character has. -/
def replacement : Nat := 0xFFFD

def sound (value : Nat) : Nat :=
  if value < 0x80 || value / 0x800 = 0xD800 / 0x800 || value / 2 = 0xFFFE / 2 then replacement
  else value

/-- The code points of a text up to its first NUL. -/
def ofBytes (bytes : Bytes) : List Nat :=
  match bytes with
  | [] => []
  | byte :: rest =>
    if byte = 0 then []
    else if byte < 0xC0 then byte.toNat :: ofBytes rest
    else
      let more := rest.takeWhile isContinuation
      sound (withMore (leadingBits byte) more) :: ofBytes (rest.dropWhile isContinuation)
termination_by bytes.length
decreasing_by
  · simp
  · exact Nat.lt_succ_of_le (List.dropWhile_sublist _).length_le

def lower (value : Nat) : Nat := if 0x41 ≤ value && value ≤ 0x5A then value + 32 else value

end CodePoint

/-! Patterns. -/

inductive PatternItem where
  | anyText
  | anyCharacter
  | character (value : Nat)
  /-- One of the characters in some ranges, or one in none of them. -/
  | oneOf (negated : Bool) (ranges : List (Nat × Nat))
  /-- What no text satisfies. -/
  | nothing
  deriving DecidableEq, Repr

abbrev Pattern := List PatternItem

namespace Pattern

def markItem (value : Nat) : PatternItem :=
  if value = '%'.toNat then .anyText
  else if value = '_'.toNat then .anyCharacter
  else .character (CodePoint.lower value)

/-- A pattern without sets; behind the character of escape every mark stands for itself. -/
def ofMarks (escape : Option Nat) : List Nat → Pattern
  | [] => []
  | [c] => if escape = some c then [.nothing] else [markItem c]
  | c :: d :: rest =>
    if escape = some c then .character (CodePoint.lower d) :: ofMarks escape rest
    else markItem c :: ofMarks escape (d :: rest)

/-- The ranges of a set up to its end, and what follows the set. `start` is a character from which a
range may go on. -/
def ranges? (start : Option Nat) : List Nat → Option (List (Nat × Nat) × List Nat)
  | [] => none
  | c :: rest =>
    if c = ']'.toNat then some ([], rest)
    else match start, rest with
      | some low, high :: after =>
        if c = '-'.toNat && high ≠ ']'.toNat then
          (ranges? none after).map fun (more, left) => ((low, high) :: more, left)
        else (ranges? (some c) (high :: after)).map fun (more, left) => ((c, c) :: more, left)
      | _, rest => (ranges? (some c) rest).map fun (more, left) => ((c, c) :: more, left)

theorem length_of_ranges? {start : Option Nat} {text rest : List Nat} {ranges : List (Nat × Nat)}
    (found : ranges? start text = some (ranges, rest)) : rest.length < text.length := by
  fun_induction ranges? start text generalizing ranges rest with
  | case1 => simp at found
  | case2 => simp_all
  | case3 c _ low high after _ ih | case4 c _ low high after _ ih =>
    obtain ⟨⟨more, left⟩, same, equal⟩ := Option.map_eq_some_iff.1 found
    have shorter := ih same
    obtain rfl : left = rest := (Prod.mk.inj equal).2
    simp only [List.length_cons] at shorter ⊢
    omega
  | case5 start c rest _ _ ih =>
    obtain ⟨⟨more, left⟩, same, equal⟩ := Option.map_eq_some_iff.1 found
    have shorter := ih same
    obtain rfl : left = _ := (Prod.mk.inj equal).2
    simp only [List.length_cons]
    omega

/-- A set after its opening bracket; a closing one in front of all others stands for itself. -/
def set? (text : List Nat) : Option (PatternItem × List Nat) :=
  let negated := text.head? = some '^'.toNat
  let text := if negated then text.drop 1 else text
  match text with
  | [] => none
  | c :: rest =>
    if c = ']'.toNat then
      (ranges? none rest).map fun (ranges, rest) => (.oneOf negated ((c, c) :: ranges), rest)
    else (ranges? none (c :: rest)).map fun (ranges, rest) => (.oneOf negated ranges, rest)

theorem length_of_set? {text rest : List Nat} {item : PatternItem}
    (found : set? text = some (item, rest)) : rest.length < text.length := by
  simp only [set?] at found
  have bounded : (if text.head? = some '^'.toNat then text.drop 1 else text).length ≤ text.length := by
    split <;> simp
  revert found
  generalize (if text.head? = some '^'.toNat then text.drop 1 else text) = inner at bounded ⊢
  intro found
  match inner with
  | [] => simp at found
  | c :: after =>
    simp only [List.length_cons] at bounded
    simp only at found
    split at found
    · obtain ⟨⟨ranges, left⟩, same, equal⟩ := Option.map_eq_some_iff.1 found
      have shorter := length_of_ranges? same
      obtain rfl : left = rest := (Prod.mk.inj equal).2
      omega
    · obtain ⟨⟨ranges, left⟩, same, equal⟩ := Option.map_eq_some_iff.1 found
      have shorter := length_of_ranges? same
      obtain rfl : left = rest := (Prod.mk.inj equal).2
      simp only [List.length_cons] at shorter
      omega

def ofSets (text : List Nat) : Pattern :=
  match text with
  | [] => []
  | c :: rest =>
    if c = '*'.toNat then .anyText :: ofSets rest
    else if c = '?'.toNat then .anyCharacter :: ofSets rest
    else if c = '['.toNat then
      match _found : set? rest with
      | none => [.nothing]
      | some (item, after) => item :: ofSets after
    else .character c :: ofSets rest
termination_by text.length
decreasing_by
  · simp
  · simp
  · have shorter := length_of_set? _found
    simp only [List.length_cons]
    omega
  · simp

def someEnd (test : List Nat → Bool) : List Nat → Bool
  | [] => test []
  | c :: rest => test (c :: rest) || someEnd test rest

def accepts : Pattern → List Nat → Bool
  | [], text => text.isEmpty
  | .anyText :: rest, text => someEnd (accepts rest) text
  | .anyCharacter :: rest, _ :: text => accepts rest text
  | .character value :: rest, c :: text => c = value && accepts rest text
  | .oneOf negated ranges :: rest, c :: text =>
    (ranges.any fun (low, high) => low ≤ c && c ≤ high) != negated && accepts rest text
  | _ :: _, _ => false

def isLike (escape : Option Nat) (pattern text : Bytes) : Bool :=
  accepts (ofMarks escape (CodePoint.ofBytes pattern)) ((CodePoint.ofBytes text).map CodePoint.lower)

def isGlob (pattern text : Bytes) : Bool :=
  accepts (ofSets (CodePoint.ofBytes pattern)) (CodePoint.ofBytes text)

end Pattern

end SqlDesk.Sql
