import Mathlib
import SqlDesk.Json.Printer
import SqlDesk.Json.Reader
import SqlDesk.Proofs.Text.Numeral

/-!
Printed JSON is read back as the value that was printed. Integers of 64 bits, texts and everything
built of them are exact (`isExact`); floats are left out, as their text is rounded on both ways.

A reader is told apart from the text that it takes: `Spells` says that a text stands for a value
whatever follows it, as long as what follows does not go on as a number. Blanks between the parts of a
container are of no account, so a text laid out over lines reads like the compact one.
-/

set_option autoImplicit false

namespace SqlDesk.Json

/-- Values that keep their text: no floats, integers of 64 bits, nested at most `depth` deep. -/
def isExact : Nat → Json → Bool
  | _, null => true
  | _, bool _ => true
  | _, integer value => -(Text.wordBound 63 : Int) ≤ value ∧ value < Text.wordBound 64
  | _, float _ => false
  | _, string _ => true
  | 0, array _ => false
  | 0, object _ => false
  | depth + 1, array items => items.all (isExact depth)
  | depth + 1, object members => members.all fun member => isExact depth member.2

theorem isExact_integer {value : Int} (least : -2 ^ 63 ≤ value) (below : value < 2 ^ 63) (depth : Nat) :
    (integer value).isExact depth = true := by
  have bounds : (Text.wordBound 63 : Int) = 2 ^ 63 ∧ (Text.wordBound 64 : Int) = 2 ^ 64 := ⟨rfl, rfl⟩
  rw [isExact, decide_eq_true_eq]
  omega

def isNumeral (c : Char) : Bool := isDigit c || c = '.' || c = 'e' || c = 'E'

def Stops (text : List Char) : Prop := ∀ c ∈ text.head?, isNumeral c = false

theorem stops_nil : Stops [] := by simp [Stops]

theorem stops_cons {c : Char} (mark : isNumeral c = false) (rest : List Char) : Stops (c :: rest) := by
  simpa [Stops] using mark

def isBetween (c : Char) : Bool := isSpace c || c = ',' || c = ']' || c = '\x7d'

/-- A text that a reader takes for a value, whatever it is followed by. -/
structure Spells {α : Type} (read : Reader α) (text : List Char) (value : α) : Prop where
  begins : ∃ c rest, text = c :: rest ∧ isBetween c = false
  taken : ∀ rest, Stops rest → read (text ++ rest) = some (value, rest)

/-! ## Texts -/

theorem hexValue?_lowerHexDigits {value : Nat} (small : value < 16) :
    Text.hexValue? (lowerHexDigits.getD value '0') = some value := by
  have all : ∀ value < 16, Text.hexValue? (lowerHexDigits.getD value '0') = some value := by decide
  exact all value small

theorem readUnit?_low {high low : Char} {upper lower : Nat} (first : Text.hexValue? high = some upper)
    (second : Text.hexValue? low = some lower) (rest : List Char) :
    readUnit? ('0' :: '0' :: high :: low :: rest) = some (upper * 16 + lower, rest) := by
  have zero : Text.hexValue? '0' = some 0 := rfl
  simp [readUnit?, zero, first, second]

theorem readCodePoint?_control {c : Char} (control : c.toNat < 0x20) (rest : List Char) :
    readCodePoint? ('0' :: '0' :: lowerHexDigits.getD (c.toNat / 16) '0' ::
      lowerHexDigits.getD (c.toNat % 16) '0' :: rest) = some (c, rest) := by
  have high := hexValue?_lowerHexDigits (show c.toNat / 16 < 16 by omega)
  have low := hexValue?_lowerHexDigits (show c.toNat % 16 < 16 by omega)
  have unit : c.toNat / 16 * 16 + c.toNat % 16 = c.toNat := by omega
  have leading : isLeadingSurrogate c.toNat = false := by
    simp only [isLeadingSurrogate, Bool.and_eq_false_iff, decide_eq_false_iff_not]
    omega
  have trailing : isTrailingSurrogate c.toNat = false := by
    simp only [isTrailingSurrogate, Bool.and_eq_false_iff, decide_eq_false_iff_not]
    omega
  rw [readCodePoint?, readUnit?_low high low]
  simp [unit, leading, trailing, Char.ofNat_toNat]

theorem readStringTail?_escapeChar (c : Char) (done : List Char) (fuel : Nat) (rest : List Char) :
    readStringTail? done (fuel + 1) (escapeChar c ++ rest) =
      readStringTail? (c :: done) fuel rest := by
  unfold escapeChar
  split_ifs with quote slash back feed line turn tab control
  · simp [readStringTail?, readEscape?, quote]
  · simp [readStringTail?, readEscape?, slash]
  · simp [readStringTail?, readEscape?, back]
  · simp [readStringTail?, readEscape?, feed]
  · simp [readStringTail?, readEscape?, line]
  · simp [readStringTail?, readEscape?, turn]
  · simp [readStringTail?, readEscape?, tab]
  · simp only [List.cons_append, List.nil_append, readStringTail?, readEscape?,
      readCodePoint?_control control]
  · simp [readStringTail?, control]

theorem readStringTail?_quoted (text done : List Char) {fuel : Nat} (long : text.length < fuel)
    (rest : List Char) :
    readStringTail? done fuel (text.flatMap escapeChar ++ '"' :: rest) =
      some (String.ofList (done.reverse ++ text), rest) := by
  induction text generalizing done fuel with
  | nil =>
    obtain ⟨fuel, rfl⟩ := Nat.exists_eq_add_of_lt long
    simp [readStringTail?]
  | cons c text ih =>
    obtain ⟨fuel, rfl⟩ : ∃ less, fuel = less + 1 := ⟨fuel - 1, by omega⟩
    have short : text.length < fuel := by simpa using long
    rw [List.flatMap_cons, List.append_assoc, readStringTail?_escapeChar, ih (c :: done) short]
    simp

/-! ## Numbers -/

theorem isDigit_eq (c : Char) : isDigit c = c.isDigit := by
  by_cases digit : c.isDigit = true
  · rw [isDigit, Text.digitValue?_of_isDigit digit, digit, Option.isSome_some]
  · have range : ¬('0' ≤ c ∧ c ≤ '9') := by
      simpa [Char.isDigit, Char.le_def, UInt32.le_iff_toNat_le] using digit
    rw [isDigit, Text.digitValue?, if_neg range, Option.isSome_none, (Bool.not_eq_true _).mp digit]

theorem Stops.takeWhile {text : List Char} (stops : Stops text) : text.takeWhile isDigit = [] := by
  cases text with
  | nil => rfl
  | cons c rest =>
    have mark : isNumeral c = false := stops c (by simp)
    simp_all [isNumeral]

theorem Stops.dropWhile {text : List Char} (stops : Stops text) : text.dropWhile isDigit = text := by
  have whole := List.takeWhile_append_dropWhile (p := isDigit) (l := text)
  rwa [stops.takeWhile] at whole

theorem takeSignificand_digits {digits : List Char} (all : ∀ c ∈ digits, c.isDigit = true)
    {known : Nat} (word : Nat.ofDigitChars 10 digits known < wordLimit) (taken : Nat)
    {rest : List Char} (stops : Stops rest) :
    takeSignificand known taken (digits ++ rest) =
      (Nat.ofDigitChars 10 digits known, taken + digits.length, rest) := by
  induction digits generalizing known taken with
  | nil =>
    cases rest with
    | nil => rfl
    | cons c rest =>
      have mark : isNumeral c = false := stops c (by simp)
      have none : Text.digitValue? c = none := by simp_all [isNumeral, isDigit]
      simp [takeSignificand, takeSignificand.digitValue?, none]
  | cons c digits ih =>
    have value := Text.digitValue?_of_isDigit (all c (by simp))
    rw [Nat.ofDigitChars_cons, Nat.mul_comm] at word
    -- The digits so far give a smaller number, so reading them has not overflowed before.
    have small := Nat.lt_of_le_of_lt (Text.le_ofDigitChars _ _) word
    have others := ih (fun other member => all other (by simp [member])) word (taken + 1)
    simp only [List.cons_append, takeSignificand, takeSignificand.digitValue?, value, small, if_true,
      others, Nat.ofDigitChars_cons, Nat.mul_comm 10, List.length_cons]
    rw [Nat.add_right_comm, Nat.add_assoc]

theorem readUnsigned?_numeral (negative : Bool) {number : Nat} (word : number < wordLimit)
    {rest : List Char} (stops : Stops rest) :
    readUnsigned? negative (Nat.toDigits 10 number ++ rest) =
      (integerNumber negative number).map (·, rest) := by
  have read := Nat.ofDigitChars_toDigits (b := 10) (n := number) (by decide) (by decide)
  have small : Nat.ofDigitChars 10 (Nat.toDigits 10 number) 0 < wordLimit := by rwa [read]
  have taken := takeSignificand_digits (fun c member => Text.isDigit_of_mem_numeral member) small 0
    stops
  rw [read] at taken
  cases numeral : Nat.toDigits 10 number with
  | nil => exact absurd numeral Nat.toDigits_ne_nil
  | cons first digits =>
    have digit : isDigit first = true := by
      have member : first ∈ Nat.toDigits 10 number := by simp [numeral]
      rw [isDigit_eq]
      exact Text.isDigit_of_mem_numeral member
    -- Of all numerals that of zero alone begins with a zero, and it ends there.
    have single : ¬(first = '0' ∧ ((digits ++ rest).head?.any isDigit) = true) := by
      rintro ⟨rfl, goes⟩
      rw [Text.toDigits_of_leading_zero numeral, List.nil_append] at goes
      have none := stops.takeWhile
      cases rest <;> simp_all
    rw [numeral, List.cons_append] at taken
    rw [List.cons_append]
    simp only [readUnsigned?, digit, taken, stops.takeWhile, stops.dropWhile, single]
    cases rest with
    | nil => simp
    | cons c rest =>
      have mark : isNumeral c = false := stops c (by simp)
      simp only [isNumeral, Bool.or_eq_false_iff, decide_eq_false_iff_not] at mark
      obtain ⟨⟨⟨-, point⟩, small⟩, capital⟩ := mark
      split <;> simp_all

theorem toString_ofNat (number : Nat) : (toString (number : Int)).toList = Nat.toDigits 10 number := by
  simp [toString, Int.repr]

theorem toString_negSucc (number : Nat) :
    (toString (Int.negSucc number)).toList = '-' :: Nat.toDigits 10 (number + 1) := by
  simp [toString, Int.repr]

theorem readNumber?_integer {value : Int} (least : -(Text.wordBound 63 : Int) ≤ value)
    (below : value < Text.wordBound 64) {rest : List Char} (stops : Stops rest) :
    readNumber? ((toString value).toList ++ rest) = some (.integer value, rest) := by
  cases value with
  | ofNat number =>
    have word : number < wordLimit := by
      change (number : Int) < _ at below
      exact_mod_cast below
    have read := readUnsigned?_numeral false word stops
    change readNumber? ((toString (number : Int)).toList ++ rest) = _
    rw [toString_ofNat]
    -- A numeral does not begin with a sign.
    cases numeral : Nat.toDigits 10 number with
    | nil => exact absurd numeral Nat.toDigits_ne_nil
    | cons first digits =>
      have sign : first ≠ '-' := by
        rintro rfl
        have member : '-' ∈ Nat.toDigits 10 number := by simp [numeral]
        cases Text.isDigit_of_mem_numeral member
      rw [numeral, List.cons_append] at read
      rw [List.cons_append, readNumber?]
      · simpa [integerNumber] using read
      · intro others same
        exact sign (List.cons.inj same).1
  | negSucc number =>
    have small : number + 1 ≤ Text.wordBound 63 := by
      rw [Int.negSucc_eq] at least
      omega
    have word : number + 1 < wordLimit := Nat.lt_of_le_of_lt small (by decide)
    have read := readUnsigned?_numeral true word stops
    rw [toString_negSucc, List.cons_append, readNumber?, read, integerNumber]
    simp [Nat.not_lt.mpr small, Int.negSucc_eq]

/-! ## Containers -/

/-- Texts with commas between them and a mark behind them, and blanks before each text and before the
mark. -/
def series (before after : List Char) (close : Char) : List (List Char) → List Char
  | [] => [close]
  | [text] => before ++ text ++ after ++ [close]
  | text :: next :: rest => before ++ text ++ ',' :: series before after close (next :: rest)

theorem series_eq (before after : List Char) (close : Char) (text : List Char)
    (texts : List (List Char)) :
    series before after close (text :: texts) = before ++ (text ++
      (texts.flatMap (fun next => ',' :: (before ++ next)) ++ (after ++ [close]))) := by
  induction texts generalizing text with
  | nil => simp [series]
  | cons next rest ih => simp [series, ih]

theorem itemChars_eq (items : List Json) : itemChars items = series [] [] ']' (items.map chars) := by
  induction items with
  | nil => rfl
  | cons item rest ih =>
    cases rest with
    | nil => simp [itemChars, series]
    | cons next rest => simp [itemChars, series, ih]

def memberText (member : String × Json) : List Char := quote member.1 ++ ':' :: member.2.chars

theorem memberChars_eq (members : List (String × Json)) :
    memberChars members = series [] [] '\x7d' (members.map memberText) := by
  induction members with
  | nil => rfl
  | cons member rest ih =>
    cases rest with
    | nil => simp [memberChars, series, memberText]
    | cons next rest => simp [memberChars, series, memberText, ih]

theorem length_lt_series (before after : List Char) (close : Char) {texts : List (List Char)}
    {text : List Char} (member : text ∈ texts) :
    text.length < (series before after close texts).length := by
  induction texts with
  | nil => cases member
  | cons first rest ih =>
    cases rest with
    | nil =>
      rw [List.mem_singleton.mp member]
      simp only [series, List.length_append, List.length_cons, List.length_nil]
      omega
    | cons next rest =>
      simp only [series, List.length_append, List.length_cons]
      rcases List.mem_cons.mp member with rfl | behind
      · omega
      · have := ih behind
        omega

theorem count_le_series (before after : List Char) (close : Char) (texts : List (List Char)) :
    texts.length ≤ (series before after close texts).length := by
  induction texts with
  | nil => simp [series]
  | cons first rest ih =>
    cases rest with
    | nil =>
      simp only [series, List.length_append, List.length_cons, List.length_nil]
      omega
    | cons next rest =>
      simp only [series, List.length_append, List.length_cons] at ih ⊢
      omega

theorem skipSpace_blank {blank : List Char} (all : blank.all isSpace = true) (rest : List Char) :
    skipSpace (blank ++ rest) = skipSpace rest :=
  List.dropWhile_append_of_pos fun c member => List.all_eq_true.mp all c member

theorem skipSpace_cons {c : Char} (solid : isSpace c = false) (rest : List Char) :
    skipSpace (c :: rest) = c :: rest := by
  simp [skipSpace, solid]

@[simp] theorem skipSpace_skipSpace (text : List Char) :
    skipSpace (skipSpace text) = skipSpace text := by
  induction text with
  | nil => rfl
  | cons c rest ih =>
    by_cases space : isSpace c = true
    · have skipped : skipSpace (c :: rest) = skipSpace rest := by simp [skipSpace, space]
      rw [skipped, ih]
    · have solid : isSpace c = false := by simpa using space
      rw [skipSpace_cons solid, skipSpace_cons solid]

theorem Spells.skipSpace {α : Type} {read : Reader α} {text : List Char} {value : α}
    (spells : Spells read text value) (rest : List Char) :
    Json.skipSpace (text ++ rest) = text ++ rest := by
  obtain ⟨c, others, rfl, between⟩ := spells.begins
  simp only [isBetween, Bool.or_eq_false_iff] at between
  exact skipSpace_cons between.1.1.1 _

theorem isNumeral_of_isSpace {c : Char} (space : isSpace c = true) : isNumeral c = false := by
  simp only [isSpace, Bool.or_eq_true, decide_eq_true_eq] at space
  rcases space with ((rfl | rfl) | rfl) | rfl <;> rfl

theorem Stops.blank {blank rest : List Char} (all : blank.all isSpace = true) (stops : Stops rest) :
    Stops (blank ++ rest) := by
  cases blank with
  | nil => exact stops
  | cons first blank =>
    exact stops_cons (isNumeral_of_isSpace (List.all_eq_true.mp all first (by simp))) _

structure IsMark (close : Char) : Prop where
  stops : isNumeral close = false
  solid : isSpace close = false
  between : isBetween close = true

theorem isMark_bracket : IsMark ']' := ⟨rfl, rfl, rfl⟩

theorem isMark_brace : IsMark '\x7d' := ⟨rfl, rfl, rfl⟩

/-- What the loops over items and over members have in common: they go on at a comma and end at a
mark, with what they have read. -/
structure Collects {α : Type} (close : Char) (read : Reader α)
    (loop : List α → Nat → Reader (List α)) : Prop where
  isMark : IsMark close
  blank : ∀ done fuel text, loop done fuel (skipSpace text) = loop done fuel text
  next : ∀ {done fuel text value behind rest}, read (skipSpace text) = some (value, behind) →
    skipSpace behind = ',' :: rest → loop done (fuel + 1) text = loop (value :: done) fuel rest
  last : ∀ {done fuel text value behind rest}, read (skipSpace text) = some (value, behind) →
    skipSpace behind = close :: rest →
    loop done (fuel + 1) text = some ((value :: done).reverse, rest)

theorem collects_items (read : Reader Json) : Collects ']' read (readItems? read) where
  isMark := isMark_bracket
  blank _ fuel _ := by cases fuel <;> simp [readItems?]
  next taken comma := by simp only [readItems?, taken, comma]
  last taken close := by simp only [readItems?, taken, close]

theorem collects_members (read : Reader (String × Json)) :
    Collects '\x7d' read (readMembers? read) where
  isMark := isMark_brace
  blank _ fuel _ := by cases fuel <;> simp [readMembers?]
  next taken comma := by simp only [readMembers?, taken, comma]
  last taken close := by simp only [readMembers?, taken, close]

section

variable {α : Type} {read : Reader α} {loop : List α → Nat → Reader (List α)}
  {before after : List Char} {close : Char} {texts : List (List Char)} {values : List α}

theorem Collects.series (collects : Collects close read loop) (front : before.all isSpace = true)
    (back : after.all isSpace = true) (spelled : List.Forall₂ (Spells read) texts values)
    (some : texts ≠ []) (done : List α) {fuel : Nat} (long : texts.length ≤ fuel)
    (rest : List Char) :
    loop done fuel (series before after close texts ++ rest) =
      .some (done.reverse ++ values, rest) := by
  induction spelled generalizing done fuel with
  | nil => exact absurd rfl some
  | @cons text value texts values first others ih =>
    -- Each value uses up one of the fuel, so there is enough left for those behind.
    obtain ⟨fuel, rfl⟩ : ∃ less, fuel = less + 1 := ⟨fuel - 1, by simp at long; omega⟩
    have ready (rest : List Char) : skipSpace (before ++ (text ++ rest)) = text ++ rest := by
      rw [skipSpace_blank front, first.skipSpace]
    cases others with
    | nil =>
      have taken := first.taken _ ((stops_cons collects.isMark.stops rest).blank back)
      rw [← ready] at taken
      have last := (skipSpace_blank back (close :: rest)).trans
        (skipSpace_cons collects.isMark.solid rest)
      simp only [Json.series, List.append_assoc, List.cons_append, List.nil_append]
      rw [collects.last taken last]
      simp
    | cons second others =>
      have behind := ih (by simp) (value :: done) (by simpa using long)
      have comma (rest : List Char) := first.taken (',' :: rest) (stops_cons rfl rest)
      simp only [Json.series, List.append_assoc, List.cons_append] at behind ⊢
      rw [collects.next ((congrArg read (ready _)).trans (comma _)) (skipSpace_cons rfl _), behind]
      simp

/-- After its blanks a container begins with its first value, and is read from there on. -/
theorem Collects.begins (collects : Collects close read loop) (front : before.all isSpace = true)
    (back : after.all isSpace = true) (spelled : List.Forall₂ (Spells read) texts values)
    (some : texts ≠ []) {fuel : Nat} (long : texts.length ≤ fuel) (rest : List Char) :
    ∃ c more, skipSpace (Json.series before after close texts ++ rest) = c :: more ∧ c ≠ close ∧
      loop [] fuel (c :: more) = .some (values, rest) := by
  have read := collects.series front back spelled some [] long rest
  cases spelled with
  | nil => exact absurd rfl some
  | @cons text value texts values first others =>
    obtain ⟨c, more, rfl, between⟩ := first.begins
    -- No value begins with a closing mark, so the container is not taken for an empty one.
    have other : c ≠ close := by
      rintro rfl
      exact absurd collects.isMark.between (by simp [between])
    have skipped : ∃ behind, skipSpace (Json.series before after close ((c :: more) :: texts) ++ rest) =
        c :: (more ++ behind) := by
      simp only [series_eq, List.append_assoc, skipSpace_blank front, first.skipSpace]
      exact ⟨_, rfl⟩
    obtain ⟨behind, skipped⟩ := skipped
    refine ⟨c, _, skipped, other, ?_⟩
    rw [← skipped, collects.blank]
    exact read

end

/-! ## Values -/

theorem spells_quote {fuel : Nat} {text : String} (long : text.toList.length < fuel) (depth : Nat) :
    Spells (readValue? fuel depth) (quote text) (.string text) where
  begins := ⟨_, _, rfl, rfl⟩
  taken rest _ := by
    have read := readStringTail?_quoted text.toList [] long rest
    simp [quote, readValue?, read]

theorem length_le_quote (text : String) : text.toList.length < (quote text).length := by
  have each : ∀ c, 1 ≤ (escapeChar c).length := by
    intro c
    unfold escapeChar
    split_ifs <;> simp
  have whole : text.toList.length ≤ (text.toList.flatMap escapeChar).length := by
    induction text.toList with
    | nil => simp
    | cons c rest ih =>
      have := each c
      simp only [List.flatMap_cons, List.length_append, List.length_cons]
      omega
  simp only [quote, List.cons_append, List.length_cons, List.length_append, List.length_nil]
  omega

theorem spells_integer (fuel depth : Nat) {value : Int} (least : -(Text.wordBound 63 : Int) ≤ value)
    (below : value < Text.wordBound 64) :
    Spells (readValue? fuel depth) (toString value).toList (.integer value) := by
  -- A numeral begins with a digit or with a sign, so it is no other value.
  have first : ∃ c rest, (toString value).toList = c :: rest ∧ (c.isDigit = true ∨ c = '-') := by
    cases value with
    | ofNat number =>
      change ∃ c rest, (toString (number : Int)).toList = _ ∧ _
      rw [toString_ofNat]
      cases numeral : Nat.toDigits 10 number with
      | nil => exact absurd numeral Nat.toDigits_ne_nil
      | cons c rest =>
        have member : c ∈ Nat.toDigits 10 number := by simp [numeral]
        exact ⟨c, rest, rfl, .inl (Text.isDigit_of_mem_numeral member)⟩
    | negSucc number => exact ⟨_, _, toString_negSucc number, .inr rfl⟩
  obtain ⟨c, rest, same, numeral⟩ := first
  have other : isBetween c = false ∧ c ≠ '"' ∧ c ≠ '[' ∧ c ≠ '\x7b' ∧ c ≠ 'n' ∧ c ≠ 't' ∧ c ≠ 'f' := by
    rcases numeral with digit | rfl
    · have range := Text.toNat_of_isDigit digit
      refine ⟨?_, ?_, ?_, ?_, ?_, ?_, ?_⟩
      · simp only [isBetween, isSpace, Bool.or_eq_false_iff, decide_eq_false_iff_not]
        refine ⟨⟨⟨⟨⟨⟨?_, ?_⟩, ?_⟩, ?_⟩, ?_⟩, ?_⟩, ?_⟩ <;> rintro rfl <;> simp at range
      all_goals rintro rfl; simp at range
    · decide
  obtain ⟨between, text, array, object, word, yes, no⟩ := other
  constructor
  · exact ⟨c, rest, same, between⟩
  · intro behind stops
    rw [← readNumber?_integer least below stops, same, List.cons_append, readValue?]
    all_goals
      intro others begun
      simp_all

theorem spells_word (fuel depth : Nat) (word : String) (value : Json)
    (known : (word, value) ∈ [("null", null), ("true", bool true), ("false", bool false)]) :
    Spells (readValue? fuel depth) word.toList value := by
  simp only [List.mem_cons, Prod.mk.injEq, List.not_mem_nil, or_false] at known
  rcases known with ⟨rfl, rfl⟩ | ⟨rfl, rfl⟩ | ⟨rfl, rfl⟩
  all_goals
    constructor
    · exact ⟨_, _, rfl, rfl⟩
    · exact fun rest stops => by simp [readValue?, readWord?, List.isPrefixOf?]

theorem spells_memberText {fuel depth : Nat} {member : String × Json}
    (long : (memberText member).length ≤ fuel)
    (value : Spells (readValue? fuel depth) member.2.chars member.2) :
    Spells (readMember? fuel (readValue? fuel depth)) (memberText member) member where
  begins := ⟨_, _, rfl, rfl⟩
  taken rest stops := by
    have short : member.1.toList.length < fuel := by
      have inside := length_le_quote member.1
      simp only [memberText, List.length_append, List.length_cons] at long
      omega
    have read := readStringTail?_quoted member.1.toList [] short (':' :: (member.2.chars ++ rest))
    have colon := skipSpace_cons (c := ':') rfl (member.2.chars ++ rest)
    simp [memberText, quote, readMember?, read, colon, value.skipSpace, value.taken rest stops]

theorem forall₂_map_self {α β : Type} {R : β → α → Prop} {f : α → β} {items : List α}
    (each : ∀ item ∈ items, R (f item) item) : List.Forall₂ R (items.map f) items := by
  rw [List.forall₂_map_left_iff, List.forall₂_same]
  exact each

theorem spells_items {fuel depth : Nat} {before after : List Char} (front : before.all isSpace = true)
    (back : after.all isSpace = true) {texts : List (List Char)} {items : List Json}
    (each : List.Forall₂ (Spells (readValue? fuel depth)) texts items)
    (long : texts.length ≤ fuel) :
    Spells (readValue? fuel (depth + 1)) ('[' :: series before after ']' texts) (.array items) where
  begins := ⟨_, _, rfl, rfl⟩
  taken rest _ := by
    by_cases none : texts = []
    · subst none
      cases each
      simp [series, readValue?, skipSpace_cons isMark_bracket.solid]
    · obtain ⟨c, more, skipped, other, read⟩ :=
        (collects_items _).begins front back each none long rest
      simp [readValue?, skipped, other, read]

theorem spells_members {fuel depth : Nat} {before after : List Char}
    (front : before.all isSpace = true) (back : after.all isSpace = true) {texts : List (List Char)}
    {members : List (String × Json)}
    (each : List.Forall₂ (Spells (readMember? fuel (readValue? fuel depth))) texts members)
    (long : texts.length ≤ fuel) :
    Spells (readValue? fuel (depth + 1)) ('\x7b' :: series before after '\x7d' texts)
      (.object members) where
  begins := ⟨_, _, rfl, rfl⟩
  taken rest _ := by
    by_cases none : texts = []
    · subst none
      cases each
      simp [series, readValue?, skipSpace_cons isMark_brace.solid]
    · obtain ⟨c, more, skipped, other, read⟩ :=
        (collects_members _).begins front back each none long rest
      simp [readValue?, skipped, other, read]

theorem spells_chars {fuel : Nat} : ∀ {depth : Nat} {json : Json}, json.isExact depth = true →
    json.chars.length ≤ fuel → Spells (readValue? fuel depth) json.chars json
  | depth, null, _, _ => spells_word fuel depth "null" null (by simp)
  | depth, bool false, _, _ => spells_word fuel depth "false" (bool false) (by simp)
  | depth, bool true, _, _ => spells_word fuel depth "true" (bool true) (by simp)
  | depth, integer value, exact, _ => by
    simp only [isExact, Bool.decide_and, Bool.and_eq_true, decide_eq_true_eq] at exact
    exact spells_integer fuel depth exact.1 exact.2
  | depth, float bits, exact, _ => by simp [isExact] at exact
  | depth, string text, _, long =>
    spells_quote (Nat.lt_of_lt_of_le (length_le_quote text) long) depth
  | depth + 1, array items, exact, long => by
    simp only [chars, itemChars_eq, List.length_cons] at long ⊢
    simp only [isExact, List.all_eq_true] at exact
    apply spells_items rfl rfl
    · apply forall₂_map_self
      intro item member
      have short := length_lt_series [] [] ']' (List.mem_map_of_mem (f := chars) member)
      exact spells_chars (exact item member) (by omega)
    · have := count_le_series [] [] ']' (items.map chars)
      omega
  | depth + 1, object members, exact, long => by
    simp only [chars, memberChars_eq, List.length_cons] at long ⊢
    simp only [isExact, List.all_eq_true] at exact
    apply spells_members rfl rfl
    · apply forall₂_map_self
      intro member inside
      have short := length_lt_series [] [] '\x7d' (List.mem_map_of_mem (f := memberText) inside)
      apply spells_memberText (by omega)
      apply spells_chars (exact member inside)
      have whole : (memberText member).length =
        (quote member.1).length + (member.2.chars.length + 1) := by simp [memberText]
      omega
    · have := count_le_series [] [] '\x7d' (members.map memberText)
      omega

theorem parseRaw?_of_spells {text blank : List Char} {json : Json}
    (spells : ∀ fuel, text.length ≤ fuel → Spells (readValue? fuel nestingLimit) text json)
    (all : blank.all isSpace = true) : parseRaw? (text ++ blank) = some json := by
  have whole := spells ((text ++ blank).length + 1) (by simp; omega)
  have none : skipSpace blank = [] := by
    have rest := skipSpace_blank all []
    rwa [List.append_nil] at rest
  have stops : Stops blank := by
    have rest := stops_nil.blank all
    rwa [List.append_nil] at rest
  rw [parseRaw?, whole.skipSpace, whole.taken blank stops]
  simp [none]

theorem parseRaw?_chars {json : Json} (exact : json.isExact nestingLimit = true) :
    parseRaw? json.chars = some json := by
  have nothing : ([] : List Char).all isSpace = true := rfl
  have read := parseRaw?_of_spells (fun fuel long => spells_chars exact long) nothing
  rwa [List.append_nil] at read

end SqlDesk.Json
