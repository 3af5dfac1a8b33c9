import Mathlib.Data.List.Forall2
import Mathlib.Data.List.TakeWhile
import SqlDesk.Proofs.Rpc.Taking
import SqlDesk.Proofs.Text.Numeral
import SqlDesk.Rpc.Frame

/-!
What headers announce. The text of a header is cut at its line ends, of every line one looks at what
stands in front of its first colon, and the last line that is named for the length counts
(`Rpc.Frame.bodyLength_eq_ok_iff`). Headers as they are written have one line, with the name, blanks and
the decimal numeral of a length; such a header announces the length that it was written with, however
many blanks there are, and a frame with it is taken whole.
-/

set_option autoImplicit false

namespace SqlDesk

theorem Bytes.toString?_eq_some_iff {bytes : Bytes} {text : String} :
    toString? bytes = some text ↔ bytes = ofString text := by
  constructor
  · intro read
    unfold toString? String.fromUTF8? at read
    split at read
    · obtain rfl := Option.some.inj read
      rfl
    · cases read
  · rintro rfl
    exact toString?_ofString text

namespace Rpc.Frame

/-! ## Lines -/

def lineEnd : List Char := ['\r', '\n']

/-- The lines of a text. With line ends between them they make the text, and there is none in a line. -/
structure Lines (text : List Char) (lines : List (List Char)) : Prop where
  some : lines ≠ []
  joined : lineEnd.intercalate lines = text
  whole : ∀ line ∈ lines, ¬ lineEnd <:+: line

variable {line text : List Char} {lines : List (List Char)}

theorem linesFrom_cons {c : Char} (onward : ¬ lineEnd <+: c :: text) (pending : List Char) :
    linesFrom pending (c :: text) = linesFrom (c :: pending) text := by
  refine linesFrom.eq_2 _ _ _ ?_
  rintro later rfl rfl
  exact onward ⟨later, rfl⟩

theorem linesFrom_of_whole (whole : ¬ lineEnd <:+: line) (pending : List Char) :
    linesFrom pending line = [pending.reverse ++ line] := by
  induction line generalizing pending with
  | nil => simp [linesFrom]
  | cons c rest ih =>
    rw [List.infix_cons_iff, not_or] at whole
    rw [linesFrom_cons whole.1, ih whole.2]
    simp

theorem linesFrom_append (whole : ¬ lineEnd <:+: line) (pending rest : List Char) :
    linesFrom pending (line ++ (lineEnd ++ rest)) = (pending.reverse ++ line) :: linesFrom [] rest := by
  induction line generalizing pending with
  | nil => simp [lineEnd, linesFrom]
  | cons c line ih =>
    rw [List.infix_cons_iff, not_or] at whole
    have onward : ¬ lineEnd <+: c :: (line ++ (lineEnd ++ rest)) := by
      -- A line end cannot begin in the line and end behind it, where a carriage return stands.
      rintro ⟨later, same⟩
      cases line with
      | nil => simp [lineEnd] at same
      | cons d line =>
        simp only [lineEnd, List.cons_append, List.nil_append, List.cons.injEq] at same
        obtain ⟨rfl, rfl, -⟩ := same
        exact whole.1 ⟨line, rfl⟩
    rw [List.cons_append, linesFrom_cons onward, ih whole.2]
    simp

theorem Lines.unique (cut : Lines text lines) : linesFrom [] text = lines := by
  obtain ⟨some, rfl, whole⟩ := cut
  induction lines with
  | nil => exact absurd rfl some
  | cons line rest ih =>
    obtain ⟨first, others⟩ := List.forall_mem_cons.mp whole
    cases rest with
    | nil => rw [List.intercalate_singleton, linesFrom_of_whole first, List.reverse_nil, List.nil_append]
    | cons next rest =>
      rw [List.intercalate_cons_cons, List.append_assoc, linesFrom_append first,
        ih (List.cons_ne_nil _ _) others, List.reverse_nil, List.nil_append]

theorem exists_lines (text : List Char) : ∃ lines, Lines text lines := by
  induction text with
  | nil => exact ⟨[[]], by simp, by simp, by simp [lineEnd]⟩
  | cons c rest ih =>
    obtain ⟨lines, some, joined, whole⟩ := ih
    obtain ⟨first, others, rfl⟩ := List.exists_cons_of_ne_nil some
    obtain ⟨firstWhole, othersWhole⟩ := List.forall_mem_cons.mp whole
    -- What comes in front of the first line comes in front of the text.
    have onto (front first : List Char) : lineEnd.intercalate ((front ++ first) :: others) =
        front ++ lineEnd.intercalate (first :: others) := by
      cases others <;> simp [List.intercalate_cons_cons]
    by_cases ends : lineEnd <+: c :: first
    · -- The character completes a line end, so the first line is empty and its rest is the second.
      obtain ⟨left, same⟩ := ends
      obtain ⟨rfl, rfl⟩ := List.cons.inj same
      have inner : ¬ lineEnd <:+: left := fun inside =>
        firstWhole (inside.trans (List.suffix_cons _ left).isInfix)
      refine ⟨[] :: left :: others, by simp, ?_, ?_⟩
      · rw [List.intercalate_cons_cons, ← joined]
        exact congrArg ('\r' :: ·) (onto ['\n'] left).symm
      · exact List.forall_mem_cons.mpr ⟨by simp [lineEnd], List.forall_mem_cons.mpr ⟨inner, othersWhole⟩⟩
    · refine ⟨(c :: first) :: others, by simp, joined ▸ onto [c] first,
        List.forall_mem_cons.mpr ⟨?_, othersWhole⟩⟩
      rw [List.infix_cons_iff, not_or]
      exact ⟨ends, firstWhole⟩

theorem lines_iff : Lines text lines ↔ linesFrom [] text = lines := by
  constructor
  · exact Lines.unique
  · rintro rfl
    obtain ⟨lines, cut⟩ := exists_lines text
    rwa [cut.unique]

/-! ## Announcements -/

/-- What a line of a header says about the length. -/
inductive Tells : List Char → Option Nat → Prop where
  | nothing : Tells [] none
  | other {name value : List Char} (plain : ':' ∉ name)
      (another : Text.sameIgnoringCase (Text.trim name) lengthName = false) :
      Tells (name ++ ':' :: value) none
  | length {name value : List Char} {length : Nat} (plain : ':' ∉ name)
      (named : Text.sameIgnoringCase (Text.trim name) lengthName = true)
      (numeral : Text.readNatural? (Text.wordBound 64) (Text.trim value) = some length) :
      Tells (name ++ ':' :: value) (some length)

/-- A header of which every line can be read, and the last one that is about the length gives it. -/
def Announces (header : Bytes) (length : Nat) : Prop :=
  ∃ text lines said, header = Bytes.ofString text ∧ Lines text.toList lines ∧
    List.Forall₂ Tells lines said ∧ (said.filterMap id).getLast? = some length

theorem announced_eq {name : List Char} (plain : ':' ∉ name) (value : List Char) :
    announced (name ++ ':' :: value) =
      if Text.sameIgnoringCase (Text.trim name) lengthName then
        match Text.readNatural? (Text.wordBound 64) (Text.trim value) with
        | some length => .ok (some length)
        | none => .error (.invalidHeader (String.ofList (name ++ ':' :: value)))
      else .ok none := by
  have passed : ∀ c ∈ name, decide (c ≠ ':') = true := by
    rintro c member
    exact decide_eq_true fun same => plain (same ▸ member)
  have colon : (':' :: value).dropWhile (· ≠ ':') = ':' :: value := by simp
  have front : (':' :: value).takeWhile (· ≠ ':') = [] := by simp
  rewrite [announced, List.takeWhile_append_of_pos passed, List.dropWhile_append_of_pos passed, colon,
    front, List.append_nil]
  rfl

theorem announced_eq_ok_iff (found : Option Nat) :
    announced line = .ok found ↔ line ≠ [] ∧ Tells line found := by
  constructor
  · intro told
    -- A line without a colon is refused.
    have colon : ':' ∈ line := by
      apply Classical.not_not.mp
      intro missing
      have passed : line.dropWhile (· ≠ ':') = [] := by
        rw [List.dropWhile_eq_nil_iff]
        exact fun c member => decide_eq_true fun same => missing (same ▸ member)
      rw [announced, passed] at told
      cases told
    obtain ⟨name, value, rfl, plain⟩ := List.eq_append_cons_of_mem colon
    refine ⟨by simp, ?_⟩
    rw [announced_eq plain] at told
    split at told
    · rename_i named
      split at told
      · rename_i length numeral
        obtain rfl := Except.ok.inj told
        exact .length plain named numeral
      · cases told
    · rename_i another
      obtain rfl := Except.ok.inj told
      exact .other plain (Bool.eq_false_iff.mpr another)
  · rintro ⟨some, told⟩
    cases told with
    | nothing => exact absurd rfl some
    | other plain another => rw [announced_eq plain, another]; rfl
    | length plain named numeral => rw [announced_eq plain, named, numeral]; rfl

theorem lastLength_cons (known : Option Nat) (line : List Char) (rest : List (List Char)) (length : Nat) :
    lastLength known (line :: rest) = .ok length ↔
      ∃ found, Tells line found ∧ lastLength (found.or known) rest = .ok length := by
  rw [lastLength]
  by_cases empty : line = []
  · subst empty
    constructor
    · exact fun others => ⟨none, .nothing, others⟩
    · rintro ⟨found, told, others⟩
      obtain rfl : found = none := by
        generalize none : ([] : List Char) = line at told
        cases told <;> simp_all
      exact others
  · rw [if_neg (by simpa using empty)]
    have told (found : Option Nat) : Tells line found ↔ announced line = .ok found := by
      rw [announced_eq_ok_iff, and_iff_right empty]
    simp only [told]
    cases announced line <;> simp

theorem lastLength_eq_ok_iff (known : Option Nat) (lines : List (List Char)) (length : Nat) :
    lastLength known lines = .ok length ↔ ∃ told, List.Forall₂ Tells lines told ∧
      (told.filterMap id).getLast?.or known = some length := by
  -- What is known counts as told by lines further up.
  induction lines generalizing known with
  | nil => cases known <;> simp [lastLength]
  | cons line rest ih =>
    have later (found : Option Nat) (told : List (Option Nat)) :
        ((found :: told).filterMap id).getLast?.or known =
          (told.filterMap id).getLast?.or (found.or known) := by
      cases found with
      | none => rfl
      | some length =>
        have last : ((some length :: told).filterMap id).getLast? =
            some ((told.filterMap id).getLast?.getD length) := List.getLast?_cons
        rw [last, Option.some_or, Option.some_or, Option.or_some]
    simp only [lastLength_cons, ih, List.forall₂_cons_left_iff]
    constructor
    · rintro ⟨found, first, told, others, last⟩
      exact ⟨_, ⟨found, told, first, others, rfl⟩, (later found told).trans last⟩
    · rintro ⟨_, ⟨found, told, first, others, rfl⟩, last⟩
      exact ⟨found, first, told, others, (later found told).symm.trans last⟩

example : lastLength none (linesFrom [] "Content-Length: 7\r\nA: b\r\ncontent-length :+2".toList) =
    .ok 2 := rfl

theorem bodyLength_eq_ok_iff (header : Bytes) (length : Nat) :
    bodyLength header = .ok length ↔ Announces header length := by
  unfold bodyLength Announces
  constructor
  · intro read
    split at read
    · rename_i text chars
      obtain ⟨told, each, last⟩ := (lastLength_eq_ok_iff none _ length).mp read
      exact ⟨text, _, told, Bytes.toString?_eq_some_iff.mp chars, lines_iff.mpr rfl, each,
        by rwa [Option.or_none] at last⟩
    · cases read
  · rintro ⟨text, lines, told, rfl, cut, each, last⟩
    rw [Bytes.toString?_ofString]
    dsimp only
    rw [cut.unique, lastLength_eq_ok_iff]
    exact ⟨told, each, by rwa [Option.or_none]⟩

end Rpc.Frame

/-! ## Headers as they are written -/

namespace Bytes

theorem utf8EncodeChar_of_ascii {c : Char} (ascii : c.toNat < 128) :
    String.utf8EncodeChar c = [c.toUInt8] := by
  have single : c.utf8Size = 1 := Char.utf8Size_eq_one_iff.2 (Nat.le_of_lt_succ ascii)
  exact String.utf8EncodeChar_eq_singleton single

theorem ofString_of_ascii {chars : List Char} (ascii : ∀ c ∈ chars, c.toNat < 128) :
    ofString (String.ofList chars) = chars.map Char.toUInt8 :=
  calc ofString (String.ofList chars)
    _ = chars.flatMap String.utf8EncodeChar := by
      simp [ofString, String.toByteArray_ofList, List.utf8Encode]
    _ = chars.flatMap fun c => [c.toUInt8] := by
      rw [List.flatMap_def, List.flatMap_def,
        List.map_congr_left fun c member => utf8EncodeChar_of_ascii (ascii c member)]
    _ = chars.map Char.toUInt8 := List.map_eq_flatMap.symm

end Bytes

namespace Text

theorem trim_of_visible {blanks text : List Char} (blank : ∀ c ∈ blanks, isBlank c = true)
    (visible : ∀ c ∈ text, isBlank c = false) : trim (blanks ++ text) = text := by
  have kept {visibleText : List Char} (all : ∀ c ∈ visibleText, isBlank c = false) :
      visibleText.dropWhile isBlank = visibleText := by
    cases visibleText with
    | nil => rfl
    | cons first rest => simp [all first List.mem_cons_self]
  rw [trim, List.dropWhile_append_of_pos blank, kept visible,
    kept fun c member => visible c (List.mem_reverse.1 member), List.reverse_reverse]

end Text

namespace Rpc.Frame

def headingName : List Char := "Content-Length:".toList

def headingChars (blanks length : Nat) : List Char :=
  headingName ++ (List.replicate blanks ' ' ++ Nat.toDigits 10 length)

def heading (blanks length : Nat) : Bytes := Bytes.ofString (String.ofList (headingChars blanks length))

theorem headingChars_plain {blanks length : Nat} {c : Char} (member : c ∈ headingChars blanks length) :
    c.toNat < 128 ∧ c ≠ '\r' := by
  have letters : headingName.all (fun c => c.toNat < 128 ∧ c ≠ '\r') = true := rfl
  rcases List.mem_append.1 member with name | value
  · exact of_decide_eq_true (List.all_eq_true.1 letters c name)
  · rcases List.mem_append.1 value with blank | numeral
    · rw [List.eq_of_mem_replicate blank]
      decide
    · have range := Text.toNat_of_isDigit (Text.isDigit_of_mem_numeral numeral)
      refine ⟨by omega, ?_⟩
      rintro rfl
      revert range
      decide

theorem length_heading (blanks length : Nat) :
    (heading blanks length).length = 15 + blanks + (Nat.toDigits 10 length).length := by
  have name : headingName.length = 15 := rfl
  rw [heading, Bytes.ofString_of_ascii fun c member => (headingChars_plain member).1,
    List.length_map, headingChars, List.length_append, List.length_append, List.length_replicate,
    name, Nat.add_assoc]

theorem return_not_mem_heading (blanks length : Nat) : (13 : UInt8) ∉ heading blanks length := by
  rw [heading, Bytes.ofString_of_ascii fun c member => (headingChars_plain member).1]
  intro member
  obtain ⟨c, among, same⟩ := List.mem_map.1 member
  obtain ⟨ascii, other⟩ := headingChars_plain among
  apply other
  apply Char.toNat_inj.1
  have value := congrArg UInt8.toNat same
  rw [Char.toUInt8, UInt32.toNat_toUInt8] at value
  exact (Nat.mod_eq_of_lt (Nat.lt_trans ascii (by decide))).symm.trans value

theorem announced_heading (blanks : Nat) {length : Nat} (word : length < Text.wordBound 64) :
    announced (headingChars blanks length) = .ok (some length) := by
  have value : Text.trim (List.replicate blanks ' ' ++ Nat.toDigits 10 length) =
      Nat.toDigits 10 length :=
    Text.trim_of_visible (fun c member => List.eq_of_mem_replicate member ▸ rfl)
      fun c member => Text.isBlank_of_isDigit (Text.isDigit_of_mem_numeral member)
  have colon : (headingChars blanks length).dropWhile (· ≠ ':') =
      ':' :: (List.replicate blanks ' ' ++ Nat.toDigits 10 length) := rfl
  have name : Text.sameIgnoringCase
      (Text.trim ((headingChars blanks length).takeWhile (· ≠ ':'))) lengthName = true := rfl
  rw [announced, colon]
  dsimp only
  rw [if_pos name, value, Text.readNatural?_toDigits word]

theorem bodyLength_heading (blanks : Nat) {length : Nat} (word : length < Text.wordBound 64) :
    bodyLength (heading blanks length) = .ok length := by
  have line : linesFrom [] (headingChars blanks length) = [headingChars blanks length] :=
    linesFrom_of_whole (fun inside => (headingChars_plain (inside.subset List.mem_cons_self)).2 rfl) []
  rw [bodyLength, heading, Bytes.toString?_ofString]
  dsimp only
  rw [String.toList_ofList, line]
  simp only [lastLength, announced_heading blanks word]
  rfl

theorem heads_heading {limit : Nat} (word : limit < Text.wordBound 64) (blanks : Nat) {body : Bytes}
    (fits : body.length ≤ limit) : Heads limit (heading blanks body.length) body where
  ends := by
    have split := splitHeader_of_plain (return_not_mem_heading blanks body.length) []
    rwa [List.append_nil] at split
  announces := bodyLength_heading blanks (Nat.lt_of_le_of_lt fits word)
  fits := fits

theorem write_eq (body : Bytes) : write body = framed (heading 1 body.length) body := by
  have text : s!"Content-Length: {body.length}\r\n\r\n" =
      String.ofList (headingChars 1 body.length) ++ "\r\n\r\n" := by
    have name : "Content-Length: " = String.ofList (headingName ++ List.replicate 1 ' ') := rfl
    show "Content-Length: " ++ toString body.length ++ "\r\n\r\n" = _
    rw [name, Nat.toString_eq_ofList_toDigits, ← String.ofList_append, headingChars,
      List.append_assoc]
  have ending : Bytes.ofString "\r\n\r\n" = headerEnd := rfl
  rw [write, text, Bytes.ofString_append, ending, List.append_assoc]
  rfl

end Rpc.Frame

end SqlDesk
