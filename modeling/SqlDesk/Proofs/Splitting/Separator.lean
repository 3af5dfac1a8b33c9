import SqlDesk.Proofs.Text.Lines
import SqlDesk.Splitting

/-! Which lines of a text are separators. A line has the form of one by itself; whether it counts
depends on the lines before it, which may have left a comment open. What is shown here is that a
line of that form never opens a comment, so that the comments of a text can be followed through all
of its lines without regard to where it is cut. -/

set_option autoImplicit false

namespace SqlDesk

namespace Text

theorem mem_word_of_mem {c : Char} {text : List Char} (member : c ∈ text)
    (visible : isBlank c = false) : ∃ word ∈ words text, c ∈ word := by
  fun_induction words text with
  | case1 => cases member
  | case2 first rest blank ih =>
    rcases List.mem_cons.1 member with rfl | later
    · rw [visible] at blank
      cases blank
    · exact ih later
  | case3 first rest _ ih =>
    rw [← List.takeWhile_append_dropWhile (p := (!isBlank ·)) (l := rest)] at member
    rcases List.mem_append.1 (List.cons_append ▸ member) with here | later
    · exact ⟨_, List.mem_cons_self, here⟩
    · obtain ⟨word, among, inside⟩ := ih later
      exact ⟨word, List.mem_cons_of_mem _ among, inside⟩

theorem words_of_isAllBlank {text : List Char} (blank : isAllBlank text = true) :
    words text = [] := by
  induction text with
  | nil => rw [words]
  | cons first rest ih =>
    obtain ⟨here, later⟩ : isBlank first = true ∧ isAllBlank rest = true := by
      simpa [isAllBlank] using blank
    rw [words, if_pos here, ih later]

theorem lower_mem_of_sameIgnoringCase {c : Char} {word other : List Char}
    (same : sameIgnoringCase word other = true) (member : c ∈ word) :
    lowerAscii c ∈ other.map lowerAscii := by
  rw [← show word.map lowerAscii = other.map lowerAscii by simpa [sameIgnoringCase] using same]
  exact List.mem_map_of_mem member

theorem digit_of_readDigits {text : List Char} {known number : Nat}
    (read : readDigits known text = some number) {c : Char} (member : c ∈ text) :
    (digitValue? c).isSome = true := by
  induction text generalizing known with
  | nil => cases member
  | cons first rest ih =>
    obtain ⟨digit, isDigit, later⟩ := Option.bind_eq_some_iff.1 read
    rcases List.mem_cons.1 member with rfl | inside
    · rw [isDigit]
      rfl
    · exact ih later inside

theorem digit_of_readNatural? {bound number : Nat} {text : List Char}
    (read : readNatural? bound text = some number) {c : Char} (member : c ∈ text) :
    c = '+' ∨ (digitValue? c).isSome = true := by
  have filtered {digits : List Char} (inside : c ∈ digits)
      (whole : (if digits.isEmpty then none else (readDigits 0 digits).filter (· < bound)) =
        some number) : (digitValue? c).isSome = true := by
    split at whole
    · cases whole
    · exact digit_of_readDigits (Option.filter_eq_some_iff.1 whole).1 inside
  unfold readNatural? at read
  split at read
  · rcases List.mem_cons.1 member with rfl | later
    · exact .inl rfl
    · exact .inr (filtered later read)
  · exact .inr (filtered member read)

end Text

namespace Splitting

/-- The characters with which a quote, a line comment or a block comment begins. -/
def marks : List Char := ['\'', '-', '/']

theorem scan_code_of_unmarked {line : List Char} (unmarked : ∀ c ∈ line, c ∉ marks) :
    scan .code line = .code := by
  induction line with
  | nil => rfl
  | cons first rest ih =>
    have others := ih fun c member => unmarked c (List.mem_cons_of_mem _ member)
    have plain : first ≠ '\'' ∧ first ≠ '-' ∧ first ≠ '/' := by
      simpa [marks] using unmarked first List.mem_cons_self
    rw [scan.eq_def]
    split <;> simp_all

theorem unmarked_of_separator {line : List Char} {runs : Option Nat}
    (separates : separator? line = some runs) {c : Char} (member : c ∈ line) : c ∉ marks := by
  intro marked
  -- A mark is no blank, so it would stand in the word GO or in the count after it.
  have visible : Text.isBlank c = false := by
    simp only [marks, List.mem_cons, List.not_mem_nil, or_false] at marked
    rcases marked with rfl | rfl | rfl <;> decide
  have notGo {word : List Char} (same : Text.sameIgnoringCase word ['g', 'o'] = true)
      (inside : c ∈ word) : False := by
    have lower := Text.lower_mem_of_sameIgnoringCase same inside
    simp only [marks, List.mem_cons, List.not_mem_nil, or_false] at marked
    rcases marked with rfl | rfl | rfl <;> revert lower <;> decide
  obtain ⟨word, among, inside⟩ := Text.mem_word_of_mem member visible
  unfold separator? at separates
  split at separates
  · rename_i only exactly
    rw [exactly, List.mem_singleton] at among
    split at separates
    · exact notGo ‹_› (among ▸ inside)
    · cases separates
  · rename_i first count exactly
    split at separates
    · rw [exactly] at among
      rcases List.mem_cons.1 among with rfl | second
      · exact notGo ‹_› inside
      · rw [List.mem_singleton.1 second] at inside
        obtain ⟨number, read, -⟩ := Option.map_eq_some_iff.1 separates
        have counted := (Option.filter_eq_some_iff.1 read).1
        rcases Text.digit_of_readNatural? counted inside with rfl | digit
        · revert marked
          decide
        · simp only [marks, List.mem_cons, List.not_mem_nil, or_false] at marked
          rcases marked with rfl | rfl | rfl <;> revert digit <;> decide
    · cases separates
  · cases separates

theorem visible_of_separator {line : List Char} {runs : Option Nat}
    (separates : separator? line = some runs) : Text.isAllBlank line = false := by
  rw [← Bool.not_eq_true]
  intro blank
  rw [separator?, Text.words_of_isAllBlank blank] at separates
  cases separates

theorem commentAfter_of_separator {line : List Char} {runs : Option Nat}
    (separates : separator? line = some runs) : commentAfter line false = false := by
  have code := scan_code_of_unmarked fun _ member => unmarked_of_separator separates member
  simp [commentAfter, code]

/-- Whether a block comment is open where the line of a number begins. -/
def commentBefore (lines : List (List Char)) (number : Nat) : Bool :=
  (lines.take number).foldl (fun inComment line => commentAfter line inComment) false

theorem commentBefore_succ {lines : List (List Char)} {number : Nat} {line : List Char}
    (found : lines[number]? = some line) :
    commentBefore lines (number + 1) = commentAfter line (commentBefore lines number) := by
  simp [commentBefore, List.take_add_one, found]

/-- The count of a separator that counts: it stands outside comments. -/
def separatorAt? (lines : List (List Char)) (number : Nat) : Option (Option Nat) :=
  if commentBefore lines number then none else lines[number]?.bind separator?

theorem separatorAt?_eq_some_iff {lines : List (List Char)} {number : Nat} {runs : Option Nat} :
    separatorAt? lines number = some runs ↔
      ∃ line, lines[number]? = some line ∧ commentBefore lines number = false ∧
        separator? line = some runs := by
  unfold separatorAt?
  split
  · simp_all
  · simp_all [Option.bind_eq_some_iff]

theorem lt_length_of_separatorAt? {lines : List (List Char)} {number : Nat} {runs : Option Nat}
    (separated : separatorAt? lines number = some runs) : number < lines.length := by
  obtain ⟨line, found, -⟩ := separatorAt?_eq_some_iff.1 separated
  exact (List.getElem?_eq_some_iff.1 found).1

theorem separatorAt?_of_length_le {lines : List (List Char)} {number : Nat}
    (beyond : lines.length ≤ number) : separatorAt? lines number = none := by
  simp [separatorAt?, List.getElem?_eq_none beyond]

theorem commentBefore_of_separatorAt? {lines : List (List Char)} {number : Nat}
    {runs : Option Nat} (separated : separatorAt? lines number = some runs) :
    commentBefore lines (number + 1) = false := by
  obtain ⟨line, found, outside, separates⟩ := separatorAt?_eq_some_iff.1 separated
  rw [commentBefore_succ found, outside, commentAfter_of_separator separates]

/-! The carriage return of a line ending changes nothing: it is blank, and no mark. -/

theorem begins_of_append {raw rest later : List Char} {first second : Char} (other : second ≠ first)
    (same : raw ++ first :: rest = second :: later) : ∃ others, raw = second :: others := by
  cases raw with
  | nil => exact absurd (List.cons.inj same).1.symm other
  | cons begins others => exact ⟨others, by rw [(List.cons.inj same).1]⟩

theorem scan_concat_return (state : ScanState) (line : List Char) :
    scan state (line ++ ['\r']) = scan state line := by
  -- A carriage return neither begins a comment nor ends one.
  fun_induction scan state line with
  | case1 state => cases state <;> rfl
  | case2 rest ih => exact ih
  | case3 first rest inside ih =>
    rw [List.cons_append, scan, ih]
    intro later star same
    obtain ⟨others, rest_eq⟩ := begins_of_append (by decide) same
    exact inside others star rest_eq
  | case4 first rest ih => rw [List.cons_append, scan, ih]
  | case5 rest => rfl
  | case6 rest ih => exact ih
  | case7 first rest noLine noBlock ih =>
    rw [List.cons_append, scan, ih]
    · intro later dash same
      obtain ⟨others, rest_eq⟩ := begins_of_append (by decide) same
      exact noLine others dash rest_eq
    · intro later slash same
      obtain ⟨others, rest_eq⟩ := begins_of_append (by decide) same
      exact noBlock others slash rest_eq

theorem commentAfter_withoutReturn (line : List Char) (inComment : Bool) :
    commentAfter (Text.withoutReturn line) inComment = commentAfter line inComment := by
  rcases Text.withoutReturn_cases line with same | longer
  · rw [same]
  · have kept := scan_concat_return (if inComment then .comment else .code)
      (Text.withoutReturn line)
    rw [← longer] at kept
    rw [commentAfter, commentAfter, kept]

theorem separator?_withoutReturn (line : List Char) :
    separator? (Text.withoutReturn line) = separator? line := by
  rw [separator?, Text.words_withoutReturn, separator?]

end Splitting

end SqlDesk
