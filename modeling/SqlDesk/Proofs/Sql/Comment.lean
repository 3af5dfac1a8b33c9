import Mathlib.Data.List.TakeWhile
import SqlDesk.Sql.Submission

/-! Comments in front of a statement. The count of changed rows is told by the first word of the text
with the comments in it. A comment without letters counts for nothing; one with letters decides in
place of the statement. -/

set_option autoImplicit false

namespace SqlDesk.Sql

/-- A comment reaches from two dashes to the end of their line, or from a slash with a star to the
next star with a slash. -/
inductive Comment where
  | line (text : List Char) (plain : '\n' ∉ text)
  | block (text : List Char) (unclosed : ¬ ['*', '/'] <:+: text)

def Comment.chars : Comment → List Char
  | line text _ => '-' :: '-' :: (text ++ ['\n'])
  | block text _ => '/' :: '*' :: (text ++ ['*', '/'])

theorem firstWord_of_wordless {front : List Char}
    (wordless : ∀ c ∈ front, Text.isAsciiLetter c = false) (rest : List Char) :
    firstWord (front ++ rest) = firstWord rest := by
  rw [firstWord, List.dropWhile_append_of_pos, firstWord]
  intro c member
  rw [wordless c member]
  rfl

/-- The first word of a text ends where something else than a letter comes behind it. -/
theorem firstWord_of_word {front : List Char} {mark : Char} (ends : Text.isAsciiLetter mark = false)
    (word : ∃ c ∈ front, Text.isAsciiLetter c = true) (rest : List Char) :
    firstWord (front ++ mark :: rest) = firstWord front := by
  have begun : (front.dropWhile (!Text.isAsciiLetter ·)).isEmpty = false := by
    obtain ⟨letter, member, isLetter⟩ := word
    rw [List.isEmpty_eq_false_iff]
    intro wordless
    have skipped := List.dropWhile_eq_nil_iff.mp wordless letter member
    rw [isLetter] at skipped
    cases skipped
  rw [firstWord, List.dropWhile_append, begun, if_neg Bool.false_ne_true, List.takeWhile_append]
  split
  · rename_i whole
    rw [List.takeWhile_cons_of_neg (by simp [ends]), List.append_nil, firstWord]
    exact ((List.takeWhile_prefix _).eq_of_length whole).symm
  · rfl

namespace Comment

theorem exists_chars_eq (comment : Comment) :
    ∃ front mark, comment.chars = front ++ [mark] ∧ Text.isAsciiLetter mark = false := by
  cases comment with
  | line text => exact ⟨'-' :: '-' :: text, '\n', rfl, rfl⟩
  | block text => exact ⟨'/' :: '*' :: (text ++ ['*']), '/', by simp [chars], rfl⟩

def hasWord (comment : Comment) : Bool := comment.chars.any Text.isAsciiLetter

/-- A comment with a word in it is what counts, whatever statement stands behind it. -/
theorem tellsChanges_append (comment : Comment) (statement : List Char) :
    tellsChanges (comment.chars ++ statement) =
      tellsChanges (if comment.hasWord then comment.chars else statement) := by
  unfold tellsChanges
  by_cases word : comment.hasWord = true
  · rw [if_pos word]
    obtain ⟨front, mark, shape, ends⟩ := comment.exists_chars_eq
    have inside : ∃ c ∈ front, Text.isAsciiLetter c = true := by
      simpa [hasWord, shape, ends] using word
    rw [shape, List.append_assoc, List.singleton_append, firstWord_of_word ends inside,
      firstWord_of_word ends inside]
  · rw [if_neg word]
    have wordless : ∀ c ∈ comment.chars, Text.isAsciiLetter c = false := by
      simpa [hasWord] using word
    rw [firstWord_of_wordless wordless]

end Comment

theorem told_eq_told_iff (session : Session) (left right : List Char) :
    session.told left = session.told right ↔ tellsChanges left = tellsChanges right := by
  unfold Session.told
  cases tellsChanges left <;> cases tellsChanges right <;> simp

/-- Behind a comment a statement has its count told as the comment says if there is a word in it, and
as the statement says if not. So nothing is different behind the comment just if there is no word in
it, or if the comment by itself would have the count told like the statement. -/
theorem told_as_first_word_says (comment : Comment) (statement : List Char) :
    let agrees := comment.hasWord = false ∨ tellsChanges comment.chars = tellsChanges statement
    tellsChanges (comment.chars ++ statement) =
        (if comment.hasWord then tellsChanges comment.chars else tellsChanges statement) ∧
      (tellsChanges (comment.chars ++ statement) = tellsChanges statement ↔ agrees) ∧
      ∀ session : Session,
        session.told (comment.chars ++ statement) = session.told statement ↔ agrees := by
  intro agrees
  have decided : tellsChanges (comment.chars ++ statement) =
      (if comment.hasWord then tellsChanges comment.chars else tellsChanges statement) := by
    rw [comment.tellsChanges_append, apply_ite tellsChanges]
  have same : tellsChanges (comment.chars ++ statement) = tellsChanges statement ↔ agrees := by
    rw [decided]
    by_cases word : comment.hasWord = true <;> simp [agrees, word]
  exact ⟨decided, same, fun session => (told_eq_told_iff session _ _).trans same⟩

/-- A block comment without a star in its text. -/
def remark (text : List Char) (starless : '*' ∉ text) : Comment :=
  .block text fun closed => starless (closed.subset List.mem_cons_self)

/-- The count is not told where a note stands in front of a statement, and told of one of another
kind where the note names what it is not. -/
theorem commented_insert_is_untold :
    let note : Comment := .line [' ', 'n', 'o', 't', 'e'] (by decide)
    let naming := remark [' ', 'i', 'n', 's', 'e', 'r', 't', ' '] (by decide)
    let insertion := "INSERT INTO t VALUES (1)".toList
    let removal := "DROP TABLE t".toList
    tellsChanges insertion = true ∧ tellsChanges (note.chars ++ insertion) = false ∧
      tellsChanges removal = false ∧ tellsChanges (naming.chars ++ removal) = true := by
  decide

end SqlDesk.Sql
