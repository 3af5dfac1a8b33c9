import Mathlib.Data.List.TakeWhile
import SqlDesk.Text.Layout

/-! A text, line by line. A text either has no line feed or begins with a line that has one, and this
is how `lines` takes it apart; what is to be shown of all texts is shown along the same two cases. The
carriage return that a line loses at its end is a blank and makes no word. -/

set_option autoImplicit false

namespace SqlDesk.Text

variable {raw rest : List Char}

theorem linesFrom_append (plain : '\n' ∉ raw) (pending rest : List Char) :
    linesFrom pending (raw ++ rest) = linesFrom (raw.reverse ++ pending) rest := by
  induction raw generalizing pending with
  | nil => rfl
  | cons first raw ih =>
    simp only [List.mem_cons, not_or] at plain
    have other : first = '\n' → False := fun same => plain.1 same.symm
    rw [List.cons_append, linesFrom.eq_3 _ _ _ other, ih plain.2]
    simp

theorem lines_of_plain (plain : '\n' ∉ raw) : lines raw = if raw = [] then [] else [raw] := by
  have whole := linesFrom_append plain [] []
  rw [List.append_nil, List.append_nil] at whole
  simp [lines, whole, linesFrom]

theorem lines_cons (plain : '\n' ∉ raw) (rest : List Char) :
    lines (raw ++ '\n' :: rest) = withoutReturn raw :: lines rest := by
  rw [lines, linesFrom_append plain, linesFrom, List.append_nil, List.reverse_reverse]
  rfl

/-- A text is its last line, or a line and the text behind it. -/
@[elab_as_elim]
theorem line_induction {motive : List Char → Prop}
    (last : ∀ raw, '\n' ∉ raw → motive raw)
    (line : ∀ raw rest, '\n' ∉ raw → motive rest → motive (raw ++ '\n' :: rest))
    (text : List Char) : motive text := by
  -- What has been passed of the line under way goes along in front of the text.
  suffices passed : ∀ front, '\n' ∉ front → motive (front ++ text) from passed [] List.not_mem_nil
  induction text with
  | nil => exact fun front plain => last _ (by simpa using plain)
  | cons first rest ih =>
    intro front plain
    by_cases ends : first = '\n'
    · subst ends
      exact line front rest plain (ih [] List.not_mem_nil)
    · have longer := ih (front ++ [first]) (by simp [plain, Ne.symm ends])
      rwa [List.append_assoc, List.singleton_append] at longer

theorem withoutReturn_cases (raw : List Char) :
    withoutReturn raw = raw ∨ raw = withoutReturn raw ++ ['\r'] := by
  unfold withoutReturn
  split
  · rename_i ends
    obtain ⟨front, same⟩ := List.getLast?_eq_some_iff.mp ends
    right
    rw [same, List.dropLast_concat]
  · exact .inl rfl

theorem withoutReturn_of_visible (visible : raw.getLast? ≠ some '\r') : withoutReturn raw = raw :=
  if_neg visible

theorem mem_of_mem_withoutReturn {c : Char} (member : c ∈ withoutReturn raw) : c ∈ raw := by
  rcases withoutReturn_cases raw with same | longer
  · rwa [same] at member
  · rw [longer]
    exact List.mem_append_left _ member

theorem newline_not_mem_lines {text line : List Char} (member : line ∈ lines text) :
    '\n' ∉ line := by
  induction text using line_induction with
  | last raw plain =>
    rw [lines_of_plain plain] at member
    split at member
    · cases member
    · rwa [List.mem_singleton.mp member]
  | line raw rest plain ih =>
    rw [lines_cons plain] at member
    rcases List.mem_cons.mp member with rfl | later
    · exact fun inside => plain (mem_of_mem_withoutReturn inside)
    · exact ih later

/-! What a text comes to whose first part ends in something visible. -/

theorem lines_append {text : List Char} (ends : ∃ last ∈ text.getLast?, last ≠ '\r' ∧ last ≠ '\n')
    (rest : List Char) : lines (text ++ '\n' :: rest) = lines text ++ lines rest := by
  -- Line by line, as the other text begins only behind the last one.
  induction text using line_induction with
  | last raw plain =>
    obtain ⟨last, isLast, visible, -⟩ := ends
    have some : raw ≠ [] := by
      rintro rfl
      cases isLast
    have kept : withoutReturn raw = raw := by
      apply withoutReturn_of_visible
      rw [isLast]
      simpa using visible
    rw [lines_cons plain, lines_of_plain plain, if_neg some, kept]
    rfl
  | line raw later plain ih =>
    obtain ⟨last, isLast, visible, other⟩ := ends
    rw [List.append_assoc, List.cons_append, lines_cons plain, lines_cons plain, ih, List.cons_append]
    cases later with
    | nil => exact absurd (by simpa using isLast) (Ne.symm other)
    | cons first later => exact ⟨last, by simpa [List.getLast?_append] using isLast, visible, other⟩

/-! Words and blanks without the carriage return. -/

theorem words_concat_blank {c : Char} (blank : isBlank c = true) (line : List Char) :
    words (line ++ [c]) = words line := by
  fun_induction words line with
  | case1 => simp [words, blank]
  | case2 first rest isBlank ih => simp [words, isBlank, ih]
  | case3 first rest visible ih =>
    rw [List.cons_append, words, if_neg visible, List.takeWhile_append, List.dropWhile_append]
    -- The word under way either ends in the line, or is the rest of the line.
    by_cases goesOn : ∀ other ∈ rest, (!isBlank other) = true
    · have all : rest.takeWhile (!isBlank ·) = rest := List.takeWhile_eq_self_iff.mpr goesOn
      have nothing : rest.dropWhile (!isBlank ·) = [] := List.dropWhile_eq_nil_iff.mpr goesOn
      simp [all, nothing, blank, words]
    · have some : rest.dropWhile (!isBlank ·) ≠ [] :=
        fun none => goesOn (List.dropWhile_eq_nil_iff.mp none)
      have shorter : (rest.takeWhile (!isBlank ·)).length ≠ rest.length := by
        intro same
        have whole := (List.takeWhile_prefix (!isBlank ·) (l := rest)).eq_of_length same
        exact goesOn (List.takeWhile_eq_self_iff.mp whole)
      rw [if_neg shorter, if_neg (by simpa using some), ih]

theorem words_withoutReturn (raw : List Char) : words (withoutReturn raw) = words raw := by
  rcases withoutReturn_cases raw with same | longer
  · rw [same]
  · have kept := words_concat_blank (c := '\r') (by decide) (withoutReturn raw)
    rw [← longer] at kept
    exact kept.symm

theorem isAllBlank_withoutReturn (raw : List Char) :
    isAllBlank (withoutReturn raw) = isAllBlank raw := by
  rcases withoutReturn_cases raw with same | longer
  · rw [same]
  · have kept : isAllBlank (withoutReturn raw ++ ['\r']) = isAllBlank (withoutReturn raw) := by
      have blank : isBlank '\r' = true := by decide
      simp [isAllBlank, blank]
    rw [← longer] at kept
    exact kept.symm

end SqlDesk.Text
