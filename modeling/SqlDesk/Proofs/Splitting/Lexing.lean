import SqlDesk.Proofs.Splitting.Lossless

/-! Comments of a text, read through it character by character. Cutting takes the text line by line
and carries along only whether a comment is open, which is the same as to read on with literals that
end where their line ends. Literals of the language go on over the end of a line: where none does, a
lexer of the language finds the same comments, and where one does it may find others. -/

set_option autoImplicit false

namespace SqlDesk

namespace Splitting

inductive LexState where
  | code
  | quoted
  | lineComment
  | comment
  deriving DecidableEq, Repr

/-- What a character by itself does. `spans` tells whether literals go on over the end of a line. -/
def LexState.after (spans : Bool) : LexState → Char → LexState
  | .code, c => if c = '\'' then .quoted else .code
  | .quoted, c => if c = '\'' ∨ c = '\n' ∧ spans = false then .code else .quoted
  | .lineComment, c => if c = '\n' then .code else .lineComment
  | .comment, _ => .comment

/-- The state behind a text. Comments do not nest. -/
def lex (spans : Bool) : LexState → List Char → LexState
  | state, [] => state
  | .code, '-' :: '-' :: rest => lex spans .lineComment rest
  | .code, '/' :: '*' :: rest => lex spans .comment rest
  | .comment, '*' :: '/' :: rest => lex spans .code rest
  | state, c :: rest => lex spans (state.after spans c) rest

/-- The part of a text in front of the line with a number. -/
def before : Nat → List Char → List Char
  | 0, _ => []
  | _ + 1, [] => []
  | number + 1, c :: rest => c :: before (if c = '\n' then number else number + 1) rest

variable {raw rest : List Char}

@[simp] theorem lex_nil (spans : Bool) (state : LexState) : lex spans state [] = state := by
  cases state <;> rfl

@[simp] theorem before_zero (text : List Char) : before 0 text = [] := by
  cases text <;> rfl

theorem before_of_plain (plain : '\n' ∉ raw) (number : Nat) : before (number + 1) raw = raw := by
  induction raw with
  | nil => rfl
  | cons first raw ih =>
    simp only [List.mem_cons, not_or] at plain
    rw [before, if_neg (Ne.symm plain.1), ih plain.2]

theorem before_line (plain : '\n' ∉ raw) (number : Nat) (rest : List Char) :
    before (number + 1) (raw ++ '\n' :: rest) = raw ++ '\n' :: before number rest := by
  induction raw with
  | nil => rfl
  | cons first raw ih =>
    simp only [List.mem_cons, not_or] at plain
    rw [List.cons_append, before, if_neg (Ne.symm plain.1), ih plain.2, List.cons_append]

theorem lex_line (spans : Bool) (state : LexState) (raw rest : List Char) :
    lex spans state (raw ++ '\n' :: rest) =
      lex spans ((lex spans state raw).after spans '\n') rest := by
  fun_induction lex spans state raw with
  | case1 state => cases state <;> rfl
  | case2 raw ih => exact ih
  | case3 raw ih => exact ih
  | case4 raw ih => exact ih
  | case5 state first raw noLine noBlock noEnd ih =>
    -- A line feed completes no mark.
    rw [List.cons_append, lex, ih]
    · intro later isCode dash same
      obtain ⟨others, raw_eq⟩ := begins_of_append (by decide) same
      exact noLine others isCode dash raw_eq
    · intro later isCode slash same
      obtain ⟨others, raw_eq⟩ := begins_of_append (by decide) same
      exact noBlock others isCode slash raw_eq
    · intro later isComment star same
      obtain ⟨others, raw_eq⟩ := begins_of_append (by decide) same
      exact noEnd others isComment star raw_eq

/-! Within a line it is the same whether literals go on over its end. -/

theorem LexState.after_of_ne {c : Char} (other : c ≠ '\n') (spans : Bool) (state : LexState) :
    state.after spans c = state.after true c := by
  cases state <;> simp [after, other]

theorem lex_of_plain (plain : '\n' ∉ raw) (spans : Bool) (state : LexState) :
    lex spans state raw = lex true state raw := by
  fun_induction lex spans state raw with
  | case1 => rfl
  | case2 raw ih => exact ih (by simp_all)
  | case3 raw ih => exact ih (by simp_all)
  | case4 raw ih => exact ih (by simp_all)
  | case5 state first raw noLine noBlock noEnd ih =>
    simp only [List.mem_cons, not_or] at plain
    rw [ih plain.2, LexState.after_of_ne (Ne.symm plain.1), lex.eq_5 true _ _ _ noLine noBlock noEnd]

theorem lex_lineComment (plain : '\n' ∉ raw) (spans : Bool) :
    lex spans .lineComment raw = .lineComment := by
  induction raw with
  | nil => rfl
  | cons first raw ih =>
    simp only [List.mem_cons, not_or] at plain
    rw [lex, LexState.after, if_neg (Ne.symm plain.1), ih plain.2] <;> intros <;> contradiction

def ScanState.lexed : ScanState → LexState
  | .code => .code
  | .quoted => .quoted
  | .comment => .comment

theorem scan_comment_iff (plain : '\n' ∉ raw) (spans : Bool) (state : ScanState) :
    scan state raw = .comment ↔ lex spans state.lexed raw = .comment := by
  fun_induction scan state raw with
  | case1 state => cases state <;> simp [ScanState.lexed]
  | case2 raw ih => exact ih (by simp_all)
  | case3 first raw inside ih =>
    rw [ScanState.lexed, lex, LexState.after, ih (by simp_all), ScanState.lexed]
    all_goals simp_all
  | case4 first raw ih =>
    simp only [List.mem_cons, not_or] at plain
    rw [ih plain.2, ScanState.lexed, lex, LexState.after]
    · by_cases closes : first = '\'' <;> simp [closes, Ne.symm plain.1, ScanState.lexed]
    all_goals simp
  | case5 raw =>
    -- The scan gives up at two dashes and the lexer goes on through what is behind them; at the end of
    -- the line neither is in a comment.
    have hidden : lex spans .lineComment raw = .lineComment := lex_lineComment (by simp_all) spans
    simp [ScanState.lexed, lex, hidden]
  | case6 raw ih => exact ih (by simp_all)
  | case7 first raw noLine noBlock ih =>
    rw [ih (by simp_all), ScanState.lexed.eq_1, lex, LexState.after]
    · by_cases opens : first = '\'' <;> simp [opens, ScanState.lexed]
    all_goals simp_all

/-- How a line begins for one who knows only whether a comment is open. -/
def lineStart (inComment : Bool) : LexState := if inComment then .comment else .code

@[simp] theorem lineStart_comment (inComment : Bool) :
    decide (lineStart inComment = .comment) = inComment := by
  cases inComment <;> rfl

theorem after_newline (state : LexState) :
    state.after false '\n' = lineStart (state = .comment) := by
  cases state <;> rfl

theorem commentAfter_eq (plain : '\n' ∉ raw) (inComment : Bool) :
    commentAfter raw inComment = decide (lex false (lineStart inComment) raw = .comment) := by
  have same := scan_comment_iff plain false (if inComment then .comment else .code)
  have start : (if inComment then ScanState.comment else .code).lexed = lineStart inComment := by
    cases inComment <;> rfl
  rw [start] at same
  simp only [commentAfter, same]

theorem foldl_commentAfter_eq (text : List Char) (number : Nat) (inComment : Bool) :
    ((Text.lines text).take number).foldl (fun inComment line => commentAfter line inComment)
        inComment =
      decide (lex false (lineStart inComment) (before number text) = .comment) := by
  induction text using Text.line_induction generalizing number inComment with
  | last raw plain =>
    cases number with
    | zero => simp
    | succ number =>
      rw [before_of_plain plain, Text.lines_of_plain plain]
      split
      · rename_i none
        simp [none]
      · rw [List.take_succ_cons, List.take_nil, List.foldl_cons, List.foldl_nil,
          commentAfter_eq plain]
  | line raw rest plain ih =>
    cases number with
    | zero => simp
    | succ number =>
      -- The scan passes the line without its carriage return, the lexer passes all of it.
      rw [Text.lines_cons plain, List.take_succ_cons, List.foldl_cons, commentAfter_withoutReturn,
        commentAfter_eq plain, before_line plain, lex_line, after_newline]
      exact ih _ _

theorem commentBefore_iff (text : List Char) (number : Nat) :
    commentBefore (Text.lines text) number = true ↔
      lex false .code (before number text) = .comment := by
  rw [commentBefore, foldl_commentAfter_eq, decide_eq_true_iff]
  rfl

-- A literal left open at the end of the last line in front is open for one lexer and closed for the
-- other, but is a comment for neither; so nothing is asked of the line itself.
theorem lex_comment_iff (text : List Char) (number : Nat) (state : LexState)
    (closed : ∀ earlier < number, lex true state (before earlier text) ≠ .quoted) :
    lex false state (before number text) = .comment ↔
      lex true state (before number text) = .comment := by
  -- Both readings agree up to the end of a line, and there unless a quote is open.
  induction text using Text.line_induction generalizing number state with
  | last raw plain =>
    cases number with
    | zero => simp
    | succ number => rw [before_of_plain plain, lex_of_plain plain]
  | line raw rest plain ih =>
    cases number with
    | zero => simp
    | succ number =>
      rw [before_line plain, lex_line, lex_line, lex_of_plain plain]
      cases number with
      | zero => cases lex true state raw <;> simp [LexState.after]
      | succ number =>
        have later : ∀ earlier < number + 1,
            lex true ((lex true state raw).after true '\n') (before earlier rest) ≠ .quoted := by
          intro earlier within
          have open_ := closed (earlier + 1) (by omega)
          rwa [before_line plain, lex_line] at open_
        have ended : (lex true state raw).after false '\n' = (lex true state raw).after true '\n' := by
          have outside := later 0 (Nat.zero_lt_succ _)
          revert outside
          cases lex true state raw <;> simp [LexState.after]
        rw [ended]
        exact ih _ _ later

/-! What is seen of it in the stretches that are cut, and in the batches made of them. -/

/-- A line is left out of all stretches: it has been taken for a separator. -/
def Separates (text : String) (number : Nat) : Prop :=
  ∀ stretch ∈ stretches text, ¬stretch.Covers number

variable {text : String} {number : Nat} {line : List Char} {runs : Option Nat}

theorem separates_iff (found : (Text.lines text.toList)[number]? = some line)
    (form : separator? line = some runs) :
    Separates text number ↔ lex false .code (before number text.toList) ≠ .comment := by
  have out : Separates text number ↔ separatorAt? (Text.lines text.toList) number ≠ none := by
    rw [ne_eq, ← covered_iff (List.getElem?_eq_some_iff.mp found).1]
    simp only [Separates, not_exists, not_and]
  rw [out, ne_eq, ne_eq, ← commentBefore_iff, separatorAt?, found, Option.bind_some, form]
  split <;> simp_all

/-- A line that is not blank is left out of the stretches if the batches do not show it. -/
theorem uncovered_iff (few : (Text.lines text.toList).length ≤ Text.wordBound 32)
    (found : (Text.lines text.toList)[number]? = some line)
    (visible : Text.isAllBlank line = false) :
    (∀ batch ∈ splitBatches text, ¬batch.selection.Covers number) ↔ Separates text number := by
  have of := (stretches_of_text text).of (.inl rfl)
  constructor
  · intro out stretch member covers
    have filled : stretch.Filled :=
      ((of stretch member).exists_mem_iff _).mpr ⟨number, line, covers, found, visible⟩
    exact out stretch.batch (mem_flatMap_batches.mpr ⟨stretch, member, filled, rfl⟩)
      (((of stretch member).covers_batch_iff few filled number).mpr covers)
  · intro out batch member covers
    obtain ⟨stretch, among, filled, rfl⟩ := mem_flatMap_batches.mp member
    exact out stretch among (((of stretch among).covers_batch_iff few filled number).mp covers)

end Splitting

open Splitting

/-- A line that has the form of a separator is taken for one exactly if no comment is open for a lexer
whose literals end with their line; and where no literal goes on over the end of a line in front,
exactly if none is open for a lexer of the language. While lines have words for numbers, the batches
show which lines have been taken. -/
theorem separators_stand_outside_comments (text : String) {number : Nat} {line : List Char}
    {runs : Option Nat} (found : (Text.lines text.toList)[number]? = some line)
    (form : separator? line = some runs) :
    (Separates text number ↔ lex false .code (before number text.toList) ≠ .comment) ∧
      ((∀ earlier < number, lex true .code (before earlier text.toList) ≠ .quoted) →
        (Separates text number ↔ lex true .code (before number text.toList) ≠ .comment)) ∧
      ((Text.lines text.toList).length ≤ Text.wordBound 32 →
        ((∀ batch ∈ splitBatches text, ¬batch.selection.Covers number) ↔
          Separates text number)) := by
  have out := separates_iff found form
  refine ⟨out, ?_, fun few => uncovered_iff few found (visible_of_separator form)⟩
  intro closed
  rw [out, ne_eq, lex_comment_iff _ _ _ closed]

/-- Marks within literals and behind two dashes, and a literal left open on the last line in front. -/
theorem separators_stand_outside_comments_marked :
    (Text.lines "'/*'--/*\n/*'\nGO\n*/'\ngo 2".toList)[4]? = some ['g', 'o', ' ', '2'] ∧
      separator? ['g', 'o', ' ', '2'] = some (some 2) ∧
      (∀ earlier < 4, lex true .code (before earlier "'/*'--/*\n/*'\nGO\n*/'\ngo 2".toList) ≠
        .quoted) ∧
      Separates "'/*'--/*\n/*'\nGO\n*/'\ngo 2" 4 ∧
      ∀ batch ∈ splitBatches "'/*'--/*\n/*'\nGO\n*/'\ngo 2", ¬batch.selection.Covers 4 := by
  have found : (Text.lines "'/*'--/*\n/*'\nGO\n*/'\ngo 2".toList)[4]? =
      some ['g', 'o', ' ', '2'] := by decide +kernel
  have form : separator? ['g', 'o', ' ', '2'] = some (some 2) := by decide +kernel
  have closed : ∀ earlier < 4,
      lex true .code (before earlier "'/*'--/*\n/*'\nGO\n*/'\ngo 2".toList) ≠ .quoted := by
    decide +kernel
  obtain ⟨-, separates, shown⟩ := separators_stand_outside_comments _ found form
  have taken := (separates closed).mpr (by decide +kernel)
  exact ⟨found, form, closed, taken, (shown (by decide +kernel)).mpr taken⟩

/-- A literal over three lines holds the mark of a comment. For a lexer of the language the line GO
behind it stands in code, yet it is taken for part of a comment, and of the only batch. -/
theorem separator_lost_behind_literal :
    (Text.lines "SELECT '\n/*\n'\nGO\nSELECT 1".toList)[3]? = some ['G', 'O'] ∧
      separator? ['G', 'O'] = some none ∧
      splitBatches "SELECT '\n/*\n'\nGO\nSELECT 1" =
        [⟨"SELECT '\n/*\n'\nGO\nSELECT 1", ⟨0, 0, 4, 8⟩, none⟩] ∧
      ¬(Separates "SELECT '\n/*\n'\nGO\nSELECT 1" 3 ↔
        lex true .code (before 3 "SELECT '\n/*\n'\nGO\nSELECT 1".toList) ≠ .comment) := by
  have cut : stretches "SELECT '\n/*\n'\nGO\nSELECT 1" =
      [⟨0, Text.lines "SELECT '\n/*\n'\nGO\nSELECT 1".toList, none⟩] := by decide +kernel
  have outside : lex true .code (before 3 "SELECT '\n/*\n'\nGO\nSELECT 1".toList) = .code := by
    decide +kernel
  refine ⟨by decide +kernel, by decide +kernel, by decide +kernel, ?_⟩
  intro agree
  have out := agree.mpr (by rw [outside]; decide)
  exact out _ (cut ▸ List.mem_singleton_self _) ⟨by decide, by decide +kernel⟩

end SqlDesk
