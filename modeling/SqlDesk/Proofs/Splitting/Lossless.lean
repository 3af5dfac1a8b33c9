import Mathlib.Logic.ExistsUnique
import SqlDesk.Batch.Message
import SqlDesk.Proofs.Splitting.Stretch

/-! Cutting a text loses nothing but blank stretches and the separators. Batches carry their place in
the text, and the line of an error that a database tells within a batch is told as the line of the
whole text: lines of a batch hold no line feed, so those that the database counts are the ones that
were joined. -/

set_option autoImplicit false

namespace SqlDesk

/-- The lines that a selection takes in, whole. -/
def Selection.Covers (selection : Selection) (number : Nat) : Prop :=
  selection.startLine ≤ number ∧ number ≤ selection.endLine

namespace Splitting

/-- What is cut from lines leaves out nothing but separators and blank stretches. -/
structure Lossless (lines : List (List Char)) (batches : List BatchText) : Prop where
  increasing : batches.Pairwise fun first second =>
    first.selection.endLine < second.selection.startLine
  within : ∀ batch ∈ batches, batch.selection.startLine ≤ batch.selection.endLine ∧
    batch.selection.endLine < lines.length
  sql : ∀ batch ∈ batches, batch.sql = String.ofList (Text.joinLines
    (lines.extract batch.selection.startLine (batch.selection.endLine + 1)))
  /-- A batch ends behind its last line; the count of characters is told as a word. -/
  columns : ∀ batch ∈ batches, batch.selection.startColumn = 0 ∧
    ∃ last, lines[batch.selection.endLine]? = some last ∧
      batch.selection.endColumn = last.length % Text.wordBound 32
  covered : ∀ number line, lines[number]? = some line → Text.isAllBlank line = false →
    separatorAt? lines number = none → ∃! batch, batch ∈ batches ∧ batch.selection.Covers number
  unbroken : ∀ batch ∈ batches, ∀ number, batch.selection.Covers number →
    separatorAt? lines number = none
  counted : ∀ batch ∈ batches,
    separatorAt? lines (batch.selection.endLine + 1) = some batch.runs ∨
      batch.selection.endLine + 1 = lines.length ∧ batch.runs = none
  /-- Each batch is a whole stretch, and each stretch that is not blank is a batch. -/
  stretches : ∀ start stop,
    (∃ batch ∈ batches, batch.selection.startLine = start ∧ batch.selection.endLine + 1 = stop) ↔
      ∃ stretch : Stretch, stretch.Of lines ∧ stretch.Filled ∧ stretch.start = start ∧
        stretch.stop = stop

namespace Stretch

variable {lines : List (List Char)} {stretch : Stretch}

theorem Of.covers_batch_iff (of : stretch.Of lines) (few : lines.length ≤ Text.wordBound 32)
    (filled : stretch.Filled) (number : Nat) :
    stretch.batch.selection.Covers number ↔ stretch.Covers number := by
  have start := of.startLine_batch few filled
  have stop := of.endLine_batch few filled
  unfold Selection.Covers Covers
  omega

theorem Of.extract_batch (of : stretch.Of lines) (few : lines.length ≤ Text.wordBound 32)
    (filled : stretch.Filled) :
    lines.extract stretch.batch.selection.startLine (stretch.batch.selection.endLine + 1) =
      stretch.lines := by
  rw [of.startLine_batch few filled, of.endLine_batch few filled, ← of.taken]

theorem Of.last_batch (of : stretch.Of lines) (few : lines.length ≤ Text.wordBound 32)
    (filled : stretch.Filled) :
    ∃ last, lines[stretch.batch.selection.endLine]? = some last ∧
      stretch.batch.selection.endColumn = last.length % Text.wordBound 32 := by
  have stops := of.endLine_batch few filled
  have long := length_pos_of_filled filled
  have some : stretch.lines ≠ [] := List.ne_nil_of_length_pos long
  have last := List.getLast?_eq_some_getLast some
  refine ⟨stretch.lines.getLast some, ?_, ?_⟩
  · have place : stretch.batch.selection.endLine = stretch.start + (stretch.lines.length - 1) := by
      unfold stop at stops
      omega
    rw [List.getLast?_eq_getElem?, of.getElem?_lines, if_pos (by omega)] at last
    rw [place, last]
  · simp only [batch, Selection.placed, List.getLastD_eq_getLast?, last, Option.getD_some]

end Stretch

section

variable {lines : List (List Char)} {stretches : List Stretch}

theorem Stretches.mem_of_filled (cut : Stretches lines 0 stretches) {stretch : Stretch}
    (of : stretch.Of lines) (filled : stretch.Filled) : stretch ∈ stretches := by
  obtain ⟨number, line, covers, -⟩ := (of.exists_mem_iff _).mp filled
  have within : number < lines.length := Nat.lt_of_lt_of_le covers.2 of.within
  obtain ⟨other, member, shared⟩ :=
    cut.covered (Nat.zero_le number) within (of.unbroken number covers)
  rw [of.eq (cut.of (.inl rfl) other member) covers shared]
  exact member

theorem mem_flatMap_batches {cut : BatchText} :
    cut ∈ stretches.flatMap Stretch.batches ↔
      ∃ stretch ∈ stretches, stretch.Filled ∧ cut = stretch.batch := by
  simp only [List.mem_flatMap, Stretch.mem_batches_iff]

theorem Stretches.lossless (cut : Stretches lines 0 stretches)
    (few : lines.length ≤ Text.wordBound 32) :
    Lossless lines (stretches.flatMap Stretch.batches) := by
  have of := cut.of (.inl rfl)
  -- Whatever is said of all batches is said of the stretches that hold something.
  have each {holds : BatchText → Prop} (held : ∀ stretch : Stretch, stretch.Of lines →
      stretch.Filled → holds stretch.batch) :
      ∀ batch ∈ stretches.flatMap Stretch.batches, holds batch := by
    intro batch member
    obtain ⟨stretch, among, filled, rfl⟩ := mem_flatMap_batches.1 member
    exact held stretch (of stretch among) filled
  constructor
  case increasing =>
    rw [List.pairwise_flatMap]
    constructor
    · intro stretch _
      unfold Stretch.batches
      split
      · exact .nil
      · exact List.pairwise_singleton _ _
    · refine cut.increasing.imp_of_mem ?_
      intro first second among later before one member other follows
      obtain ⟨filled, rfl⟩ := Stretch.mem_batches_iff.1 member
      obtain ⟨full, rfl⟩ := Stretch.mem_batches_iff.1 follows
      have stop := (of first among).endLine_batch few filled
      have start := (of second later).startLine_batch few full
      omega
  case within =>
    refine each fun stretch of filled => ?_
    have start := of.startLine_batch few filled
    have stops := of.endLine_batch few filled
    have within := of.within
    have long := Stretch.length_pos_of_filled filled
    unfold Stretch.stop at stops within
    omega
  case sql =>
    refine each fun stretch of filled => ?_
    rw [of.extract_batch few filled]
    rfl
  case columns => exact each fun stretch of filled => ⟨rfl, of.last_batch few filled⟩
  case covered =>
    intro number line found holds plain
    obtain ⟨stretch, among, covers⟩ :=
      cut.covered (Nat.zero_le number) (List.getElem?_eq_some_iff.1 found).1 plain
    have filled : stretch.Filled :=
      ((of stretch among).exists_mem_iff _).mpr ⟨number, line, covers, found, holds⟩
    refine ⟨stretch.batch, ⟨mem_flatMap_batches.2 ⟨stretch, among, filled, rfl⟩,
      ((of stretch among).covers_batch_iff few filled number).2 covers⟩, ?_⟩
    rintro other ⟨member, shared⟩
    obtain ⟨another, within, full, rfl⟩ := mem_flatMap_batches.1 member
    have both := ((of another within).covers_batch_iff few full number).1 shared
    rw [(of another within).eq (of stretch among) both covers]
  case unbroken =>
    exact each fun stretch of filled number covers =>
      of.unbroken number ((of.covers_batch_iff few filled number).1 covers)
  case counted =>
    refine each fun stretch of filled => ?_
    rw [of.endLine_batch few filled]
    exact of.ends
  case stretches =>
    intro start stop
    constructor
    · rintro ⟨batch, member, rfl, rfl⟩
      obtain ⟨stretch, among, filled, rfl⟩ := mem_flatMap_batches.1 member
      exact ⟨stretch, of stretch among, filled,
        ((of stretch among).startLine_batch few filled).symm,
        ((of stretch among).endLine_batch few filled).symm⟩
    · rintro ⟨stretch, whole, filled, rfl, rfl⟩
      exact ⟨stretch.batch,
        mem_flatMap_batches.2 ⟨stretch, cut.mem_of_filled whole filled, filled, rfl⟩,
        whole.startLine_batch few filled, whole.endLine_batch few filled⟩

end

theorem lossless_splitBatches {text : String}
    (few : (Text.lines text.toList).length ≤ Text.wordBound 32) :
    Lossless (Text.lines text.toList) (splitBatches text) :=
  (stretches_of_text text).lossless few

theorem Lossless.line_of_sql {text : List Char} {batches : List BatchText}
    (lossless : Lossless (Text.lines text) batches) {batch : BatchText} (member : batch ∈ batches)
    {place : Nat} {line : List Char} (found : (batch.sql.toList.splitOn '\n')[place]? = some line) :
    (Text.lines text)[batch.selection.startLine + place]? = some line ∧
      batch.selection.Covers (batch.selection.startLine + place) := by
  obtain ⟨ordered, within⟩ := lossless.within batch member
  have plain : ∀ other ∈ (Text.lines text).extract batch.selection.startLine
      (batch.selection.endLine + 1), '\n' ∉ other := by
    intro other among
    rw [List.extract_eq_take_drop] at among
    exact Text.newline_not_mem_lines (List.mem_of_mem_drop (List.mem_of_mem_take among))
  have some : (Text.lines text).extract batch.selection.startLine (batch.selection.endLine + 1) ≠
      [] := by
    apply List.ne_nil_of_length_pos
    simp only [List.extract_eq_take_drop, List.length_take, List.length_drop]
    omega
  rw [lossless.sql batch member, String.toList_ofList, Text.joinLines,
    List.splitOn_intercalate '\n' plain some, List.extract_eq_take_drop, List.getElem?_take] at found
  split at found
  · rw [List.getElem?_drop] at found
    refine ⟨found, ?_⟩
    unfold Selection.Covers
    omega
  · cases found

end Splitting

namespace DriverMessage

def opening (message : DriverMessage) : String :=
  let procedure := match message.procedure with
    | none | some "" => ""
    | some name => s!"Procedure {name}, "
  s!"Msg {message.code}, Level {message.severity}, State {message.state}, {procedure}"

theorem errorText_eq (message : DriverMessage) (startLine : Nat) :
    message.errorText startLine =
      message.opening ++ "Line " ++ toString (message.lineFrom startLine) ++ "\n" ++
        message.message := rfl

end DriverMessage

/-- The batches of a text keep all of its lines but separators and blank stretches, each in its
place; the column where a batch ends is the length of its last line, told as a word. An error on a
line of a batch, counted from one, is told with the number of that same line in the text. -/
theorem batches_keep_lines (text : String)
    (few : (Text.lines text.toList).length < Text.wordBound 32) :
    Splitting.Lossless (Text.lines text.toList) (splitBatches text) ∧
      ∀ batch ∈ splitBatches text, ∀ (message : DriverMessage) (line : List Char),
        0 < message.line →
        (batch.sql.toList.splitOn '\n')[message.line - 1]? = some line →
        ∃ number, (Text.lines text.toList)[number]? = some line ∧
          batch.selection.Covers number ∧ number + 1 = batch.selection.startLine + message.line ∧
          message.errorText batch.selection.startLine =
            message.opening ++ "Line " ++ toString (number + 1) ++ "\n" ++ message.message := by
  have lossless := Splitting.lossless_splitBatches (Nat.le_of_lt few)
  refine ⟨lossless, ?_⟩
  intro batch member message line counted found
  obtain ⟨same, covers⟩ := lossless.line_of_sql member found
  refine ⟨_, same, covers, by omega, ?_⟩
  -- The number of a line of the text is a word, so the sum is told as it is.
  have within := (lossless.within batch member).2
  have word : message.lineFrom batch.selection.startLine =
      batch.selection.startLine + (message.line - 1) + 1 := by
    unfold Selection.Covers at covers
    rw [DriverMessage.lineFrom, Nat.max_eq_left counted, Nat.mod_eq_of_lt (by omega)]
    omega
  rw [message.errorText_eq, word]

/-- A blank stretch, a comment over a line GO, two separators in a row and both kinds of line ends. -/
def mixedText : String :=
  "\n \nGO 9\r\n select 1\r\n/* GO\r\nGO\r\n*/\r\ngo 2\r\nGO\nselect 'é'\n\n"

def mixedError : DriverMessage := ⟨1, 16, 1, 3, none, "incomplete input"⟩

theorem batches_keep_lines_mixed :
    (Text.lines mixedText.toList).length < Text.wordBound 32 ∧
      splitBatches mixedText =
        [⟨" select 1\n/* GO\nGO\n*/", ⟨3, 0, 6, 2⟩, some 2⟩, ⟨"select 'é'\n", ⟨9, 0, 10, 0⟩, none⟩] ∧
      (Text.lines mixedText.toList)[5]? = some ['G', 'O'] ∧
      mixedError.errorText 3 = "Msg 1, Level 16, State 1, Line 6\nincomplete input" := by
  have few : (Text.lines mixedText.toList).length < Text.wordBound 32 := by decide +kernel
  have cut : splitBatches mixedText =
      [⟨" select 1\n/* GO\nGO\n*/", ⟨3, 0, 6, 2⟩, some 2⟩,
        ⟨"select 'é'\n", ⟨9, 0, 10, 0⟩, none⟩] := by decide +kernel
  obtain ⟨-, errors⟩ := batches_keep_lines mixedText few
  rw [cut] at errors
  obtain ⟨number, found, -, place, told⟩ :=
    errors _ List.mem_cons_self mixedError ['G', 'O'] (by decide) (by decide +kernel)
  have fifth : number = 5 := by simpa [mixedError] using place
  subst fifth
  exact ⟨few, cut, found, told.trans (by decide +kernel)⟩

end SqlDesk
