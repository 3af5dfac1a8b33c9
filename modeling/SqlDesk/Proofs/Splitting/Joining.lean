import SqlDesk.Proofs.Splitting.Lossless

/-! What comes of texts that are joined. A line GO between two texts closes what the first one has left
and begins the second one afresh, so the batches of the whole are those of both texts. The text of a
batch is joined from lines of the whole and comes apart into nearly the same lines, of which none is a
separator that counts. -/

set_option autoImplicit false

namespace SqlDesk

/-- The same batch, where it stands a number of lines further down. -/
def BatchText.lowered (count : Nat) (batch : BatchText) : BatchText where
  sql := batch.sql
  selection := ⟨(batch.selection.startLine + count) % Text.wordBound 32,
    batch.selection.startColumn, (batch.selection.endLine + count) % Text.wordBound 32,
    batch.selection.endColumn⟩
  runs := batch.runs

namespace Splitting

def Stretch.lowered (count : Nat) (stretch : Stretch) : Stretch :=
  { stretch with start := stretch.start + count }

theorem Stretch.batches_lowered (count : Nat) (stretch : Stretch) :
    (stretch.lowered count).batches = stretch.batches.map (BatchText.lowered count) := by
  have down (place : Nat) : Selection.placed (place + count) =
      (Selection.placed place + count) % Text.wordBound 32 := (Nat.mod_add_mod _ _ _).symm
  unfold batches lowered
  split
  · rfl
  · simp only [batch, BatchText.lowered, List.map_cons, List.map_nil, ← down, Nat.add_right_comm]

theorem cutLines_lowered (pending : List (List Char)) (start : Nat) (inComment : Bool)
    (lines : List (List Char)) (count : Nat) :
    cutLines pending (start + count) inComment lines =
      (cutLines pending start inComment lines).map (Stretch.lowered count) := by
  induction lines generalizing pending start inComment with
  | nil => rfl
  | cons line rest ih =>
    unfold cutLines
    split
    · have next : start + count + pending.length + 1 = start + pending.length + 1 + count := by
        omega
      rw [next, ih]
      rfl
    · exact ih _ _ _

-- Separators of the first part are passed as the lines of a scan would be, since a separator outside
-- comments opens none; so one hypothesis about the scan of all lines carries through the induction.
theorem cutLines_append {line : List Char} (separates : separator? line = some none)
    {first : List (List Char)} (second pending : List (List Char)) (start : Nat)
    {inComment : Bool}
    (closed : first.foldl (fun inComment line => commentAfter line inComment) inComment = false) :
    cutLines pending start inComment (first ++ line :: second) =
      cutLines pending start inComment first ++
        cutLines [] (start + pending.length + first.length + 1) false second := by
  induction first generalizing pending start inComment with
  | nil =>
    have outside : inComment = false := closed
    subst outside
    simp [cutLines, separates]
  | cons earlier rest ih =>
    rw [List.foldl_cons] at closed
    rw [List.cons_append]
    -- A separator ends what is pending, and any other line joins it.
    cases counts : if inComment then none else separator? earlier with
    | some runs =>
      have outside : inComment = false ∧ separator? earlier = some runs := by
        split at counts <;> simp_all
      obtain ⟨rfl, same⟩ := outside
      rw [commentAfter_of_separator same] at closed
      have place : start + pending.length + 1 + ([] : List (List Char)).length + rest.length + 1 =
          start + pending.length + (earlier :: rest).length + 1 := by
        simp only [List.length_nil, List.length_cons]
        omega
      simp only [cutLines, counts, ih [] _ closed, List.cons_append, place]
    | none =>
      have place : start + (earlier :: pending).length + rest.length + 1 =
          start + pending.length + (earlier :: rest).length + 1 := by
        simp only [List.length_cons]
        omega
      simp only [cutLines, counts, ih (earlier :: pending) _ closed, place]

theorem stretches_of_sequence {first second : String}
    (ends : ∃ last ∈ first.toList.getLast?, last ≠ '\r' ∧ last ≠ '\n')
    (closed : commentBefore (Text.lines first.toList) (Text.lines first.toList).length = false) :
    stretches (first ++ "\nGO\n" ++ second) = stretches first ++
      (stretches second).map (Stretch.lowered ((Text.lines first.toList).length + 1)) := by
  have cut : (first ++ "\nGO\n" ++ second).toList =
      first.toList ++ '\n' :: (['G', 'O'] ++ '\n' :: second.toList) := by
    simp
  have lines : Text.lines (first ++ "\nGO\n" ++ second).toList =
      Text.lines first.toList ++ ['G', 'O'] :: Text.lines second.toList := by
    rw [cut, Text.lines_append ends, Text.lines_cons (by decide)]
    rfl
  rw [commentBefore, List.take_length] at closed
  have behind := cutLines_lowered [] 0 false (Text.lines second.toList)
    ((Text.lines first.toList).length + 1)
  rw [stretches, lines, cutLines_append (by decide +kernel) _ _ _ closed]
  simp only [List.length_nil, Nat.zero_add, Nat.add_zero] at behind ⊢
  rw [behind]
  rfl

/-- A batch of lines whose numbers are words goes down by as many lines as it is lowered. -/
theorem lowered_of_fits {text : String} {count : Nat} {batch : BatchText}
    (member : batch ∈ splitBatches text)
    (fits : (Text.lines text.toList).length + count ≤ Text.wordBound 32) :
    (batch.lowered count).selection = ⟨batch.selection.startLine + count,
      batch.selection.startColumn, batch.selection.endLine + count, batch.selection.endColumn⟩ := by
  have few := Nat.le_trans (Nat.le_add_right _ count) fits
  obtain ⟨ordered, within⟩ := (lossless_splitBatches few).within batch member
  have start : (batch.selection.startLine + count) % Text.wordBound 32 =
      batch.selection.startLine + count := Nat.mod_eq_of_lt (by omega)
  have stop : (batch.selection.endLine + count) % Text.wordBound 32 =
      batch.selection.endLine + count := Nat.mod_eq_of_lt (by omega)
  rw [BatchText.lowered, start, stop]

end Splitting

/-- Cutting takes a line GO between two texts apart: where the first one leaves no comment open and
has no line end of its own behind it, its batches come out, and behind them those of the second, as
many lines further down as stand in front. The sums are words; none wraps while there are no more
lines than words. -/
theorem batches_of_sequence (first second : String)
    (ends : ∃ last ∈ first.toList.getLast?, last ≠ '\r' ∧ last ≠ '\n')
    (closed : Splitting.commentBefore (Text.lines first.toList)
      (Text.lines first.toList).length = false) :
    let count := (Text.lines first.toList).length + 1
    splitBatches (first ++ "\nGO\n" ++ second) =
        splitBatches first ++ (splitBatches second).map (BatchText.lowered count) ∧
      ((Text.lines second.toList).length + count ≤ Text.wordBound 32 →
        ∀ batch ∈ splitBatches second, (batch.lowered count).selection =
          ⟨batch.selection.startLine + count, batch.selection.startColumn,
            batch.selection.endLine + count, batch.selection.endColumn⟩) := by
  intro count
  refine ⟨?_, fun fits batch member => Splitting.lowered_of_fits member fits⟩
  rw [splitBatches, Splitting.stretches_of_sequence ends closed, List.flatMap_append,
    List.flatMap_map, splitBatches, splitBatches, List.map_flatMap]
  simp only [Splitting.Stretch.batches_lowered, count]

/-- A comment over a line GO, two separators in a row and a blank stretch, and in front of all of it
a text with both kinds of line ends and a mark of a comment that is none. -/
theorem batches_of_sequence_mixed :
    (∃ last ∈ "/*\r\nGO\r\n*/ go\r\nGO 2\n--/*".toList.getLast?, last ≠ '\r' ∧ last ≠ '\n') ∧
      splitBatches ("/*\r\nGO\r\n*/ go\r\nGO 2\n--/*" ++ "\nGO\n" ++ "GO\n\n \nGO 3\n1\r\nGO 7") =
        [⟨"/*\nGO\n*/ go", ⟨0, 0, 2, 5⟩, some 2⟩, ⟨"--/*", ⟨4, 0, 4, 4⟩, none⟩,
          ⟨"1", ⟨10, 0, 10, 1⟩, some 7⟩] := by
  have ends : ∃ last ∈ "/*\r\nGO\r\n*/ go\r\nGO 2\n--/*".toList.getLast?,
      last ≠ '\r' ∧ last ≠ '\n' := ⟨'*', by decide, by decide, by decide⟩
  refine ⟨ends, ?_⟩
  rw [(batches_of_sequence _ _ ends (by decide +kernel)).1]
  decide +kernel

/-! A batch that is cut again. A carriage return left at the end of one of its lines goes, and an empty
line at the end is no line any more; neither makes a separator or opens a comment. Every batch begins
outside comments, so the separators kept in it stay in the comments that hid them. -/

namespace Text

theorem lines_joinLines (first : List (List Char)) (last : List Char)
    (plain : ∀ line ∈ first ++ [last], '\n' ∉ line) :
    lines (joinLines (first ++ [last])) = first.map withoutReturn ++ lines last := by
  induction first with
  | nil => simp [joinLines, List.intercalate]
  | cons line rest ih =>
    have here := plain line List.mem_cons_self
    have later := ih fun other member => plain other (List.mem_cons_of_mem _ member)
    have joined : joinLines (line :: rest ++ [last]) =
        line ++ '\n' :: joinLines (rest ++ [last]) := by
      cases rest <;> simp [joinLines, List.intercalate_cons_cons]
    rw [joined, lines_cons here, later, List.map_cons, List.cons_append]

variable {parts : List (List Char)}

theorem part_of_line (plain : ∀ line ∈ parts, '\n' ∉ line) {place : Nat} {line : List Char}
    (found : (lines (joinLines parts))[place]? = some line) :
    ∃ raw, parts[place]? = some raw ∧ (line = raw ∨ line = withoutReturn raw) := by
  rcases List.eq_nil_or_concat parts with rfl | ⟨first, last, rfl⟩
  · cases found
  · rw [List.concat_eq_append] at plain found ⊢
    rw [lines_joinLines first last plain] at found
    -- All parts but the last one have a line feed behind them, and so lose a carriage return.
    by_cases before : place < first.length
    · rw [List.getElem?_append_left (by simpa using before), List.getElem?_map] at found
      obtain ⟨raw, same, rfl⟩ := Option.map_eq_some_iff.mp found
      exact ⟨raw, by rw [List.getElem?_append_left before, same], .inr rfl⟩
    · rw [List.getElem?_append_right (by simpa using before), List.length_map,
        lines_of_plain (plain last (by simp))] at found
      split at found
      · cases found
      · refine ⟨line, ?_, .inl rfl⟩
        rw [List.getElem?_append_right (Nat.le_of_not_lt before), found]

theorem exists_visible_line (plain : ∀ line ∈ parts, '\n' ∉ line)
    (filled : ∃ line ∈ parts, isAllBlank line = false) :
    ∃ line ∈ lines (joinLines parts), isAllBlank line = false := by
  obtain ⟨line, member, visible⟩ := filled
  rcases List.eq_nil_or_concat parts with rfl | ⟨first, last, rfl⟩
  · cases member
  · rw [List.concat_eq_append] at plain member ⊢
    rw [lines_joinLines first last plain]
    rcases List.mem_append.mp member with before | isLast
    · refine ⟨withoutReturn line, List.mem_append_left _ (List.mem_map_of_mem before), ?_⟩
      rw [isAllBlank_withoutReturn, visible]
    · obtain rfl := List.mem_singleton.mp isLast
      -- The last line is left out only if nothing is in it.
      have some : line ≠ [] := by
        rintro rfl
        cases visible
      refine ⟨line, List.mem_append_right _ ?_, visible⟩
      rw [lines_of_plain (plain line member), if_neg some]
      exact List.mem_singleton_self _

end Text

namespace Splitting

variable {lines : List (List Char)} {stretch : Stretch}

theorem Stretch.Of.outside (of : stretch.Of lines) : commentBefore lines stretch.start = false := by
  rcases of.begins with first | ⟨before, runs, next, separated⟩
  · rw [first]
    rfl
  · rw [next, commentBefore_of_separatorAt? separated]

/-- The lines of a stretch, as they are found again in the text of its batch. -/
def Stretch.relined (stretch : Stretch) : List (List Char) :=
  Text.lines (Text.joinLines stretch.lines)

theorem Stretch.lines_sql (stretch : Stretch) :
    Text.lines stretch.batch.sql.toList = stretch.relined := by
  rw [Stretch.batch, String.toList_ofList]
  rfl

theorem Stretch.Of.plain (of : stretch.Of lines) (plain : ∀ line ∈ lines, '\n' ∉ line) :
    ∀ line ∈ stretch.lines, '\n' ∉ line := by
  intro line member
  rw [of.taken, List.extract_eq_take_drop] at member
  exact plain line (List.mem_of_mem_drop (List.mem_of_mem_take member))

/-- A line found again is one of the stretch, and tells the same about separators and comments. -/
theorem Stretch.Of.line_of_relined (of : stretch.Of lines) (plain : ∀ line ∈ lines, '\n' ∉ line)
    {place : Nat} {line : List Char} (found : stretch.relined[place]? = some line) :
    ∃ raw, lines[stretch.start + place]? = some raw ∧ stretch.Covers (stretch.start + place) ∧
      separator? line = separator? raw ∧
      ∀ inComment, commentAfter line inComment = commentAfter raw inComment := by
  obtain ⟨raw, same, alike⟩ := Text.part_of_line (of.plain plain) found
  rw [of.getElem?_lines] at same
  split at same
  · rename_i within
    refine ⟨raw, same, ⟨Nat.le_add_right _ _, Nat.add_lt_add_left within _⟩, ?_⟩
    rcases alike with rfl | rfl
    · exact ⟨rfl, fun _ => rfl⟩
    · exact ⟨separator?_withoutReturn raw, commentAfter_withoutReturn raw⟩
  · cases same

theorem Stretch.Of.commentBefore_relined (of : stretch.Of lines)
    (plain : ∀ line ∈ lines, '\n' ∉ line) {place : Nat}
    (within : place ≤ stretch.relined.length) :
    commentBefore stretch.relined place = commentBefore lines (stretch.start + place) := by
  -- Both scans begin outside comments, and a line carries both of them on in the same way.
  induction place with
  | zero => exact of.outside.symm
  | succ place ih =>
    have found := List.getElem?_eq_getElem (Nat.lt_of_succ_le within)
    obtain ⟨raw, same, -, -, alike⟩ := of.line_of_relined plain found
    rw [commentBefore_succ found, ih (Nat.le_of_succ_le within), alike, ← Nat.add_assoc,
      commentBefore_succ same]

theorem Stretch.Of.separatorAt?_relined (of : stretch.Of lines)
    (plain : ∀ line ∈ lines, '\n' ∉ line) (place : Nat) :
    separatorAt? stretch.relined place = none := by
  cases separated : separatorAt? stretch.relined place with
  | none => rfl
  | some runs =>
    obtain ⟨line, found, outside, separates⟩ := separatorAt?_eq_some_iff.mp separated
    obtain ⟨raw, same, covers, alike, -⟩ := of.line_of_relined plain found
    rw [of.commentBefore_relined plain (List.getElem?_eq_some_iff.mp found).1.le] at outside
    have counts := separatorAt?_eq_some_iff.mpr ⟨raw, same, outside, alike.symm.trans separates⟩
    rw [of.unbroken _ covers] at counts
    cases counts

theorem stretches_of_unbroken {text : String}
    (unbroken : ∀ number, separatorAt? (Text.lines text.toList) number = none) :
    stretches text = [⟨0, Text.lines text.toList, none⟩] := by
  have cut := stretches_of_text text
  generalize stretches text = whole at cut
  cases cut with
  | last within plain => rw [List.extract_eq_take_drop, List.drop_zero, Nat.sub_zero, List.take_length]
  | next ordered plain separated rest =>
    rw [unbroken] at separated
    cases separated

theorem Stretch.Of.again (of : stretch.Of lines) (filled : stretch.Filled)
    (plain : ∀ line ∈ lines, '\n' ∉ line) :
    splitBatches stretch.batch.sql = [(⟨0, stretch.relined, none⟩ : Stretch).batch] := by
  have unbroken : ∀ number,
      separatorAt? (Text.lines stretch.batch.sql.toList) number = none := by
    rw [stretch.lines_sql]
    exact of.separatorAt?_relined plain
  -- All the lines are one stretch again, which holds what is visible in the old one.
  have holds : (⟨0, stretch.relined, none⟩ : Stretch).Filled :=
    Text.exists_visible_line (of.plain plain) filled
  rw [splitBatches, stretches_of_unbroken unbroken, stretch.lines_sql, List.flatMap_singleton,
    Stretch.batches_of_filled holds]

end Splitting

/-- Batches hold no separators: each of them, cut again, is one batch, from its first line on and
without a count. It goes to the last line, whose number is told as a word. -/
theorem batches_stay_whole (text : String) :
    ∀ batch ∈ splitBatches text, ∃ again, splitBatches batch.sql = [again] ∧
      again.selection.startLine = 0 ∧
      again.selection.endLine = ((Text.lines batch.sql.toList).length - 1) % Text.wordBound 32 ∧
      again.runs = none := by
  intro batch member
  have plain : ∀ line ∈ Text.lines text.toList, '\n' ∉ line :=
    fun _ among => Text.newline_not_mem_lines among
  obtain ⟨stretch, among, taken⟩ := List.mem_flatMap.mp member
  obtain ⟨filled, rfl⟩ := Splitting.Stretch.mem_batches_iff.mp taken
  have of := (Splitting.stretches_of_text text).of (.inl rfl) stretch among
  refine ⟨_, of.again filled plain, rfl, ?_, rfl⟩
  rw [stretch.lines_sql]
  simp only [Splitting.Stretch.batch, Selection.placed, Nat.zero_add]

/-- Two carriage returns in front of a line feed, a line GO within a comment, blank lines behind. -/
theorem batches_stay_whole_returns :
    splitBatches "GO\n/*\r\r\nGO\r\n*/1\n\nGO 2\n2" =
        [⟨"/*\r\nGO\n*/1\n", ⟨1, 0, 4, 0⟩, some 2⟩, ⟨"2", ⟨6, 0, 6, 1⟩, none⟩] ∧
      ∃ again, splitBatches "/*\r\nGO\n*/1\n" = [again] ∧ again.selection.startLine = 0 ∧
        again.selection.endLine = 2 ∧ again.runs = none := by
  have cut : splitBatches "GO\n/*\r\r\nGO\r\n*/1\n\nGO 2\n2" =
      [⟨"/*\r\nGO\n*/1\n", ⟨1, 0, 4, 0⟩, some 2⟩, ⟨"2", ⟨6, 0, 6, 1⟩, none⟩] := by
    decide +kernel
  refine ⟨cut, ?_⟩
  exact batches_stay_whole _ _ (cut ▸ List.mem_cons_self)

end SqlDesk
