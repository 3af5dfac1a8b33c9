import SqlDesk.ResultSet.Export

/-!
The grammar of comma separated values (RFC 4180), and what it makes of the records that are written.

A field is bare or quoted, a line is a row of fields, and a file is a row of lines, each of which ends
with a carriage return and a line feed. Behind the last line these two may be missing if the line is
not blank. The grammar takes any character that needs no quotes into a bare field, not the printable
ones of ASCII alone.

The grammar is unambiguous (`File.unique`), and records of at least one field are written in it
(`file_writeRecords`). So whatever reads such files by the grammar gives back what was written.
-/

set_option autoImplicit false

namespace SqlDesk.Csv

/-- Separators, quotes and line characters; a bare field has none of them. -/
def isMark (c : Char) : Bool := c = ',' || c = '"' || c = '\r' || c = '\n'

inductive Quoted : List Char → List Char → Prop where
  | nothing : Quoted [] []
  | quote {value text : List Char} (rest : Quoted value text) :
      Quoted ('"' :: value) ('"' :: '"' :: text)
  | other {value text : List Char} {c : Char} (plain : c ≠ '"') (rest : Quoted value text) :
      Quoted (c :: value) (c :: text)

inductive Field : List Char → List Char → Prop where
  | bare {text : List Char} (unmarked : ∀ c ∈ text, isMark c = false) : Field text text
  | quoted {value text : List Char} (inside : Quoted value text) :
      Field value ('"' :: (text ++ ['"']))

inductive Line : List (List Char) → List Char → Prop where
  | last {value text : List Char} (field : Field value text) : Line [value] text
  | more {value text rest : List Char} {values : List (List Char)} (field : Field value text)
      (others : Line values rest) : Line (value :: values) (text ++ ',' :: rest)

/-- Records, and a text that holds them. -/
inductive File : List (List (List Char)) → List Char → Prop where
  | nothing : File [] []
  | ended {record : List (List Char)} {records : List (List (List Char))} {text rest : List Char}
      (line : Line record text) (others : File records rest) :
      File (record :: records) (text ++ '\r' :: '\n' :: rest)
  | unended {record : List (List Char)} {text : List Char} (line : Line record text)
      (written : text ≠ []) : File [record] text

/-! ## There is one way to read a text -/

/-- What may follow a field: the next one, the end of the line, or nothing. -/
def EndsField (rest : List Char) : Prop := ∀ c ∈ rest.head?, isMark c = true ∧ c ≠ '"'

def EndsLine (rest : List Char) : Prop := ∀ c ∈ rest.head?, c = '\r'

theorem EndsLine.endsField {rest : List Char} (ends : EndsLine rest) : EndsField rest := by
  intro c first
  rw [ends c first]
  decide

theorem Quoted.unique {value text other others rest more : List Char} (inside : Quoted value text)
    (again : Quoted other others) (ends : EndsField rest) (stops : EndsField more)
    (same : text ++ '"' :: rest = others ++ '"' :: more) : value = other ∧ rest = more := by
  -- A quote that closes is told from one that is doubled by what stands behind it.
  induction inside generalizing other others with
  | nothing =>
    cases again with
    | nothing => exact ⟨rfl, by simpa using same⟩
    | quote again =>
      have behind : rest.head? = some '"' := by
        simp only [List.nil_append, List.cons_append, List.cons.injEq, true_and] at same
        simp [same]
      exact absurd rfl (ends '"' (by simp [behind])).2
    | other plain again =>
      simp only [List.nil_append, List.cons_append, List.cons.injEq] at same
      exact absurd same.1.symm plain
  | quote inside ih =>
    cases again with
    | nothing =>
      have behind : more.head? = some '"' := by
        simp only [List.nil_append, List.cons_append, List.cons.injEq, true_and] at same
        simp [← same]
      exact absurd rfl (stops '"' (by simp [behind])).2
    | quote again =>
      obtain ⟨rfl, rests⟩ := ih again (by simpa using same)
      exact ⟨rfl, rests⟩
    | other plain again =>
      simp only [List.cons_append, List.cons.injEq] at same
      exact absurd same.1.symm plain
  | other plain inside ih =>
    cases again with
    | nothing =>
      simp only [List.nil_append, List.cons_append, List.cons.injEq] at same
      exact absurd same.1 plain
    | quote again =>
      simp only [List.cons_append, List.cons.injEq] at same
      exact absurd same.1 plain
    | other _ again =>
      simp only [List.cons_append, List.cons.injEq] at same
      obtain ⟨rfl, behind⟩ := same
      obtain ⟨rfl, rests⟩ := ih again behind
      exact ⟨rfl, rests⟩

theorem bare_unique {value other rest more : List Char} (unmarked : ∀ c ∈ value, isMark c = false)
    (others : ∀ c ∈ other, isMark c = false) (ends : EndsField rest) (stops : EndsField more)
    (same : value ++ rest = other ++ more) : value = other ∧ rest = more := by
  -- A mark ends either value, so neither of them can be the longer one.
  induction value generalizing other with
  | nil =>
    cases other with
    | nil => exact ⟨rfl, same⟩
    | cons c other =>
      have behind : rest = c :: (other ++ more) := same
      have marked := (ends c (by simp [behind])).1
      simp [others c (by simp)] at marked
  | cons c value ih =>
    cases other with
    | nil =>
      have behind : c :: (value ++ rest) = more := same
      have marked := (stops c (by simp [← behind])).1
      simp [unmarked c (by simp)] at marked
    | cons d other =>
      simp only [List.cons_append, List.cons.injEq] at same
      obtain ⟨rfl, behind⟩ := same
      obtain ⟨rfl, rests⟩ := ih (fun e member => unmarked e (by simp [member]))
        (fun e member => others e (by simp [member])) behind
      exact ⟨rfl, rests⟩

theorem bare_ne_quoted {value rest more : List Char} (unmarked : ∀ c ∈ value, isMark c = false)
    (ends : EndsField rest) : value ++ rest ≠ '"' :: more := by
  intro same
  cases value with
  | nil =>
    have behind : rest = '"' :: more := same
    exact (ends '"' (by simp [behind])).2 rfl
  | cons c value =>
    simp only [List.cons_append, List.cons.injEq] at same
    have plain := unmarked c (by simp)
    rw [same.1] at plain
    exact absurd plain (by decide)

theorem Field.unique {value text other others rest more : List Char} (field : Field value text)
    (again : Field other others) (ends : EndsField rest) (stops : EndsField more)
    (same : text ++ rest = others ++ more) : value = other ∧ rest = more := by
  cases field with
  | bare unmarked =>
    cases again with
    | bare unmarked' => exact bare_unique unmarked unmarked' ends stops same
    | quoted inside => exact absurd same (bare_ne_quoted unmarked ends)
  | quoted inside =>
    cases again with
    | bare unmarked => exact absurd same.symm (bare_ne_quoted unmarked stops)
    | quoted inside' => exact inside.unique inside' ends stops (by simpa using same)

theorem endsField_comma (rest : List Char) : EndsField (',' :: rest) := by
  intro c first
  cases first
  decide

theorem Line.unique {record other : List (List Char)} {text others rest more : List Char}
    (line : Line record text) (again : Line other others) (ends : EndsLine rest)
    (stops : EndsLine more) (same : text ++ rest = others ++ more) :
    record = other ∧ rest = more := by
  -- Field by field: behind the last one there is no comma, and behind any other there is one.
  induction line generalizing other others with
  | last field =>
    cases again with
    | last field' =>
      obtain ⟨rfl, rests⟩ := field.unique field' ends.endsField stops.endsField same
      exact ⟨rfl, rests⟩
    | more field' others' =>
      obtain ⟨-, comma⟩ := field.unique field' ends.endsField (endsField_comma _)
        (by simpa using same)
      exact absurd (ends ',' (by simp [comma])) (by decide)
  | more field others' ih =>
    cases again with
    | last field' =>
      obtain ⟨-, comma⟩ := field.unique field' (endsField_comma _) stops.endsField
        (by simpa using same)
      exact absurd (stops ',' (by simp [← comma])) (by decide)
    | more field' again =>
      obtain ⟨rfl, behind⟩ := field.unique field' (endsField_comma _) (endsField_comma _)
        (by simpa using same)
      obtain ⟨rfl, rests⟩ := ih again (by simpa using behind)
      exact ⟨rfl, rests⟩

theorem endsLine_nil : EndsLine [] := by
  intro c first
  cases first

theorem endsLine_break (rest : List Char) : EndsLine ('\r' :: '\n' :: rest) := by
  intro c first
  cases first
  rfl

theorem File.unique {records others : List (List (List Char))} {text : List Char}
    (file : File records text) (again : File others text) : records = others := by
  induction file generalizing others with
  | nothing =>
    -- The text has to be a variable for the case analysis, so it gets a name.
    generalize empty : ([] : List Char) = text at again
    cases again with
    | nothing => rfl
    | ended line rest => simp at empty
    | unended line written => exact absurd empty.symm written
  | @ended record records text rest line behind ih =>
    generalize whole : text ++ '\r' :: '\n' :: rest = joined at again
    cases again with
    | nothing => simp at whole
    | ended line' behind' =>
      obtain ⟨rfl, breaks⟩ := line.unique line' (endsLine_break _) (endsLine_break _) whole
      cases breaks
      rw [ih behind']
    | unended line' =>
      obtain ⟨-, breaks⟩ := line.unique line' (endsLine_break _) endsLine_nil
        (by simpa using whole)
      cases breaks
  | @unended record text line written =>
    cases again with
    | nothing => exact absurd rfl written
    | @ended _ _ _ rest line' =>
      obtain ⟨-, breaks⟩ := line.unique line' endsLine_nil (endsLine_break rest) (by simp)
      cases breaks
    | unended line' =>
      obtain ⟨rfl, -⟩ := line.unique line' endsLine_nil endsLine_nil rfl
      rfl

/-! ## What is written is in the grammar -/

theorem quoted_doubled (field : List Char) : Quoted field (doubled field) := by
  induction field with
  | nil => exact .nothing
  | cons c field ih =>
    by_cases quote : c = '"'
    · subst quote
      exact .quote ih
    · have step : doubled (c :: field) = c :: doubled field := by simp [doubled, quote]
      rw [step]
      exact .other quote ih

theorem field_writeField (field : List Char) : Field field (writeField field) := by
  unfold writeField
  split
  · exact .quoted (quoted_doubled field)
  · rename_i needless
    refine .bare fun c member => ?_
    have unmarked : needsQuotes field = false := by simpa using needless
    simpa [isMark] using List.any_eq_false.mp unmarked c member

theorem line_writeFields {fields : List (List Char)} (some : fields ≠ []) :
    Line fields (writeFields fields) := by
  induction fields with
  | nil => exact absurd rfl some
  | cons field rest ih =>
    cases rest with
    | nil =>
      have alone : writeFields [field] = writeField field := by simp [writeFields]
      rw [alone]
      exact .last (field_writeField field)
    | cons next rest =>
      have joined : writeFields (field :: next :: rest) =
          writeField field ++ ',' :: writeFields (next :: rest) := by
        simp [writeFields, List.intercalate]
      rw [joined]
      exact .more (field_writeField field) (ih (by simp))

theorem exists_line_writeRecord {fields : List (List Char)} (some : fields ≠ []) :
    ∃ text, Line fields text ∧ writeRecord fields = text ++ ['\r', '\n'] := by
  by_cases blank : fields = [[]]
  · exact ⟨['"', '"'], blank ▸ .last (.quoted .nothing), by simp [writeRecord, blank]⟩
  · exact ⟨writeFields fields, line_writeFields some, by simp [writeRecord, blank]⟩

theorem file_writeRecords {records : List (List (List Char))}
    (some : ∀ record ∈ records, record ≠ []) : File records (records.flatMap writeRecord) := by
  induction records with
  | nil => exact .nothing
  | cons record rest ih =>
    obtain ⟨text, line, written⟩ := exists_line_writeRecord (some record (by simp))
    have joined : (record :: rest).flatMap writeRecord =
        text ++ '\r' :: '\n' :: rest.flatMap writeRecord := by simp [written]
    rw [joined]
    exact .ended line (ih fun other member => some other (by simp [member]))

example : [["a\nb", "say \"hi\"", ""], [""]].flatMap (fun record =>
    writeRecord (record.map String.toList)) =
      "\"a\nb\",\"say \"\"hi\"\"\",\r\n\"\"\r\n".toList := by
  decide

end SqlDesk.Csv
