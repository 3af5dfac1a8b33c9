import SqlDesk.Proofs.ResultSet.Whole

/-!
What a refused save leaves behind. Bounds outside of a result are refused before the file is touched. A
row with too few cells for the columns is refused with the same error, but it is found while the file is
being written: the file has been emptied by then, and holds a beginning of what comes before that row
(`refused_range_spares_file`).
-/

set_option autoImplicit false

namespace SqlDesk

namespace Export

variable {result : ResultSet} {stored : List Row} {request : SaveRequest} {tree : FileTree}

/-- Bounds that lie inside a result. Those of the rows do not count if there are none. -/
def BoundsFit (result : ResultSet) (request : SaveRequest) : Prop :=
  (result.rowCount ≠ 0 → Selects request.firstRow request.lastRow result.rowCount) ∧
    Selects request.firstColumn request.lastColumn result.columns.length

def linesOf (result : ResultSet) (request : SaveRequest) : Nat × Nat :=
  if result.rowCount = 0 then (0, 0)
  else (request.firstRow.getD 0,
    request.lastRow.getD (result.rowCount - 1) - request.firstRow.getD 0 + 1)

def fieldsOf (result : ResultSet) (request : SaveRequest) : Nat × Nat :=
  (request.firstColumn.getD 0,
    request.lastColumn.getD (result.columns.length - 1) - request.firstColumn.getD 0 + 1)

theorem rowRange_of_fit
    (lines : result.rowCount ≠ 0 → Selects request.firstRow request.lastRow result.rowCount) :
    rowRange request result.rowCount = .ok (linesOf result request) := by
  unfold rowRange linesOf
  split
  · rfl
  · rename_i some
    obtain ⟨ordered, below⟩ := lines some
    rw [if_neg (by omega)]

theorem ranges_of_fit (fit : BoundsFit result request) :
    rowRange request result.rowCount = .ok (linesOf result request) ∧
      columnRange request result.columns.length = .ok (fieldsOf result request) :=
  ⟨rowRange_of_fit fit.1, columnRange_of_valid fit.2⟩

theorem rowRange_of_misfit {count : Nat} (some : count ≠ 0)
    (misfit : ¬ Selects request.firstRow request.lastRow count) :
    ∃ reason, rowRange request count = .error (.invalidSaveRange reason) := by
  have outside : request.lastRow.getD (count - 1) < request.firstRow.getD 0 ∨
      count ≤ request.lastRow.getD (count - 1) := by
    rw [Selects] at misfit
    omega
  exact ⟨_, by rw [rowRange, if_neg some, if_pos outside]⟩

theorem columnRange_of_misfit {count : Nat}
    (misfit : ¬ Selects request.firstColumn request.lastColumn count) :
    ∃ reason, columnRange request count = .error (.invalidSaveRange reason) := by
  have outside : count = 0 ∨ request.lastColumn.getD (count - 1) < request.firstColumn.getD 0 ∨
      count ≤ request.lastColumn.getD (count - 1) := by
    rw [Selects] at misfit
    omega
  exact ⟨_, by rw [columnRange, if_pos outside]⟩

theorem write_of_misfit (misfit : ¬ BoundsFit result request) (tree : FileTree) :
    ∃ reason, write tree result request = (tree, .error (.invalidSaveRange reason)) := by
  -- Rows are looked at first, so bounds of the columns come into it only behind rows that fit.
  by_cases lines : result.rowCount ≠ 0 → Selects request.firstRow request.lastRow result.rowCount
  · have read := rowRange_of_fit lines
    obtain ⟨reason, refused⟩ := columnRange_of_misfit fun fields => misfit ⟨lines, fields⟩
    exact ⟨reason, by rw [write, read, refused]⟩
  · obtain ⟨some, outside⟩ := Classical.not_imp.mp lines
    obtain ⟨reason, refused⟩ := rowRange_of_misfit some outside
    exact ⟨reason, by rw [write, refused]⟩

/-- A file given up at a row that has too few cells for the columns. It holds a beginning of the text up
to rows before that one, as the rest was held back. -/
structure GivenUp (result : ResultSet) (request : SaveRequest) (number : Nat) (written : Bytes) :
    Prop where
  selected : number ∈ selected request.firstRow request.lastRow (List.range result.rowCount)
  narrow : ∃ row, result.store.Serves number row ∧
    row.length < (fieldsOf result request).1 + (fieldsOf result request).2
  beginning : ∃ before, (linesOf result request).1 + before.length ≤ number ∧
    result.store.read (linesOf result request).1 before.length = .ok before ∧
    Wide (fieldsOf result request) before ∧
    written <+: Bytes.ofString (String.ofList (textUpTo result request (fieldsOf result request) before))

theorem givenUp_of_content (holds : result.store.Holds stored) (fit : BoundsFit result request)
    {reason : String} (refused : (content result request (linesOf result request)
      (fieldsOf result request)).2 = .error (.invalidSaveRange reason)) :
    ∃ number, GivenUp result request number
      (content result request (linesOf result request) (fieldsOf result request)).1 := by
  obtain ⟨lines, -⟩ := ranges_of_fit fit
  obtain ⟨below, numbers⟩ := rowRange_eq_ok lines
  have inside : (linesOf result request).1 + (linesOf result request).2 ≤ stored.length :=
    holds.published ▸ below
  have within : (linesOf result request).2 ≤ stored.length - (linesOf result request).1 := by omega
  obtain ⟨done, rest, parts, cut, reads, wide, stop, written⟩ :=
    content_stops holds within request (fieldsOf result request)
  have tiles := tiles_chunks (linesOf result request).1 (linesOf result request).2
  have length := total_chunks (linesOf result request).1 (linesOf result request).2
  rw [cut] at tiles length
  obtain ⟨front, behind⟩ := tiles_append.mp tiles
  generalize content result request (linesOf result request) (fieldsOf result request) = file
    at refused stop written ⊢
  obtain ⟨bytes, outcome⟩ := file
  dsimp only at refused stop
  subst refused
  generalize failed : Except.error (ResultSetError.invalidSaveRange reason) = outcome at stop
  cases stop with
  | finished => cases failed
  | unread => cases failed
  | @narrow piece others part read narrow =>
    -- The chunk behind those that have been written has the row.
    obtain ⟨number, row, above, below, served, short⟩ := exists_narrow holds read narrow
    obtain ⟨place, -⟩ := behind
    rw [total_append, total_cons] at length
    have before := read_of_reads holds front reads
    rw [← length_of_reads holds front reads (by omega)] at before place length
    refine ⟨number, ?_, ⟨row, served, short⟩, parts.flatten, by omega, before, wide, written⟩
    rw [numbers, List.mem_range'_1]
    omega

end Export

/-- A save refused for its range spares the file if its bounds do not fit the result. Bounds that fit
are refused with the same error for a row that has too few cells for the columns; by then the file has
been made or emptied, and it is left with a beginning of what comes before such a row. -/
theorem refused_range_spares_file {result : ResultSet} {stored : List Row}
    (holds : result.store.Holds stored) (request : SaveRequest) (tree : FileTree) :
    (¬ Export.BoundsFit result request → ∃ reason,
        Export.write tree result request = (tree, .error (.invalidSaveRange reason))) ∧
      (Export.BoundsFit result request → ∀ reason,
        (Export.write tree result request).2 = .error (.invalidSaveRange reason) →
          ∃ location number written, tree.writable request.path = .ok location ∧
            Export.GivenUp result request number written ∧
            (Export.write tree result request).1 = tree.setFile location written) := by
  refine ⟨fun misfit => Export.write_of_misfit misfit tree, fun fit reason refused => ?_⟩
  obtain ⟨lines, fields⟩ := Export.ranges_of_fit fit
  rw [Export.write_of_writable result lines fields] at refused ⊢
  cases writable : tree.writable request.path with
  | error error =>
    rw [writable] at refused
    cases refused
  | ok location =>
    rw [writable] at refused
    obtain ⟨number, givenUp⟩ := Export.givenUp_of_content holds fit refused
    exact ⟨location, number, _, rfl, givenUp, rfl⟩

def narrowResult : ResultSet where
  store := ⟨⟨"o", 0, 0⟩, (Medium.memory #[]).append (Row.encode [.int64 1]), 1, true, none⟩
  columns := [⟨0, "a", "INTEGER", true⟩, ⟨1, "b", "INTEGER", true⟩]
  action := ⟨false, false, false⟩
  complete := true
  saves := []

theorem holds_narrowResult : narrowResult.store.Holds [[.int64 1]] where
  isOpen := rfl
  published := rfl
  medium := by
    have empty : Medium.Keeps [] (.memory #[]) := rfl
    exact empty.append [.int64 1]

def narrowRequest (lastColumn : Option Nat) : SaveRequest :=
  ⟨"a", .json, none, none, none, lastColumn, true⟩

def formerTree : FileTree := ⟨[], [], [(["a"], [0x6f])]⟩

theorem content_narrowResult : Export.content narrowResult (narrowRequest none) (0, 1) (0, 2) =
    ([], .error Export.narrowRow) := by
  have read : narrowResult.store.read 0 1 = .ok [[.int64 1]] := by
    rw [holds_narrowResult.read_eq_ok_iff]
    have fits : Row.Fits [.int64 1] := by decide
    simp [Row.readBack_of_fits fits]
  have chunks : Export.chunks 0 1 = [(0, 1)] := by simp [Export.chunks, Export.chunkRows]
  have narrow : ¬ Export.Wide (0, 2) [[.int64 1]] := by
    simp [Export.Wide]
  rw [Export.content_eq_run, chunks, Export.writeChunks, read]
  simp only [Export.chunkText_of_narrow narrow]
  rfl

theorem writable_in_former : formerTree.writable "a" = .ok ["a"] := by
  have name : FileTree.pieces "a" = ["a"] := by cbv
  simp only [FileTree.writable, FileTree.resolve, name]
  rfl

theorem write_narrowResult : Export.write formerTree narrowResult (narrowRequest none) =
    (formerTree.setFile ["a"] [], .error Export.narrowRow) := by
  have place : formerTree.writable (narrowRequest none).path = .ok ["a"] := writable_in_former
  have lines : Export.rowRange (narrowRequest none) narrowResult.rowCount = .ok (0, 1) := rfl
  have fields : Export.columnRange (narrowRequest none) narrowResult.columns.length = .ok (0, 2) := rfl
  rw [Export.write_of_writable narrowResult lines fields, place, content_narrowResult]

/-- The row is refused for the range of the save, and the file that was there is empty. -/
theorem narrow_row_empties_file : narrowResult.complete = true ∧ formerTree.read "a" = .ok [0x6f] ∧
    ∃ saved, Export.write formerTree narrowResult (narrowRequest none) =
        (saved, .error (.invalidSaveRange "row is narrower than columns")) ∧
      saved.read "a" = .ok [] := by
  have name : FileTree.pieces "a" = ["a"] := by cbv
  refine ⟨rfl, ?_, _, write_narrowResult, FileTree.read_setFile writable_in_former []⟩
  simp only [FileTree.read, FileTree.resolve, name]
  rfl

theorem refused_range_spares_file_narrow : narrowResult.store.Holds [[.int64 1]] ∧
    (∃ reason, Export.write formerTree narrowResult (narrowRequest (some 2)) =
      (formerTree, .error (.invalidSaveRange reason))) ∧
    ∃ location number written, formerTree.writable "a" = .ok location ∧
      Export.GivenUp narrowResult (narrowRequest none) number written ∧
      (Export.write formerTree narrowResult (narrowRequest none)).1 =
        formerTree.setFile location written := by
  have refused : (Export.write formerTree narrowResult (narrowRequest none)).2 =
      .error Export.narrowRow := by
    rw [write_narrowResult]
  have misfit : ¬ Export.BoundsFit narrowResult (narrowRequest (some 2)) := by
    rintro ⟨-, -, below⟩
    exact absurd below (by decide)
  have fit : Export.BoundsFit narrowResult (narrowRequest none) := by
    refine ⟨fun _ => ?_, ?_⟩ <;> decide
  exact ⟨holds_narrowResult,
    (refused_range_spares_file holds_narrowResult (narrowRequest (some 2)) formerTree).1 misfit,
    (refused_range_spares_file holds_narrowResult (narrowRequest none) formerTree).2 fit _ refused⟩

end SqlDesk
