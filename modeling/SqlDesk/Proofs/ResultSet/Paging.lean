import SqlDesk.Proofs.ResultSet.Growth

/-! Paging through a result. All windows of a result are cut out of one grid, the rows of its store
with their numbers: a window is the part between its bounds, as far as there are rows, and is refused
exactly if it begins outside of them or asks for none (`ResultSet.window_of_inside`,
`ResultSet.window_refused_iff`). So the pages that are read one behind the other until one is refused
make up the grid, whatever their size. -/

set_option autoImplicit false

namespace SqlDesk

namespace ResultSet

variable {result : ResultSet} {stored rows : List Row} {start count : Int} {window : Window}

/-- All rows as they are shown: the text of each cell, whether it is NULL, and the number of its row. -/
def grid (rows : List Row) : List (List ShownCell) :=
  rows.mapIdx fun number row => row.map fun cell => ⟨cell.display, cell.isNull, number⟩

@[simp] theorem length_grid (rows : List Row) : (grid rows).length = rows.length :=
  List.length_mapIdx

theorem ofRows_extract (rows : List Row) {first stop : Nat} (ordered : first ≤ stop)
    (inside : stop ≤ rows.length) :
    Window.ofRows first (rows.extract first stop) = ⟨stop - first, (grid rows).extract first stop⟩ := by
  have length : (rows.extract first stop).length = stop - first := by
    rw [List.extract_eq_take_drop, List.length_take, List.length_drop]
    omega
  rw [Window.ofRows, length, Window.mk.injEq, and_iff_right rfl]
  apply List.ext_getElem
  · simp only [List.length_map, List.length_zipIdx, length, List.extract_eq_take_drop,
      List.length_take, List.length_drop, length_grid]
    omega
  · intro place _ _
    simp [List.extract_eq_take_drop, grid, shownRow]

theorem inside_of_window (answered : result.window start count = .ok window) :
    0 ≤ start ∧ 0 < count ∧ start.toNat < result.rowCount := by
  unfold ResultSet.window at answered
  split at answered
  · cases answered
  · omega

/-- A window is out of range exactly if it begins outside of the rows or asks for none. -/
theorem window_refused_iff (result : ResultSet) (start count : Int) :
    (∃ asked counted available,
        result.window start count = .error (.outOfRange asked counted available)) ↔
      start < 0 ∨ count ≤ 0 ∨ (result.rowCount : Int) ≤ start := by
  unfold ResultSet.window
  split
  · exact iff_of_true ⟨start, count, result.rowCount, rfl⟩ (by omega)
  · refine iff_of_false ?_ (by omega)
    rintro ⟨asked, counted, available, refused⟩
    dsimp only at refused
    split at refused <;> cases refused

theorem window_of_inside (holds : result.store.Holds stored)
    (readable : stored.map Row.readBack = rows.map some) (start count : Int) (low : 0 ≤ start)
    (asked : 0 < count) (inside : start < rows.length) :
    result.window start count = .ok ⟨(min (start + count) rows.length - start).toNat,
      (grid rows).extract start.toNat (min (start + count) rows.length).toNat⟩ := by
  have same : stored.length = rows.length := by simpa using congrArg List.length readable
  have stop : (min (start + count) rows.length).toNat = min (start.toNat + count.toNat) rows.length := by
    omega
  have count : (min (start + count) rows.length - start).toNat =
      min (start.toNat + count.toNat) rows.length - start.toNat := by omega
  rw [stop, count, ← ofRows_extract rows (by omega) (by omega)]
  refine (window_eq_ok_iff holds).mpr ⟨low, asked, by omega, _, ?_, rfl⟩
  rw [RowStore.extract_min, List.map_take, List.map_drop, readable, List.map_take, List.map_drop]

/-! Pages. -/

/-- Reads pages of a size from a row on, one behind the other, until a page is out of range. Any other
refusal is passed on. -/
def pages (result : ResultSet) (size start : Nat) : Except ResultSetError (List Window) :=
  match _answered : result.window start size with
  | .ok window => (result.pages size (start + size)).map (window :: ·)
  | .error (.outOfRange _ _ _) => .ok []
  | .error error => .error error
termination_by result.rowCount - start
decreasing_by
  have inside := inside_of_window _answered
  omega

theorem rows_pages (holds : result.store.Holds stored)
    (readable : stored.map Row.readBack = rows.map some) {size : Nat} (some : 1 ≤ size) (start : Nat) :
    (result.pages size start).map (·.flatMap Window.rows) = .ok ((grid rows).drop start) := by
  have counted : result.rowCount = rows.length := by
    have same : stored.length = rows.length := by simpa using congrArg List.length readable
    exact holds.published.trans same
  have known (start : Nat) (inside : start < rows.length) :=
    window_of_inside holds readable start size (by omega) (by omega) (by omega)
  -- By the calls of `pages`: what is answered is the front of the grid, and the later pages are the rest.
  fun_induction pages result size start with
  | case1 start window answered ih =>
    obtain ⟨-, -, inside⟩ := inside_of_window answered
    have page := (known start (by omega)).symm.trans answered
    have shown : window.rows = ((grid rows).drop start).take size := by
      rw [← Except.ok.inj page, ← RowStore.extract_min, length_grid]
      dsimp only
      congr 1
      omega
    cases later : result.pages size (start + size) with
    | error error =>
      rw [later] at ih
      cases ih
    | ok others =>
      rw [later] at ih
      have rest : others.flatMap Window.rows = (grid rows).drop (start + size) := Except.ok.inj ih
      simp only [Except.map, List.flatMap_cons, rest, shown]
      rw [← List.drop_drop, List.take_append_drop]
  | case2 start asked counted available refused =>
    have outside := (window_refused_iff result start size).mp ⟨_, _, _, refused⟩
    rw [List.drop_eq_nil_of_le (by rw [length_grid]; omega)]
    rfl
  | case3 start error other failed =>
    -- A page is either inside and answered, or out of range.
    exfalso
    by_cases inside : start < rows.length
    · rw [known start inside] at failed
      cases failed
    · obtain ⟨asked, counted, available, refused⟩ :=
        (window_refused_iff result start size).mpr (.inr (.inr (by omega)))
      rw [refused] at failed
      exact other _ _ _ (Except.error.inj failed).symm

end ResultSet

/-- A window of an open result is out of range exactly if it begins outside of the rows or asks for
none. Any other window holds the rows from its start on, as far as they are asked for and there, each
cell as it is shown and with the number of its row; and pages of any size, read until one is out of
range, hold every row once and in order. The rows are those that the bytes in the store read as, which
are the rows that have been added if these fit. -/
theorem pages_show_every_row {result : ResultSet} {stored : List Row}
    (holds : result.store.Holds stored) :
    (∀ start count : Int,
      (∃ asked counted available,
          result.window start count = .error (.outOfRange asked counted available)) ↔
        start < 0 ∨ count ≤ 0 ∨ (stored.length : Int) ≤ start) ∧
      (∀ rows, stored.map Row.readBack = rows.map some →
        (∀ start count : Int, 0 ≤ start → 0 < count → start < rows.length →
          result.window start count = .ok ⟨(min (start + count) rows.length - start).toNat,
            (ResultSet.grid rows).extract start.toNat (min (start + count) rows.length).toNat⟩) ∧
        ∀ size : Nat, 1 ≤ size →
          (result.pages size 0).map (·.flatMap Window.rows) = .ok (ResultSet.grid rows)) ∧
      ((∀ row ∈ stored, row.Fits) → stored.map Row.readBack = stored.map some) := by
  refine ⟨fun start count => ?_, fun rows readable => ⟨fun start count low asked inside => ?_,
    fun size some => ?_⟩, fun fit => ?_⟩
  · rw [← holds.published]
    exact ResultSet.window_refused_iff result start count
  · exact ResultSet.window_of_inside holds readable start count low asked inside
  · exact ResultSet.rows_pages holds readable some 0
  · exact List.map_congr_left fun row member => Row.readBack_of_fits (fit row member)

/-- Three rows in pages of two, and windows that end behind them or begin there. -/
theorem pages_show_every_row_quoted :
    quotedResult.store.Holds quotedRows ∧
      (∃ asked counted available, quotedResult.window 3 9223372036854775807 =
        .error (.outOfRange asked counted available)) ∧
      quotedResult.window 1 9223372036854775807 = .ok ⟨2,
        [[⟨"2", false, 1⟩, ⟨"say \"hi\"\r\n", false, 1⟩], [⟨"NULL", true, 2⟩, ⟨"", false, 2⟩]]⟩ ∧
      (quotedResult.pages 2 0).map (·.flatMap Window.rows) = .ok
        [[⟨"1", false, 0⟩, ⟨"a,b", false, 0⟩], [⟨"2", false, 1⟩, ⟨"say \"hi\"\r\n", false, 1⟩],
          [⟨"NULL", true, 2⟩, ⟨"", false, 2⟩]] := by
  obtain ⟨refused, shown, read⟩ := pages_show_every_row holds_quotedResult
  have fit : ∀ row ∈ quotedRows, row.Fits := by decide
  obtain ⟨windows, pages⟩ := shown quotedRows (read fit)
  exact ⟨holds_quotedResult, (refused 3 _).mpr (.inr (.inr (by decide))),
    windows 1 9223372036854775807 (by decide) (by decide) (by decide), pages 2 (by decide)⟩

end SqlDesk
