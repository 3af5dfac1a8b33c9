import SqlDesk.Proofs.ResultSet.Export

/-! Windows of a result that grows. A row goes into a store in parts: first its bytes, then its place,
and last the number of rows that readers look at. Readers who come in between find the rows that were
there before, and no part of the new one. Since rows are only ever put behind others, a window that
has been served is served again for as long as the store is open. -/

set_option autoImplicit false

namespace SqlDesk

namespace Medium

theorem Keeps.begins_append {medium : Medium} {rows : List Row} (keeps : medium.Keeps rows)
    (row : Row) : (medium.append (Row.encode row)).Begins rows := by
  have grown := (keeps.append row).begins
  cases medium with
  | memory stored =>
    have longer : (rows ++ [row]).map Row.encode <+: _ := grown
    rw [List.map_append] at longer
    exact (List.prefix_append _ _).trans longer
  | file content extents fileEnd =>
    obtain ⟨bytes, places⟩ := grown
    rw [List.flatMap_append] at bytes
    rw [List.map_append, layout_append] at places
    exact ⟨(List.prefix_append _ _).trans bytes, (List.prefix_append _ _).trans places⟩

end Medium

namespace RowStore

/-- What readers may find of a store: all of it between two rows, and while a row is added, part of
the bytes of that row in its file, or the row with its place but not counted. -/
inductive Sighted (store : RowStore) : RowStore → Prop where
  | still : Sighted store store
  | written {content : Array UInt8} {extents : Array Extent} {fileEnd : Nat} {row : Row}
      {part : Bytes} (file : store.medium = .file content extents fileEnd)
      (begun : part <+: Row.encode row) :
      Sighted store { store with medium := .file (content ++ part) extents fileEnd }
  | entered (row : Row) :
      Sighted store { store with medium := store.medium.append (Row.encode row) }

variable {store seen next : RowStore} {rows : List Row}

theorem Sighted.isOpen (sighted : store.Sighted seen) : seen.isOpen = store.isOpen := by
  cases sighted <;> rfl

theorem Sighted.published (sighted : store.Sighted seen) : seen.published = store.published := by
  cases sighted <;> rfl

theorem Sighted.key (sighted : store.Sighted seen) : seen.key = store.key := by
  cases sighted <;> rfl

theorem Holds.begins (holds : store.Holds rows) (sighted : store.Sighted seen) :
    seen.medium.Begins rows := by
  cases sighted with
  | still => exact holds.medium.begins
  | entered row => exact holds.medium.begins_append row
  | @written content extents fileEnd row part file =>
    obtain ⟨bytes, places⟩ : (Medium.file content extents fileEnd).Begins rows :=
      file ▸ holds.medium.begins
    refine ⟨?_, places⟩
    rw [Array.toList_appendList]
    exact bytes.trans (List.prefix_append _ _)

theorem read_of_sighted (held : store.isOpen = true → ∃ rows, store.Holds rows)
    (sighted : store.Sighted seen) (start count : Nat) :
    seen.read start count = store.read start count := by
  cases opened : store.isOpen with
  | false =>
    have closed : seen.isOpen = false := sighted.isOpen.trans opened
    simp [read, opened, closed]
  | true =>
    obtain ⟨rows, holds⟩ := held opened
    -- Both media begin with the rows that are counted, and reading goes no further than these.
    rw [read_eq_decodeRows (holds.begins sighted) (sighted.published.trans holds.published)
      (sighted.isOpen.trans opened),
      read_eq_decodeRows holds.medium.begins holds.published opened]

/-- Rows are only put behind those that are there, and a store that is open has been open before. -/
def Grows (before after : RowStore) : Prop :=
  after.isOpen = true →
    before.isOpen = true ∧ ∀ rows, before.Holds rows → ∃ more, after.Holds (rows ++ more)

theorem Grows.refl (store : RowStore) : store.Grows store :=
  fun opened => ⟨opened, fun rows holds => ⟨[], by rwa [List.append_nil]⟩⟩

theorem Grows.trans {first second third : RowStore} (left : first.Grows second)
    (right : second.Grows third) : first.Grows third := by
  intro opened
  obtain ⟨between, later⟩ := right opened
  obtain ⟨before, earlier⟩ := left between
  refine ⟨before, fun rows holds => ?_⟩
  obtain ⟨more, held⟩ := earlier rows holds
  obtain ⟨others, last⟩ := later _ held
  exact ⟨more ++ others, by rwa [← List.append_assoc]⟩

theorem Grows.of_append {row : Row} (appended : store.append row = .ok next) :
    store.Grows next := by
  obtain ⟨-, rfl⟩ := eq_of_append appended
  exact fun opened => ⟨opened, fun rows holds => ⟨[row], holds.append row⟩⟩

theorem Grows.close (store : RowStore) : store.Grows store.close := nofun

end RowStore

def Window.ofRows (first : Nat) (rows : List Row) : Window :=
  ⟨rows.length, (rows.zipIdx first).map fun (row, rowId) => ResultSet.shownRow rowId row⟩

namespace ResultSet

variable {result later : ResultSet} {rows more : List Row} {start count : Int} {window : Window}

theorem window_eq_ok_iff (holds : result.store.Holds rows) :
    result.window start count = .ok window ↔
      0 ≤ start ∧ 0 < count ∧ start.toNat < rows.length ∧
        ∃ served, ((rows.drop start.toNat).take count.toNat).map Row.readBack = served.map some ∧
          window = .ofRows start.toNat served := by
  have counted : result.rowCount = rows.length := holds.published
  unfold ResultSet.window
  split
  · simp only [reduceCtorEq, false_iff]
    omega
  · have inside : 0 ≤ start ∧ 0 < count ∧ start.toNat < rows.length := by omega
    -- The count is clamped to the rows behind the start, which takes none of them away.
    have clamped : (rows.drop start.toNat).take (min count.toNat (result.rowCount - start.toNat)) =
        (rows.drop start.toNat).take count.toNat := by
      rw [List.take_eq_take_iff, List.length_drop, counted]
      omega
    have read := holds.read_eq_ok_iff start.toNat
      (min count.toNat (result.rowCount - start.toNat))
    rw [clamped] at read
    simp only [inside, true_and, ← read]
    cases result.store.read start.toNat (min count.toNat (result.rowCount - start.toNat)) with
    | error error => simp
    | ok served => simp [Window.ofRows, eq_comm]

theorem window_of_fits (holds : result.store.Holds rows) (some : rows ≠ [])
    (fit : ∀ row ∈ rows, row.Fits) : result.window 0 rows.length = .ok (.ofRows 0 rows) := by
  have filled := List.length_pos_iff.mpr some
  refine (window_eq_ok_iff holds).mpr ⟨Int.le_refl 0, by omega, filled, rows, ?_, rfl⟩
  simp only [Int.toNat_zero, List.drop_zero, Int.toNat_natCast, List.take_length]
  exact List.map_congr_left fun row member => Row.readBack_of_fits (fit row member)

theorem window_of_none (result : ResultSet) :
    result.window 0 0 = .error (.outOfRange 0 0 result.rowCount) :=
  if_pos (.inr (.inl (Int.le_refl 0)))

theorem window_of_sighted {seen : RowStore}
    (held : result.store.isOpen = true → ∃ rows, result.store.Holds rows)
    (sighted : result.store.Sighted seen) (start count : Int) :
    ResultSet.window { result with store := seen } start count = result.window start count := by
  have counted : ResultSet.rowCount { result with store := seen } = result.rowCount :=
    sighted.published
  unfold window
  rw [counted]
  simp only [RowStore.read_of_sighted held sighted]

/-- A window stays what it is while rows come in behind, and so does what a longer one begins with. -/
theorem window_stays (holds : result.store.Holds rows) (grown : later.store.Holds (rows ++ more))
    (answered : result.window start count = .ok window) :
    later.window start window.rowCount = .ok window ∧
      ∀ other, later.window start count = .ok other → window.rows <+: other.rows := by
  obtain ⟨low, some, inside, served, read, rfl⟩ := (window_eq_ok_iff holds).mp answered
  have behind : (rows ++ more).drop start.toNat = rows.drop start.toNat ++ more :=
    List.drop_append_of_le_length inside.le
  have length : served.length = min count.toNat (rows.length - start.toNat) := by
    simpa using (congrArg List.length read).symm
  -- Asked for as many rows as were served, the longer result has no others to give; asked for more, it
  -- goes on behind the same ones.
  constructor
  · refine (window_eq_ok_iff grown).mpr ⟨low, ?_, ?_, served, ?_, rfl⟩
    · simp only [Window.ofRows]
      omega
    · rw [List.length_append]
      omega
    · simp only [Window.ofRows, Int.toNat_natCast]
      rw [behind, List.take_append_of_le_length (by rw [List.length_drop]; omega), length, ← read]
      congr 1
      rw [List.take_eq_take_iff, List.length_drop]
      omega
  · intro other again
    obtain ⟨-, -, -, longer, all, rfl⟩ := (window_eq_ok_iff grown).mp again
    rw [behind, List.take_append, List.map_append, read] at all
    have front : served <+: longer := by
      rw [← List.prefix_map_iff_of_injective (Option.some_injective Row), ← all]
      exact List.prefix_append _ _
    obtain ⟨others, rfl⟩ := front
    simp only [Window.ofRows, List.zipIdx_append, List.map_append]
    exact List.prefix_append _ _

end ResultSet

end SqlDesk
