import SqlDesk.Proofs.ResultSet.Export
import SqlDesk.Proofs.ResultSet.Trees

/-!
A file that is written in chunks is the file that would be written at once. The loop over the chunks
counts rows in words of 64 bits; it comes to its end without leaving them, and its chunks have every
selected row once and in order (`Export.loop_chunks`). The file is then the text of all selected rows,
read and put together in one piece (`saved_in_chunks_as_at_once`).
-/

set_option autoImplicit false

namespace SqlDesk

namespace Export

/-! ## The loop in words -/

def sum? (first second : UInt64) : Option UInt64 :=
  if first.toNat + second.toNat < 2 ^ 64 then some (first + second) else none

def difference? (first second : UInt64) : Option UInt64 :=
  if second ≤ first then some (first - second) else none

theorem sum?_eq (first second : UInt64) (word : first.toNat + second.toNat < 2 ^ 64) :
    ∃ sum, sum? first second = some sum ∧ sum.toNat = first.toNat + second.toNat := by
  refine ⟨first + second, if_pos word, ?_⟩
  rw [UInt64.toNat_add, Nat.mod_eq_of_lt word]

theorem difference?_eq {first second : UInt64} (ordered : second ≤ first) :
    ∃ difference, difference? first second = some difference ∧
      difference.toNat = first.toNat - second.toNat :=
  ⟨first - second, if_pos ordered, UInt64.toNat_sub_of_le first second ordered⟩

/-- One turn of the loop over the rows up to `last`: the length of the chunk at `next`, and the row at
which the next turn begins. There is none if one of the numbers on the way is not a word. -/
def turn? (last next : UInt64) : Option (UInt64 × UInt64) := do
  let left ← sum? (← difference? last next) 1
  let count := min left 1000
  let after ← sum? next count
  return (count, after)

/-- The chunks of the turns from a row on, until the row is behind the last one. -/
inductive Loop (last : UInt64) : UInt64 → List (Nat × Nat) → Prop where
  | ended {next : UInt64} (past : last < next) : Loop last next []
  | turned {next count after : UInt64} {rest : List (Nat × Nat)} (inside : next ≤ last)
      (turn : turn? last next = some (count, after)) (onward : Loop last after rest) :
      Loop last next ((next.toNat, count.toNat) :: rest)

theorem toNat_min (first second : UInt64) :
    (min first second).toNat = min first.toNat second.toNat := by
  change (if first ≤ second then first else second).toNat = _
  split
  · rename_i least
    rw [Nat.min_eq_left (UInt64.le_iff_toNat_le.mp least)]
  · rename_i more
    rw [UInt64.le_iff_toNat_le] at more
    rw [Nat.min_eq_right (Nat.le_of_not_le more)]

theorem turn?_eq {last next : UInt64} (inside : next ≤ last) (room : last.toNat + 1 < 2 ^ 64) :
    ∃ count after, turn? last next = some (count, after) ∧
      count.toNat = min (last.toNat + 1 - next.toNat) chunkRows ∧
      after.toNat = next.toNat + count.toNat := by
  have ordered : next.toNat ≤ last.toNat := UInt64.le_iff_toNat_le.mp inside
  obtain ⟨difference, differs, value⟩ := difference?_eq inside
  have one : (1 : UInt64).toNat = 1 := rfl
  obtain ⟨left, sums, size⟩ := sum?_eq difference 1 (by omega)
  have thousand : (1000 : UInt64).toNat = chunkRows := rfl
  have count : (min left 1000).toNat = min (last.toNat + 1 - next.toNat) chunkRows := by
    rw [toNat_min, thousand, size, value, one, Nat.sub_add_comm ordered]
  obtain ⟨after, moves, place⟩ := sum?_eq next (min left 1000) (by omega)
  exact ⟨_, after, by simp [turn?, differs, sums, moves], count, place⟩

/-- In words the loop comes to the chunks: no number on the way is too small or too large for a word,
and there is an end to it. -/
theorem loop_chunks {last next : UInt64} {count : Nat} (span : next.toNat + count = last.toNat + 1)
    (room : last.toNat + 1 < 2 ^ 64) : Loop last next (chunks next.toNat count) := by
  induction here : next.toNat, count using chunks.induct generalizing next with
  | case1 =>
    rw [chunks]
    exact .ended (UInt64.lt_iff_toNat_lt.mpr (by omega))
  | case2 start count some ih =>
    have inside : next ≤ last := UInt64.le_iff_toNat_le.mpr (by omega)
    obtain ⟨length, after, turn, size, place⟩ := turn?_eq inside room
    have left : last.toNat + 1 - next.toNat = count := by omega
    rw [left] at size
    have onward : Loop last after (chunks (start + chunkRows) (count - chunkRows)) := by
      by_cases final : count ≤ chunkRows
      · -- The next turn would begin behind the last row.
        rw [Nat.sub_eq_zero_of_le final, chunks]
        exact .ended (UInt64.lt_iff_toNat_lt.mpr (by omega))
      · exact ih (by omega) (by omega)
    rw [chunks, if_neg some, ← size, ← here]
    exact .turned inside turn (here ▸ onward)

/-! ## The file in one piece -/

/-- A file of which all rows are read at once and put into one text. -/
def contentAtOnce (result : ResultSet) (request : SaveRequest) (rows columns : Nat × Nat) :
    Except ResultSetError Bytes :=
  match result.store.read rows.1 rows.2 with
  | .error error => .error (.storage error)
  | .ok read =>
    (chunkText request.format (namesOf result columns) columns true read).map fun text =>
      Bytes.ofString (String.ofList (opening request.format request.headers (namesOf result columns) ++
        text ++ closing request.format (rows.2 = 0)))

variable {result : ResultSet} {stored read : List Row} {request : SaveRequest} {rows : Nat × Nat}

theorem contentAtOnce_of_read (request : SaveRequest) (rows columns : Nat × Nat)
    (given : result.store.read rows.1 rows.2 = .ok read) :
    (Wide columns read → contentAtOnce result request rows columns =
        .ok (Bytes.ofString (String.ofList (textUpTo result request columns read ++
          closing request.format (rows.2 = 0))))) ∧
      (¬ Wide columns read → contentAtOnce result request rows columns = .error narrowRow) := by
  rw [contentAtOnce, given]
  dsimp only
  constructor
  · intro wide
    rw [chunkText_of_wide wide]
    rfl
  · intro narrow
    rw [chunkText_of_narrow narrow]
    rfl

/-- A range of rows that is accepted lies inside the rows and has those that are selected. -/
theorem rowRange_eq_ok {count : Nat} (lines : rowRange request count = .ok rows) :
    rows.1 + rows.2 ≤ count ∧
      selected request.firstRow request.lastRow (List.range count) = List.range' rows.1 rows.2 := by
  unfold rowRange at lines
  split at lines
  · rename_i none
    cases lines
    simp [none, selected]
  · dsimp only at lines
    split at lines
    · cases lines
    · cases lines
      have valid : Selects request.firstRow request.lastRow count := by
        constructor <;> omega
      rw [selected_range valid, List.range'_eq_map_range]
      exact ⟨by omega, rfl⟩

theorem content_eq_ok_iff (holds : result.store.Holds stored)
    (inside : rows.1 + rows.2 ≤ stored.length) (columns : Nat × Nat) (bytes : Bytes) :
    content result request rows columns = (bytes, .ok ()) ↔
      contentAtOnce result request rows columns = .ok bytes := by
  have within : rows.2 ≤ stored.length - rows.1 := by omega
  cases read : result.store.read rows.1 rows.2 with
  | ok given =>
    obtain ⟨finished, given_up⟩ := content_of_read holds within request columns read
    obtain ⟨same, refused⟩ := contentAtOnce_of_read request rows columns read
    by_cases wide : Wide columns given
    · rw [finished wide, same wide]
      simp
    · rw [refused wide]
      have narrow := given_up wide
      simp [Prod.ext_iff, narrow]
  | error error =>
    -- A save that finishes would have read all its rows.
    obtain ⟨done, rest, parts, cut, reads, -, stop, -⟩ := content_stops holds within request columns
    rw [contentAtOnce, read]
    refine iff_of_false ?_ nofun
    intro finished
    rw [finished] at stop
    cases stop
    rw [List.append_nil] at cut
    have all := read_of_reads holds (tiles_chunks rows.1 rows.2) (cut ▸ reads)
    rw [total_chunks, read] at all
    cases all

end Export

theorem FileTree.setFile_inj (tree : FileTree) (location : Location) {first second : Bytes} :
    tree.setFile location first = tree.setFile location second ↔ first = second := by
  constructor
  · intro same
    have there := congrArg (·.contentAt? location) same
    simpa [contentAt?_setFile] using there
  · rintro rfl
    rfl

/-- A save that writes a result in chunks writes the file of one that reads its rows at once, for any
bounds inside the result, and it fails where that one fails. The chunks have every selected row once
and in order, and the loop comes to them in words of 64 bits without leaving these. -/
theorem saved_in_chunks_as_at_once {result : ResultSet} {stored : List Row} {request : SaveRequest}
    {tree : FileTree} {location : Location} {rows columns : Nat × Nat}
    (holds : result.store.Holds stored) (counted : result.rowCount < 2 ^ 64)
    (lines : Export.rowRange request result.rowCount = .ok rows)
    (fields : Export.columnRange request result.columns.length = .ok columns)
    (writable : tree.writable request.path = .ok location) :
    (∀ bytes, Export.write tree result request = (tree.setFile location bytes, .ok ()) ↔
        Export.contentAtOnce result request rows columns = .ok bytes) ∧
      (∀ read, result.store.read rows.1 rows.2 = .ok read →
        (Export.write tree result request).2 =
          (Export.contentAtOnce result request rows columns).map fun _ => ()) ∧
      ((Export.chunks rows.1 rows.2).flatMap fun chunk => List.range' chunk.1 chunk.2) =
        selected request.firstRow request.lastRow (List.range result.rowCount) ∧
      (rows.2 ≠ 0 → ∃ first last : UInt64, first.toNat = rows.1 ∧
        last.toNat + 1 = rows.1 + rows.2 ∧
          Export.Loop last first (Export.chunks rows.1 rows.2)) := by
  obtain ⟨below, numbers⟩ := Export.rowRange_eq_ok lines
  have inside : rows.1 + rows.2 ≤ stored.length := holds.published ▸ below
  have written : Export.write tree result request = _ := Export.write_of_writable result lines fields
  rw [writable] at written
  dsimp only at written
  refine ⟨fun bytes => ?_, fun read given => ?_, ?_, fun some => ?_⟩
  · rw [written, ← Export.content_eq_ok_iff holds inside, Prod.ext_iff, Prod.ext_iff,
      FileTree.setFile_inj]
  · rw [written]
    obtain ⟨finished, refused⟩ := Export.content_of_read holds (by omega) request columns given
    obtain ⟨same, alike⟩ := Export.contentAtOnce_of_read request rows columns given
    by_cases wide : Export.Wide columns read
    · rw [finished wide, same wide]
      rfl
    · rw [refused wide, alike wide]
      rfl
  · rw [Export.range'_of_tiles (Export.tiles_chunks rows.1 rows.2), Export.total_chunks, numbers]
  · have word : UInt64.size = 2 ^ 64 := rfl
    have first : (UInt64.ofNat rows.1).toNat = rows.1 := UInt64.toNat_ofNat_of_lt' (by omega)
    have last : (UInt64.ofNat (rows.1 + rows.2 - 1)).toNat = rows.1 + rows.2 - 1 :=
      UInt64.toNat_ofNat_of_lt' (by omega)
    have loop : Export.Loop (.ofNat (rows.1 + rows.2 - 1)) (.ofNat rows.1)
        (Export.chunks (UInt64.ofNat rows.1).toNat rows.2) :=
      Export.loop_chunks (by omega) (by omega)
    rw [first] at loop
    exact ⟨_, _, first, by omega, loop⟩

theorem Medium.Keeps.addAll {medium : Medium} {rows : List Row} (keeps : medium.Keeps rows)
    (more : List Row) :
    (more.foldl (fun medium row => medium.append (Row.encode row)) medium).Keeps (rows ++ more) := by
  induction more generalizing medium rows with
  | nil => simpa using keeps
  | cons row rest ih => simpa using ih (keeps.append row)

def nullRows (count : Nat) : List Row := List.replicate count [.null]

def nullResult (count : Nat) : ResultSet where
  store := ⟨⟨"o", 0, 0⟩, (nullRows count).foldl (fun medium row => medium.append (Row.encode row))
    (.memory #[]), count, true, none⟩
  columns := [⟨0, "n", "INTEGER", true⟩]
  action := ⟨false, false, false⟩
  complete := true
  saves := []

theorem holds_nullResult (count : Nat) : (nullResult count).store.Holds (nullRows count) where
  isOpen := rfl
  published := (List.length_replicate ..).symm
  medium := by
    have empty : Medium.Keeps [] (.memory #[]) := rfl
    exact empty.addAll (nullRows count)

theorem read_nullResult (start count more : Nat) :
    (nullResult (start + count + more)).store.read start count = .ok (nullRows count) := by
  have fits : Row.Fits [.null] := by decide
  rw [(holds_nullResult _).read_eq_ok_iff]
  simp [nullRows, List.drop_replicate, List.take_replicate, Row.readBack_of_fits fits,
    Nat.add_assoc]

def lotRequest : SaveRequest := ⟨"a", .json, some 1, some 2000, none, none, true⟩

theorem saved_in_chunks_as_at_once_lot :
    (nullResult 2001).store.Holds (nullRows 2001) ∧ (nullResult 2001).rowCount < 2 ^ 64 ∧
      Export.rowRange lotRequest (nullResult 2001).rowCount = .ok (1, 2000) ∧
      Export.columnRange lotRequest (nullResult 2001).columns.length = .ok (0, 1) ∧
      (FileTree.mk [] [] []).writable lotRequest.path = .ok ["a"] ∧
      (∃ bytes, Export.contentAtOnce (nullResult 2001) lotRequest (1, 2000) (0, 1) = .ok bytes ∧
        Export.write ⟨[], [], []⟩ (nullResult 2001) lotRequest =
          ((FileTree.mk [] [] []).setFile ["a"] bytes, .ok ())) ∧
      ∃ first last : UInt64, first.toNat = 1 ∧ last.toNat + 1 = 2001 ∧
        Export.Loop last first [(1, 1000), (1001, 1000)] := by
  have counted : (nullResult 2001).rowCount < 2 ^ 64 := by
    change 2001 < 2 ^ 64
    decide
  have lines : Export.rowRange lotRequest (nullResult 2001).rowCount = .ok (1, 2000) := rfl
  have fields : Export.columnRange lotRequest (nullResult 2001).columns.length = .ok (0, 1) := rfl
  obtain ⟨written, -, -, loop⟩ := saved_in_chunks_as_at_once (holds_nullResult 2001) counted lines
    fields writable_in_empty
  have wide : Export.Wide (0, 1) (nullRows 2000) := by
    intro row member
    rw [List.eq_of_mem_replicate member]
    decide
  have read : (nullResult 2001).store.read 1 2000 = .ok (nullRows 2000) := read_nullResult 1 2000 0
  have whole : Export.contentAtOnce (nullResult 2001) lotRequest (1, 2000) (0, 1) = _ :=
    (Export.contentAtOnce_of_read lotRequest (1, 2000) (0, 1) read).1 wide
  have chunks : Export.chunks 1 2000 = [(1, 1000), (1001, 1000)] := by
    simp [Export.chunks, Export.chunkRows]
  exact ⟨holds_nullResult 2001, counted, lines, fields, writable_in_empty,
    ⟨_, whole, (written _).mpr whole⟩, chunks ▸ loop (by decide)⟩

end SqlDesk
