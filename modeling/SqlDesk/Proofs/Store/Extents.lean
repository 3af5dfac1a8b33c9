import Mathlib.Algebra.Order.BigOperators.Group.List
import Mathlib.Algebra.Order.Ring.Nat
import SqlDesk.Proofs.Store.Log
import SqlDesk.Proofs.Store.Window

/-! The file of an open store. Its bytes, the extents of its rows, the end of it that the writer
keeps, and the number of rows that readers look at are four things, and adding a row moves each of
them separately. They agree nonetheless after any requests: the extents divide the file between them,
one for each row and in order, and what has been written once is never touched again. -/

set_option autoImplicit false

namespace SqlDesk

theorem getElem?_layout (offset : Nat) (lengths : List Nat) (number : Nat) :
    (layout offset lengths)[number]? =
      lengths[number]?.map fun length => ⟨offset + (lengths.take number).sum, length⟩ := by
  induction lengths generalizing offset number with
  | nil => simp [layout]
  | cons length rest ih =>
    cases number with
    | zero => simp [layout]
    | succ number => simp [layout, ih, Nat.add_assoc]

namespace Extent

def stop (extent : Extent) : Nat := extent.offset + extent.length

def Covers (extent : Extent) (position : Nat) : Prop :=
  extent.offset ≤ position ∧ position < extent.stop

def bytes (content : Array UInt8) (extent : Extent) : Bytes :=
  (content.extract extent.offset extent.stop).toList

/-- Extents that divide a file of the given size: each begins where the one before it stops, none
reaches beyond the file, and every position of the file is in one of them and in no other. -/
structure Tiles (extents : List Extent) (size : Nat) : Prop where
  first : ∀ extent, extents[0]? = some extent → extent.offset = 0
  next : ∀ (number : Nat) (extent following : Extent), extents[number]? = some extent →
    extents[number + 1]? = some following → following.offset = extent.offset + extent.length
  total : (extents.map length).sum = size
  inside : ∀ extent ∈ extents, extent.stop ≤ size
  covered : ∀ position < size, ∃! number : Nat, ∃ extent, extents[number]? = some extent ∧
    extent.Covers position

variable {lengths : List Nat} {start number other : Nat} {extent later : Extent}

theorem stop_of_layout (found : (layout start lengths)[number]? = some extent) :
    extent.stop = start + (lengths.take (number + 1)).sum := by
  rw [getElem?_layout] at found
  obtain ⟨length, there, rfl⟩ := Option.map_eq_some_iff.mp found
  rw [List.take_add_one, there, List.sum_append]
  simp [stop, Nat.add_assoc]

theorem offset_of_layout (found : (layout start lengths)[number]? = some extent) :
    extent.offset = start + (lengths.take number).sum := by
  rw [getElem?_layout] at found
  obtain ⟨length, -, rfl⟩ := Option.map_eq_some_iff.mp found
  rfl

theorem stop_le_offset (before : number < other)
    (found : (layout start lengths)[number]? = some extent)
    (behind : (layout start lengths)[other]? = some later) : extent.stop ≤ later.offset := by
  have ordered := List.monotone_sum_take lengths (Nat.succ_le_of_lt before)
  rw [stop_of_layout found, offset_of_layout behind]
  exact Nat.add_le_add_left ordered start

theorem Covers.same {position : Nat} (found : (layout start lengths)[number]? = some extent)
    (covers : extent.Covers position) (again : (layout start lengths)[other]? = some later)
    (both : later.Covers position) : number = other := by
  obtain ⟨above, below⟩ := covers
  obtain ⟨aboveAgain, belowAgain⟩ := both
  -- Of two extents the earlier one stops before the other begins, so no position is in both.
  rcases Nat.lt_trichotomy number other with before | same | behind
  · have apart := stop_le_offset before found again
    omega
  · exact same
  · have apart := stop_le_offset behind again found
    omega

theorem exists_covers {position : Nat} (above : start ≤ position)
    (below : position < start + lengths.sum) :
    ∃ (number : Nat) (extent : Extent),
      (layout start lengths)[number]? = some extent ∧ extent.Covers position := by
  induction lengths generalizing start with
  | nil =>
    rw [List.sum_nil] at below
    omega
  | cons length rest ih =>
    rw [List.sum_cons] at below
    by_cases inFirst : position < start + length
    · exact ⟨0, ⟨start, length⟩, rfl, above, inFirst⟩
    · have above : start + length ≤ position := Nat.le_of_not_lt inFirst
      obtain ⟨number, extent, found, covers⟩ := ih above (by omega)
      exact ⟨number + 1, extent, found, covers⟩

theorem tiles_layout (lengths : List Nat) : Tiles (layout 0 lengths) lengths.sum where
  first extent found := by simpa using offset_of_layout found
  next number extent following found behind := by
    rw [offset_of_layout behind, ← stop_of_layout found, stop]
  total := by rw [lengths_layout]
  inside extent member := by
    obtain ⟨number, found⟩ := List.mem_iff_getElem?.mp member
    have whole := List.sum_take_add_sum_drop lengths (number + 1)
    rw [stop_of_layout found]
    omega
  covered position below := by
    have reached : position < 0 + lengths.sum := by rwa [Nat.zero_add]
    obtain ⟨number, extent, found, covers⟩ := exists_covers (Nat.zero_le position) reached
    refine ⟨number, ⟨extent, found, covers⟩, ?_⟩
    rintro other ⟨later, again, both⟩
    exact both.same again found covers

theorem bytes_layout {before rows : List Row} {content : Array UInt8}
    (written : (before ++ rows).flatMap Row.encode <+: content.toList) :
    (layout (before.map encodedLength).sum (rows.map encodedLength)).map (bytes content) =
      rows.map Row.encode := by
  -- Rows that are done go to the ones before, whose bytes end where the next extent begins.
  induction rows generalizing before with
  | nil => rfl
  | cons row rest ih =>
    have split : before ++ row :: rest = before ++ [row] ++ rest := by simp
    have offset : ((before ++ [row]).map encodedLength).sum =
        (before.map encodedLength).sum + encodedLength row := by simp
    rw [split] at written
    have here : bytes content ⟨(before.map encodedLength).sum, encodedLength row⟩ = Row.encode row := by
      simpa [bytes, stop] using RowStore.extract_window written
    have others := ih written
    rw [offset] at others
    simp only [List.map_cons, layout, here, others]

end Extent

/-- A file that has taken the rows: the extents divide it and hold one row each, and the writer's
end of it is where the file ends. -/
structure Filed (rows : List Row) (content : Array UInt8) (extents : Array Extent) (fileEnd : Nat) :
    Prop where
  tiles : Extent.Tiles extents.toList content.size
  fileEnd_eq_sum : fileEnd = (extents.toList.map Extent.length).sum
  fileEnd_eq_size : fileEnd = content.size
  encoded : extents.toList.map (Extent.bytes content) = rows.map Row.encode

namespace Medium

theorem Keeps.filed {rows : List Row} {content : Array UInt8} {extents : Array Extent} {fileEnd : Nat}
    (keeps : Medium.Keeps rows (.file content extents fileEnd)) :
    Filed rows content extents fileEnd := by
  obtain ⟨written, places, rfl⟩ := keeps
  have size : content.size = (rows.map encodedLength).sum := by
    rw [sum_encodedLength, ← written, Array.length_toList]
  constructor
  · rw [places, size]
    exact Extent.tiles_layout _
  · rw [places, lengths_layout]
  · exact size.symm
  · have front : ([] ++ rows).flatMap Row.encode <+: content.toList := ⟨[], by simp [written]⟩
    rw [places]
    exact Extent.bytes_layout front

/-- What one medium holds stands in the other too, in the same places. -/
def StandsIn : Medium → Medium → Prop
  | .memory rows, .memory more => rows.toList <+: more.toList
  | .file content extents _, .file longer places _ =>
    content.toList <+: longer.toList ∧ extents.toList <+: places.toList
  | _, _ => False

theorem StandsIn.refl (medium : Medium) : medium.StandsIn medium := by
  cases medium with
  | memory rows => exact List.prefix_refl _
  | file content extents fileEnd => exact ⟨List.prefix_refl _, List.prefix_refl _⟩

theorem StandsIn.trans {first second third : Medium} (left : first.StandsIn second)
    (right : second.StandsIn third) : first.StandsIn third := by
  cases first <;> cases second <;> cases third <;> simp only [StandsIn] at left right ⊢
  · exact List.IsPrefix.trans left right
  · exact ⟨left.1.trans right.1, left.2.trans right.2⟩

theorem exists_file_of_standsIn {content : Array UInt8} {extents : Array Extent} {fileEnd : Nat}
    {medium : Medium} (stands : (Medium.file content extents fileEnd).StandsIn medium) :
    ∃ longer places newEnd, medium = .file longer places newEnd ∧
      content.toList <+: longer.toList ∧ extents.toList <+: places.toList := by
  cases medium with
  | memory rows => exact stands.elim
  | file longer places newEnd => exact ⟨longer, places, newEnd, rfl, stands⟩

theorem standsIn_append (medium : Medium) (encoded : Bytes) :
    medium.StandsIn (medium.append encoded) := by
  cases medium with
  | memory rows => simp [append, StandsIn]
  | file content extents fileEnd => simp [append, StandsIn]

end Medium

def StoreRequest.row? : StoreRequest → Option Row
  | .append row => some row
  | _ => none

namespace RowStore

def after (store : RowStore) (requests : List StoreRequest) : RowStore :=
  requests.foldl (fun store request => (store.serve request).2) store

inductive Moves (store : RowStore) : StoreRequest → RowStore → Prop where
  | stored {row : Row} {next : RowStore} (appended : store.append row = .ok next) :
      Moves store (.append row) next
  | refused {row : Row} {error : StorageError} (refusal : store.append row = .error error) :
      Moves store (.append row) store
  | read (start count : UInt64) : Moves store (.read start count) store
  | count : Moves store .count store
  | close : Moves store .close store.close

theorem moves_serve (store : RowStore) (request : StoreRequest) :
    store.Moves request (store.serve request).2 := by
  cases request with
  | append row =>
    simp only [serve, appendRow]
    cases appended : store.append row with
    | error error => exact .refused appended
    | ok next => exact .stored appended
  | read start count => exact .read start count
  | count => exact .count
  | close => exact .close

/-! One request, and then all of them. -/

variable {store next : RowStore} {rows : List Row} {request : StoreRequest}

theorem Moves.isOpen (moved : store.Moves request next) :
    next.isOpen = true ↔ store.isOpen = true ∧ request ≠ .close := by
  cases moved with
  | stored appended =>
    obtain ⟨-, rfl⟩ := eq_of_append appended
    simp
  | refused _ | read _ _ | count => simp
  | close => simp [RowStore.close]

theorem isOpen_after (store : RowStore) (requests : List StoreRequest) :
    (store.after requests).isOpen = true ↔ store.isOpen = true ∧ .close ∉ requests := by
  induction requests generalizing store with
  | nil => simp [after]
  | cons request rest ih =>
    have others := ih (store.serve request).2
    rw [(store.moves_serve request).isOpen] at others
    rwa [and_assoc, ne_comm, ← not_or, ← List.mem_cons] at others

theorem fileContent?_of_closed (closed : store.isOpen = false) : store.fileContent? = none := by
  unfold fileContent?
  cases store.medium <;> simp [closed]

theorem Moves.standsIn (moved : store.Moves request next) (goesOn : request ≠ .close) :
    store.medium.StandsIn next.medium := by
  cases moved with
  | stored appended =>
    obtain ⟨-, rfl⟩ := eq_of_append appended
    exact Medium.standsIn_append _ _
  | refused _ | read _ _ | count => exact Medium.StandsIn.refl store.medium
  | close => exact absurd rfl goesOn

theorem standsIn_after (store : RowStore) {requests : List StoreRequest}
    (goesOn : .close ∉ requests) : store.medium.StandsIn (store.after requests).medium := by
  induction requests generalizing store with
  | nil => exact Medium.StandsIn.refl store.medium
  | cons request rest ih =>
    rw [List.mem_cons, not_or] at goesOn
    have first := (store.moves_serve request).standsIn (ne_comm.mp goesOn.1)
    exact first.trans (ih _ goesOn.2)

/-- A store that never gets full takes every row that it is asked to take. -/
theorem Holds.moves (holds : store.Holds rows) (endless : store.room = none)
    (moved : store.Moves request next) (goesOn : request ≠ .close) :
    next.Holds (rows ++ request.row?.toList) ∧ next.room = none := by
  cases moved with
  | stored appended =>
    obtain ⟨-, rfl⟩ := eq_of_append appended
    exact ⟨holds.append _, endless⟩
  | refused refusal =>
    have full := (isFull_of_refused holds.isOpen refusal).1
    simp [isFull, endless] at full
  | read _ _ | count => exact ⟨by simpa [StoreRequest.row?] using holds, endless⟩
  | close => exact absurd rfl goesOn

theorem Holds.after (holds : store.Holds rows) (endless : store.room = none)
    {requests : List StoreRequest} (goesOn : .close ∉ requests) :
    (store.after requests).Holds (rows ++ requests.filterMap StoreRequest.row?) := by
  induction requests generalizing store rows with
  | nil => simpa [RowStore.after] using holds
  | cons request rest ih =>
    rw [List.mem_cons, not_or] at goesOn
    obtain ⟨next, still⟩ := holds.moves endless (store.moves_serve request) (ne_comm.mp goesOn.1)
    have others := ih next still goesOn.2
    have added : (request :: rest).filterMap StoreRequest.row? =
        request.row?.toList ++ rest.filterMap StoreRequest.row? := by
      cases found : request.row? <;> simp [found]
    rwa [added, ← List.append_assoc]

end RowStore

theorem StoreMaker.medium_of_inFile {maker : StoreMaker} {key : StoreKey} {store : RowStore}
    (inFile : maker.inFile = true) (made : (maker.create key).1 = .ok store) :
    store.medium = .file #[] #[] 0 := by
  unfold create at made
  split at made
  · cases made
  · cases made
    rfl

/-- A store in a file, with room for every row, is open until it is closed, and then it has no file
any more. As long as it is open, its extents divide the file, one for each appended row and in order,
with the bytes of that row; the writer's end is the end of the file, and as many rows are published as
there are extents. Nothing that is asked further, short of closing, changes a byte or an extent that is
there. -/
theorem extents_tile_file {maker : StoreMaker} {key : StoreKey} {fresh : RowStore}
    (inFile : maker.inFile = true) (made : (maker.create key).1 = .ok fresh)
    (endless : fresh.room = none) (requests : List StoreRequest) :
    ((fresh.after requests).isOpen = true ↔ .close ∉ requests) ∧
      (.close ∈ requests → (fresh.after requests).fileContent? = none) ∧
      ((fresh.after requests).isOpen = true → ∃ content extents fileEnd,
        (fresh.after requests).medium = .file content extents fileEnd ∧
          Filed (requests.filterMap StoreRequest.row?) content extents fileEnd ∧
          (fresh.after requests).published = extents.size ∧
          ∀ further, .close ∉ further → ∃ longer places newEnd,
            (fresh.after (requests ++ further)).medium = .file longer places newEnd ∧
              content.toList <+: longer.toList ∧ extents.toList <+: places.toList) := by
  have holds := StoreMaker.create_holds made
  have opened := fresh.isOpen_after requests
  simp only [holds.isOpen, true_and] at opened
  refine ⟨opened, fun closes => ?_, fun isOpen => ?_⟩
  · have closed : (fresh.after requests).isOpen = false := by simpa [closes] using opened
    exact RowStore.fileContent?_of_closed closed
  · have goesOn := opened.mp isOpen
    have stored := holds.after endless goesOn
    rw [List.nil_append] at stored
    -- An empty file stands in every medium that comes later, so all of these are files.
    have stands := fresh.standsIn_after goesOn
    rw [StoreMaker.medium_of_inFile inFile made] at stands
    obtain ⟨content, extents, fileEnd, medium, -, -⟩ := Medium.exists_file_of_standsIn stands
    have kept := medium ▸ stored.medium
    have counted : (fresh.after requests).published = extents.size :=
      stored.published.trans kept.count.symm
    refine ⟨content, extents, fileEnd, medium, kept.filed, counted, fun further goesFurther => ?_⟩
    have later := (fresh.after requests).standsIn_after goesFurther
    have both : fresh.after (requests ++ further) = (fresh.after requests).after further :=
      List.foldl_append
    rw [both]
    exact Medium.exists_file_of_standsIn (medium ▸ later)

/-- Two rows, one of them without cells, and readers in between. -/
def pairRequests : List StoreRequest :=
  [.append [.text "a", .null], .read 0 9, .count, .append [], .read 1 0xFFFFFFFFFFFFFFFF]

theorem extents_tile_file_pair :
    StoreMaker.file.inFile = true ∧ ∃ fresh,
      (StoreMaker.file.create ⟨"o", 0, 0⟩).1 = .ok fresh ∧ fresh.room = none ∧
        (fresh.after pairRequests).isOpen = true ∧ ∃ content,
          (fresh.after pairRequests).medium = .file content #[⟨0, 11⟩, ⟨11, 4⟩] 15 ∧
            Filed [[.text "a", .null], []] content #[⟨0, 11⟩, ⟨11, 4⟩] 15 ∧
            (fresh.after pairRequests).published = 2 ∧
            ∀ further, .close ∉ further → ∃ longer places newEnd,
              (fresh.after (pairRequests ++ further)).medium = .file longer places newEnd ∧
                content.toList <+: longer.toList ∧ [⟨0, 11⟩, ⟨11, 4⟩] <+: places.toList := by
  obtain ⟨fresh, made⟩ : ∃ fresh, (StoreMaker.file.create ⟨"o", 0, 0⟩).1 = .ok fresh := ⟨_, rfl⟩
  have endless : fresh.room = none := by
    cases made
    rfl
  obtain ⟨opened, -, divided⟩ := extents_tile_file rfl made endless pairRequests
  have isOpen := opened.mpr (by simp [pairRequests])
  obtain ⟨content, extents, fileEnd, medium, filed, counted, onward⟩ := divided isOpen
  have concrete : ∃ written, (fresh.after pairRequests).medium =
      .file written #[⟨0, 11⟩, ⟨11, 4⟩] 15 := by
    cases made
    exact ⟨_, rfl⟩
  obtain ⟨written, same⟩ := concrete
  obtain ⟨rfl, rfl, rfl⟩ := Medium.file.inj (medium.symm.trans same)
  exact ⟨rfl, fresh, made, endless, isOpen, content, medium, filed, counted, onward⟩

end SqlDesk
