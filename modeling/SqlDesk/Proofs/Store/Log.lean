import SqlDesk.Proofs.Store.Contents

/-! Both kinds of store answer like one append-only list, whatever they are asked and in whatever
order. The invariant is that an open store holds the rows of the list and that both are open or
closed together; one request preserves it and gets equal answers, hence a whole conversation does. -/

set_option autoImplicit false

namespace SqlDesk

/-- What a store is asked. Windows are given by words of 64 bits. -/
inductive StoreRequest where
  | append (row : Row)
  | read (start count : UInt64)
  | count
  | close

inductive StoreAnswer where
  | appended (given : Except StorageError Nat)
  | rows (given : Except StorageError (List Row))
  | counted (count : Nat)
  | closed

def StoreRequest.Fits : StoreRequest → Prop
  | append row => row.Fits
  | _ => True

instance : DecidablePred StoreRequest.Fits
  | .append row => inferInstanceAs (Decidable row.Fits)
  | .read _ _ | .count | .close => .isTrue trivial

namespace RowStore

def serve (store : RowStore) : StoreRequest → StoreAnswer × RowStore
  | .append row =>
    match store.appendRow row with
    | .ok (number, next) => (.appended (.ok number), next)
    | .error error => (.appended (.error error), store)
  | .read start count => (.rows (store.read start.toNat count.toNat), store)
  | .count => (.counted store.published, store)
  | .close => (.closed, store.close)

def answers (store : RowStore) : List StoreRequest → List StoreAnswer
  | [] => []
  | request :: rest => (store.serve request).1 :: (store.serve request).2.answers rest

end RowStore

/-- An append-only list of rows that can be closed. -/
structure RowLog where
  rows : List Row
  isOpen : Bool

namespace RowLog

def empty : RowLog := ⟨[], true⟩

def window (log : RowLog) (start count : Nat) : List Row :=
  log.rows.extract start (min (start + count) log.rows.length)

def serve (log : RowLog) : StoreRequest → StoreAnswer × RowLog
  | .append row =>
    if log.isOpen then (.appended (.ok log.rows.length), { log with rows := log.rows ++ [row] })
    else (.appended (.error .closed), log)
  | .read start count =>
    (.rows (if log.isOpen then .ok (log.window start.toNat count.toNat) else .error .closed), log)
  | .count => (.counted log.rows.length, log)
  | .close => (.closed, { log with isOpen := false })

def answers (log : RowLog) : List StoreRequest → List StoreAnswer
  | [] => []
  | request :: rest => (log.serve request).1 :: (log.serve request).2.answers rest

/-- The end of a window in words of 64 bits, where a sum that is too large becomes the largest word. -/
def saturatingEnd (start count : UInt64) : Nat := min (start.toNat + count.toNat) (2 ^ 64 - 1)

-- The window adds numbers. As long as the rows can be counted in a word, cutting the sum off at the
-- largest word changes nothing, because the window ends with the rows anyway.
theorem window_saturating (log : RowLog) (counted : log.rows.length < 2 ^ 64)
    (start count : UInt64) :
    log.window start.toNat count.toNat =
      log.rows.extract start.toNat (min (saturatingEnd start count) log.rows.length) := by
  have same : min (saturatingEnd start count) log.rows.length =
      min (start.toNat + count.toNat) log.rows.length := by
    simp only [saturatingEnd]
    omega
  rw [window, same]

end RowLog

namespace RowStore

structure Follows (store : RowStore) (log : RowLog) : Prop where
  keeps : store.Keeps log.rows
  sameOpen : store.isOpen = log.isOpen
  unlimited : store.room = none

theorem Follows.isFull {store : RowStore} {log : RowLog} (follows : store.Follows log) :
    store.isFull = false := by
  simp [RowStore.isFull, follows.unlimited]

theorem Follows.serve {store : RowStore} {log : RowLog} (follows : store.Follows log)
    {request : StoreRequest} (fits : request.Fits) :
    (store.serve request).1 = (log.serve request).1 ∧
      (store.serve request).2.Follows (log.serve request).2 := by
  cases request with
  | append row =>
    cases opened : log.isOpen with
    | true =>
      have available : store.isOpen = true := follows.sameOpen.trans opened
      have appended := append_of_room row available follows.isFull
      have next := follows.keeps.append fits
      have count := (next.medium available).count
      constructor
      · simp [RowStore.serve, RowLog.serve, appendRow, appended, Except.map, opened, count]
      · simp only [RowStore.serve, RowLog.serve, appendRow, appended, Except.map, opened, if_true]
        exact ⟨next, available, follows.unlimited⟩
    | false =>
      have refused := append_of_closed row (follows.sameOpen.trans opened) follows.isFull
      constructor
      · simp [RowStore.serve, RowLog.serve, appendRow, refused, Except.map, opened]
      · simpa [RowStore.serve, RowLog.serve, appendRow, refused, Except.map, opened] using follows
  | read start count =>
    refine ⟨?_, follows⟩
    cases opened : log.isOpen with
    | true =>
      have given := follows.keeps.read (follows.sameOpen.trans opened) start.toNat count.toNat
      simp [RowStore.serve, RowLog.serve, RowLog.window, opened, given]
    | false =>
      have closed : store.isOpen = false := follows.sameOpen.trans opened
      simp [RowStore.serve, RowLog.serve, RowStore.read, opened, closed]
  | count =>
    have counted : store.published = log.rows.length := follows.keeps.published
    exact ⟨congrArg StoreAnswer.counted counted, follows⟩
  | close => exact ⟨rfl, follows.keeps.close, rfl, follows.unlimited⟩

theorem Follows.answers {store : RowStore} {log : RowLog} (follows : store.Follows log)
    {requests : List StoreRequest} (fit : ∀ request ∈ requests, request.Fits) :
    store.answers requests = log.answers requests := by
  induction requests generalizing store log with
  | nil => rfl
  | cons request rest ih =>
    obtain ⟨same, next⟩ := follows.serve (fit request (by simp))
    have others := ih next fun other member => fit other (by simp [member])
    simp only [RowStore.answers, RowLog.answers, same, others]

end RowStore

/-- A fresh store of either kind answers every sequence of requests as the empty list does, and the
windows of the list are those of saturating sums. -/
theorem stores_answer_as_log (key : StoreKey) (requests : List StoreRequest)
    (fit : ∀ request ∈ requests, request.Fits) :
    (StoreMaker.memory.create key).1.map (·.answers requests) =
        .ok (RowLog.empty.answers requests) ∧
      (StoreMaker.file.create key).1.map (·.answers requests) =
        .ok (RowLog.empty.answers requests) ∧
      ∀ (log : RowLog) (start count : UInt64), log.rows.length < 2 ^ 64 →
        log.window start.toNat count.toNat =
          log.rows.extract start.toNat
            (min (RowLog.saturatingEnd start count) log.rows.length) := by
  have fresh (maker : StoreMaker) {store : RowStore} (made : (maker.create key).1 = .ok store)
      (unlimited : maker.rooms = StoreMaker.unlimited) : store.Follows RowLog.empty := by
    obtain ⟨keeps, opened, -, room⟩ := StoreMaker.create_keeps made
    exact ⟨keeps, opened, by rw [room, unlimited]; rfl⟩
  refine ⟨?_, ?_, fun log start count counted => log.window_saturating counted start count⟩
  · exact congrArg Except.ok ((fresh .memory rfl rfl).answers fit)
  · exact congrArg Except.ok ((fresh .file rfl rfl).answers fit)

/-- Appends, a read across the end, a sum that no word holds, and requests after closing. -/
def someRequests : List StoreRequest :=
  [.append [.text "a", .null], .append [.float64 0x7ff8000000000000], .read 1 9, .count,
    .read 1 0xFFFFFFFFFFFFFFFF, .close, .close, .count, .read 5 0, .append []]

theorem stores_answer_as_log_some :
    (∀ request ∈ someRequests, request.Fits) ∧
      (StoreMaker.memory.create ⟨"o", 0, 0⟩).1.map (·.answers someRequests) =
        .ok (RowLog.empty.answers someRequests) ∧
      (StoreMaker.file.create ⟨"o", 0, 0⟩).1.map (·.answers someRequests) =
        .ok (RowLog.empty.answers someRequests) ∧
      RowLog.empty.answers someRequests =
        [.appended (.ok 0), .appended (.ok 1), .rows (.ok [[.float64 0x7ff8000000000000]]),
          .counted 2, .rows (.ok [[.float64 0x7ff8000000000000]]), .closed, .closed, .counted 2,
          .rows (.error .closed), .appended (.error .closed)] := by
  have fit : ∀ request ∈ someRequests, request.Fits := by decide
  have same := stores_answer_as_log ⟨"o", 0, 0⟩ someRequests fit
  exact ⟨fit, same.1, same.2.1, rfl⟩

end SqlDesk
