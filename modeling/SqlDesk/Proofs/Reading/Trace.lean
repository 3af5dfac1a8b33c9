import SqlDesk.Proofs.Reading.Turn
import SqlDesk.Proofs.Source.Yield
import SqlDesk.Proofs.Store.Window

/-!
The whole of a reading. From the rows that there are, the limit, the room of the store and the request
at which cancellation is signalled it follows how many rows are stored (`Job.count`), what is told of
them (`Job.trace`) and how reading ends (`Job.ending`). A reading amid its rows has told what there is
to tell of the rows stored so far (`Amid`), and each further row leaves it so or ends it.
-/

set_option autoImplicit false

namespace SqlDesk

/-- The row counts at which more rows are told of: multiples of the interval, from the second row on. -/
def milestones (interval count : Nat) : List Nat :=
  (List.range' 2 (count - 1)).filter fun rows => rows % interval = 0

theorem milestones_succ (interval count : Nat) :
    milestones interval (count + 1) =
      milestones interval count ++ if 0 < count ∧ (count + 1) % interval = 0 then [count + 1] else [] := by
  unfold milestones
  cases count with
  | zero => rfl
  | succ count =>
    rw [Nat.add_sub_cancel, Nat.add_sub_cancel, List.range'_1_concat, List.filter_append,
      Nat.add_comm 2 count]
    congr 1
    by_cases due : (count + 2) % interval = 0 <;> simp [due]

theorem atMost_le (bound : Option Nat) (count : Nat) : atMost bound count ≤ count := by
  cases bound with
  | none => exact Nat.le_refl count
  | some most => exact Nat.min_le_right most count

theorem upTo_eq_take {α : Type} (bound : Option Nat) (items : List α) :
    upTo bound items = items.take (atMost bound items.length) := by
  cases bound with
  | none => exact (List.take_length ..).symm
  | some most => exact List.take_eq_take_min

theorem upTo_take {α : Type} (bound : Option Nat) {items : List α} {count : Nat}
    (small : count ≤ items.length) :
    upTo bound (items.take count) = items.take (atMost bound count) := by
  rw [upTo_eq_take, List.length_take, Nat.min_eq_left small, List.take_take,
    Nat.min_eq_left (atMost_le bound count)]

namespace Reading

/-- A reading as it begins, with the number of the row request at which cancellation is signalled. -/
structure Job where
  store : RowStore
  header : Header
  cursor : Cursor
  options : ReadOptions
  fires : Option Nat

namespace Job

def rows (job : Job) : List Row := job.cursor.rows

def result (job : Job) : ResultSet := .ofHeader job.store job.header

def start (job : Job) : Reading := .start job.result job.cursor

/-- Rows that are asked for and wanted. -/
def wanted (job : Job) : Nat :=
  atMost job.options.rowLimit (atMost job.fires job.rows.length)

def count (job : Job) : Nat := atMost job.store.room job.wanted

def summary (job : Job) (rowCount : Nat) (complete : Bool) : ResultSummary :=
  { job.result.summary with rowCount, complete }

def begun (job : Job) (count : Nat) : List ResultEvent :=
  if count = 0 then []
  else .available (job.summary 1 false) ::
    (milestones (max job.options.interval 1) count).map fun rows => .updated (job.summary rows false)

def trace (job : Job) : List ResultEvent :=
  if job.count = 0 then [.available (job.summary 0 true), .completed (job.summary 0 true)]
  else job.begun job.count ++ [.completed (job.summary job.count true)]

def ending (job : Job) : Option ReadOutcome :=
  if job.store.room.any (· < job.wanted) then some (.error (.storage RowStore.diskFull))
  else if job.fires.any (· ≤ job.rows.length) then some (.error .cancelled)
  else match job.cursor.stop with
    | none => some (.ok ())
    | some (.fails error) => some (.error (readFailure error))
    | some .hangs => job.fires.map fun _ => .error .cancelled

/-- The rows run out before anything else ends the reading. -/
structure Exhausts (job : Job) : Prop where
  roomy : job.store.room.any (· < job.wanted) = false
  live : job.fires.any (· ≤ job.rows.length) = false
  stop : job.cursor.stop = none

theorem ending_eq_ok_iff (job : Job) : job.ending = some (.ok ()) ↔ job.Exhausts := by
  constructor
  · intro fine
    rw [ending] at fine
    split at fine
    · cases fine
    · rename_i roomy
      split at fine
      · cases fine
      · rename_i live
        split at fine
        · rename_i stop
          exact ⟨by simpa using roomy, by simpa using live, stop⟩
        · cases fine
        · obtain ⟨_, _, other⟩ := Option.map_eq_some_iff.mp fine
          cases other
  · rintro ⟨roomy, live, stop⟩
    rw [ending, roomy, live, stop]
    rfl

def signalled (job : Job) (number : Nat) : Bool := job.fires.any (· ≤ number)

theorem unfired_of_live {job : Job} {number : Nat} (live : job.signalled number = false) :
    job.fires.any (· < number + 1) = false := by
  rw [← live, signalled]
  simp only [Nat.lt_succ_iff]

/-- A reading goes on to its end, row request by row request, and tells events on the way. -/
inductive Runs (job : Job) : Nat → Reading → List ResultEvent → ReadEnd → Prop where
  | ends {number : Nat} {reading : Reading} {done : ReadEnd} {event : Option ResultEvent}
      (step : reading.step job.options (job.signalled number) = .ends done event) :
      Runs job number reading event.toList done
  | moves {number : Nat} {reading next : Reading} {event : Option ResultEvent}
      {told : List ResultEvent} {done : ReadEnd}
      (step : reading.step job.options (job.signalled number) = .moves next event)
      (rest : Runs job (number + 1) next told done) :
      Runs job number reading (event.toList ++ told) done
  | waits {number : Nat} {reading next : Reading} {told : List ResultEvent} {done : ReadEnd}
      (step : reading.step job.options (job.signalled number) = .waits next)
      (rest : Runs job (number + 1) next told done) : Runs job number reading told done

structure Done (job : Job) (told : List ResultEvent) (done : ReadEnd) : Prop where
  told : told = job.trace
  holds : done.result.store.Holds (job.rows.take job.count)
  complete : done.result.complete = true
  outcome : job.ending = some done.outcome

structure Grown (job : Job) (kept : List Row) (complete : Bool) (result : ResultSet) : Prop where
  holds : result.store.Holds kept
  key : result.store.key = job.store.key
  room : result.store.room = job.store.room
  same : result = { job.result with store := result.store, complete }

variable {job : Job} {number : Nat} {told : List ResultEvent} {reading : Reading} {kept : List Row}

theorem Grown.summary {complete : Bool} {result : ResultSet} (grown : job.Grown kept complete result) :
    result.summary = job.summary kept.length complete := by
  rw [grown.same]
  simp only [ResultSet.summary, Job.summary, ResultSet.id, ResultSet.batchId, ResultSet.rowCount,
    grown.key, grown.holds.published]
  rfl

theorem begun_succ (job : Job) {count : Nat} {result : ResultSet}
    (rows : result.rowCount = count + 1) (summary : result.summary = job.summary (count + 1) false) :
    job.begun (count + 1) =
      job.begun count ++ (eventFor job.options (decide (0 < count)) result).toList := by
  cases count with
  | zero =>
    rw [eventFor, summary]
    rfl
  | succ count =>
    rw [begun, if_neg (Nat.succ_ne_zero _), milestones_succ, begun, if_neg (Nat.succ_ne_zero _), eventFor,
      rows, summary]
    by_cases due : (count + 1 + 1) % max job.options.interval 1 = 0
    · simp [due]
    · simp [due]

/-! ## The last steps -/

theorem runs_of_completing {outcome : ReadOutcome} (phase : reading.phase = .completing outcome) :
    job.Runs number reading [.completed reading.result.summary]
      ⟨reading.result, reading.cursor, outcome⟩ := by
  have last : reading.step job.options (job.signalled number) =
      .ends ⟨reading.result, reading.cursor, outcome⟩ (some (.completed reading.result.summary)) := by
    rw [step, phase]
  exact .ends last

theorem runs_of_announcing {outcome : ReadOutcome} (phase : reading.phase = .announcing outcome) :
    job.Runs number reading
      [.available reading.result.summary, .completed reading.result.summary]
      ⟨reading.result, reading.cursor, outcome⟩ := by
  have next : reading.step job.options (job.signalled number) =
      .moves { reading with phase := .completing outcome }
        (some (.available reading.result.summary)) := by
    rw [step, phase]
  exact .moves next (runs_of_completing rfl)

theorem Runs.unique {other : List ResultEvent} {done otherDone : ReadEnd}
    (first : job.Runs number reading told done) (second : job.Runs number reading other otherDone) :
    told = other ∧ done = otherDone := by
  -- Both runs take the step that there is, so the kind of the first step settles that of the second.
  induction first generalizing other otherDone with
  | ends step =>
    cases second with
    | ends same =>
      rw [step] at same
      cases same
      exact ⟨rfl, rfl⟩
    | moves same | waits same =>
      rw [step] at same
      cases same
  | moves step _ ih =>
    cases second with
    | moves same rest =>
      rw [step] at same
      cases same
      obtain ⟨rfl, rfl⟩ := ih rest
      exact ⟨rfl, rfl⟩
    | ends same | waits same =>
      rw [step] at same
      cases same
  | waits step _ ih =>
    cases second with
    | waits same rest =>
      rw [step] at same
      cases same
      exact ih rest
    | ends same | moves same =>
      rw [step] at same
      cases same

structure Over (job : Job) (told : List ResultEvent) (reading : Reading) : Prop where
  grown : job.Grown (job.rows.take job.count) true reading.result
  told : told = job.begun job.count
  phase : ∃ outcome, job.ending = some outcome ∧
    reading.phase = if 0 < job.count then .completing outcome else .announcing outcome

theorem count_le (job : Job) : job.count ≤ job.rows.length :=
  calc job.count
    _ ≤ job.wanted := atMost_le _ _
    _ ≤ atMost job.fires job.rows.length := atMost_le _ _
    _ ≤ job.rows.length := atMost_le _ _

/-- The rows that the source returns before cancellation, as a deposit. -/
def deposit (job : Job) : Deposit := ⟨job.header, upTo job.fires job.rows, job.store.room⟩

theorem overflows_deposit (job : Job) :
    job.deposit.overflows job.options.rowLimit = job.store.room.any (· < job.wanted) := by
  rw [Deposit.overflows, Deposit.wanted, length_upTo, deposit, length_upTo, wanted]

theorem kept_deposit (job : Job) :
    job.deposit.kept job.options.rowLimit = job.rows.take job.count := by
  have offered : atMost job.fires job.rows.length ≤ job.rows.length := atMost_le _ _
  have wanted : job.wanted ≤ job.rows.length := Nat.le_trans (atMost_le _ _) offered
  rw [Deposit.kept, Deposit.wanted, deposit, upTo_eq_take job.fires, upTo_take _ offered]
  exact upTo_take _ wanted

theorem Over.runs (passed : job.Over told reading) (number : Nat) :
    ∃ later done, job.Runs number reading later done ∧ job.Done (told ++ later) done := by
  obtain ⟨grown, rfl, outcome, ending, phase⟩ := passed
  have summary := grown.summary
  rw [List.length_take, Nat.min_eq_left job.count_le] at summary
  have complete : reading.result.complete = true := by rw [grown.same]
  by_cases empty : job.count = 0
  · rw [if_neg (by omega)] at phase
    refine ⟨_, _, runs_of_announcing phase, ?_, grown.holds, complete, ending⟩
    rw [summary, trace, begun, if_pos empty, if_pos empty, empty]
    rfl
  · rw [if_pos (by omega)] at phase
    refine ⟨_, _, runs_of_completing phase, ?_, grown.holds, complete, ending⟩
    rw [summary, trace, if_neg empty]

theorem Over.closes {later : List ResultEvent} {done : ReadEnd} (passed : job.Over told reading)
    (run : job.Runs number reading later done) : job.Done (told ++ later) done := by
  obtain ⟨_, _, own, fine⟩ := passed.runs number
  obtain ⟨rfl, rfl⟩ := own.unique run
  exact fine

/-! ## Amid the rows -/

/-- So many rows have been asked for, and these have been taken. -/
structure Amid (job : Job) (number : Nat) (told : List ResultEvent) (reading : Reading)
    (taken : List Row) : Prop where
  rows : taken ++ reading.cursor.rows = job.rows
  stop : reading.cursor.stop = job.cursor.stop
  asked : taken.length = number ∨
    taken.length ≤ number ∧ reading.cursor.rows = [] ∧ job.cursor.stop = some .hangs
  live : job.fires.any (· < number) = false
  fits : job.store.room.any (· < (upTo job.options.rowLimit taken).length) = false
  grown : job.Grown (upTo job.options.rowLimit taken) false reading.result
  told : told = job.begun (upTo job.options.rowLimit taken).length
  phase : reading.phase = .fetching (decide (0 < (upTo job.options.rowLimit taken).length))

namespace Amid

variable {taken : List Row} {cursor : Cursor} {outcome : ReadOutcome}

theorem passes (amid : job.Amid number told reading taken)
    (kept : upTo job.options.rowLimit taken = job.rows.take job.count)
    (ending : job.ending = some outcome) (cursor : Cursor) :
    job.Over told (({ reading with cursor } : Reading).finish
      (0 < (upTo job.options.rowLimit taken).length) outcome) := by
  have count : (upTo job.options.rowLimit taken).length = job.count := by
    rw [kept, List.length_take, Nat.min_eq_left job.count_le]
  constructor
  · rw [← kept]
    have same : { reading.result with complete := true } =
        { job.result with store := reading.result.store, complete := true } := by
      rw [amid.grown.same]
    exact ⟨amid.grown.holds, amid.grown.key, amid.grown.room, same⟩
  · rw [amid.told, count]
  · refine ⟨outcome, ending, ?_⟩
    rw [finish, count]
    simp only [decide_eq_true_eq]

/-- If all rows have been taken that there are to ask for, there was room for those that are wanted. -/
theorem kept_of_offered (amid : job.Amid number told reading taken)
    (offered : upTo job.fires job.rows = taken) :
    job.store.room.any (· < job.wanted) = false ∧
      upTo job.options.rowLimit taken = job.rows.take job.count := by
  have deposit : job.deposit = ⟨job.header, taken, job.store.room⟩ := by rw [Job.deposit, offered]
  have fits : job.deposit.overflows job.options.rowLimit = false := by
    rw [deposit]
    exact amid.fits
  constructor
  · rw [← overflows_deposit]
    exact fits
  · rw [← kept_deposit, Deposit.kept_of_not_overflows fits, deposit, Deposit.wanted]

theorem ending_of_offered (amid : job.Amid number told reading taken)
    (offered : upTo job.fires job.rows = taken) :
    job.ending = if job.fires.any (· ≤ job.rows.length) then some (.error .cancelled)
      else match job.cursor.stop with
        | none => some (.ok ())
        | some (.fails error) => some (.error (readFailure error))
        | some .hangs => job.fires.map fun _ => .error .cancelled := by
  rw [ending, (amid.kept_of_offered offered).1]
  rfl

theorem length_rows (amid : job.Amid number told reading taken) :
    job.rows.length = taken.length + reading.cursor.rows.length := by
  rw [← amid.rows, List.length_append]

theorem length_le (amid : job.Amid number told reading taken) : taken.length ≤ number := by
  rcases amid.asked with asked | ⟨asked, -, -⟩
  · exact Nat.le_of_eq asked
  · exact asked

theorem cancel (amid : job.Amid number told reading taken) (signalled : job.signalled number = true) :
    upTo job.fires job.rows = taken ∧ job.ending = some (.error .cancelled) := by
  obtain ⟨most, fires, reached⟩ : ∃ most, job.fires = some most ∧ most ≤ number := by
    simpa [Job.signalled, Option.any_eq_true] using signalled
  -- Cancellation has not been seen before, so it is signalled just now.
  have unfired : number ≤ most := by simpa [fires] using amid.live
  have length := amid.length_rows
  rcases amid.asked with asked | ⟨asked, none, hangs⟩
  · have offered : upTo job.fires job.rows = taken := by
      rw [fires, ← amid.rows]
      exact List.take_left' (by omega)
    have inside : job.fires.any (· ≤ job.rows.length) = true := by
      rw [fires, Option.any_some, decide_eq_true_eq]
      omega
    exact ⟨offered, by rw [amid.ending_of_offered offered, if_pos inside]⟩
  · rw [none, List.length_nil] at length
    have offered : upTo job.fires job.rows = taken := by
      rw [fires, ← amid.rows, none, List.append_nil]
      exact List.take_of_length_le (by omega)
    refine ⟨offered, ?_⟩
    rw [amid.ending_of_offered offered, fires, hangs]
    split <;> rfl

theorem offered_of_live (amid : job.Amid number told reading taken)
    (live : job.signalled number = false) (none : reading.cursor.rows = []) :
    upTo job.fires job.rows = taken ∧ job.fires.any (· ≤ job.rows.length) = false := by
  have asked := amid.length_le
  have all : job.rows = taken := by rw [← amid.rows, none, List.append_nil]
  rw [all]
  cases fires : job.fires with
  | none => exact ⟨rfl, rfl⟩
  | some most =>
    have later : number < most := by simpa [Job.signalled, fires] using live
    constructor
    · exact List.take_of_length_le (by omega)
    · rw [Option.any_some, decide_eq_false_iff_not]
      omega

theorem asked_of_value (amid : job.Amid number told reading taken) {row : Row} {next : Cursor}
    (rows : reading.cursor.rows = row :: next.rows) : taken.length = number := by
  rcases amid.asked with asked | ⟨-, none, -⟩
  · exact asked
  · rw [rows] at none
    cases none

theorem isAtLimit_eq (amid : job.Amid number told reading taken) :
    isAtLimit job.options reading.result =
      job.options.rowLimit.any (· ≤ (upTo job.options.rowLimit taken).length) := by
  have count : reading.result.rowCount = (upTo job.options.rowLimit taken).length :=
    amid.grown.holds.published
  rw [isAtLimit, count]

theorem isFull_eq (amid : job.Amid number told reading taken) :
    reading.result.store.isFull =
      job.store.room.any (· ≤ (upTo job.options.rowLimit taken).length) := by
  rw [RowStore.isFull, amid.grown.room, amid.grown.holds.published]

theorem drop (amid : job.Amid number told reading taken) (live : job.signalled number = false)
    {row : Row} {cursor : Cursor} (rows : reading.cursor.rows = row :: cursor.rows)
    (stop : cursor.stop = reading.cursor.stop)
    (atLimit : isAtLimit job.options reading.result = true) :
    job.Amid (number + 1) told { reading with cursor } (taken ++ [row]) := by
  have asked := amid.asked_of_value rows
  rw [amid.isAtLimit_eq] at atLimit
  -- The row is beyond the limit, so nothing changes of what is kept.
  have same := upTo_append_of_full atLimit [row]
  refine ⟨?_, stop.trans amid.stop, .inl ?_, unfired_of_live live, ?_, ?_, ?_, ?_⟩
  · rw [← amid.rows, rows, List.append_assoc, List.singleton_append]
  · rw [List.length_append, List.length_singleton, asked]
  · rw [same]
    exact amid.fits
  · rw [same]
    exact amid.grown
  · rw [same]
    exact amid.told
  · rw [same]
    exact amid.phase

theorem store (amid : job.Amid number told reading taken) (live : job.signalled number = false)
    {row : Row} {cursor : Cursor} (rows : reading.cursor.rows = row :: cursor.rows)
    (stop : cursor.stop = reading.cursor.stop)
    (below : isAtLimit job.options reading.result = false) {store : RowStore}
    (appended : reading.result.store.append row = .ok store) :
    job.Amid (number + 1)
      (told ++ (eventFor job.options (decide (0 < (upTo job.options.rowLimit taken).length))
        { reading.result with store }).toList)
      ⟨{ reading.result with store }, cursor, .fetching true⟩ (taken ++ [row]) := by
  have asked := amid.asked_of_value rows
  rw [amid.isAtLimit_eq] at below
  have more := upTo_append_of_room below row
  obtain ⟨space, rfl⟩ := RowStore.eq_of_append appended
  rw [amid.isFull_eq] at space
  -- The row is the next one below the limit, so each part grows by it.
  have count : (upTo job.options.rowLimit (taken ++ [row])).length =
      (upTo job.options.rowLimit taken).length + 1 := by
    rw [more, List.length_append, List.length_singleton]
  have grown : job.Grown (upTo job.options.rowLimit (taken ++ [row])) false
      { reading.result with store := { reading.result.store with
        medium := reading.result.store.medium.append (Row.encode row)
        published := reading.result.store.published + 1 } } := by
    rw [more]
    refine ⟨amid.grown.holds.append row, amid.grown.key, amid.grown.room, ?_⟩
    rw [amid.grown.same]
  refine ⟨?_, stop.trans amid.stop, .inl ?_, unfired_of_live live, ?_, grown, ?_, ?_⟩
  · rw [← amid.rows, rows, List.append_assoc, List.singleton_append]
  · rw [List.length_append, List.length_singleton, asked]
  · rw [count]
    simpa only [Nat.lt_succ_iff] using space
  · rw [amid.told, count]
    refine (begun_succ job ?_ ?_).symm
    · rw [← count]
      exact grown.holds.published
    · rw [grown.summary, count]
  · rw [count]
    simp

theorem refuse (amid : job.Amid number told reading taken) (live : job.signalled number = false)
    {row : Row} {cursor : Cursor} (rows : reading.cursor.rows = row :: cursor.rows)
    (below : isAtLimit job.options reading.result = false)
    (full : reading.result.store.isFull = true) :
    upTo job.options.rowLimit taken = job.rows.take job.count ∧
      job.ending = some (.error (.storage RowStore.diskFull)) := by
  have asked := amid.asked_of_value rows
  rw [amid.isAtLimit_eq] at below
  rw [amid.isFull_eq] at full
  -- What is offered are the rows taken, this one, and those up to the cancellation.
  obtain ⟨more, offered⟩ : ∃ more, upTo job.fires job.rows = taken ++ row :: more := by
    rw [← amid.rows, rows]
    cases fires : job.fires with
    | none => exact ⟨cursor.rows, rfl⟩
    | some most =>
      have later : number < most := by simpa [Job.signalled, fires] using live
      obtain ⟨left, rfl⟩ : ∃ left, most = taken.length + (left + 1) :=
        ⟨most - taken.length - 1, by omega⟩
      refine ⟨cursor.rows.take left, ?_⟩
      rw [upTo, List.take_length_add_append, List.take_succ_cons]
  have refused := @Deposit.kept_of_refused job.options.rowLimit job.store.room job.header taken below
    amid.fits full row more
  have deposit : job.deposit = ⟨job.header, taken ++ row :: more, job.store.room⟩ := by
    rw [Job.deposit, offered]
  rw [← deposit, overflows_deposit, kept_deposit] at refused
  refine ⟨refused.2.symm, ?_⟩
  rw [ending, if_pos refused.1]

theorem wait (amid : job.Amid number told reading taken) (live : job.signalled number = false)
    {cursor : Cursor} (come : reading.cursor.RowFetched (.waits, cursor)) :
    job.Amid (number + 1) told { reading with cursor } taken := by
  have asked := amid.length_le
  cases come with
  | waits rows stop left same =>
    have hangs : job.cursor.stop = some .hangs := amid.stop.symm.trans stop
    refine ⟨?_, same.trans amid.stop, .inr ⟨by omega, left, hangs⟩, unfired_of_live live, amid.fits,
      amid.grown, amid.told, amid.phase⟩
    rw [← amid.rows, rows, left]

/-- A step amid the rows takes the next one, waits for it, or takes none any more. -/
theorem step (amid : job.Amid number told reading taken) :
    (reading.step job.options (job.signalled number)).Ensures
      (fun next events => (∃ taken, job.Amid (number + 1) (told ++ events) next taken) ∨
        job.Over (told ++ events) next)
      fun _ _ => False := by
  have come {found : Fetched Row × Cursor} (live : job.signalled number = false)
      (fetched : reading.cursor.nextRow (job.signalled number) = found) :
      reading.cursor.RowFetched found := by
    rw [← fetched, live]
    exact reading.cursor.rowFetched_nextRow
  have phase := amid.phase
  have silent : told ++ (none : Option ResultEvent).toList = told := List.append_nil told
  have turn := reading.turn job.options (job.signalled number)
  generalize reading.step job.options (job.signalled number) = progress at turn
  -- While rows may come the reading stays amid them; else it is over with those it has kept.
  cases turn with
  | announced other | completed other =>
    rw [phase] at other
    cases other
  | cancelled same signalled =>
    obtain rfl := ReadPhase.fetching.inj (phase.symm.trans same)
    obtain ⟨offered, ending⟩ := amid.cancel signalled
    right
    rw [silent]
    exact amid.passes (amid.kept_of_offered offered).2 ending reading.cursor
  | waits same live fetched =>
    left
    rw [List.append_nil]
    exact ⟨taken, amid.wait live (come live fetched)⟩
  | @exhausted announced cursor same live fetched =>
    obtain rfl := ReadPhase.fetching.inj (phase.symm.trans same)
    cases come live fetched with
    | ended rows stop =>
      obtain ⟨offered, unfired⟩ := amid.offered_of_live live rows
      right
      rw [silent]
      apply amid.passes (amid.kept_of_offered offered).2
      rw [amid.ending_of_offered offered, unfired, ← amid.stop, stop]
      rfl
  | @failed announced cursor error same live fetched =>
    obtain rfl := ReadPhase.fetching.inj (phase.symm.trans same)
    cases come live fetched with
    | failed rows stop =>
      obtain ⟨offered, unfired⟩ := amid.offered_of_live live rows
      right
      rw [silent]
      apply amid.passes (amid.kept_of_offered offered).2
      rw [amid.ending_of_offered offered, unfired, ← amid.stop, stop]
      rfl
  | dropped same live fetched atLimit =>
    cases come live fetched with
    | value rows stop =>
      left
      rw [silent]
      exact ⟨_, amid.drop live rows stop atLimit⟩
  | @refused announced cursor row error same live fetched below refusal =>
    obtain rfl := ReadPhase.fetching.inj (phase.symm.trans same)
    obtain ⟨full, rfl⟩ := RowStore.isFull_of_refused amid.grown.holds.isOpen refusal
    cases come live fetched with
    | value rows =>
      obtain ⟨kept, ending⟩ := amid.refuse live rows below full
      right
      rw [silent]
      exact amid.passes kept ending cursor
  | stored same live fetched below appended =>
    obtain rfl := ReadPhase.fetching.inj (phase.symm.trans same)
    cases come live fetched with
    | value rows stop =>
      left
      exact ⟨_, amid.store live rows stop below appended⟩

/-- No more steps are made than there are rows to ask for, unless reading waits to be cancelled. -/
theorem number_le (amid : job.Amid number told reading taken) (ends : job.ending.isSome = true) :
    number ≤ job.rows.length + job.fires.getD 0 := by
  have length := amid.length_rows
  rcases amid.asked with asked | ⟨asked, none, hangs⟩
  · omega
  · cases fires : job.fires with
    | some most =>
      have unfired : number ≤ most := by simpa [fires] using amid.live
      rw [Option.getD_some]
      omega
    | none =>
      -- Without cancellation a reading that waits does not end.
      have offered : upTo job.fires job.rows = taken := by
        rw [fires, ← amid.rows, none, List.append_nil]
        rfl
      rw [amid.ending_of_offered offered, fires, hangs] at ends
      cases ends

theorem closes {later : List ResultEvent} {done : ReadEnd} (run : job.Runs number reading later done)
    (amid : job.Amid number told reading taken) : job.Done (told ++ later) done := by
  -- Each step leaves the reading amid its rows until one leaves it over.
  induction run generalizing told taken with
  | ends same =>
    have step := amid.step
    rw [same] at step
    exact step.elim
  | moves same rest ih =>
    have step := amid.step
    rw [same] at step
    rw [← List.append_assoc]
    rcases step with ⟨taken, amid⟩ | passed
    · exact ih amid
    · exact passed.closes rest
  | waits same rest ih =>
    have step := amid.step
    rw [same] at step
    rcases step with ⟨taken, amid⟩ | passed
    · rw [List.append_nil] at amid
      exact ih amid
    · rw [List.append_nil] at passed
      exact passed.closes rest

theorem runs (ends : job.ending.isSome = true) {left : Nat}
    (near : job.rows.length + job.fires.getD 0 < number + left)
    (amid : job.Amid number told reading taken) :
    ∃ later done, job.Runs number reading later done := by
  -- The steps that are left are bounded by the rows and by the step of the cancellation.
  induction left generalizing number told reading taken with
  | zero =>
    have early := amid.number_le ends
    omega
  | succ left ih =>
    have onward {next : Reading} {told : List ResultEvent}
        (kept : (∃ taken, job.Amid (number + 1) told next taken) ∨ job.Over told next) :
        ∃ later done, job.Runs (number + 1) next later done := by
      rcases kept with ⟨taken, amid⟩ | passed
      · exact ih (by omega) amid
      · obtain ⟨later, done, run, -⟩ := passed.runs (number + 1)
        exact ⟨later, done, run⟩
    have step := amid.step
    cases same : reading.step job.options (job.signalled number) with
    | ends done event =>
      rw [same] at step
      exact step.elim
    | moves next event =>
      rw [same] at step
      obtain ⟨later, done, run⟩ := onward step
      exact ⟨_, done, .moves same run⟩
    | waits next =>
      rw [same] at step
      obtain ⟨later, done, run⟩ := onward step
      exact ⟨_, done, .waits same run⟩

end Amid

theorem amid_start (empty : job.store.Holds []) : job.Amid 0 [] job.start [] := by
  have unbounded (bound : Option Nat) : bound.any (· < 0) = false := by
    cases bound <;> simp
  refine ⟨rfl, rfl, .inl rfl, unbounded _, ?_, ?_, ?_, ?_⟩
  · rw [upTo_nil]
    exact unbounded _
  · rw [upTo_nil]
    exact ⟨empty, rfl, rfl, rfl⟩
  · rw [upTo_nil]
    rfl
  · rw [upTo_nil]
    rfl

/-- A reading stores the first rows, as many as cancellation, limit and room allow. It tells the first
of them, then the milestones, and at last that it is complete, however it has ended. It ends unless the
source hangs and nobody cancels. -/
theorem reads_to_the_end (job : Job) (empty : job.store.Holds []) :
    ((∃ told done, job.Runs 0 job.start told done) ↔ job.ending.isSome = true) ∧
      ∀ told done, job.Runs 0 job.start told done →
        told = job.trace ∧ done.result.store.Holds (job.rows.take job.count) ∧
          done.result.complete = true ∧ job.ending = some done.outcome ∧
          (done.outcome = .ok () ↔ job.Exhausts) := by
  have begins := amid_start empty
  refine ⟨⟨?_, ?_⟩, ?_⟩
  · rintro ⟨told, done, run⟩
    rw [(begins.closes run).outcome]
    rfl
  · intro ends
    have near : job.rows.length + job.fires.getD 0 < 0 + (job.rows.length + job.fires.getD 0 + 1) := by
      omega
    exact begins.runs ends near
  · intro told done run
    obtain ⟨same, holds, complete, outcome⟩ := begins.closes run
    refine ⟨same, holds, complete, outcome, ?_⟩
    rw [← job.ending_eq_ok_iff, outcome, Option.some.injEq]

/-- Six rows, a limit of five and room for four. -/
def crowdedJob : Job where
  store := ⟨⟨"o", 0, 0⟩, .memory #[], 0, true, some 4⟩
  header := ⟨[], false⟩
  cursor := ⟨(List.range 6).map fun number => .row [.int64 (.ofNat number)], none, [], []⟩
  options := ⟨some 5, 2⟩
  fires := some 9

theorem reads_to_the_end_crowded :
    crowdedJob.store.Holds [] ∧
      ∃ done, crowdedJob.Runs 0 crowdedJob.start
          [.available (crowdedJob.summary 1 false), .updated (crowdedJob.summary 2 false),
            .updated (crowdedJob.summary 4 false), .completed (crowdedJob.summary 4 true)] done ∧
        done.result.store.Holds (crowdedJob.rows.take 4) ∧
        done.outcome = .error (.storage RowStore.diskFull) := by
  have empty : crowdedJob.store.Holds [] := ⟨rfl, rfl, rfl⟩
  obtain ⟨ends, all⟩ := reads_to_the_end crowdedJob empty
  obtain ⟨told, done, run⟩ := ends.mpr rfl
  obtain ⟨same, holds, -, outcome, -⟩ := all told done run
  have trace : crowdedJob.trace =
      [.available (crowdedJob.summary 1 false), .updated (crowdedJob.summary 2 false),
        .updated (crowdedJob.summary 4 false), .completed (crowdedJob.summary 4 true)] := rfl
  rw [same, trace] at run
  exact ⟨empty, done, run, holds, (Option.some.inj outcome).symm⟩

end Job

end Reading

end SqlDesk
