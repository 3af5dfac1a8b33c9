import SqlDesk.Proofs.Reading.Turn
import SqlDesk.Proofs.Source.Yield

/-! Reading a result follows what its script yields: at every step the rows stored so far and those
that are still to come make up one and the same deposit. -/

set_option autoImplicit false

namespace SqlDesk

/-- A result is open and holds what is kept of a deposit. -/
structure ResultSet.Holds (limit : Option Nat) (result : ResultSet) (deposit : Deposit) : Prop where
  keeps : result.store.Keeps (deposit.kept limit)
  opened : result.store.isOpen = true
  room : result.store.room = deposit.room
  columns : result.columns = deposit.header.columns
  action : result.action = .ofHeader deposit.header

theorem ResultSet.Holds.rowCount {limit : Option Nat} {result : ResultSet} {deposit : Deposit}
    (holds : result.Holds limit deposit) : result.rowCount = (deposit.kept limit).length :=
  holds.keeps.published

theorem ResultSet.holds_ofHeader (limit : Option Nat) {maker : StoreMaker} {key : StoreKey}
    {store : RowStore} (made : (maker.create key).1 = .ok store) (header : Header) :
    (ResultSet.ofHeader store header).Holds limit ⟨header, [], maker.room⟩ := by
  obtain ⟨keeps, opened, -, room⟩ := StoreMaker.create_keeps made
  have nothing : Deposit.kept limit ⟨header, [], maker.room⟩ = [] := by
    unfold Deposit.kept Deposit.wanted upTo
    cases limit <;> cases maker.room <;> simp
  exact ⟨by rw [nothing]; exact keeps, opened, room, rfl, rfl⟩

namespace ResultSet.Holds

variable {limit room : Option Nat} {result : ResultSet} {header : Header} {taken : List Row}

theorem count (holds : result.Holds limit ⟨header, taken, room⟩)
    (fits : Deposit.overflows limit ⟨header, taken, room⟩ = false) :
    result.rowCount = (upTo limit taken).length := by
  rw [holds.rowCount, Deposit.kept_of_not_overflows fits]
  rfl

theorem isFull (holds : result.Holds limit ⟨header, taken, room⟩)
    (fits : Deposit.overflows limit ⟨header, taken, room⟩ = false) :
    result.store.isFull = room.any (· ≤ (upTo limit taken).length) := by
  have published : result.store.published = (upTo limit taken).length := holds.count fits
  rw [RowStore.isFull, holds.room, published]

theorem drop (holds : result.Holds limit ⟨header, taken, room⟩)
    (atLimit : limit.any (· ≤ (upTo limit taken).length) = true) (row : Row) :
    result.Holds limit ⟨header, taken ++ [row], room⟩ := by
  have same : Deposit.kept limit ⟨header, taken ++ [row], room⟩ =
      Deposit.kept limit ⟨header, taken, room⟩ :=
    congrArg (upTo room) (upTo_append_of_full atLimit [row])
  exact ⟨same ▸ holds.keeps, holds.opened, holds.room, holds.columns, holds.action⟩

theorem append (holds : result.Holds limit ⟨header, taken, room⟩)
    (fits : Deposit.overflows limit ⟨header, taken, room⟩ = false)
    (below : limit.any (· ≤ (upTo limit taken).length) = false)
    (space : room.any (· ≤ (upTo limit taken).length) = false) {row : Row} (small : row.Fits) :
    ∃ store, result.store.append row = .ok store ∧
      Deposit.overflows limit ⟨header, taken ++ [row], room⟩ = false ∧
      ResultSet.Holds limit { result with store } ⟨header, taken ++ [row], room⟩ := by
  have appended := RowStore.append_of_room row holds.opened ((holds.isFull fits).trans space)
  -- The row is below the limit and there is space for it, so the deposit still does not overflow.
  have further : Deposit.overflows limit ⟨header, taken ++ [row], room⟩ = false := by
    rw [Deposit.overflows, Deposit.wanted, upTo_append_of_room below]
    cases room with
    | none => rfl
    | some count =>
      simp only [Option.any_some, decide_eq_false_iff_not, List.length_append,
        List.length_singleton] at space ⊢
      omega
  refine ⟨_, appended, further, ?_, holds.opened, holds.room, holds.columns, holds.action⟩
  have kept : Deposit.kept limit ⟨header, taken ++ [row], room⟩ =
      Deposit.kept limit ⟨header, taken, room⟩ ++ [row] := by
    rw [Deposit.kept_of_not_overflows further, Deposit.kept_of_not_overflows fits]
    exact upTo_append_of_room below row
  rw [kept]
  exact holds.keeps.append small

theorem refuse (holds : result.Holds limit ⟨header, taken, room⟩)
    (fits : Deposit.overflows limit ⟨header, taken, room⟩ = false)
    (below : limit.any (· ≤ (upTo limit taken).length) = false)
    (full : room.any (· ≤ (upTo limit taken).length) = true) (row : Row) (more : List Row) :
    Deposit.overflows limit ⟨header, taken ++ row :: more, room⟩ = true ∧
      result.Holds limit ⟨header, taken ++ row :: more, room⟩ := by
  have refused := @Deposit.kept_of_refused limit room header taken below fits full row more
  refine ⟨refused.1, ?_, holds.opened, holds.room, holds.columns, holds.action⟩
  have same : Deposit.kept limit ⟨header, taken, room⟩ = upTo limit taken :=
    Deposit.kept_of_not_overflows fits
  rw [refused.2, ← same]
  exact holds.keeps

end ResultSet.Holds

namespace Reading

def yieldAfter (limit : Option Nat) (maker : StoreMaker) (cursor : Cursor) :
    ReadOutcome → ScriptYield
  | .ok () => Script.yield limit cursor.script maker
  | .error error => ⟨[], .ofInterruption (.ofResult error), maker⟩

theorem deposit_of_afterResult {limit : Option Nat} {deposit : Deposit} {stop : Option Stop}
    {maker : StoreMaker} {rest : ScriptYield} :
    deposit ∈ (Script.afterResult limit deposit stop maker rest).deposits := by
  unfold Script.afterResult
  split
  · exact List.mem_singleton_self deposit
  · split
    · exact List.mem_cons_self
    · exact List.mem_singleton_self deposit

/-- While rows are fetched, those that the source has returned and those that are left in the cursor
are the rows of one deposit. -/
def Fetches (limit : Option Nat) (maker : StoreMaker) (result : ResultSet) (cursor : Cursor)
    (whole : ScriptYield) : Prop :=
  ∃ (header : Header) (taken : List Row) (room : Option Nat),
    Deposit.overflows limit ⟨header, taken, room⟩ = false ∧
    result.Holds limit ⟨header, taken, room⟩ ∧
    whole = Script.afterResult limit ⟨header, taken ++ cursor.rows, room⟩ cursor.stop maker
      (Script.yield limit cursor.script maker)

/-- Once no more rows are fetched, the result holds its deposit and the rest is known. -/
def Finished (limit : Option Nat) (maker : StoreMaker) (result : ResultSet) (cursor : Cursor)
    (outcome : ReadOutcome) (whole : ScriptYield) : Prop :=
  ∃ deposit, result.Holds limit deposit ∧
    whole = (yieldAfter limit maker cursor outcome).behind [deposit]

namespace Fetches

variable {limit : Option Nat} {maker : StoreMaker} {result : ResultSet} {cursor next : Cursor}
  {whole : ScriptYield}

theorem wait (before : Fetches limit maker result cursor whole)
    (come : cursor.RowFetched (.waits, next)) :
    Fetches limit maker result next whole ∧
      ∃ deposit, result.Holds limit deposit ∧ whole = ⟨[deposit], .hangs, maker⟩ := by
  obtain ⟨header, taken, room, fits, holds, same⟩ := before
  cases come with
  | waits rows stop left sameStop script =>
    constructor
    · exact ⟨header, taken, room, fits, holds, by rw [same, rows, left, sameStop, script]⟩
    · refine ⟨⟨header, taken, room⟩, holds, ?_⟩
      rw [same, rows, stop, List.append_nil, Script.afterResult, if_neg (by simp [fits])]
      rfl

theorem exhaust (before : Fetches limit maker result cursor whole)
    (come : cursor.RowFetched (.ended, next)) :
    Finished limit maker result next (.ok ()) whole := by
  obtain ⟨header, taken, room, fits, holds, same⟩ := before
  cases come with
  | ended rows stop script =>
    refine ⟨⟨header, taken, room⟩, holds, ?_⟩
    rw [same, rows, stop, List.append_nil, Script.afterResult, if_neg (by simp [fits]),
      yieldAfter, script]

theorem fail (before : Fetches limit maker result cursor whole) {error : SourceError}
    (come : cursor.RowFetched (.failed error, next)) :
    Finished limit maker result next (.error (readFailure error)) whole := by
  obtain ⟨header, taken, room, fits, holds, same⟩ := before
  cases come with
  | failed rows stop script =>
    refine ⟨⟨header, taken, room⟩, holds, ?_⟩
    rw [same, rows, stop, List.append_nil, Script.afterResult, if_neg (by simp [fits]),
      yieldAfter, RunEnd.ofInterruption_readFailure]
    rfl

section

variable {row : Row} (come : cursor.RowFetched (.value row, next))

include come

theorem drop (before : Fetches limit maker result cursor whole)
    (atLimit : limit.any (· ≤ result.rowCount) = true) :
    Fetches limit maker result next whole := by
  obtain ⟨header, taken, room, fits, holds, same⟩ := before
  rw [holds.count fits] at atLimit
  cases come with
  | value rows stop script =>
    -- The row counts as returned, but what is wanted stays the same.
    have fitsStill : Deposit.overflows limit ⟨header, taken ++ [row], room⟩ = false := by
      rw [Deposit.overflows, Deposit.wanted, upTo_append_of_full atLimit]
      exact fits
    refine ⟨header, taken ++ [row], room, fitsStill, holds.drop atLimit row, ?_⟩
    rw [same, rows, stop, script, List.append_assoc, List.singleton_append]

theorem refuse (before : Fetches limit maker result cursor whole)
    (below : limit.any (· ≤ result.rowCount) = false) {error : StorageError}
    (refusal : result.store.append row = .error error) :
    Finished limit maker result next (.error (.storage error)) whole := by
  obtain ⟨header, taken, room, fits, holds, same⟩ := before
  rw [holds.count fits] at below
  -- The store is open, so it can refuse a row for lack of room only.
  have full : room.any (· ≤ (upTo limit taken).length) = true := by
    rw [← holds.isFull fits]
    by_cases full : result.store.isFull = true
    · exact full
    · rw [RowStore.append_of_room row holds.opened (by simpa using full)] at refusal
      cases refusal
  cases come with
  | value rows =>
    obtain ⟨overflows, held⟩ := holds.refuse fits below full row next.rows
    refine ⟨⟨header, taken ++ row :: next.rows, room⟩, held, ?_⟩
    rw [same, rows]
    unfold Script.afterResult
    rw [if_pos overflows]
    rfl

theorem store (before : Fetches limit maker result cursor whole)
    (fit : ∀ deposit ∈ whole.deposits, ∀ row ∈ deposit.kept limit, row.Fits)
    (below : limit.any (· ≤ result.rowCount) = false) {store : RowStore}
    (appended : result.store.append row = .ok store) :
    Fetches limit maker { result with store } next whole := by
  obtain ⟨header, taken, room, fits, holds, same⟩ := before
  rw [holds.count fits] at below
  have space : room.any (· ≤ (upTo limit taken).length) = false := by
    rw [← holds.isFull fits]
    by_cases full : result.store.isFull = true
    · rw [RowStore.append_of_full row full] at appended
      cases appended
    · simpa using full
  cases come with
  | value rows stop script =>
    -- Rows to be kept are the only ones that have to fit, and this is one of them.
    have small : row.Fits := by
      refine fit _ (same ▸ deposit_of_afterResult) row ?_
      rw [rows]
      exact Deposit.mem_kept below space row next.rows
    obtain ⟨grown, accepted, further, held⟩ := holds.append fits below space small
    rw [appended] at accepted
    cases accepted
    refine ⟨header, taken ++ [row], room, further, held, ?_⟩
    rw [same, rows, stop, script, List.append_assoc, List.singleton_append]

end

end Fetches

def Yields (limit : Option Nat) (maker : StoreMaker) (reading : Reading) (whole : ScriptYield) :
    Prop :=
  match reading.phase with
  | .fetching _ => Fetches limit maker reading.result reading.cursor whole
  | .announcing outcome | .completing outcome =>
    Finished limit maker reading.result reading.cursor outcome whole

theorem Yields.fetches {limit : Option Nat} {maker : StoreMaker} {reading : Reading}
    {whole : ScriptYield} {announced : Bool} (yields : reading.Yields limit maker whole)
    (phase : reading.phase = .fetching announced) :
    Fetches limit maker reading.result reading.cursor whole := by
  unfold Yields at yields
  rw [phase] at yields
  exact yields

theorem yields_finish {limit : Option Nat} {maker : StoreMaker} (reading : Reading)
    {whole : ScriptYield} {outcome : ReadOutcome}
    (finished : Finished limit maker reading.result reading.cursor outcome whole)
    (announced : Bool) : (reading.finish announced outcome).Yields limit maker whole := by
  obtain ⟨deposit, holds, same⟩ := finished
  have complete : ResultSet.Holds limit { reading.result with complete := true } deposit :=
    ⟨holds.keeps, holds.opened, holds.room, holds.columns, holds.action⟩
  cases announced with
  | true => exact ⟨deposit, complete, same⟩
  | false => exact ⟨deposit, complete, same⟩

theorem ensures_yields (options : ReadOptions) (maker : StoreMaker) {reading : Reading}
    {whole : ScriptYield}
    (fit : ∀ deposit ∈ whole.deposits, ∀ row ∈ deposit.kept options.rowLimit, row.Fits)
    (before : reading.Yields options.rowLimit maker whole) :
    (reading.step options false).Ensures
      (fun next _ => next.Yields options.rowLimit maker whole)
      (fun done _ =>
        Finished options.rowLimit maker done.result done.cursor done.outcome whole) := by
  have come := reading.cursor.rowFetched_nextRow
  have turn := reading.turn options false
  generalize reading.step options false = progress at turn
  cases turn with
  | cancelled _ signalled => cases signalled
  | announced phase | completed phase =>
    simp only [Yields, phase] at before
    exact before
  | waits phase _ fetched =>
    rw [fetched] at come
    simp only [Progress.Ensures, Yields, phase]
    exact ((before.fetches phase).wait come).1
  | @exhausted announced cursor phase _ fetched =>
    rw [fetched] at come
    exact yields_finish { reading with cursor } ((before.fetches phase).exhaust come) announced
  | @failed announced cursor error phase _ fetched =>
    rw [fetched] at come
    exact yields_finish { reading with cursor } ((before.fetches phase).fail come) announced
  | dropped phase _ fetched atLimit =>
    rw [fetched] at come
    simp only [Progress.Ensures, Yields, phase]
    exact (before.fetches phase).drop come atLimit
  | @refused announced cursor row error phase _ fetched below refusal =>
    rw [fetched] at come
    have refused := (before.fetches phase).refuse come below refusal
    exact yields_finish { reading with cursor } refused announced
  | stored phase _ fetched below appended =>
    rw [fetched] at come
    exact (before.fetches phase).store come fit below appended

theorem yields_waits (options : ReadOptions) {maker : StoreMaker} {reading next : Reading}
    {whole : ScriptYield} (before : reading.Yields options.rowLimit maker whole)
    (waits : reading.step options false = .waits next) :
    ∃ deposit, next.result.Holds options.rowLimit deposit ∧
      whole = ⟨[deposit], .hangs, maker⟩ := by
  have come := reading.cursor.rowFetched_nextRow
  have turn := reading.turn options false
  rw [waits] at turn
  cases turn with
  | waits phase _ fetched =>
    rw [fetched] at come
    exact ((before.fetches phase).wait come).2

end Reading

end SqlDesk
