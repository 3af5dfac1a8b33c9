import SqlDesk.Batch.Execution
import SqlDesk.Proofs.Store.Contents

/-! What a script should leave in stores, read off the script and not off the steps of a batch: one
deposit for every result up to the first failure, with the rows that were returned for it. Then what
a cursor hands out of a script, so that the deposits still to come can be followed along a run. -/

set_option autoImplicit false

namespace SqlDesk

/-- The first items of a list, or all of them where there is no bound. -/
def upTo {α : Type} (bound : Option Nat) (items : List α) : List α :=
  match bound with
  | none => items
  | some count => items.take count

def atMost (bound : Option Nat) (count : Nat) : Nat := bound.elim count (min · count)

theorem upTo_nil {α : Type} (bound : Option Nat) : upTo bound ([] : List α) = [] := by
  cases bound with
  | none => rfl
  | some count => exact List.take_nil

theorem length_upTo {α : Type} (bound : Option Nat) (items : List α) :
    (upTo bound items).length = atMost bound items.length := by
  cases bound with
  | none => rfl
  | some count => exact List.length_take

theorem upTo_of_length_le {α : Type} {bound : Option Nat} {items : List α}
    (small : bound.any (· < items.length) = false) : upTo bound items = items := by
  cases bound with
  | none => rfl
  | some count => exact List.take_of_length_le (by simpa using small)

theorem upTo_append_begins {α : Type} (bound : Option Nat) (items more : List α) :
    upTo bound items <+: upTo bound (items ++ more) := by
  cases bound with
  | none => exact List.prefix_append items more
  | some count =>
    refine List.prefix_take_iff.mpr ⟨?_, List.length_take_le count items⟩
    exact (List.take_prefix count items).trans (List.prefix_append items more)

theorem upTo_append_of_full {α : Type} {bound : Option Nat} {items : List α}
    (full : bound.any (· ≤ (upTo bound items).length) = true) (more : List α) :
    upTo bound (items ++ more) = upTo bound items := by
  cases bound with
  | none => cases full
  | some count =>
    simp only [upTo, Option.any_some, decide_eq_true_eq, List.length_take] at full
    exact List.take_append_of_le_length (by omega)

theorem upTo_append_of_room {α : Type} {bound : Option Nat} {items : List α}
    (room : bound.any (· ≤ (upTo bound items).length) = false) (item : α) :
    upTo bound (items ++ [item]) = upTo bound items ++ [item] := by
  cases bound with
  | none => rfl
  | some count =>
    simp only [upTo, Option.any_some, decide_eq_false_iff_not, List.length_take] at room
    have short : items.length < count := by omega
    simp only [upTo]
    rw [List.take_of_length_le (Nat.le_of_lt short),
      List.take_of_length_le (by simpa using Nat.succ_le_of_lt short)]

/-! Deposits. -/

/-- What a source has returned for a result, and the room of the store that was made for it. -/
structure Deposit where
  header : Header
  returned : List Row
  room : Option Nat

namespace Deposit

def wanted (limit : Option Nat) (deposit : Deposit) : List Row := upTo limit deposit.returned

def kept (limit : Option Nat) (deposit : Deposit) : List Row :=
  upTo deposit.room (deposit.wanted limit)

def overflows (limit : Option Nat) (deposit : Deposit) : Bool :=
  deposit.room.any (· < (deposit.wanted limit).length)

theorem kept_of_not_overflows {limit : Option Nat} {deposit : Deposit}
    (fits : deposit.overflows limit = false) : deposit.kept limit = deposit.wanted limit :=
  upTo_of_length_le fits

section

variable {limit room : Option Nat} {header : Header} {taken : List Row}

/-- A row that is wanted and finds room is kept, whatever follows it. -/
theorem mem_kept (below : limit.any (· ≤ (upTo limit taken).length) = false)
    (space : room.any (· ≤ (upTo limit taken).length) = false) (row : Row) (more : List Row) :
    row ∈ kept limit ⟨header, taken ++ row :: more, room⟩ := by
  have first := upTo_append_begins limit (taken ++ [row]) more
  rw [upTo_append_of_room below, List.append_assoc, List.singleton_append] at first
  obtain ⟨rest, whole⟩ := first
  simp only [kept, wanted, ← whole]
  refine (upTo_append_begins room (upTo limit taken ++ [row]) rest).subset ?_
  rw [upTo_of_length_le]
  · simp
  · cases room with
    | none => rfl
    | some count =>
      simp only [Option.any_some, decide_eq_false_iff_not] at space ⊢
      rw [List.length_append, List.length_singleton]
      omega

/-- A row that is wanted and finds no room is the failing append, and nothing is kept from it on. -/
theorem kept_of_refused (below : limit.any (· ≤ (upTo limit taken).length) = false)
    (fits : overflows limit ⟨header, taken, room⟩ = false)
    (full : room.any (· ≤ (upTo limit taken).length) = true) (row : Row) (more : List Row) :
    overflows limit ⟨header, taken ++ row :: more, room⟩ = true ∧
      kept limit ⟨header, taken ++ row :: more, room⟩ = upTo limit taken := by
  have first := upTo_append_begins limit (taken ++ [row]) more
  rw [upTo_append_of_room below, List.append_assoc, List.singleton_append] at first
  obtain ⟨rest, whole⟩ := first
  cases room with
  | none => cases full
  | some count =>
    have least : ¬ count < (upTo limit taken).length := of_decide_eq_false fits
    have most : count ≤ (upTo limit taken).length := of_decide_eq_true full
    have exact : count = (upTo limit taken).length := Nat.le_antisymm most (Nat.le_of_not_lt least)
    constructor
    · simp [overflows, wanted, ← whole, exact]
    · rw [kept, wanted, ← whole, exact, List.append_assoc]
      exact List.take_left

end

end Deposit

inductive RunEnd where
  | goesOn
  | stops (outcome : BatchOutcome)
  | hangs

namespace RunEnd

def ofInterruption : Interruption → RunEnd
  | .driver _ => goesOn
  | .cancelled => stops .cancelled
  | .failed _ => stops .failed

def ofStop : Stop → RunEnd
  | .fails error => ofInterruption (.ofSource error)
  | .hangs => hangs

theorem ofInterruption_readFailure (error : SourceError) :
    ofInterruption (.ofResult (Reading.readFailure error)) = ofStop (.fails error) := by
  cases error <;> rfl

end RunEnd

structure ScriptYield where
  deposits : List Deposit
  finish : RunEnd
  maker : StoreMaker

def ScriptYield.behind (earlier : List Deposit) (yield : ScriptYield) : ScriptYield :=
  { yield with deposits := earlier ++ yield.deposits }

namespace StoreMaker

def failing (maker : StoreMaker) : Bool := maker.failures.ofAttempt maker.attempts

def room (maker : StoreMaker) : Option Nat := maker.rooms.ofAttempt maker.attempts

def spent (maker : StoreMaker) : StoreMaker := { maker with attempts := maker.attempts + 1 }

theorem create_spent (maker : StoreMaker) (key : StoreKey) : (maker.create key).2 = maker.spent := by
  unfold create spent
  by_cases failing : maker.failures.ofAttempt maker.attempts = true
  · rw [if_pos failing]
  · rw [if_neg failing]

theorem failing_of_error {maker : StoreMaker} {key : StoreKey} {error : StorageError}
    (made : (maker.create key).1 = .error error) :
    maker.failing = true ∧ error = RowStore.diskFull := by
  unfold create at made
  split at made
  · rename_i failing
    cases made
    exact ⟨failing, rfl⟩
  · cases made

theorem not_failing_of_ok {maker : StoreMaker} {key : StoreKey} {store : RowStore}
    (made : (maker.create key).1 = .ok store) : maker.failing = false := by
  unfold create at made
  split at made
  · cases made
  · rename_i working
    exact Bool.eq_false_iff.mpr working

end StoreMaker

namespace Item

def row? : Item → Option Row
  | .row given => some given
  | .notice _ => none

def rows (items : List Item) : List Row := items.filterMap row?

end Item

namespace Script

/-- A result whose store has been made, and what comes after it unless an append or the source
fails. -/
def afterResult (limit : Option Nat) (deposit : Deposit) (stop : Option Stop) (maker : StoreMaker)
    (rest : ScriptYield) : ScriptYield :=
  if deposit.overflows limit then ⟨[deposit], .stops .failed, maker⟩
  else match stop with
    | none => rest.behind [deposit]
    | some stop => ⟨[deposit], .ofStop stop, maker⟩

def yield (limit : Option Nat) : Script → StoreMaker → ScriptYield
  | [], maker => ⟨[], .goesOn, maker⟩
  | .notice _ :: script, maker => yield limit script maker
  | .stop stop :: _, maker => ⟨[], .ofStop stop, maker⟩
  | .result result :: script, maker =>
    if maker.failing then ⟨[], .stops .failed, maker.spent⟩
    else afterResult limit ⟨result.header, Item.rows result.items, maker.room⟩ result.stop
      maker.spent (yield limit script maker.spent)

end Script

/-! Cursors. -/

namespace Cursor

def rows (cursor : Cursor) : List Row := Item.rows cursor.items

/-- What asking for a row comes to, read off what is left of the result. -/
inductive RowFetched (cursor : Cursor) : Fetched Row × Cursor → Prop where
  | value {row : Row} {next : Cursor} (rows : cursor.rows = row :: next.rows)
      (stop : next.stop = cursor.stop) (script : next.script = cursor.script) :
      RowFetched cursor (.value row, next)
  | ended {next : Cursor} (rows : cursor.rows = []) (stop : cursor.stop = none)
      (script : next.script = cursor.script) : RowFetched cursor (.ended, next)
  | failed {error : SourceError} {next : Cursor} (rows : cursor.rows = [])
      (stop : cursor.stop = some (.fails error)) (script : next.script = cursor.script) :
      RowFetched cursor (.failed error, next)
  | waits {next : Cursor} (rows : cursor.rows = []) (stop : cursor.stop = some .hangs)
      (left : next.rows = []) (same : next.stop = cursor.stop)
      (script : next.script = cursor.script) : RowFetched cursor (.waits, next)

theorem rowFetched_nextRow (cursor : Cursor) : RowFetched cursor (cursor.nextRow false) := by
  -- Notices in front of the next row are taken in one by one, hence the induction on the items.
  have general (items : List Item) (notices : List Notice) :
      RowFetched { cursor with items } (nextRow.go false cursor items notices) := by
    induction items generalizing notices with
    | nil =>
      obtain ⟨_, stop, script, _⟩ := cursor
      rcases stop with _ | _ | _
      · exact .ended rfl rfl rfl
      · exact .failed rfl rfl rfl
      · exact .waits rfl rfl rfl rfl rfl
    | cons item rest ih =>
      cases item with
      | row row => exact .value (by simp [rows, Item.rows, Item.row?]) rfl rfl
      | notice notice =>
        have further := ih (notices ++ [notice])
        unfold nextRow.go
        generalize nextRow.go false cursor rest (notices ++ [notice]) = outcome at further
        cases further with
        | value rows stop script => exact .value rows stop script
        | ended rows stop script => exact .ended rows stop script
        | failed rows stop script => exact .failed rows stop script
        | waits rows stop left same script => exact .waits rows stop left same script
  exact general cursor.items cursor.notices

/-- What asking for the next result comes to, read off what is left of the script. -/
inductive ResultFetched (cursor : Cursor) : Fetched Header × Cursor → Prop where
  | value {header : Header} {next : Cursor}
      (yields : ∀ limit maker, Script.yield limit cursor.script maker =
        Script.yield limit (.result ⟨header, next.items, next.stop⟩ :: next.script) maker) :
      ResultFetched cursor (.value header, next)
  | ended {next : Cursor}
      (yields : ∀ limit maker, Script.yield limit cursor.script maker = ⟨[], .goesOn, maker⟩) :
      ResultFetched cursor (.ended, next)
  | failed {error : SourceError} {next : Cursor}
      (yields : ∀ limit maker, Script.yield limit cursor.script maker =
        ⟨[], .ofStop (.fails error), maker⟩) : ResultFetched cursor (.failed error, next)
  | waits {next : Cursor}
      (yields : ∀ limit maker, Script.yield limit cursor.script maker = ⟨[], .hangs, maker⟩)
      (same : ∀ limit maker, Script.yield limit next.script maker = ⟨[], .hangs, maker⟩) :
      ResultFetched cursor (.waits, next)

theorem resultFetched_nextResult (cursor : Cursor) :
    ResultFetched cursor (cursor.nextResult false) := by
  -- What is left of the current result plays no part, so the script alone is followed.
  have general (script : Script) (notices : List Notice) :
      ResultFetched { cursor with script } (nextResult.go false script notices) := by
    induction script generalizing notices with
    | nil => exact .ended fun _ _ => rfl
    | cons step rest ih =>
      cases step with
      | result result => exact .value fun _ _ => rfl
      | stop stop =>
        cases stop with
        | fails error => exact .failed fun _ _ => rfl
        | hangs => exact .waits (fun _ _ => rfl) fun _ _ => rfl
      | notice notice =>
        have further := ih (notices ++ [notice])
        unfold nextResult.go
        generalize nextResult.go false rest (notices ++ [notice]) = outcome at further
        cases further with
        | value yields => exact .value yields
        | ended yields => exact .ended yields
        | failed yields => exact .failed yields
        | waits yields same => exact .waits yields same
  exact general cursor.script cursor.notices

end Cursor

end SqlDesk
