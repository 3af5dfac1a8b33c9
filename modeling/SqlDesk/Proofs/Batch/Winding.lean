import SqlDesk.Proofs.Batch.Numbering
import SqlDesk.Proofs.Source.Yield

/-! What a batch still makes of its stores once its execution has been cancelled. Cancellation is
looked at before every row and before every repetition, and not between a header and the store that is
made for it. So one more store may be made, and where the batch stands tells whether it is. -/

set_option autoImplicit false

namespace SqlDesk

/-! Where one more result comes. -/

def Fetched.isValue {α : Type} : Fetched α → Bool
  | value _ => true
  | ended | failed _ | waits => false

/-- The cursor has one more result, and cancellation does not hold it back. -/
def Cursor.givesOn (cursor : Cursor) : Bool := (cursor.nextResult true).1.isValue

/-- All rows have been read, so that the next result is asked for. -/
def ReadPhase.isRead : ReadPhase → Bool
  | .announcing (.ok ()) | .completing (.ok ()) => true
  | .fetching _ | .announcing (.error _) | .completing (.error _) => false

def BatchPhase.owes (results : Nat) : BatchPhase → Bool
  | .opening _ script => match script.open true with
    | .value cursor => cursor.givesOn
    | .ended | .failed _ | .waits => false
  | .advancing _ cursor => cursor.givesOn
  | .telling _ _ _ (.result _) => true
  | .telling _ cursor _ .nextResult => cursor.givesOn
  | .telling _ _ _ .endOfRun | .telling _ _ _ (.interruption _) => false
  -- A reading that finds no result of its batch asks for the next one.
  | .reading _ cursor phase => (phase.isRead || results = 0) && cursor.givesOn
  | .starting _ | .repeating _ | .interrupted _ _ | .concluding _ | .completing _ => false

namespace Cursor

theorem nextResult_go_notices (cancelled : Bool) (script : Script) (left right : List Notice) :
    (nextResult.go cancelled script left).1 = (nextResult.go cancelled script right).1 := by
  induction script generalizing left right with
  | nil => rfl
  | cons step script ih =>
    cases step with
    | notice notice => exact ih _ _
    | result result => rfl
    | stop stop => cases stop <;> cases cancelled <;> rfl

theorem givesOn_takeNotices (cursor : Cursor) : cursor.takeNotices.2.givesOn = cursor.givesOn :=
  congrArg Fetched.isValue (nextResult_go_notices true cursor.script _ _)

theorem nextResult_ne_waits (cursor : Cursor) : (cursor.nextResult true).1 ≠ .waits := by
  suffices go : ∀ notices, (nextResult.go true cursor.script notices).1 ≠ .waits from go _
  intro notices
  induction cursor.script generalizing notices with
  | nil => simp [nextResult.go]
  | cons step script ih =>
    cases step with
    | notice notice => exact ih _
    | result result => simp [nextResult.go]
    | stop stop => cases stop <;> simp [nextResult.go, Stop.fetched]

end Cursor

/-! Stores. -/

def Batch.stores (batch : Batch) : List RowStore := batch.results.map ResultSet.store

theorem Batch.stores_setResult {batch : Batch} (numbered : batch.Numbered) {result next : ResultSet}
    (last : batch.results.getLast? = some result) (same : next.store = result.store) :
    (batch.setResult next).stores = batch.stores := by
  obtain ⟨earlier, results⟩ := List.getLast?_eq_some_iff.mp last
  rw [stores, results_setResult numbered results (congrArg RowStore.key same), stores, results]
  simp [same]

theorem Reading.ensures_wound (options : ReadOptions) (reading : Reading) :
    (reading.step options true).Ensures
      (fun next _ => next.result.store = reading.result.store ∧
        (next.phase.isRead && next.cursor.givesOn) =
          (reading.phase.isRead && reading.cursor.givesOn))
      (fun done _ => done.result.store = reading.result.store ∧
        (ReadPhase.isRead (.completing done.outcome) && done.cursor.givesOn) =
          (reading.phase.isRead && reading.cursor.givesOn)) := by
  have turn := reading.turn options true
  generalize reading.step options true = progress at turn
  -- Three turns are left to a reading that has been cancelled.
  cases turn with
  | @cancelled announced phase =>
    refine ⟨rfl, ?_⟩
    rw [phase]
    cases announced <;> rfl
  | announced phase =>
    refine ⟨rfl, ?_⟩
    rw [phase]
    rename_i outcome
    cases outcome <;> rfl
  | completed phase => exact ⟨rfl, by rw [phase]⟩
  | waits _ live | exhausted _ live | failed _ live | dropped _ live | refused _ live
  | stored _ live => cases live

namespace BatchRun

/-- What a step of a cancelled batch makes of its stores, and whether one more is to come after it. -/
inductive Winds (maker : StoreMaker) (run : BatchRun) : StoreMaker → Batch → Bool → Prop where
  | quiet {batch : Batch} (stores : batch.stores = run.batch.stores) :
      Winds maker run maker batch (run.phase.owes run.batch.stores.length)
  | refused {later : StoreMaker} {batch : Batch}
      (owes : run.phase.owes run.batch.stores.length = true) (failing : maker.failing = true)
      (stores : batch.stores = run.batch.stores) : Winds maker run later batch false
  | made {later : StoreMaker} {batch : Batch} {store : RowStore}
      (owes : run.phase.owes run.batch.stores.length = true) (working : maker.failing = false)
      (stores : batch.stores = run.batch.stores ++ [store]) (opened : store.isOpen = true)
      (empty : store.published = 0) : Winds maker run later batch false

theorem Winds.still {maker : StoreMaker} {run : BatchRun} {batch : Batch} {owes : Bool}
    (stores : batch.stores = run.batch.stores)
    (same : owes = run.phase.owes run.batch.stores.length) : Winds maker run maker batch owes :=
  same ▸ .quiet stores

theorem owes_telling (results left : Nat) (cursor : Cursor) (notices : List Notice)
    (next : AfterNotices) :
    BatchPhase.owes results (.telling left cursor notices next) =
      BatchPhase.owes results (.telling left cursor [] next) := by
  cases next <;> rfl

theorem owes_tellNotices (results left : Nat) (cursor : Cursor) (next : AfterNotices) :
    (tellNotices left cursor next).owes results =
      BatchPhase.owes results (.telling left cursor [] next) := by
  cases next with
  | nextResult => exact cursor.givesOn_takeNotices
  | result header | endOfRun | interruption reason => rfl

variable {η : Type} [Host η]

theorem ensures_winds (now : Instant) (world : World η) {run : BatchRun}
    (numbered : run.batch.Numbered) :
    (run.step now true world).2.Ensures
      (fun next _ => run.Winds world.maker (run.step now true world).1.maker next.batch
        (next.phase.owes next.batch.stores.length))
      (fun done _ => run.Winds world.maker (run.step now true world).1.maker done.batch false) := by
  have turn := run.turn now true world
  revert turn
  rcases run.step now true world with ⟨later, progress⟩
  intro turn
  cases turn with
  | submitted _ live => cases live
  | unopened => exact .still rfl rfl
  | opened phase opened => exact .still rfl (by simp [phase, BatchPhase.owes, opened])
  | rejected phase opened => exact .still rfl (by simp [phase, BatchPhase.owes, opened])
  | unadvanced _ advanced =>
    exact absurd (congrArg Prod.fst advanced) (Cursor.nextResult_ne_waits _)
  | @advanced left cursor next fetched phase advanced come =>
    refine .still rfl ?_
    have gives : cursor.givesOn = fetched.isValue := congrArg (Fetched.isValue ∘ Prod.fst) advanced
    rw [owes_tellNotices, phase]
    change _ = cursor.givesOn
    rw [gives]
    cases fetched <;> rfl
  | told phase =>
    refine .still rfl ?_
    rw [phase]
    exact (owes_telling _ _ _ _ _).trans (owes_telling _ _ _ _ _).symm
  | uncreated phase made =>
    exact .refused (by rw [phase]; rfl) (StoreMaker.failing_of_error made).1 rfl
  -- The one step that adds a store, with the result that was due up to then.
  | @created left cursor header store phase made =>
    obtain ⟨keeps, opened, -⟩ := StoreMaker.create_keeps made
    have stores : (run.withResult left cursor store header).batch.stores =
        run.batch.stores ++ [store] := by
      simp [withResult, Batch.stores, ResultSet.ofHeader]
    have last : BatchPhase.owes (run.withResult left cursor store header).batch.stores.length
        (.reading left cursor (.fetching false)) = false := by
      simp [BatchPhase.owes, ReadPhase.isRead, stores]
    change Winds _ _ _ _ (BatchPhase.owes _ (.reading left cursor (.fetching false)))
    rw [last]
    exact .made (by rw [phase]; rfl) (StoreMaker.not_failing_of_ok made) stores opened
      keeps.published
  | unread phase none =>
    have empty : run.batch.stores.length = 0 := by
      rw [Batch.stores, List.getLast?_eq_none_iff.mp none]
      rfl
    exact .still rfl (by simp [phase, BatchPhase.owes, empty])
  | @read left cursor readPhase result phase last =>
    refine Progress.ensures_mapEvent (Progress.ensures_within ?_)
    have filled : run.batch.stores.length ≠ 0 := by
      obtain ⟨earlier, results⟩ := List.getLast?_eq_some_iff.mp last
      simp [Batch.stores, results]
    have owed : run.phase.owes run.batch.stores.length = (readPhase.isRead && cursor.givesOn) := by
      simp [phase, BatchPhase.owes, filled]
    refine (Reading.ensures_wound _ _).imp ?_ ?_
    · rintro next _ ⟨same, after⟩
      have stores := Batch.stores_setResult numbered last same
      refine .still stores ?_
      rw [owed, ← after, withReading, stores]
      simp [BatchPhase.owes, filled]
    · rintro done _ ⟨same, after⟩
      have stores := Batch.stores_setResult numbered last same
      refine .still stores ?_
      rw [owed, ← after, afterRead, owes_tellNotices]
      cases done.outcome <;> rfl
  | started phase | repeated phase | halted phase | exhausted phase | broken phase | erred phase
  | remarked phase | suppressed phase | cancelled phase | failed phase | succeeded phase
  | concluded phase | completed phase | resumed phase =>
    exact .still rfl (by rw [phase]; rfl)

theorem step_ne_waits (now : Instant) (world : World η) (run next : BatchRun) :
    (run.step now true world).2 ≠ .waits next := by
  have turn := run.turn now true world
  revert turn
  rcases run.step now true world with ⟨later, progress⟩
  intro turn waits
  -- Only the source is waited for, and it lets go of what has been cancelled.
  cases turn with
  | @unopened left script phase opened =>
    unfold Script.open at opened
    split at opened
    · rename_i stop rest
      cases stop <;> cases opened
    · cases opened
  | unadvanced _ advanced => exact Cursor.nextResult_ne_waits _ (congrArg Prod.fst advanced)
  | @read left cursor readPhase result =>
    obtain ⟨reading, still, -⟩ := Progress.waits_of_within (Progress.waits_of_mapEvent waits)
    have inner := Reading.turn (.ofSettings run.settings) true ⟨result, cursor, readPhase⟩
    rw [still] at inner
    cases inner with
    | waits _ live => cases live
  | _ => cases waits

end BatchRun

end SqlDesk
