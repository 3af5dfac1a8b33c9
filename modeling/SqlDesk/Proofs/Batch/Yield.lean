import Mathlib.Data.List.Forall2
import SqlDesk.Proofs.Batch.Numbering
import SqlDesk.Proofs.Reading.Yield

/-! What a batch yields over all the runs of its text, read off the scripts that its executions would
give, and the invariant of a batch that is not cancelled: the results it has, and what is still to
come, make up the same deposits after every step. -/

set_option autoImplicit false

namespace SqlDesk

/-- What a batch leaves: its deposits, how it ends unless it hangs, and the world after it. -/
structure BatchYield (η : Type) where
  deposits : List Deposit
  outcome : Option BatchOutcome
  world : World η

namespace BatchYield

variable {η : Type}

def behind (earlier : List Deposit) (yield : BatchYield η) : BatchYield η :=
  { yield with deposits := earlier ++ yield.deposits }

@[simp] theorem behind_behind (first second : List Deposit) (yield : BatchYield η) :
    (yield.behind second).behind first = yield.behind (first ++ second) := by
  simp [behind]

def afterRun (next : World η → BatchYield η) (world : World η) : RunEnd → BatchYield η
  | .goesOn => next world
  | .stops outcome => ⟨[], some outcome, world⟩
  | .hangs => ⟨[], none, world⟩

def ofScript (next : World η → BatchYield η) (host : η) (script : ScriptYield) : BatchYield η :=
  (afterRun next ⟨host, script.maker⟩ script.finish).behind script.deposits

theorem ofScript_behind (next : World η → BatchYield η) (host : η) (earlier : List Deposit)
    (script : ScriptYield) :
    ofScript next host (script.behind earlier) = (ofScript next host script).behind earlier := by
  simp [ofScript, ScriptYield.behind]

end BatchYield

/-- What the runs of a text depend on besides the world. -/
structure RunPlan where
  limit : Option Nat
  connection : Connection
  execution : Execution

/-- What a number of runs leaves: each executes the text in the world that the one before has left. -/
def RunPlan.yield {η : Type} [Host η] (plan : RunPlan) : Nat → World η → BatchYield η
  | 0, world => ⟨[], some .completed, world⟩
  | left + 1, world =>
    let (script, host) := Host.execute world.host plan.connection plan.execution
    .ofScript (plan.yield left) host (Script.yield plan.limit script world.maker)

namespace BatchRun

variable {η : Type} [Host η]

def plan (run : BatchRun) : RunPlan := ⟨run.settings.rowLimit, run.connection, run.execution⟩

def scriptYield (run : BatchRun) (left : Nat) (world : World η) (script : ScriptYield) :
    BatchYield η :=
  .ofScript (run.plan.yield left) world.host script

def noticesYield (run : BatchRun) (left : Nat) (cursor : Cursor) (world : World η) :
    AfterNotices → BatchYield η
  | .result header => run.scriptYield left world
      (Script.yield run.plan.limit (.result ⟨header, cursor.items, cursor.stop⟩ :: cursor.script)
        world.maker)
  | .nextResult =>
    run.scriptYield left world (Script.yield run.plan.limit cursor.script world.maker)
  | .endOfRun => run.plan.yield left world
  | .interruption reason => .afterRun (run.plan.yield left) world (.ofInterruption reason)

/-- What is to come in a phase in which no result is being read. -/
def coming (run : BatchRun) (world : World η) : Option (BatchYield η) :=
  match run.phase with
  | .starting left | .repeating left => some (run.plan.yield left world)
  | .opening left script =>
    some (run.scriptYield left world (Script.yield run.plan.limit script world.maker))
  | .advancing left cursor =>
    some (run.scriptYield left world (Script.yield run.plan.limit cursor.script world.maker))
  | .telling left cursor _ next => some (run.noticesYield left cursor world next)
  | .reading _ _ _ => none
  | .interrupted left reason =>
    some (.afterRun (run.plan.yield left) world (.ofInterruption reason))
  | .concluding outcome | .completing outcome => some ⟨[], some outcome, world⟩

abbrev Held (run : BatchRun) (results : List ResultSet) (deposits : List Deposit) : Prop :=
  List.Forall₂ (ResultSet.Holds run.plan.limit) results deposits

/-- The results of a batch, and what is to come, make up a yield. -/
inductive Yields (world : World η) (run : BatchRun) : BatchYield η → Prop where
  | between {earlier : List Deposit} {coming : BatchYield η}
      (held : run.Held run.batch.results earlier) (ahead : run.coming world = some coming) :
      Yields world run (coming.behind earlier)
  | reading {left : Nat} {cursor : Cursor} {readPhase : ReadPhase} {stored : List ResultSet}
      {result : ResultSet} {earlier : List Deposit} {script : ScriptYield}
      (phase : run.phase = .reading left cursor readPhase)
      (results : run.batch.results = stored ++ [result]) (held : run.Held stored earlier)
      (reads : Reading.Yields run.plan.limit world.maker ⟨result, cursor, readPhase⟩ script) :
      Yields world run ((run.scriptYield left world script).behind earlier)

theorem Yields.ahead {world : World η} {run : BatchRun} {whole coming : BatchYield η}
    (before : run.Yields world whole) (known : run.coming world = some coming) :
    ∃ earlier, run.Held run.batch.results earlier ∧ whole = coming.behind earlier := by
  cases before with
  | between held ahead =>
    rw [known] at ahead
    cases ahead
    exact ⟨_, held, rfl⟩
  | reading phase =>
    simp only [BatchRun.coming, phase] at known
    cases known

theorem scriptYield_nil (run : BatchRun) (left : Nat) (world : World η) (finish : RunEnd) :
    run.scriptYield left world ⟨[], finish, world.maker⟩ =
      .afterRun (run.plan.yield left) world finish := rfl

end BatchRun

theorem Script.script_of_open {script : Script} {cursor : Cursor}
    (opened : script.open false = .value cursor) : cursor.script = script := by
  unfold Script.open at opened
  split at opened
  · rename_i stop _
    cases stop <;> simp [Stop.fetched] at opened
  · cases opened
    rfl

theorem Script.yield_of_open_failed {script : Script} {error : SourceError}
    (opened : script.open false = .failed error) (limit : Option Nat) (maker : StoreMaker) :
    Script.yield limit script maker = ⟨[], .ofInterruption (.ofSource error), maker⟩ := by
  unfold Script.open at opened
  split at opened
  · rename_i stop _
    cases stop <;> simp [Stop.fetched] at opened
    cases opened
    rfl
  · cases opened

theorem Script.yield_of_open_waits {script : Script} (opened : script.open false = .waits)
    (limit : Option Nat) (maker : StoreMaker) :
    Script.yield limit script maker = ⟨[], .hangs, maker⟩ := by
  unfold Script.open at opened
  split at opened
  · rename_i stop _
    cases stop <;> simp [Stop.fetched] at opened
    rfl
  · cases opened

namespace BatchRun

variable {η : Type} [Host η]

theorem Yields.reads {world : World η} {run : BatchRun} {whole : BatchYield η} {left : Nat}
    {cursor : Cursor} {readPhase : ReadPhase} {result : ResultSet}
    (before : run.Yields world whole) (phase : run.phase = .reading left cursor readPhase)
    (last : run.batch.results.getLast? = some result) :
    ∃ stored earlier script, run.batch.results = stored ++ [result] ∧ run.Held stored earlier ∧
      Reading.Yields run.plan.limit world.maker ⟨result, cursor, readPhase⟩ script ∧
      whole = (run.scriptYield left world script).behind earlier := by
  cases before with
  | between held ahead =>
    rw [coming, phase] at ahead
    cases ahead
  | reading same results held reads =>
    rw [phase] at same
    cases same
    rw [results, List.getLast?_concat] at last
    cases last
    exact ⟨_, _, _, results, held, reads, rfl⟩

/-- A new result begins with no rows taken and all of its rows still to come. -/
theorem yields_withResult {world : World η} {run : BatchRun} {earlier : List Deposit}
    {left : Nat} {cursor : Cursor} {header : Header} {store : RowStore}
    (held : run.Held run.batch.results earlier)
    (made : (world.maker.create run.batch.nextKey).1 = .ok store) :
    (run.withResult left cursor store header).Yields { world with maker := world.maker.spent }
      ((run.noticesYield left cursor world (.result header)).behind earlier) := by
  have working := StoreMaker.not_failing_of_ok made
  have fits : Deposit.overflows run.plan.limit ⟨header, [], world.maker.room⟩ = false := by
    unfold Deposit.overflows Deposit.wanted upTo
    cases run.plan.limit <;> cases world.maker.room <;> simp
  rw [noticesYield, Script.yield, if_neg (by simp [working])]
  refine .reading rfl rfl held ?_
  exact ⟨header, [], world.maker.room, fits, ResultSet.holds_ofHeader _ made header, rfl⟩

theorem ensures_yields_read {world : World η} {run : BatchRun} {whole : BatchYield η} {left : Nat}
    {cursor : Cursor} {readPhase : ReadPhase} {result : ResultSet}
    (numbered : run.batch.Numbered)
    (fit : ∀ deposit ∈ whole.deposits, ∀ row ∈ deposit.kept run.plan.limit, row.Fits)
    (before : run.Yields world whole) (phase : run.phase = .reading left cursor readPhase)
    (last : run.batch.results.getLast? = some result) :
    (Reading.step (.ofSettings run.settings) false ⟨result, cursor, readPhase⟩).Ensures
      (fun next _ => (run.withReading left next).Yields world whole)
      (fun done _ => (run.afterRead left done).Yields world whole) := by
  obtain ⟨stored, earlier, script, results, held, reads, rfl⟩ := before.reads phase last
  have small : ∀ deposit ∈ script.deposits, ∀ row ∈ deposit.kept run.plan.limit, row.Fits := by
    intro deposit member
    refine fit deposit ?_
    simp [scriptYield, BatchYield.ofScript, BatchYield.behind, member]
  refine ((Reading.ensures_key _ _ _).and
    (Reading.ensures_yields (.ofSettings run.settings) _ small reads)).imp ?_ ?_
  · rintro next _ ⟨sameKey, yields⟩
    exact .reading rfl (Batch.results_setResult numbered results sameKey) held yields
  · rintro done _ ⟨sameKey, deposit, holds, rfl⟩
    -- The result joins those before it, and the rest of its script is what is to come.
    have stands : (run.afterRead left done).batch.results = stored ++ [done.result] :=
      Batch.results_setResult numbered results sameKey
    have all : run.Held (run.afterRead left done).batch.results (earlier ++ [deposit]) := by
      rw [stands]
      exact List.rel_append held (.cons holds .nil)
    rw [scriptYield, BatchYield.ofScript_behind, BatchYield.behind_behind]
    refine .between all ?_
    unfold coming afterRead tellNotices
    cases done.outcome with
    | ok => rfl
    | error error => rfl

/-- A step of a batch that is not cancelled changes nothing of what it yields, and its end is the
end that was to come. -/
theorem ensures_yields (now : Instant) {world : World η} {run : BatchRun} {whole : BatchYield η}
    (numbered : run.batch.Numbered)
    (fit : ∀ deposit ∈ whole.deposits, ∀ row ∈ deposit.kept run.plan.limit, row.Fits)
    (before : run.Yields world whole) :
    (run.step now false world).2.Ensures
      (fun next _ => (next.settings = run.settings ∧ next.connection = run.connection) ∧
        next.Yields (run.step now false world).1 whole)
      (fun done _ => run.Held done.batch.results whole.deposits ∧
        whole.outcome = some done.outcome ∧ whole.world = (run.step now false world).1) := by
  have turn := run.turn now false world
  revert turn
  rcases run.step now false world with ⟨later, progress⟩
  intro turn
  cases turn with
  | halted _ signalled => cases signalled
  -- In these phases what is to come is the same by definition.
  | started phase | repeated phase | submitted phase _ | told phase | resumed phase
  | exhausted phase | broken phase | erred phase _ | remarked phase _ | suppressed phase _
  | cancelled phase | failed phase | succeeded phase _ | concluded phase _ =>
    obtain ⟨earlier, held, rfl⟩ := before.ahead (by rw [coming, phase])
    exact ⟨⟨rfl, rfl⟩, .between held rfl⟩
  | unopened phase _ => exact ⟨⟨rfl, rfl⟩, before⟩
  | completed phase =>
    obtain ⟨earlier, held, rfl⟩ := before.ahead (by rw [coming, phase])
    refine ⟨?_, rfl, rfl⟩
    rw [BatchYield.behind, List.append_nil]
    exact held
  | opened phase opened =>
    obtain ⟨earlier, held, rfl⟩ := before.ahead (by rw [coming, phase])
    refine ⟨⟨rfl, rfl⟩, .between held ?_⟩
    rw [← Script.script_of_open opened]
    rfl
  | rejected phase opened =>
    obtain ⟨earlier, held, rfl⟩ := before.ahead (by rw [coming, phase])
    refine ⟨⟨rfl, rfl⟩, .between held ?_⟩
    rw [Script.yield_of_open_failed opened]
    rfl
  | @unadvanced left cursor next phase advanced =>
    obtain ⟨earlier, held, rfl⟩ := before.ahead (by rw [coming, phase])
    have come := cursor.resultFetched_nextResult
    rw [advanced] at come
    cases come with
    | waits yields same =>
      refine ⟨⟨rfl, rfl⟩, .between held ?_⟩
      rw [yields, ← same run.plan.limit _]
      rfl
  | @advanced left cursor next fetched phase advanced come =>
    obtain ⟨earlier, held, rfl⟩ := before.ahead (by rw [coming, phase])
    have found := cursor.resultFetched_nextResult
    rw [advanced] at found
    refine ⟨⟨rfl, rfl⟩, .between held ?_⟩
    cases found with
    | value yields | ended yields | failed yields =>
      rw [yields]
      rfl
    | waits => exact absurd rfl come
  | uncreated phase made =>
    obtain ⟨earlier, held, rfl⟩ := before.ahead (by rw [coming, phase])
    obtain ⟨failing, rfl⟩ := StoreMaker.failing_of_error made
    refine ⟨⟨rfl, rfl⟩, .between held ?_⟩
    rw [StoreMaker.create_spent, noticesYield, Script.yield, if_pos failing]
    rfl
  | created phase made =>
    obtain ⟨earlier, held, rfl⟩ := before.ahead (by rw [coming, phase])
    rw [StoreMaker.create_spent]
    exact ⟨⟨rfl, rfl⟩, yields_withResult held made⟩
  | unread phase missing =>
    cases before with
    | between held ahead =>
      rw [coming, phase] at ahead
      cases ahead
    | reading _ results => simp [results] at missing
  | read phase last =>
    refine Progress.ensures_mapEvent (Progress.ensures_within ?_)
    refine (ensures_yields_read numbered fit before phase last).imp ?_ ?_
    · intro next _ yields
      exact ⟨⟨rfl, rfl⟩, yields⟩
    · intro done _ yields
      exact ⟨⟨rfl, rfl⟩, yields⟩

theorem yields_waits {now : Instant} {world : World η} {run next : BatchRun}
    {whole : BatchYield η} (numbered : run.batch.Numbered) (before : run.Yields world whole)
    (waited : (run.step now false world).2 = .waits next) :
    run.Held next.batch.results whole.deposits ∧ whole.outcome = none := by
  have turn := run.turn now false world
  revert turn waited
  rcases run.step now false world with ⟨later, progress⟩
  intro waited turn
  -- A script that hangs here adds nothing to what is stored, and nothing comes behind it.
  have hung {earlier : List Deposit} {left : Nat} (held : run.Held run.batch.results earlier) :
      let hangs := run.scriptYield left later ⟨[], .hangs, later.maker⟩
      run.Held run.batch.results (hangs.behind earlier).deposits ∧
        (hangs.behind earlier).outcome = none := by
    refine ⟨?_, rfl⟩
    rw [scriptYield_nil, BatchYield.behind, BatchYield.afterRun, List.append_nil]
    exact held
  cases turn with
  | unopened phase opened =>
    cases waited
    obtain ⟨earlier, held, rfl⟩ := before.ahead (by rw [coming, phase])
    rw [Script.yield_of_open_waits opened]
    exact hung held
  | @unadvanced left cursor _ phase advanced =>
    cases waited
    obtain ⟨earlier, held, rfl⟩ := before.ahead (by rw [coming, phase])
    have come := cursor.resultFetched_nextResult
    rw [advanced] at come
    cases come with
    | waits yields =>
      rw [yields]
      exact hung held
  | @read left cursor readPhase current phase last =>
    obtain ⟨stored, earlier, script, results, held, reads, rfl⟩ := before.reads phase last
    obtain ⟨reading, rests, rfl⟩ := Progress.waits_of_within (Progress.waits_of_mapEvent waited)
    have sameKey :=
      Reading.ensures_key (.ofSettings run.settings) false ⟨current, cursor, readPhase⟩
    rw [rests] at sameKey
    obtain ⟨deposit, holds, rfl⟩ := Reading.yields_waits (.ofSettings run.settings) reads rests
    have stands : (run.withReading left reading).batch.results = stored ++ [reading.result] :=
      Batch.results_setResult numbered results sameKey
    refine ⟨?_, rfl⟩
    rw [stands]
    exact List.rel_append held (.cons holds .nil)
  | _ => cases waited

end BatchRun

end SqlDesk
