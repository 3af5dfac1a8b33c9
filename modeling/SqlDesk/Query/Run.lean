import SqlDesk.Batch.Order
import SqlDesk.Query.Execution

/-! Running a query until it rests or waits. Every step that goes on makes the work left smaller:
first the batches to come count, then the order of the phases of the batch under way. -/

set_option autoImplicit false

namespace SqlDesk

namespace Query

/-- Batches left, counted so that a batch under way comes before the next one. -/
def batchesLeft (query : Query) : Nat :=
  match query.activity with
  | .resting => 0
  | .announcing => 1
  | .closing _ => 2
  | .executing index _ => 2 * (query.batches.length - index) + 2
  | .choosing index => 2 * (query.batches.length - index) + 3

def phaseRuns (query : Query) : Nat :=
  match query.activity with
  | .executing _ phase => phase.runsLeft
  | _ => 0

def phaseWeight (query : Query) : Nat :=
  match query.activity with
  | .executing _ phase => phase.weight
  | _ => 0

def order (query : Query) : Nat × Nat × Nat := (query.batchesLeft, query.phaseRuns, query.phaseWeight)

def After (next query : Query) : Prop :=
  Prod.Lex (· < ·) (Prod.Lex (· < ·) (· < ·)) next.order query.order

theorem after_of_batchesLeft {next query : Query} (less : next.batchesLeft < query.batchesLeft) :
    next.After query := .left _ _ less

theorem batchesLeft_finish (query : Query) (now : Instant) (state : QueryState) :
    (query.finish now state).batchesLeft = 1 := rfl

theorem after_choose {query : Query} {index : Nat} (now : Instant)
    (choosing : query.activity = .choosing index) : (query.choose now index).After query := by
  have finished (state : QueryState) : (query.finish now state).After query :=
    after_of_batchesLeft (by rw [batchesLeft_finish]; simp only [batchesLeft, choosing]; omega)
  unfold choose
  split
  · exact finished _
  · split
    · exact finished _
    · split
      · exact finished _
      · exact after_of_batchesLeft (by simp [batchesLeft, choosing, setBatch])

theorem after_withRun {query : Query} {index : Nat} {phase : BatchPhase} {run : BatchRun}
    (executing : query.activity = .executing index phase) (advances : run.phase.After phase) :
    (query.withRun index run).After query := by
  have same : (query.withRun index run).batchesLeft = query.batchesLeft := by
    simp [batchesLeft, withRun, setBatch, executing]
  have phases : query.phaseRuns = phase.runsLeft ∧ query.phaseWeight = phase.weight := by
    simp [phaseRuns, phaseWeight, executing]
  unfold After order
  rw [same, phases.1, phases.2]
  rcases advances with fewer | ⟨equal, lighter⟩
  · exact .right _ (.left _ _ fewer)
  · refine .right _ ?_
    change Prod.Lex _ _ (run.phase.runsLeft, run.phase.weight) _
    rw [equal]
    exact .right _ lighter

theorem after_step {η : Type} [Host η] {now : Instant} {world : World η} {query next : Query}
    {event : Option Happening} (moved : (query.step now world).2 = .moves next event) :
    next.After query := by
  unfold step at moved
  cases activity : query.activity with
  | resting | announcing => simp [activity] at moved
  | choosing index =>
    simp only [activity, Progress.moves.injEq] at moved
    exact moved.1 ▸ after_choose now activity
  | closing state =>
    simp only [activity, Progress.moves.injEq] at moved
    rw [← moved.1]
    exact after_of_batchesLeft (by rw [batchesLeft_finish]; simp [batchesLeft, activity])
  | executing index phase =>
    simp only [activity] at moved
    cases found : query.batches[index]? with
    | none =>
      simp only [found, Progress.moves.injEq] at moved
      rw [← moved.1]
      exact after_of_batchesLeft (by rw [batchesLeft_finish]; simp only [batchesLeft, activity]; omega)
    | some batch =>
      simp only [found] at moved
      have inside : index < query.batches.length := (List.getElem?_eq_some_iff.1 found).1
      have advances := BatchRun.advances_step now query.cancelRequested world
        ⟨batch, query.settings, query.connection, phase⟩
      rcases Progress.moves_of_within moved with ⟨run, stepped, rfl⟩ | ⟨done, _, rfl⟩
      · rw [stepped] at advances
        exact after_withRun activity advances
      · refine after_of_batchesLeft ?_
        simp only [afterBatch, batchesLeft, activity, setBatch]
        cases done.outcome <;> simp only [List.length_set] <;> omega

/-- Runs a query until it ends or waits, and tells what happened. -/
def run {η : Type} [Host η] (now : Instant) (world : World η) (query : Query) :
    World η × Query × List Happening :=
  match _stepped : query.step now world with
  | (world, .waits query) => (world, query, [])
  | (world, .ends query event) => (world, query, event.toList)
  | (world, .moves next event) =>
    let (world, query, happenings) := run now world next
    (world, query, event.toList ++ happenings)
termination_by query.order
decreasing_by exact after_step (congrArg Prod.snd _stepped)

end Query

end SqlDesk
