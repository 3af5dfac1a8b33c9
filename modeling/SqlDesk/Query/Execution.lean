import SqlDesk.Query

/-! Running a query, one step at a time. Batches run in order; a batch with errors does not stop the
query, a cancelled or failed one does. The final state is set before its event is told. -/

set_option autoImplicit false

namespace SqlDesk.Query

/-- Sets the final state. A query whose batches all ran has failed if one of them has an error. -/
def finish (query : Query) (now : Instant) (state : QueryState) : Query :=
  { query with
    state := if state = .completed ∧ query.batches.any Batch.hasError then .failed else state
    ended := some now
    activity := .announcing }

/-- Takes up the batch of a number. Cancellation counts only while there is a batch to run. -/
def choose (query : Query) (now : Instant) (index : Nat) : Query :=
  match query.batches[index]? with
  | none => query.finish now .completed
  | some batch =>
    if query.cancelRequested then query.finish now .cancelled
    else match BatchRun.start batch query.settings query.connection now with
      | .error _ => query.finish now .failed
      | .ok run => { query.setBatch run.batch with activity := .executing index run.phase }

def afterBatch (query : Query) (index : Nat) (done : BatchEnd) : Query :=
  { query.setBatch done.batch with
    activity := match done.outcome with
      | .completed => .choosing (index + 1)
      | .cancelled => .closing .cancelled
      | .failed => .closing .failed }

def withRun (query : Query) (index : Nat) (run : BatchRun) : Query :=
  { query.setBatch run.batch with activity := .executing index run.phase }

def step {η : Type} [Host η] (now : Instant) (world : World η) (query : Query) :
    World η × Progress Query Query Happening :=
  match query.activity with
  | .resting => (world, .waits query)
  | .choosing index => (world, .moves (query.choose now index) none)
  | .executing index phase =>
    match query.batches[index]? with
    | none => (world, .moves (query.finish now .failed) none)
    | some batch =>
      let run : BatchRun := ⟨batch, query.settings, query.connection, phase⟩
      let stepped := run.step now query.cancelRequested world
      (stepped.1, stepped.2.within (query.withRun index) (query.afterBatch index))
  | .closing state => (world, .moves (query.finish now state) none)
  | .announcing =>
    (world, .ends { query with activity := .resting } (some (.queryCompleted query.summaries)))

end SqlDesk.Query
