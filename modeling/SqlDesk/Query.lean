import SqlDesk.Batch.Execution

/-! A query: the batches of a text, the connection they run on and the settings in force. It is
begun once and ends once; a query that has ended changes only when its stores are let go. -/

set_option autoImplicit false

namespace SqlDesk

inductive QueryState where
  | notStarted
  | running
  | completed
  | failed
  | cancelled
  deriving DecidableEq, Repr

namespace QueryState

def isTerminal : QueryState → Bool
  | completed | failed | cancelled => true
  | notStarted | running => false

def name : QueryState → String
  | notStarted => "notStarted"
  | running => "running"
  | completed => "completed"
  | failed => "failed"
  | cancelled => "cancelled"

end QueryState

inductive QueryError where
  | alreadyExecuted
  | alreadyCompleted
  | batchOutOfRange (batchId count : Nat)
  | batch (error : BatchError)
  deriving DecidableEq

def QueryError.message : QueryError → String
  | alreadyExecuted => "query has already been executed"
  | alreadyCompleted => "query has already completed"
  | batchOutOfRange batchId count => s!"batch {batchId} is out of range (query has {count})"
  | batch error => error.message

inductive Activity where
  | resting
  | choosing (index : Nat)
  | executing (index : Nat) (phase : BatchPhase)
  /-- No batch runs any more, and the final state has still to be set. -/
  | closing (state : QueryState)
  /-- The final state is set, and its event has still to be told. -/
  | announcing

structure Query where
  owner : String
  text : String
  batches : List Batch
  connection : Connection
  settings : Settings
  cancelRequested : Bool
  state : QueryState
  started : Option Instant
  ended : Option Instant
  activity : Activity

namespace Query

def batchesOf (owner text : String) : List Batch :=
  (splitBatches text).zipIdx.map fun (part, id) => Batch.ofText id owner part

def create (owner text : String) (connection : Connection) (settings : Settings) : Query :=
  ⟨owner, text, batchesOf owner text, connection, settings, false, .notStarted, none, none,
    .resting⟩

def isTerminal (query : Query) : Bool := query.state.isTerminal

def hasErrored (query : Query) : Bool :=
  query.state = .failed || query.batches.any Batch.hasError

def summaries (query : Query) : List BatchSummary := query.batches.map Batch.summary

def results (query : Query) : List ResultSet := query.batches.flatMap Batch.results

def begin (query : Query) (now : Instant) : Except QueryError Query :=
  if query.state = .notStarted then
    .ok { query with state := .running, started := some now, activity := .choosing 0 }
  else .error .alreadyExecuted

def cancel (query : Query) : Except QueryError Query :=
  if query.isTerminal then .error .alreadyCompleted
  else .ok { query with cancelRequested := true }

/-- Signals cancellation if there is something to cancel, and closes every store. -/
def dispose (query : Query) : Query :=
  { query with
    cancelRequested := query.cancelRequested || !query.isTerminal
    batches := query.batches.map Batch.close }

def batch (query : Query) (batchId : Nat) : Except QueryError Batch :=
  match query.batches[batchId]? with
  | some batch => .ok batch
  | none => .error (.batchOutOfRange batchId query.batches.length)

def result (query : Query) (batchId resultId : Nat) : Except QueryError ResultSet := do
  match (← query.batch batchId).result resultId with
  | .ok result => .ok result
  | .error error => .error (.batch error)

def window (query : Query) (batchId resultId : Nat) (start count : Int) :
    Except QueryError Window := do
  match (← query.batch batchId).window resultId start count with
  | .ok window => .ok window
  | .error error => .error (.batch error)

def setBatch (query : Query) (batch : Batch) : Query :=
  { query with batches := query.batches.set batch.id batch }

def setResult (query : Query) (result : ResultSet) : Query :=
  match query.batches[result.batchId]? with
  | some batch => query.setBatch (batch.setResult result)
  | none => query

end Query

end SqlDesk
