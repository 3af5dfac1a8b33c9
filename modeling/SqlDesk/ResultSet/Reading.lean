import SqlDesk.Progress
import SqlDesk.ResultSet
import SqlDesk.Settings

/-! Reading a result to its end, one step at a time. The first stored row makes the result
available, later rows update it at an interval, and however reading ends the result is completed;
a result without rows becomes available just before. Rows beyond the limit are read and dropped.
Cancellation is looked at before every row. -/

set_option autoImplicit false

namespace SqlDesk

structure ReadOptions where
  rowLimit : Option Nat
  interval : Nat
  deriving DecidableEq, Repr

def ReadOptions.ofSettings (settings : Settings) : ReadOptions :=
  ⟨settings.rowLimit, settings.updateInterval⟩

inductive ResultEvent where
  | available (summary : ResultSummary)
  | updated (summary : ResultSummary)
  | completed (summary : ResultSummary)
  deriving DecidableEq, Repr

abbrev ReadOutcome := Except ResultSetError Unit

inductive ReadPhase where
  | fetching (announced : Bool)
  | announcing (outcome : ReadOutcome)
  | completing (outcome : ReadOutcome)

structure Reading where
  result : ResultSet
  cursor : Cursor
  phase : ReadPhase

structure ReadEnd where
  result : ResultSet
  cursor : Cursor
  outcome : ReadOutcome

namespace Reading

def start (result : ResultSet) (cursor : Cursor) : Reading := ⟨result, cursor, .fetching false⟩

def finish (reading : Reading) (announced : Bool) (outcome : ReadOutcome) : Reading :=
  { reading with
    result := { reading.result with complete := true }
    phase := if announced then .completing outcome else .announcing outcome }

def isAtLimit (options : ReadOptions) (result : ResultSet) : Bool :=
  options.rowLimit.any (· ≤ result.rowCount)

def eventFor (options : ReadOptions) (announced : Bool) (result : ResultSet) : Option ResultEvent :=
  if !announced then some (.available result.summary)
  else if result.rowCount % max options.interval 1 = 0 then some (.updated result.summary)
  else none

/-- Stores a row, or drops it when the result has reached its limit. -/
def takeRow (options : ReadOptions) (reading : Reading) (announced : Bool) (row : Row) :
    Progress Reading ReadEnd ResultEvent :=
  if isAtLimit options reading.result then .moves reading none
  else match reading.result.store.append row with
    | .error error => .moves (reading.finish announced (.error (.storage error))) none
    | .ok store =>
      let result := { reading.result with store }
      .moves { reading with result, phase := .fetching true } (eventFor options announced result)

def readFailure : SourceError → ResultSetError
  | .cancelled => .cancelled
  | error => .source error

def step (options : ReadOptions) (cancelled : Bool) (reading : Reading) :
    Progress Reading ReadEnd ResultEvent :=
  match reading.phase with
  | .fetching announced =>
    if cancelled then .moves (reading.finish announced (.error .cancelled)) none
    else
      let (fetched, cursor) := reading.cursor.nextRow cancelled
      let reading := { reading with cursor }
      match fetched with
      | .waits => .waits reading
      | .value row => takeRow options reading announced row
      | .ended => .moves (reading.finish announced (.ok ())) none
      | .failed error => .moves (reading.finish announced (.error (readFailure error))) none
  | .announcing outcome =>
    .moves { reading with phase := .completing outcome } (some (.available reading.result.summary))
  | .completing outcome =>
    .ends ⟨reading.result, reading.cursor, outcome⟩ (some (.completed reading.result.summary))

end Reading

end SqlDesk
