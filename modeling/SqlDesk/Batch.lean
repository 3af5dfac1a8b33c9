import SqlDesk.Batch.Message
import SqlDesk.ResultSet

/-! A batch: one piece of SQL text, its results in the order in which they came, and the messages it
has given. -/

set_option autoImplicit false

namespace SqlDesk

inductive BatchError where
  | alreadyExecuted (id : Nat)
  | resultOutOfRange (resultId count : Nat)
  | resultSet (error : ResultSetError)
  deriving DecidableEq

def BatchError.message : BatchError → String
  | alreadyExecuted id => s!"batch {id} has already been executed"
  | resultOutOfRange resultId count =>
    s!"result set {resultId} is out of range (batch has {count})"
  | resultSet error => error.message

/-- A batch as notifications show it. Results and special action are told once it has executed. -/
structure BatchSummary where
  id : Nat
  selection : Selection
  hasError : Bool
  started : Option Instant
  ended : Option Instant
  results : Option (List ResultSummary)
  deriving DecidableEq, Repr

namespace BatchSummary

def elapsed? (summary : BatchSummary) : Option String := do
  return Instant.elapsedText ((← summary.ended).since (← summary.started))

def action? (summary : BatchSummary) : Option SpecialAction :=
  summary.results.map fun results => .combineAll (results.map ResultSummary.action)

def toJson (summary : BatchSummary) : Json :=
  .ofPresent [("id", some (.ofNat summary.id)), ("selection", some summary.selection.toJson),
    ("hasError", some (.bool summary.hasError)),
    ("executionStart", summary.started.map fun time => .string time.text),
    ("executionEnd", summary.ended.map fun time => .string time.text),
    ("executionElapsed", summary.elapsed?.map Json.string),
    ("resultSetSummaries", summary.results.map fun results =>
      .array (results.map ResultSummary.toJson)),
    ("specialAction", summary.action?.map SpecialAction.toJson)]

end BatchSummary

structure Batch where
  id : Nat
  owner : String
  text : BatchText
  results : List ResultSet
  messages : List BatchMessage
  started : Option Instant
  ended : Option Instant
  hasError : Bool
  cancelled : Bool
  deriving DecidableEq

namespace Batch

def ofText (id : Nat) (owner : String) (text : BatchText) : Batch :=
  ⟨id, owner, text, [], [], none, none, false, false⟩

def executed (batch : Batch) : Bool := batch.ended.isSome

def startLine (batch : Batch) : Nat := batch.text.selection.startLine

def action (batch : Batch) : SpecialAction := .combineAll (batch.results.map ResultSet.action)

def summary (batch : Batch) : BatchSummary where
  id := batch.id
  selection := batch.text.selection
  hasError := batch.hasError
  started := batch.started
  ended := batch.ended
  results := if batch.executed then some (batch.results.map ResultSet.summary) else none

def result (batch : Batch) (resultId : Nat) : Except BatchError ResultSet :=
  match batch.results[resultId]? with
  | some result => .ok result
  | none => .error (.resultOutOfRange resultId batch.results.length)

def window (batch : Batch) (resultId : Nat) (start count : Int) : Except BatchError Window := do
  match (← batch.result resultId).window start count with
  | .ok window => .ok window
  | .error error => .error (.resultSet error)

def close (batch : Batch) : Batch := { batch with results := batch.results.map ResultSet.close }

def setResult (batch : Batch) (result : ResultSet) : Batch :=
  { batch with results := batch.results.set result.id result }

def nextKey (batch : Batch) : StoreKey := ⟨batch.owner, batch.id, batch.results.length⟩

def addMessage (batch : Batch) (message : BatchMessage) : Batch :=
  { batch with
    hasError := batch.hasError || message.isError
    messages := batch.messages ++ [message] }

end Batch

end SqlDesk
