import SqlDesk.Event
import SqlDesk.ResultSet.Reading
import SqlDesk.Source.Host

/-! Running a batch, one step at a time. The text runs as often as asked; an error of the database
ends only its own run, while cancellation and any other failure end the batch. The notices of a
cursor are told whenever it has been used, before anything it reported is acted on. A batch that has
said nothing and has no error says that it succeeded. -/

set_option autoImplicit false

namespace SqlDesk

inductive BatchOutcome where
  | completed
  | cancelled
  | failed
  deriving DecidableEq, Repr

def BatchOutcome.name : BatchOutcome → String
  | completed => "completed"
  | cancelled => "cancelled"
  | failed => "failed"

/-- Why a run of the text stopped early. -/
inductive Interruption where
  | driver (message : DriverMessage)
  | cancelled
  | failed (text : String)
  deriving DecidableEq

namespace Interruption

def ofSource : SourceError → Interruption
  | .driver message => driver message
  | .cancelled => cancelled
  | error => failed error.message

def ofResult : ResultSetError → Interruption
  | .cancelled => cancelled
  | .source error => ofSource error
  | error => failed error.message

end Interruption

inductive AfterNotices where
  | result (header : Header)
  | nextResult
  | endOfRun
  | interruption (reason : Interruption)
  deriving DecidableEq

/-- Where a batch stands; `left` counts the runs still to come. -/
inductive BatchPhase where
  | starting (left : Nat)
  | repeating (left : Nat)
  /-- The text has been submitted and no cursor has come back yet. -/
  | opening (left : Nat) (script : Script)
  | advancing (left : Nat) (cursor : Cursor)
  | telling (left : Nat) (cursor : Cursor) (notices : List Notice) (next : AfterNotices)
  | reading (left : Nat) (cursor : Cursor) (phase : ReadPhase)
  | interrupted (left : Nat) (reason : Interruption)
  | concluding (outcome : BatchOutcome)
  | completing (outcome : BatchOutcome)

/-- What executions draw on: the databases and the making of stores. -/
structure World (η : Type) where
  host : η
  maker : StoreMaker

structure BatchRun where
  batch : Batch
  settings : Settings
  connection : Connection
  phase : BatchPhase

structure BatchEnd where
  batch : Batch
  outcome : BatchOutcome

def ResultEvent.happening : ResultEvent → Happening
  | available summary => .resultAvailable summary
  | updated summary => .resultUpdated summary
  | completed summary => .resultCompleted summary

namespace BatchRun

abbrev Step := Progress BatchRun BatchEnd Happening

def runsOf (batch : Batch) (settings : Settings) : Nat :=
  max 1 (batch.text.runs.getD settings.runs)

def start (batch : Batch) (settings : Settings) (connection : Connection) (now : Instant) :
    Except BatchError BatchRun :=
  if batch.started.isSome then .error (.alreadyExecuted batch.id)
  else .ok {
    batch := { batch with started := some now }
    settings, connection
    phase := .starting (runsOf batch settings) }

def execution (run : BatchRun) : Execution :=
  ⟨run.batch.text.sql, run.settings.actualPlan, run.settings.estimatedPlan⟩

def goOn (run : BatchRun) (phase : BatchPhase) : Step := .moves { run with phase } none

def say (run : BatchRun) (now : Instant) (isError : Bool) (text : String) (phase : BatchPhase) :
    Step :=
  let message : BatchMessage := ⟨run.batch.id, isError, now, text⟩
  .moves { run with batch := run.batch.addMessage message, phase } (some (.message message))

def makeResult (maker : StoreMaker) (run : BatchRun) (left : Nat) (cursor : Cursor)
    (header : Header) : StoreMaker × BatchRun :=
  match maker.create run.batch.nextKey with
  | (.error error, maker) =>
    let reason := Interruption.ofResult (.storage error)
    (maker, { run with phase := .interrupted left reason })
  | (.ok store, maker) =>
    let results := run.batch.results ++ [ResultSet.ofHeader store header]
    (maker, { run with
      batch := { run.batch with results }
      phase := .reading left cursor (.fetching false) })

def afterAdvance : Fetched Header → AfterNotices
  | .value header => .result header
  | .ended | .waits => .endOfRun
  | .failed error => .interruption (.ofSource error)

def afterReading : ReadOutcome → AfterNotices
  | .ok () => .nextResult
  | .error error => .interruption (.ofResult error)

def tellNotices (left : Nat) (cursor : Cursor) (next : AfterNotices) : BatchPhase :=
  .telling left cursor.takeNotices.2 cursor.takeNotices.1 next

/-- Acts on an error of the database: the batch is marked, and the error is told by its tone. -/
def sayDriverError (run : BatchRun) (now : Instant) (message : DriverMessage) (phase : BatchPhase) :
    Step :=
  let run := { run with batch := { run.batch with hasError := true } }
  match message.tone with
  | .error => run.say now true (message.errorText run.batch.startLine) phase
  | .informational => run.say now false message.message phase
  | .suppressed => run.goOn phase

def stepReading (run : BatchRun) (cancelled : Bool) (left : Nat) (cursor : Cursor)
    (phase : ReadPhase) : Step :=
  match run.batch.results.getLast? with
  | none => run.goOn (.advancing left cursor)
  | some result =>
    let put (reading : Reading) : BatchRun := { run with
      batch := run.batch.setResult reading.result
      phase := .reading left reading.cursor reading.phase }
    let resume (done : ReadEnd) : BatchRun := { run with
      batch := run.batch.setResult done.result
      phase := tellNotices left done.cursor (afterReading done.outcome) }
    ((Reading.step (.ofSettings run.settings) cancelled ⟨result, cursor, phase⟩).within put
      resume).mapEvent ResultEvent.happening

def step {η : Type} [Host η] (now : Instant) (cancelled : Bool) (world : World η)
    (run : BatchRun) : World η × Step :=
  match run.phase with
  | .starting left =>
    (world, .moves { run with phase := .repeating left } (some (.batchStarted run.batch.summary)))
  | .repeating 0 => (world, run.goOn (.concluding .completed))
  | .repeating (left + 1) =>
    if cancelled then (world, run.goOn (.interrupted left .cancelled))
    else
      let (script, host) := Host.execute world.host run.connection run.execution
      ({ world with host }, run.goOn (.opening left script))
  | .opening left script =>
    (world, match script.open cancelled with
      | .waits => .waits run
      | .value cursor => run.goOn (.advancing left cursor)
      | .ended => run.goOn (.repeating left)
      | .failed error => run.goOn (.interrupted left (.ofSource error)))
  | .advancing left cursor =>
    (world, match cursor.nextResult cancelled with
      | (.waits, cursor) => .waits { run with phase := .advancing left cursor }
      | (fetched, cursor) => run.goOn (tellNotices left cursor (afterAdvance fetched)))
  | .telling left cursor (notice :: notices) next =>
    (world, run.say now notice.isError (notice.text run.batch.startLine)
      (.telling left cursor notices next))
  | .telling left cursor [] (.result header) =>
    let (maker, run) := makeResult world.maker run left cursor header
    ({ world with maker }, .moves run none)
  | .telling left cursor [] .nextResult => (world, run.goOn (.advancing left cursor))
  | .telling left _ [] .endOfRun => (world, run.goOn (.repeating left))
  | .telling left _ [] (.interruption reason) => (world, run.goOn (.interrupted left reason))
  | .reading left cursor phase => (world, run.stepReading cancelled left cursor phase)
  | .interrupted left (.driver message) =>
    (world, run.sayDriverError now message (.repeating left))
  | .interrupted _ .cancelled =>
    let run := { run with batch := { run.batch with cancelled := true } }
    (world, run.say now false BatchMessage.cancelledText (.concluding .cancelled))
  | .interrupted _ (.failed text) => (world, run.say now true text (.concluding .failed))
  | .concluding outcome =>
    if run.batch.messages.isEmpty && !run.batch.hasError then
      (world, run.say now false BatchMessage.successText (.completing outcome))
    else (world, run.goOn (.completing outcome))
  | .completing outcome =>
    let batch := { run.batch with ended := some now }
    (world, .ends ⟨batch, outcome⟩ (some (.batchCompleted batch.summary)))

end BatchRun

end SqlDesk
