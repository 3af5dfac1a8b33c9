import SqlDesk.Batch.Execution

/-! Everything that one step of a batch can come to, with what has to hold for it. Later proofs take
the cases from here instead of opening the step. -/

set_option autoImplicit false

namespace SqlDesk

/-- Opening a script yields a cursor, fails or waits; it never just ends. -/
theorem Script.open_ne_ended (cancelled : Bool) (script : Script) :
    script.open cancelled ≠ .ended := by
  unfold Script.open
  split
  · rename_i stop _
    cases stop <;> cases cancelled <;> simp [Stop.fetched]
  · simp

namespace BatchRun

def withResult (run : BatchRun) (left : Nat) (cursor : Cursor) (store : RowStore)
    (header : Header) : BatchRun :=
  { run with
    batch := { run.batch with results := run.batch.results ++ [ResultSet.ofHeader store header] }
    phase := .reading left cursor (.fetching false) }

def withReading (run : BatchRun) (left : Nat) (reading : Reading) : BatchRun :=
  { run with
    batch := run.batch.setResult reading.result
    phase := .reading left reading.cursor reading.phase }

def afterRead (run : BatchRun) (left : Nat) (done : ReadEnd) : BatchRun :=
  { run with
    batch := run.batch.setResult done.result
    phase := tellNotices left done.cursor (afterReading done.outcome) }

def marked (run : BatchRun) : BatchRun :=
  { run with batch := { run.batch with hasError := true } }

variable {η : Type} [Host η]

/-- The outcomes of a step, by the phase of the run and what source and stores say. -/
inductive Turn (now : Instant) (cancelled : Bool) (world : World η) (run : BatchRun) :
    World η → Step → Prop where
  | started {left : Nat} (phase : run.phase = .starting left) :
      Turn now cancelled world run world
        (.moves { run with phase := .repeating left } (some (.batchStarted run.batch.summary)))
  | repeated (phase : run.phase = .repeating 0) :
      Turn now cancelled world run world (run.goOn (.concluding .completed))
  | halted {left : Nat} (phase : run.phase = .repeating (left + 1)) (signalled : cancelled = true) :
      Turn now cancelled world run world (run.goOn (.interrupted left .cancelled))
  | submitted {left : Nat} (phase : run.phase = .repeating (left + 1)) (live : cancelled = false) :
      Turn now cancelled world run
        { world with host := (Host.execute world.host run.connection run.execution).2 }
        (run.goOn (.opening left (Host.execute world.host run.connection run.execution).1))
  | unopened {left : Nat} {script : Script} (phase : run.phase = .opening left script)
      (opened : script.open cancelled = .waits) :
      Turn now cancelled world run world (.waits run)
  | opened {left : Nat} {script : Script} {cursor : Cursor}
      (phase : run.phase = .opening left script) (opened : script.open cancelled = .value cursor) :
      Turn now cancelled world run world (run.goOn (.advancing left cursor))
  | rejected {left : Nat} {script : Script} {error : SourceError}
      (phase : run.phase = .opening left script) (opened : script.open cancelled = .failed error) :
      Turn now cancelled world run world (run.goOn (.interrupted left (.ofSource error)))
  | unadvanced {left : Nat} {cursor next : Cursor} (phase : run.phase = .advancing left cursor)
      (advanced : cursor.nextResult cancelled = (.waits, next)) :
      Turn now cancelled world run world (.waits { run with phase := .advancing left next })
  | advanced {left : Nat} {cursor next : Cursor} {fetched : Fetched Header}
      (phase : run.phase = .advancing left cursor)
      (advanced : cursor.nextResult cancelled = (fetched, next)) (come : fetched ≠ .waits) :
      Turn now cancelled world run world (run.goOn (tellNotices left next (afterAdvance fetched)))
  | told {left : Nat} {cursor : Cursor} {notice : Notice} {notices : List Notice}
      {next : AfterNotices} (phase : run.phase = .telling left cursor (notice :: notices) next) :
      Turn now cancelled world run world
        (run.say now notice.isError (notice.text run.batch.startLine)
          (.telling left cursor notices next))
  | uncreated {left : Nat} {cursor : Cursor} {header : Header} {error : StorageError}
      (phase : run.phase = .telling left cursor [] (.result header))
      (made : (world.maker.create run.batch.nextKey).1 = .error error) :
      Turn now cancelled world run
        { world with maker := (world.maker.create run.batch.nextKey).2 }
        (run.goOn (.interrupted left (.ofResult (.storage error))))
  | created {left : Nat} {cursor : Cursor} {header : Header} {store : RowStore}
      (phase : run.phase = .telling left cursor [] (.result header))
      (made : (world.maker.create run.batch.nextKey).1 = .ok store) :
      Turn now cancelled world run
        { world with maker := (world.maker.create run.batch.nextKey).2 }
        (.moves (run.withResult left cursor store header) none)
  | resumed {left : Nat} {cursor : Cursor} (phase : run.phase = .telling left cursor [] .nextResult) :
      Turn now cancelled world run world (run.goOn (.advancing left cursor))
  | exhausted {left : Nat} {cursor : Cursor} (phase : run.phase = .telling left cursor [] .endOfRun) :
      Turn now cancelled world run world (run.goOn (.repeating left))
  | broken {left : Nat} {cursor : Cursor} {reason : Interruption}
      (phase : run.phase = .telling left cursor [] (.interruption reason)) :
      Turn now cancelled world run world (run.goOn (.interrupted left reason))
  | unread {left : Nat} {cursor : Cursor} {readPhase : ReadPhase}
      (phase : run.phase = .reading left cursor readPhase)
      (none : run.batch.results.getLast? = none) :
      Turn now cancelled world run world (run.goOn (.advancing left cursor))
  | read {left : Nat} {cursor : Cursor} {readPhase : ReadPhase} {result : ResultSet}
      (phase : run.phase = .reading left cursor readPhase)
      (last : run.batch.results.getLast? = some result) :
      Turn now cancelled world run world
        (((Reading.step (.ofSettings run.settings) cancelled ⟨result, cursor, readPhase⟩).within
          (run.withReading left) (run.afterRead left)).mapEvent ResultEvent.happening)
  | erred {left : Nat} {message : DriverMessage}
      (phase : run.phase = .interrupted left (.driver message)) (tone : message.tone = .error) :
      Turn now cancelled world run world
        (run.marked.say now true (message.errorText run.batch.startLine) (.repeating left))
  | remarked {left : Nat} {message : DriverMessage}
      (phase : run.phase = .interrupted left (.driver message))
      (tone : message.tone = .informational) :
      Turn now cancelled world run world
        (run.marked.say now false message.message (.repeating left))
  | suppressed {left : Nat} {message : DriverMessage}
      (phase : run.phase = .interrupted left (.driver message))
      (tone : message.tone = .suppressed) :
      Turn now cancelled world run world (run.marked.goOn (.repeating left))
  | cancelled {left : Nat} (phase : run.phase = .interrupted left .cancelled) :
      Turn now cancelled world run world
        (BatchRun.say { run with batch := { run.batch with cancelled := true } } now false
          BatchMessage.cancelledText (.concluding .cancelled))
  | failed {left : Nat} {text : String} (phase : run.phase = .interrupted left (.failed text)) :
      Turn now cancelled world run world (run.say now true text (.concluding .failed))
  | succeeded {outcome : BatchOutcome} (phase : run.phase = .concluding outcome)
      (quiet : (run.batch.messages.isEmpty && !run.batch.hasError) = true) :
      Turn now cancelled world run world
        (run.say now false BatchMessage.successText (.completing outcome))
  | concluded {outcome : BatchOutcome} (phase : run.phase = .concluding outcome)
      (told : (run.batch.messages.isEmpty && !run.batch.hasError) = false) :
      Turn now cancelled world run world (run.goOn (.completing outcome))
  | completed {outcome : BatchOutcome} (phase : run.phase = .completing outcome) :
      Turn now cancelled world run world
        (.ends ⟨{ run.batch with ended := some now }, outcome⟩
          (some (.batchCompleted (Batch.summary { run.batch with ended := some now }))))

theorem turn (now : Instant) (cancelled : Bool) (world : World η) (run : BatchRun) :
    Turn now cancelled world run (run.step now cancelled world).1
      (run.step now cancelled world).2 := by
  obtain ⟨batch, settings, connection, phase⟩ := run
  -- One case a phase, and in it one for each answer of the source or the maker of stores.
  cases phase with
  | starting left => exact .started rfl
  | repeating left =>
    cases left with
    | zero => exact .repeated rfl
    | succ left =>
      cases cancelled with
      | true => exact .halted rfl rfl
      | false => exact .submitted rfl rfl
  | opening left script =>
    simp only [step]
    cases opened : script.open cancelled with
    | waits => exact .unopened rfl opened
    | value cursor => exact .opened rfl opened
    | failed error => exact .rejected rfl opened
    | ended => exact absurd opened (Script.open_ne_ended cancelled script)
  | advancing left cursor =>
    simp only [step]
    rcases advanced : cursor.nextResult cancelled with ⟨fetched, next⟩
    cases fetched with
    | waits => exact .unadvanced rfl advanced
    | value header => exact .advanced rfl advanced (by simp)
    | ended => exact .advanced rfl advanced (by simp)
    | failed error => exact .advanced rfl advanced (by simp)
  | telling left cursor notices next =>
    cases notices with
    | cons notice notices => exact .told rfl
    | nil =>
      cases next with
      | nextResult => exact .resumed rfl
      | endOfRun => exact .exhausted rfl
      | interruption reason => exact .broken rfl
      | result header =>
        simp only [step, makeResult]
        -- Both the store and the maker left behind are read off the one equation.
        let run : BatchRun :=
          ⟨batch, settings, connection, .telling left cursor [] (.result header)⟩
        rcases made : world.maker.create batch.nextKey with ⟨given, maker⟩
        cases given with
        | error error =>
          have uncreated : Turn now cancelled world run _ _ :=
            .uncreated rfl (congrArg Prod.fst made)
          rw [show (world.maker.create run.batch.nextKey).2 = maker from congrArg Prod.snd made]
            at uncreated
          exact uncreated
        | ok store =>
          have created : Turn now cancelled world run _ _ := .created rfl (congrArg Prod.fst made)
          rw [show (world.maker.create run.batch.nextKey).2 = maker from congrArg Prod.snd made]
            at created
          exact created
  | reading left cursor readPhase =>
    simp only [step, stepReading]
    cases last : batch.results.getLast? with
    | none => exact .unread rfl last
    | some result => exact .read rfl last
  | interrupted left reason =>
    cases reason with
    | driver message =>
      simp only [step, sayDriverError]
      cases tone : message.tone with
      | error => exact .erred rfl tone
      | informational => exact .remarked rfl tone
      | suppressed => exact .suppressed rfl tone
    | cancelled => exact .cancelled rfl
    | failed text => exact .failed rfl
  | concluding outcome =>
    simp only [step]
    cases quiet : batch.messages.isEmpty && !batch.hasError with
    | true => exact .succeeded rfl quiet
    | false => exact .concluded rfl quiet
  | completing outcome => exact .completed rfl

theorem ensures_reading (run : BatchRun) (left : Nat) (progress : Progress Reading ReadEnd ResultEvent)
    {kept : BatchRun → List Happening → Prop} {finished : BatchEnd → List Happening → Prop}
    (keep : ∀ next (events : List ResultEvent),
      kept (run.withReading left next) (events.map ResultEvent.happening))
    (resume : ∀ done (events : List ResultEvent),
      kept (run.afterRead left done) (events.map ResultEvent.happening)) :
    ((progress.within (run.withReading left) (run.afterRead left)).mapEvent
      ResultEvent.happening).Ensures kept finished := by
  refine Progress.ensures_mapEvent (Progress.ensures_within ?_)
  cases progress with
  | waits next => exact keep next []
  | moves next event => exact keep next event.toList
  | ends done event => exact resume done event.toList

end BatchRun

/-! The flags of a batch, and what they have to do with its phase and its outcome: a batch is marked as
cancelled when that is its outcome and not before, and one that has failed has an error. -/

structure BatchFlags where
  begun : Bool
  executed : Bool
  hasError : Bool
  cancelled : Bool
  deriving DecidableEq

def Batch.flags (batch : Batch) : BatchFlags :=
  ⟨batch.started.isSome, batch.executed, batch.hasError, batch.cancelled⟩

namespace BatchFlags

def unrun : BatchFlags := ⟨false, false, false, false⟩

def Underway (flags : BatchFlags) (phase : BatchPhase) : Prop :=
  flags.executed = false ∧
    match phase with
    | .concluding outcome | .completing outcome =>
      (flags.cancelled = true ↔ outcome = .cancelled) ∧
        (outcome = .failed → flags.hasError = true)
    | _ => flags.cancelled = false

structure Ended (flags : BatchFlags) (outcome : BatchOutcome) : Prop where
  executed : flags.executed = true
  cancelled : flags.cancelled = true ↔ outcome = .cancelled
  failed : outcome = .failed → flags.hasError = true

end BatchFlags

/-- A step of a batch keeps its flags in line with its phase, and its end with its outcome. -/
theorem BatchRun.ensures_flags {η : Type} [Host η] (now : Instant) (cancelled : Bool)
    (world : World η) (run : BatchRun) (before : run.batch.flags.Underway run.phase) :
    (run.step now cancelled world).2.Ensures
      (fun next _ => next.batch.flags.Underway next.phase)
      (fun done _ => done.batch.flags.Ended done.outcome) := by
  have turn := run.turn now cancelled world
  revert turn
  rcases run.step now cancelled world with ⟨later, progress⟩
  intro turn
  cases turn with
  | unopened => exact before
  | completed phase =>
    rw [phase] at before
    exact ⟨rfl, before.2.1, before.2.2⟩
  | succeeded phase _ =>
    rw [phase] at before
    obtain ⟨running, cancelled, failed⟩ := before
    exact ⟨running, cancelled, fun outcome => Bool.or_eq_true_iff.mpr (.inl (failed outcome))⟩
  | concluded phase _ =>
    rw [phase] at before
    exact before
  | cancelled phase =>
    rw [phase] at before
    exact ⟨before.1, by simp [Batch.flags, Batch.addMessage], by simp⟩
  | failed phase =>
    rw [phase] at before
    exact ⟨before.1, by simpa [Batch.flags, Batch.addMessage] using before.2,
      by simp [Batch.flags, Batch.addMessage]⟩
  | repeated phase =>
    rw [phase] at before
    exact ⟨before.1, by simpa [goOn] using before.2, by simp⟩
  | read phase _ =>
    rw [phase] at before
    -- Reading changes a result of the batch and none of its flags.
    exact run.ensures_reading _ _ (fun _ _ => before) fun _ _ => before
  | _ phase =>
    rw [phase] at before
    exact before

end SqlDesk
