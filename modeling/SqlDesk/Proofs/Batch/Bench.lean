import SqlDesk.Proofs.Acts
import SqlDesk.Proofs.Batch.Numbering
import SqlDesk.Proofs.Query.Course
import SqlDesk.Proofs.Source.Notices

/-! A batch on its own, with the databases and stores that it draws on and those who listen. Beside
it stands a record of how each repetition of its text has ended. The record is made from what source,
stores and token answer, and not from what the batch makes of it, so that the one can be held against
the other. -/

set_option autoImplicit false

namespace SqlDesk

inductive Ending where
  | finished
  | raised (error : SourceError)
  | unstored (error : StorageError)
  /-- Cancellation has been noticed between two rows. -/
  | signalled
  deriving DecidableEq

/-- The last use of the cursor of a repetition: the cursor as it was left, if there was one, and what
the repetition has ended with. -/
structure LastUse where
  cursor : Option Cursor
  ending : Ending
  deriving DecidableEq

structure Repetition extends LastUse where
  script : Script
  deriving DecidableEq

def repetitions (submissions : List Submission) (record : List LastUse) : List Repetition :=
  List.zipWith (fun submission last => ⟨last, submission.script⟩) submissions record

def Reading.lastUse? (options : ReadOptions) (cancelled : Bool) (reading : Reading) :
    Option LastUse :=
  match reading.phase with
  | .announcing _ | .completing _ => none
  | .fetching _ =>
    if cancelled then some ⟨some reading.cursor, .signalled⟩
    else match reading.cursor.nextRow cancelled with
      | (.waits, _) | (.ended, _) => none
      | (.failed error, cursor) => some ⟨some cursor, .raised error⟩
      | (.value row, cursor) =>
        if isAtLimit options reading.result then none
        else match reading.result.store.append row with
          | .ok _ => none
          | .error error => some ⟨some cursor, .unstored error⟩

def BatchRun.lastUse? {η : Type} (cancelled : Bool) (world : World η) (run : BatchRun) :
    Option LastUse :=
  match run.phase with
  | .opening _ script =>
    match script.open cancelled with
    | .failed error => some ⟨none, .raised error⟩
    | _ => none
  | .advancing _ cursor =>
    match cursor.nextResult cancelled with
    | (.ended, next) => some ⟨some next, .finished⟩
    | (.failed error, next) => some ⟨some next, .raised error⟩
    | _ => none
  | .telling _ cursor [] (.result _) =>
    match (world.maker.create run.batch.nextKey).1 with
    | .error error => some ⟨some cursor, .unstored error⟩
    | .ok _ => none
  | .reading _ cursor phase => run.batch.results.getLast?.bind fun result =>
    Reading.lastUse? (.ofSettings run.settings) cancelled ⟨result, cursor, phase⟩
  | _ => none

theorem Batch.bare_of_unsaved {left right : Batch}
    (same : left.mapResults ResultSet.unsaved = right.mapResults ResultSet.unsaved) :
    left.bare = right.bare := by
  have again (batch : Batch) : (batch.mapResults ResultSet.unsaved).bare = batch.bare := by
    simp [bare, mapResults, ResultSet.bare, ResultSet.unsaved]
  rw [← again left, ← again right, same]

inductive Standing where
  | running (run : BatchRun)
  | stopped (done : BatchEnd)

namespace Standing

def batch : Standing → Batch
  | running run => run.batch
  | stopped done => done.batch

def withBatch (batch : Batch) : Standing → Standing
  | running run => running { run with batch }
  | stopped done => stopped { done with batch }

def outcome? : Standing → Option BatchOutcome
  | running _ => none
  | stopped done => some done.outcome

theorem stopped_of_outcome {standing : Standing} {outcome : BatchOutcome}
    (ended : standing.outcome? = some outcome) :
    ∃ done, standing = stopped done ∧ done.outcome = outcome := by
  cases standing with
  | running run => cases ended
  | stopped done => exact ⟨done, rfl, Option.some.inj ended⟩

def Holds (kept : BatchRun → Prop) (finished : BatchEnd → Prop) : Standing → Prop
  | running run => kept run
  | stopped done => finished done

end Standing

def Progress.standing : BatchRun.Step → Standing
  | waits run | moves run _ => .running run
  | ends done _ => .stopped done

theorem Progress.Ensures.standing {kept : BatchRun → List Happening → Prop}
    {finished : BatchEnd → List Happening → Prop} {progress : BatchRun.Step}
    (ensured : progress.Ensures kept finished) :
    progress.standing.Holds (kept · progress.event?.toList) (finished · progress.event?.toList) := by
  cases progress <;> exact ensured

theorem Progress.Ensures.batch (kept : Batch → List Happening → Prop)
    {progress : BatchRun.Step} (ensured : progress.Ensures (fun run events => kept run.batch events)
      fun done events => kept done.batch events) :
    kept progress.standing.batch progress.event?.toList := by
  cases progress <;> exact ensured

/-- A step changes neither the name and text of a batch nor what its runs are made with. -/
theorem BatchRun.ensures_fixed {η : Type} [Host η] (now : Instant) (cancelled : Bool)
    (world : World η) (run : BatchRun) :
    (run.step now cancelled world).2.Ensures
      (fun next _ => (next.batch.id = run.batch.id ∧ next.batch.text = run.batch.text) ∧
        next.settings = run.settings ∧ next.connection = run.connection)
      (fun done _ => done.batch.id = run.batch.id ∧ done.batch.text = run.batch.text) := by
  have turn := run.turn now cancelled world
  revert turn
  rcases run.step now cancelled world with ⟨later, progress⟩
  intro turn
  cases turn with
  | completed => exact ⟨rfl, rfl⟩
  | read =>
    exact run.ensures_reading _ _ (fun _ _ => ⟨⟨rfl, rfl⟩, rfl, rfl⟩)
      fun _ _ => ⟨⟨rfl, rfl⟩, rfl, rfl⟩
  | _ => exact ⟨⟨rfl, rfl⟩, rfl, rfl⟩

structure Bench (η α : Type) where
  world : World (Recorded η)
  standing : Standing
  signalled : Bool
  record : List LastUse
  subscribers : Subscribers α
  rounds : List (List (α × Event))

namespace Bench

variable {η α : Type}

def batch (bench : Bench η α) : Batch := bench.standing.batch

def submissions (bench : Bench η α) : List Submission := bench.world.host.submissions

def repetitions (bench : Bench η α) : List Repetition :=
  SqlDesk.repetitions bench.submissions bench.record

def withBatch (bench : Bench η α) (batch : Batch) : Bench η α :=
  { bench with standing := bench.standing.withBatch batch }

theorem withBatch_self (bench : Bench η α) : bench.withBatch bench.batch = bench := by
  obtain ⟨_, standing, _⟩ := bench
  cases standing <;> rfl

def ofRun (host : η) (maker : StoreMaker) (subscribers : Subscribers α) (run : BatchRun) :
    Bench η α :=
  ⟨⟨⟨host, []⟩, maker⟩, .running run, false, [], subscribers, []⟩

def heard (bench : Bench η α) (place : Nat) : List Happening :=
  bench.rounds.filterMap fun round => (round[place]?).map fun delivery => delivery.2.happening

variable [Host η]

def step (now : Instant) (bench : Bench η α) : Bench η α :=
  match bench.standing with
  | .stopped _ => bench
  | .running run =>
    let stepped := run.step now bench.signalled bench.world
    { bench with
      world := stepped.1
      standing := stepped.2.standing
      record := bench.record ++ (run.lastUse? bench.signalled bench.world).toList
      rounds := bench.rounds ++ stepped.2.event?.toList.map bench.subscribers.deliveries }

/-- What happens next. Saving touches nothing but the saves of results, and disposal, which closes
them, signals cancellation as well. -/
inductive Does : Act → Bench η α → Bench η α → Prop where
  | steps {bench : Bench η α} (now : Instant) : Does .steps bench (bench.step now)
  | cancels {bench : Bench η α} : Does .cancels bench { bench with signalled := true }
  | disposes {bench : Bench η α} :
      Does .disposes bench { bench.withBatch bench.batch.close with signalled := true }
  | saves {bench : Bench η α} {batch : Batch}
      (same : batch.mapResults ResultSet.unsaved = bench.batch.mapResults ResultSet.unsaved) :
      Does .saves bench (bench.withBatch batch)
  | subscribes {bench : Bench η α} (member : α) :
      Does .subscribes bench { bench with subscribers := bench.subscribers.subscribe member }
  | elsewhere {bench : Bench η α} {world : World (Recorded η)}
      (others : world.host.submissions = bench.submissions) :
      Does .elsewhere bench { bench with world }

def Course (allowed : Act → Prop) : Bench η α → Bench η α → Prop := Along Does allowed

theorem course_steps {allowed : Act → Prop} (permitted : allowed .steps) (now : Instant)
    (count : Nat) (bench : Bench η α) : Course allowed bench ((step now)^[count] bench) :=
  Along.iterate permitted (fun _ => .steps now) count bench

/-- What every act keeps that is not a step. -/
structure Asked (bench next : Bench η α) : Prop where
  standing : ∃ batch : Batch, next.standing = bench.standing.withBatch batch ∧
    batch.bare = bench.batch.bare
  submissions : next.submissions = bench.submissions
  record : next.record = bench.record
  rounds : next.rounds = bench.rounds
  members : ∃ more, next.subscribers.members = bench.subscribers.members ++ more

theorem Does.cases {act : Act} {bench next : Bench η α} (does : Does act bench next) :
    (∃ now, act = .steps ∧ next = bench.step now) ∨ Asked bench next := by
  have same : bench.standing = bench.standing.withBatch bench.batch :=
    (congrArg Bench.standing bench.withBatch_self).symm
  -- What a request does to a batch is left out of its bare form.
  have alike {batch : Batch} (bare : batch.bare = bench.batch.bare) :
      Asked bench (bench.withBatch batch) :=
    ⟨⟨batch, rfl, bare⟩, rfl, rfl, rfl, [], (List.append_nil _).symm⟩
  cases does with
  | steps now => exact .inl ⟨now, rfl, rfl⟩
  | cancels => exact .inr ⟨⟨_, same, rfl⟩, rfl, rfl, rfl, [], (List.append_nil _).symm⟩
  | disposes =>
    obtain ⟨standing, submissions, record, rounds, members⟩ := alike bench.batch.bare_close
    exact .inr ⟨standing, submissions, record, rounds, members⟩
  | saves unsaved => exact .inr (alike (Batch.bare_of_unsaved unsaved))
  | subscribes member => exact .inr ⟨⟨_, same, rfl⟩, rfl, rfl, rfl, [member], rfl⟩
  | elsewhere others => exact .inr ⟨⟨_, same, rfl⟩, others, rfl, rfl, [], (List.append_nil _).symm⟩

end Bench

end SqlDesk
