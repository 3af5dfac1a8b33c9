import Mathlib.Order.RelClasses
import SqlDesk.Batch.Order
import SqlDesk.Proofs.Batch.Hearing
import SqlDesk.Proofs.Batch.Ledger
import SqlDesk.Proofs.Batch.Turn

/-! What a batch makes of failures when nobody cancels it: how often its text is run, how it ends, and
which flags it has then, all of it told from the accounts of its repetitions. -/

set_option autoImplicit false

namespace SqlDesk

/-- An error of the database, of whatever severity, has ended the repetition, or a notice was severe. -/
def Account.Erred (account : Account) : Prop :=
  (∃ said, account.ending = some (.raised (.driver said))) ∨
    ∃ said, Notice.message said ∈ account.notices ∧ 10 < said.severity

theorem Notice.isError_line (site : Site) (notice : Notice) :
    (notice.line site).isError = true ↔ ∃ said, message said = notice ∧ 10 < said.severity := by
  cases notice with
  | rowsAffected count => simp [line]
  | message said =>
    by_cases severe : 10 < said.severity <;> simp [line, severe]

theorem Tally.erred_ofNotices (site : Site) (notices : List Notice) :
    (ofNotices site notices).erred = true ↔
      ∃ said, Notice.message said ∈ notices ∧ 10 < said.severity := by
  simp only [ofNotices, ofLines, List.any_map, List.any_eq_true, Function.comp_apply,
    Notice.isError_line]
  constructor
  · rintro ⟨notice, member, said, rfl, severe⟩
    exact ⟨said, member, severe⟩
  · rintro ⟨said, member, severe⟩
    exact ⟨_, member, said, rfl, severe⟩

theorem Ending.erred_tally (site : Site) (ending : Ending) :
    (ending.tally site).erred = true ↔ ∃ said, ending = .raised (.driver said) := by
  cases ending with
  | raised error => cases error <;> simp [tally]
  | _ => simp [tally]

theorem Repetition.Gives.erred {repetition : Repetition} {account : Account}
    (gives : repetition.Gives account) (site : Site) :
    (repetition.tally site).erred = true ↔ account.Erred := by
  rw [Repetition.tally, Tally.erred_append, Bool.or_eq_true, Tally.erred_ofNotices,
    Ending.erred_tally, Account.Erred, gives.notices, gives.ending, or_comm]
  simp

theorem erred_tallyOf {done : List Repetition} {accounts : List Account}
    (given : List.Forall₂ Repetition.Gives done accounts) (site : Site) :
    (tallyOf site done).erred = true ↔ ∃ account ∈ accounts, account.Erred := by
  induction given with
  | nil => simp [tallyOf]
  | cons gives _ ih =>
    rw [List.exists_mem_cons_iff, ← ih, ← gives.erred site, ← Bool.or_eq_true]
    rfl

theorem Closing.erred {site : Site} {record : List LastUse} {outcome : BatchOutcome}
    {closing : List Line} (closes : Closing site record outcome closing) :
    (Tally.ofLines closing).erred = true ↔ outcome = .failed := by
  cases closes <;> simp [Tally.ofLines]

/-- A batch that is over is marked if an error has come up in a repetition, and if it has failed. -/
theorem BatchEnd.Logged.hasError {done : BatchEnd} {submissions : List Submission}
    {record : List LastUse} {accounts : List Account} (logged : done.Logged submissions record)
    (given : List.Forall₂ Repetition.Gives (repetitions submissions record) accounts) :
    done.batch.hasError = true ↔
      (∃ account ∈ accounts, account.Erred) ∨ done.outcome = .failed := by
  obtain ⟨closing, said, closes, owes, whole⟩ := logged
  have owed := owes.owed
  rw [Tally.append_none] at owed
  have erred := congrArg Tally.erred whole
  rw [Tally.erred_orSuccess, Tally.erred_append, owed] at erred
  rw [← erred_tallyOf given done.batch.site, ← closes.erred, ← Bool.or_eq_true, ← erred]
  rfl

theorem Leaves.ending {submissions : List Submission} {record : List LastUse}
    {accounts : List Account} {last : Account} (leaves : Leaves submissions record accounts [])
    (final : accounts.getLast? = some last) :
    ∃ use, record.getLast? = some use ∧ last.ending = some use.ending := by
  obtain ⟨even, done, given, whole⟩ := leaves
  rw [List.append_nil] at whole
  subst whole
  obtain ⟨front, rfl⟩ := List.getLast?_eq_some_iff.mp final
  -- Record and submissions go in step with the accounts, so all of them have a last member.
  rcases List.eq_nil_or_concat record with rfl | ⟨record, use, rfl⟩
  · have counts := given.length_eq
    simp [repetitions] at counts
  · rcases List.eq_nil_or_concat submissions with rfl | ⟨earlier, current, rfl⟩
    · simp at even
    · rw [List.concat_eq_append, List.concat_eq_append, repetitions_concat (by simpa using even)]
        at given
      have backwards := List.rel_reverse given
      rw [List.reverse_append, List.reverse_append] at backwards
      cases backwards with
      | cons gives _ => exact ⟨use, by simp, gives.ending⟩

/-- When a batch is over, all accounts have been come to, and the last one tells the outcome. -/
theorem Ledger.Between.settled {η : Type} [Host η] {ledger : Ledger η} {outcome : BatchOutcome}
    (between : ledger.Between 0 outcome) :
    ledger.submissions.length = ledger.accounts.length ∧
      List.Forall₂ Repetition.Gives (repetitions ledger.submissions ledger.record)
        ledger.accounts ∧
      ∀ last, ledger.accounts.getLast? = some last →
        last.ending.map Ending.outcome = some outcome := by
  have leaves := between.leaves
  have none : ledger.plan.after outcome 0 ledger.world = [] := by
    unfold RunPlan.after
    split <;> rfl
  rw [none] at leaves
  have length := leaves.length
  have ending {last : Account} (final : ledger.accounts.getLast? = some last) := leaves.ending final
  obtain ⟨-, done, given, whole⟩ := leaves
  rw [List.append_nil] at whole
  refine ⟨length.symm, whole ▸ given, ?_⟩
  intro last final
  obtain ⟨use, used, same⟩ := ending final
  rw [same, Option.map_some, between.led use used]

namespace BatchRun

variable {η : Type} [Host η]

/-- What a step asks the databases to run, if anything, is the text of the batch. -/
theorem submissions_step (now : Instant) (cancelled : Bool) (world : World (Recorded η))
    (run : BatchRun) :
    (run.step now cancelled world).1.host.submissions = world.host.submissions ∨
      ∃ script, (run.step now cancelled world).1.host.submissions =
        world.host.submissions ++ [⟨run.plan.connection, run.plan.execution, script⟩] := by
  have turn := run.turn now cancelled world
  revert turn
  rcases run.step now cancelled world with ⟨later, progress⟩
  intro turn
  cases turn with
  | submitted phase live => exact .inr ⟨_, rfl⟩
  | _ => exact .inl rfl

theorem ensures_plan (now : Instant) {world : World (Recorded η)} {run : BatchRun}
    {record : List LastUse} {accounts : List Account} (numbered : run.batch.Numbered)
    (logged : run.Logged world.host.submissions record) (before : run.Accounted world record accounts) :
    (run.step now false world).2.Ensures
      (fun next _ => next.plan = run.plan ∧ next.Accounted (run.step now false world).1
        (record ++ (run.lastUse? false world).toList) accounts)
      (fun done _ => (run.ledger (run.step now false world).1
        (record ++ (run.lastUse? false world).toList) accounts).Between 0 done.outcome) := by
  refine ((run.ensures_fixed now false world).and
    (run.ensures_accounted now numbered logged before)).imp ?_ ?_
  · rintro next _ ⟨⟨⟨-, text⟩, settings, connection⟩, accounted⟩
    refine ⟨?_, accounted⟩
    simp [BatchRun.plan, execution, text, settings, connection]
  · rintro done _ ⟨-, between⟩
    exact between

theorem Accounted.of_unsaved {world : World (Recorded η)} {run : BatchRun} {record : List LastUse}
    {accounts : List Account} {batch : Batch} (accounted : run.Accounted world record accounts)
    (same : batch.mapResults ResultSet.unsaved = run.batch.mapResults ResultSet.unsaved) :
    BatchRun.plan { run with batch } = run.plan ∧
      Accounted { run with batch } world record accounts := by
  have text := congrArg Batch.text same
  change batch.text = run.batch.text at text
  have plan : BatchRun.plan { run with batch } = run.plan := by
    simp [BatchRun.plan, execution, text]
  -- Saving marks a result and leaves its store alone.
  have stores : batch.results.getLast?.map ResultSet.store =
      run.batch.results.getLast?.map ResultSet.store := by
    have results : batch.results.map ResultSet.unsaved = run.batch.results.map ResultSet.unsaved :=
      congrArg Batch.results same
    have last := congrArg (fun results => results.getLast?.map ResultSet.store) results
    have kept : ResultSet.store ∘ ResultSet.unsaved = ResultSet.store := rfl
    simpa only [List.getLast?_map, Option.map_map, kept] using last
  refine ⟨plan, ?_⟩
  unfold Accounted ledger
  rw [plan, stores]
  exact accounted

end BatchRun

theorem BatchPhase.after_wellFounded : WellFounded BatchPhase.After := by
  refine Subrelation.wf ?_ (InvImage.wf (fun phase => (phase.runsLeft, phase.weight))
    (WellFounded.prod_lex wellFounded_lt wellFounded_lt))
  rintro next phase (fewer | ⟨equal, lighter⟩)
  · exact .left _ _ fewer
  · change Prod.Lex _ _ (next.runsLeft, next.weight) (phase.runsLeft, phase.weight)
    rw [equal]
    exact .right _ lighter

namespace Bench

variable {η α : Type}

def ledger (bench : Bench η α) (plan : RunPlan) (accounts : List Account) : Ledger η :=
  ⟨plan, ⟨bench.world.host.host, bench.world.maker⟩, bench.submissions, bench.record, accounts⟩

variable [Host η]

/-- Nothing more happens by itself: the batch is over, or it waits for a source that hangs. -/
def Rests (now : Instant) (bench : Bench η α) : Prop :=
  bench.standing.Holds
    (fun run => ∃ next, (run.step now bench.signalled bench.world).2 = .waits next) fun _ => True

/-- Steps lead to rest, because each of them comes to a later phase. -/
theorem rests_in_time (now : Instant) (bench : Bench η α) :
    ∃ count, ((step now)^[count] bench).Rests now := by
  cases standing : bench.standing with
  | stopped done => exact ⟨0, by simp [Rests, standing, Standing.Holds]⟩
  | running run =>
    generalize at_ : run.phase = phase
    -- On the phase, in the order in which phases follow each other.
    induction phase using BatchPhase.after_wellFounded.induction generalizing bench run with
    | _ phase ih =>
      subst at_
      have advances := run.advances_step now bench.signalled bench.world
      cases stepped : (run.step now bench.signalled bench.world).2 with
      | waits next =>
        refine ⟨0, ?_⟩
        simp only [Function.iterate_zero, id_eq, Rests, standing]
        exact ⟨next, stepped⟩
      | ends done event =>
        refine ⟨1, ?_⟩
        simp [Rests, step, standing, stepped, Progress.standing, Standing.Holds]
      | moves next event =>
        rw [stepped] at advances
        obtain ⟨count, rests⟩ := ih next.phase advances (bench.step now) next
          (by simp [step, standing, stepped, Progress.standing]) rfl
        exact ⟨count + 1, rests⟩

structure Follows (plan : RunPlan) (accounts : List Account) (bench : Bench η α) : Prop where
  live : bench.signalled = false
  numbered : bench.batch.Numbered
  logged : bench.Logged
  asked : ∀ submission ∈ bench.submissions,
    submission.connection = plan.connection ∧ submission.execution = plan.execution
  flags : bench.standing.Holds (fun run => run.batch.flags.Underway run.phase)
    fun done => done.batch.flags.Ended done.outcome
  accounted : bench.standing.Holds
    (fun run => run.plan = plan ∧ run.Accounted bench.world bench.record accounts)
    fun done => (bench.ledger plan accounts).Between 0 done.outcome

namespace Follows

variable {plan : RunPlan} {accounts : List Account} {bench : Bench η α}

theorem step (now : Instant) (follows : bench.Follows plan accounts) :
    (bench.step now).Follows plan accounts := by
  obtain ⟨world, standing, signalled, record, subscribers, rounds⟩ := bench
  cases standing with
  | stopped done => exact follows
  | running run =>
    obtain ⟨live, numbered, logged, asked, flags, rfl, accounted⟩ := follows
    change signalled = false at live
    subst live
    have logs := run.ensures_logged now false world logged
    have comes := run.ensures_plan now numbered logged accounted
    refine ⟨rfl, ?_, logs.standing, ?_, (run.ensures_flags now false world flags).standing, ?_⟩
    · exact ((run.ensures_numbered now false world numbered).imp (fun _ _ kept => kept.2.2)
        fun _ _ kept => kept.2.2).batch fun batch _ => batch.Numbered
    · intro submission member
      change submission ∈ (run.step now false world).1.host.submissions at member
      rcases run.submissions_step now false world with same | ⟨script, more⟩
      · rw [same] at member
        exact asked submission member
      · rw [more] at member
        rcases List.mem_append.mp member with before | last
        · exact asked submission before
        · rw [List.mem_singleton.mp last]
          exact ⟨rfl, rfl⟩
    · exact comes.standing

theorem save {batch : Batch} (follows : bench.Follows plan accounts)
    (same : batch.mapResults ResultSet.unsaved = bench.batch.mapResults ResultSet.unsaved) :
    (bench.withBatch batch).Follows plan accounts := by
  obtain ⟨live, numbered, logged, asked, flags, accounted⟩ := follows
  have bare := Batch.bare_of_unsaved same
  have flagged := congrArg Batch.flags same
  obtain ⟨world, standing, signalled, record, subscribers, rounds⟩ := bench
  have numbers := Batch.numbered_of_bare bare.symm numbered
  -- Saving leaves the batch in its phase, so every part is carried over.
  cases standing with
  | stopped done =>
    change batch.flags = done.batch.flags at flagged
    refine ⟨live, numbers, Standing.logged_withBatch bare logged, asked, ?_, accounted⟩
    change batch.flags.Ended done.outcome
    rw [flagged]
    exact flags
  | running run =>
    change batch.flags = run.batch.flags at flagged
    obtain ⟨rfl, accounted⟩ := accounted
    refine ⟨live, numbers, Standing.logged_withBatch bare logged, asked, ?_,
      accounted.of_unsaved same⟩
    change batch.flags.Underway run.phase
    rw [flagged]
    exact flags

end Follows

theorem follows_ofRun {id : Nat} {owner : String} {text : BatchText} {settings : Settings}
    {connection : Connection} {start : Instant} {run : BatchRun}
    (begins : BatchRun.start (.ofText id owner text) settings connection start = .ok run)
    (host : η) (maker : StoreMaker) (subscribers : Subscribers α) :
    (ofRun host maker subscribers run).Follows
      ⟨settings.rowLimit, connection, text.sql, settings.actualPlan, settings.estimatedPlan⟩
      (RunPlan.accounts
        ⟨settings.rowLimit, connection, text.sql, settings.actualPlan, settings.estimatedPlan⟩
        (max 1 (text.runs.getD settings.runs)) ⟨host, maker⟩) := by
  have logged := (heard_ofRun begins host maker subscribers).2
  simp only [BatchRun.start, Batch.ofText, Option.isSome_none, Bool.false_eq_true, if_false,
    Except.ok.injEq] at begins
  subst begins
  refine ⟨rfl, ?_, logged, ?_, ⟨rfl, rfl⟩, rfl, ?_⟩
  · intro place result there
    simp [ofRun, Bench.batch, Standing.batch] at there
  · rintro submission ⟨⟩
  · exact ⟨⟨rfl, [], .nil, rfl⟩, by rintro last ⟨⟩⟩

theorem Course.follows {plan : RunPlan} {accounts : List Account} {before after : Bench η α}
    (course : Course (fun act => act = .steps ∨ act = .saves ∨ act = .subscribes) before after)
    (follows : before.Follows plan accounts) : after.Follows plan accounts := by
  refine course.preserves (Follows plan accounts) ?_ follows
  rintro act first second permitted does held
  cases does with
  | steps now => exact held.step now
  | saves same => exact held.save same
  | subscribes => exact ⟨held.live, held.numbered, held.logged, held.asked, held.flags, held.accounted⟩
  | cancels | disposes | elsewhere => simp at permitted

/-- How a batch fares that nobody cancels or disposes of. Its text is run as often as asked, or up to
the first repetition that source or stores end otherwise than with an error of the database; it ends as
that repetition does, or hangs with it. What others do to the databases meanwhile is a part of how the
host answers, and the host may be any. -/
theorem runs_as_accounted (id : Nat) (owner : String) (text : BatchText) (settings : Settings)
    (connection : Connection) (host : η) (maker : StoreMaker) (subscribers : Subscribers α)
    {start : Instant} {run : BatchRun} {bench : Bench η α}
    (begins : BatchRun.start (.ofText id owner text) settings connection start = .ok run)
    (course : Course (fun act => act = .steps ∨ act = .saves ∨ act = .subscribes)
      (ofRun host maker subscribers run) bench) :
    let plan : RunPlan :=
      ⟨settings.rowLimit, connection, text.sql, settings.actualPlan, settings.estimatedPlan⟩
    let count := max 1 (text.runs.getD settings.runs)
    let accounts := plan.accounts count ⟨host, maker⟩
    (accounts.length ≤ count ∧
      (∀ account ∈ accounts.dropLast, account.goesOn = true) ∧
      ((∀ account ∈ accounts, account.goesOn = true) → accounts.length = count)) ∧
    (∀ submission ∈ bench.submissions,
      submission.connection = plan.connection ∧ submission.execution = plan.execution) ∧
    ∀ now, (∃ steps, ((step now)^[steps] bench).Rests now) ∧
      (bench.Rests now → bench.submissions.length = accounts.length ∧
        ∃ last, accounts.getLast? = some last ∧ bench.standing.Holds
          (fun _ => last.ending = none)
          fun done =>
            List.Forall₂ Repetition.Gives bench.repetitions accounts ∧
            last.ending.map Ending.outcome = some done.outcome ∧
            (done.batch.hasError = true ↔
              (∃ account ∈ accounts, account.Erred) ∨ done.outcome = .failed) ∧
            (done.batch.cancelled = true ↔ done.outcome = .cancelled)) := by
  intro plan count accounts
  have follows : bench.Follows plan accounts :=
    course.follows (follows_ofRun begins host maker subscribers)
  refine ⟨⟨plan.length_accounts_le _ _, fun _ => plan.goesOn_of_mem_dropLast,
    plan.length_accounts_of_goesOn⟩, follows.asked, ?_⟩
  intro now
  refine ⟨bench.rests_in_time now, ?_⟩
  intro rests
  obtain ⟨live, -, logged, -, flags, accounted⟩ := follows
  unfold Rests at rests
  unfold Bench.Logged at logged
  -- At rest the batch either waits within its last account or has come to the end of it.
  cases standing : bench.standing with
  | running run =>
    rw [standing] at rests accounted
    obtain ⟨next, waits⟩ := rests
    rw [live] at waits
    exact BatchRun.accounted_waits accounted.2 waits
  | stopped done =>
    rw [standing] at logged flags accounted
    obtain ⟨length, given, ends⟩ := accounted.settled
    have asked : 0 < count := Nat.lt_of_lt_of_le Nat.zero_lt_one (Nat.le_max_left 1 _)
    have final := List.getLast?_eq_some_getLast (plan.accounts_ne_nil asked ⟨host, maker⟩)
    exact ⟨length, _, final, given, ends _ final, logged.hasError given, flags.cancelled⟩

/-- A text that runs four times. An error of the database within a result ends the first run, the
second one ends by itself, and the third one loses its connection after a severe notice. -/
def brittleText : BatchText := ⟨"select 1", ⟨0, 0, 0, 8⟩, some 4⟩

def brittleHost : Array Replay :=
  #[⟨[[.result ⟨⟨[], false⟩, [.row [.int64 1]], some (.fails (.driver ⟨7, 5, 1, 1, none, "so"⟩))⟩],
    [.result ⟨⟨[], false⟩, [.row [.int64 2]], none⟩],
    [.notice (.message ⟨50000, 16, 1, 1, none, "bad"⟩), .stop (.fails .disconnected)]], []⟩]

def brittleRun : BatchRun where
  batch := { Batch.ofText 0 "o" brittleText with started := some ⟨0, 0⟩ }
  settings := .standard
  connection := 0
  phase := .starting 4

def brittle : Bench (Array Replay) Unit := ofRun brittleHost .memory ⟨"o", []⟩ brittleRun

def brittleOver : Bench (Array Replay) Unit := (step ⟨0, 0⟩)^[60] brittle

theorem runs_as_accounted_brittle :
    brittleOver.submissions.length = 3 ∧
      brittleOver.repetitions.map (fun repetition => repetition.ending) =
        [.raised (.driver ⟨7, 5, 1, 1, none, "so"⟩), .finished, .raised .disconnected] ∧
      ∃ done, brittleOver.standing = .stopped done ∧ done.outcome = .failed ∧
        done.batch.hasError = true ∧ done.batch.cancelled = false := by
  have begins : BatchRun.start (.ofText 0 "o" brittleText) .standard 0 ⟨0, 0⟩ = .ok brittleRun := rfl
  have course : Course (fun act => act = .steps ∨ act = .saves ∨ act = .subscribes) brittle
      brittleOver := course_steps (.inl rfl) _ 60 brittle
  obtain ⟨-, -, settles⟩ := runs_as_accounted 0 "o" brittleText .standard 0 brittleHost .memory
    ⟨"o", []⟩ begins course
  obtain ⟨done, stops, failed⟩ := Standing.stopped_of_outcome
    (show brittleOver.standing.outcome? = some .failed by decide +kernel)
  have rests : brittleOver.Rests ⟨0, 0⟩ := by
    rw [Rests, stops]
    trivial
  obtain ⟨length, last, -, ends⟩ := (settles ⟨0, 0⟩).2 rests
  rw [stops] at ends
  obtain ⟨-, -, hasError, cancelled⟩ := ends
  refine ⟨?_, by decide +kernel, done, stops, failed, hasError.mpr (.inr failed), ?_⟩
  · rw [length]
    decide +kernel
  · rw [Bool.eq_false_iff, ne_eq, cancelled, failed]
    decide

end Bench

end SqlDesk
