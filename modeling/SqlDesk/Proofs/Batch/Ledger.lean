import SqlDesk.Proofs.Batch.Account
import SqlDesk.Proofs.Batch.Log

/-! A batch that nobody cancels comes to what has been accounted for its repetitions. Those that are
over have come to the first accounts; the one under way and those still to come make up the rest, by
the phase of the batch. -/

set_option autoImplicit false

namespace SqlDesk

def Interruption.outcome : Interruption → BatchOutcome
  | driver _ => .completed
  | cancelled => .cancelled
  | failed _ => .failed

theorem Ending.outcome_of_interruption {ending : Ending} {reason : Interruption}
    (stopped : ending.interruption? = some reason) : ending.outcome = reason.outcome := by
  cases ending with
  | finished => cases stopped
  | raised error => cases error <;> cases stopped <;> rfl
  | signalled | unstored =>
    cases stopped
    rfl

structure Repetition.Gives (repetition : Repetition) (account : Account) : Prop where
  notices : repetition.made = account.notices
  ending : account.ending = some repetition.ending

/-- The repetitions that are over have come to their accounts, and these accounts are left. -/
structure Leaves (submissions : List Submission) (record : List LastUse)
    (accounts coming : List Account) : Prop where
  even : submissions.length = record.length
  given : ∃ done, List.Forall₂ Repetition.Gives (repetitions submissions record) done ∧
    accounts = done ++ coming

namespace Leaves

variable {submissions : List Submission} {record : List LastUse} {accounts coming : List Account}

theorem length (leaves : Leaves submissions record accounts coming) :
    accounts.length = submissions.length + coming.length := by
  obtain ⟨even, done, given, whole⟩ := leaves
  have counts := given.length_eq
  rw [repetitions, List.length_zipWith, ← even, Nat.min_self] at counts
  rw [whole, List.length_append, counts]

/-- A repetition that comes to the next account is one of those that are over. -/
theorem concat {current : Submission} {last : LastUse} {account : Account}
    (leaves : Leaves submissions record accounts (account :: coming))
    (gives : Repetition.Gives ⟨last, current.script⟩ account) :
    Leaves (submissions ++ [current]) (record ++ [last]) accounts coming := by
  obtain ⟨even, done, given, whole⟩ := leaves
  refine ⟨by simp [even], done ++ [account], ?_, by simp [whole]⟩
  rw [repetitions_concat even]
  exact List.rel_append given (.cons gives .nil)

end Leaves

/-- The record of a batch in a world, held against the accounts of all its repetitions. -/
structure Ledger (η : Type) where
  plan : RunPlan
  world : World η
  submissions : List Submission
  record : List LastUse
  accounts : List Account

namespace Ledger

variable {η : Type}

def used (ledger : Ledger η) (last? : Option LastUse) : Ledger η :=
  { ledger with record := ledger.record ++ last?.toList }

@[simp] theorem used_none (ledger : Ledger η) : ledger.used none = ledger := by
  simp [used]

variable [Host η]

structure Between (ledger : Ledger η) (left : Nat) (outcome : BatchOutcome) : Prop where
  leaves : Leaves ledger.submissions ledger.record ledger.accounts
    (ledger.plan.after outcome left ledger.world)
  led : ∀ last ∈ ledger.record.getLast?, last.ending.outcome = outcome

/-- A repetition is under way. Of the notices of its script those in front have been told; those behind
are still to come, and with what remains they make up its account. -/
inductive Amid (ledger : Ledger η) (left : Nat) (behind : List Notice) (remaining : Account) : Prop where
  | intro {earlier : List Submission} {current : Submission} {told : List Notice}
      (submitted : ledger.submissions = earlier ++ [current])
      (notices : current.script.notices = told ++ behind)
      (leaves : Leaves earlier ledger.record ledger.accounts
        (ledger.plan.following left ledger.world.host (remaining.behind told)))

section

variable {ledger : Ledger η} {left : Nat}

theorem between_used (ledger : Ledger η) {last : LastUse} {maker : StoreMaker}
    (leaves : Leaves ledger.submissions (ledger.record ++ [last]) ledger.accounts
      (ledger.plan.after last.ending.outcome left ⟨ledger.world.host, maker⟩)) :
    Between { ledger.used (some last) with world := ⟨ledger.world.host, maker⟩ } left
      last.ending.outcome := by
  refine ⟨leaves, ?_⟩
  intro final isLast
  rw [Option.mem_def, used, Option.toList_some, List.getLast?_concat] at isLast
  cases isLast
  rfl

theorem Amid.tell {notice : Notice} {notices : List Notice} {remaining : Account}
    (amid : ledger.Amid left (notice :: notices) (remaining.behind [notice])) :
    ledger.Amid left notices remaining := by
  obtain ⟨submitted, told, leaves⟩ := amid
  rw [Account.behind_behind] at leaves
  exact ⟨submitted, by rw [told, List.append_cons], leaves⟩

theorem Amid.remake {behind : List Notice} {remaining : Account}
    (amid : ledger.Amid left behind remaining) (maker : StoreMaker) :
    Amid { ledger with world := ⟨ledger.world.host, maker⟩ } left behind remaining := by
  obtain ⟨submitted, notices, leaves⟩ := amid
  exact ⟨submitted, notices, leaves⟩

theorem Amid.close {cursor : Cursor} {ending : Ending} {maker : StoreMaker}
    (amid : ledger.Amid left cursor.untaken ⟨cursor.notices, some ending, maker⟩) :
    Between { ledger.used (some ⟨some cursor, ending⟩) with world := ⟨ledger.world.host, maker⟩ } left
      ending.outcome := by
  obtain ⟨submitted, notices, leaves⟩ := amid
  rw [Cursor.untaken, ← List.append_assoc] at notices
  rw [RunPlan.following_of_ending _ rfl] at leaves
  have joined := leaves.concat ⟨Repetition.made_of_notices notices ending, rfl⟩
  rw [← submitted] at joined
  exact ledger.between_used joined

theorem Amid.hang {behind : List Notice} {remaining : Account}
    (amid : ledger.Amid left behind remaining) (hung : remaining.ending = none) :
    ledger.submissions.length = ledger.accounts.length ∧
      ∃ last, ledger.accounts.getLast? = some last ∧ last.ending = none := by
  cases amid with
  | @intro earlier current told submitted _ leaves =>
    have last : (remaining.behind told).ending = none := hung
    rw [RunPlan.following_of_hung _ last] at leaves
    have length := leaves.length
    obtain ⟨-, done, -, whole⟩ := leaves
    constructor
    · simpa [submitted] using length.symm
    · exact ⟨remaining.behind told, by rw [whole, List.getLast?_concat], last⟩

end

end Ledger

/-! What holds of a batch by its phase. -/

section

variable {η : Type} [Host η]

def ReadOutcome.Accounted (ledger : Ledger η) (left : Nat) (cursor : Cursor) : ReadOutcome → Prop
  | .ok () =>
    ledger.Amid left cursor.untaken (cursor.onward ledger.plan.limit ledger.world.maker)
  | .error error => ledger.Between left (Interruption.ofResult error).outcome

def ReadPhase.Accounted (ledger : Ledger η) (left : Nat) (store : RowStore) (cursor : Cursor) :
    ReadPhase → Prop
  | .fetching _ => store.isOpen = true ∧ ledger.Amid left cursor.untaken
      (cursor.within ledger.plan.limit store.room ledger.world.maker store.published)
  | .announcing outcome | .completing outcome => ReadOutcome.Accounted ledger left cursor outcome

/-- What holds in a phase of a batch whose last result is in this store. -/
def BatchPhase.Accounted (ledger : Ledger η) (store? : Option RowStore) : BatchPhase → Prop
  | .starting left | .repeating left => ledger.Between left .completed
  | .opening left script => ∃ earlier current, ledger.submissions = earlier ++ [current] ∧
      current.script = script ∧
      Leaves earlier ledger.record ledger.accounts (ledger.plan.following left
        ledger.world.host (Script.account ledger.plan.limit script ledger.world.maker))
  | .advancing left cursor =>
    ledger.Amid left cursor.untaken (cursor.onward ledger.plan.limit ledger.world.maker)
  | .telling left cursor notices (.result header) => ledger.Amid left (notices ++ cursor.ahead)
      ((Script.account ledger.plan.limit (.result ⟨header, cursor.items, cursor.stop⟩ :: cursor.script)
        ledger.world.maker).behind notices)
  | .telling left cursor notices .nextResult => ledger.Amid left (notices ++ cursor.ahead)
      ((Script.account ledger.plan.limit cursor.script ledger.world.maker).behind notices)
  | .telling left _ _ .endOfRun => ledger.Between left .completed
  | .telling left _ _ (.interruption reason) | .interrupted left reason =>
    ledger.Between left reason.outcome
  | .reading left cursor phase => ∃ store, store? = some store ∧ phase.Accounted ledger left store cursor
  | .concluding outcome | .completing outcome => ledger.Between 0 outcome

end

namespace Reading

variable {η : Type} [Host η] {ledger : Ledger η} {left : Nat}

theorem accounted_finish (reading : Reading) (announced : Bool) {outcome : ReadOutcome}
    (ended : ReadOutcome.Accounted ledger left reading.cursor outcome) :
    (reading.finish announced outcome).phase.Accounted ledger left
      (reading.finish announced outcome).result.store (reading.finish announced outcome).cursor := by
  cases announced <;> exact ended

theorem outcome_readFailure (error : SourceError) :
    (Interruption.ofResult (readFailure error)).outcome = (Ending.raised error).outcome :=
  (Ending.outcome_of_interruption (Ending.interruption?_readFailure error)).symm

theorem ensures_accounted (options : ReadOptions) (limit : options.rowLimit = ledger.plan.limit)
    (reading : Reading)
    (before : reading.phase.Accounted ledger left reading.result.store reading.cursor) :
    (reading.step options false).Ensures
      (fun next _ => next.phase.Accounted (ledger.used (reading.lastUse? options false)) left
        next.result.store next.cursor)
      (fun done _ => ReadOutcome.Accounted (ledger.used (reading.lastUse? options false)) left
        done.cursor done.outcome) := by
  have turn := reading.turn options false
  have whole := Cursor.untaken_nextRow false reading.cursor
  -- The rows that the result has taken in are those that the account counts against the limit.
  have bound : isAtLimit options reading.result =
      ledger.plan.limit.any (· ≤ reading.result.store.published) := by
    rw [← limit]
    rfl
  generalize reading.step options false = progress at turn
  cases turn with
  | cancelled _ signalled => cases signalled
  | waits phase _ fetched =>
    rw [fetched] at whole
    rw [phase, ReadPhase.Accounted, ← whole, (Cursor.within_of_waits fetched).1] at before
    have idle : reading.lastUse? options false = none := by simp [lastUse?, phase, fetched]
    rw [idle, Ledger.used_none]
    exact phase ▸ before
  | @exhausted announced cursor phase _ fetched =>
    rw [fetched] at whole
    rw [phase, ReadPhase.Accounted, ← whole, Cursor.within_of_ended fetched] at before
    have idle : reading.lastUse? options false = none := by simp [lastUse?, phase, fetched]
    rw [idle, Ledger.used_none]
    exact accounted_finish { reading with cursor } announced before.2
  | @failed announced cursor error phase _ fetched =>
    rw [fetched] at whole
    rw [phase, ReadPhase.Accounted, ← whole, Cursor.within_of_failed fetched] at before
    have last : reading.lastUse? options false = some ⟨some cursor, .raised error⟩ := by
      simp [lastUse?, phase, fetched]
    rw [last]
    refine accounted_finish { reading with cursor } announced ?_
    rw [ReadOutcome.Accounted, outcome_readFailure]
    exact before.2.close
  | dropped phase _ fetched atLimit =>
    have idle : reading.lastUse? options false = none := by simp [lastUse?, phase, fetched, atLimit]
    rw [bound] at atLimit
    rw [fetched] at whole
    rw [phase, ReadPhase.Accounted, ← whole, Cursor.within_of_value fetched, if_pos atLimit] at before
    rw [idle, Ledger.used_none]
    exact phase ▸ before
  | @refused announced cursor row error phase _ fetched below refusal =>
    have last : reading.lastUse? options false = some ⟨some cursor, .unstored error⟩ := by
      simp [lastUse?, phase, fetched, below, refusal]
    rw [bound] at below
    rw [fetched] at whole
    rw [phase, ReadPhase.Accounted, ← whole, Cursor.within_of_value fetched, if_neg (by simp [below])]
      at before
    obtain ⟨opened, amid⟩ := before
    obtain ⟨full, rfl⟩ := RowStore.isFull_of_refused opened refusal
    rw [if_pos (by simpa [RowStore.isFull] using full)] at amid
    rw [last]
    exact accounted_finish { reading with cursor } announced amid.close
  | @stored announced cursor row store phase _ fetched below appended =>
    have idle : reading.lastUse? options false = none := by
      simp [lastUse?, phase, fetched, below, appended]
    rw [bound] at below
    rw [fetched] at whole
    rw [phase, ReadPhase.Accounted, ← whole, Cursor.within_of_value fetched, if_neg (by simp [below])]
      at before
    obtain ⟨opened, amid⟩ := before
    obtain ⟨room, rfl⟩ := RowStore.eq_of_append appended
    rw [if_neg (by simpa [RowStore.isFull] using room)] at amid
    rw [idle, Ledger.used_none]
    exact ⟨opened, amid⟩
  | announced phase | completed phase =>
    have idle : reading.lastUse? options false = none := by simp [lastUse?, phase]
    rw [phase] at before
    rw [idle, Ledger.used_none]
    exact before

end Reading

namespace BatchRun

variable {η : Type}

def ledger (run : BatchRun) (world : World (Recorded η)) (record : List LastUse)
    (accounts : List Account) : Ledger η :=
  ⟨run.plan, ⟨world.host.host, world.maker⟩, world.host.submissions, record, accounts⟩

variable [Host η]

def Accounted (run : BatchRun) (world : World (Recorded η)) (record : List LastUse)
    (accounts : List Account) : Prop :=
  run.phase.Accounted (run.ledger world record accounts)
    (run.batch.results.getLast?.map ResultSet.store)

theorem ensures_accounted (now : Instant) {world : World (Recorded η)} {run : BatchRun}
    {record : List LastUse} {accounts : List Account} (numbered : run.batch.Numbered)
    (logged : run.Logged world.host.submissions record) (before : run.Accounted world record accounts) :
    (run.step now false world).2.Ensures
      (fun next _ => next.Accounted (run.step now false world).1
        (record ++ (run.lastUse? false world).toList) accounts)
      (fun done _ => (run.ledger (run.step now false world).1
        (record ++ (run.lastUse? false world).toList) accounts).Between 0 done.outcome) := by
  have turn := run.turn now false world
  unfold Accounted at before
  unfold Logged at logged
  have idle (none : run.lastUse? false world = none) :
      record ++ (run.lastUse? false world).toList = record := by
    rw [none, Option.toList_none, List.append_nil]
  revert turn
  rcases run.step now false world with ⟨later, progress⟩
  intro turn
  cases turn with
  | halted _ signalled => cases signalled
  -- Nothing of the ledger changes here, and what the next phase asks of it is the same.
  | started phase | repeated phase | exhausted phase | broken phase | erred phase | remarked phase
  | suppressed phase | succeeded phase | concluded phase | completed phase =>
    rw [idle (by simp [lastUse?, phase])]
    rw [phase] at before
    exact before
  | cancelled phase | failed phase =>
    rw [idle (by simp [lastUse?, phase])]
    rw [phase] at before
    exact ⟨before.leaves, before.led⟩
  | submitted phase live =>
    rw [idle (by simp [lastUse?, phase])]
    rw [phase] at before
    exact ⟨_, _, rfl, rfl, before.leaves⟩
  | unopened phase opened =>
    rw [idle (by simp [lastUse?, phase, opened])]
    exact before
  | opened phase opened =>
    rw [idle (by simp [lastUse?, phase, opened])]
    rw [phase] at before
    obtain ⟨earlier, current, submitted, rfl, leaves⟩ := before
    have answer := current.script.opened_open false
    rw [opened] at answer
    cases answer
    exact ⟨submitted, (List.nil_append _).symm, leaves⟩
  | @rejected left script error phase opened =>
    have last : run.lastUse? false later = some ⟨none, .raised error⟩ := by
      simp [lastUse?, phase, opened]
    rw [phase] at before
    obtain ⟨earlier, current, submitted, rfl, leaves⟩ := before
    have alone : Script.account run.plan.limit current.script later.maker =
        ⟨[], some (.raised error), later.maker⟩ := Script.account_of_open_failed opened
    rw [last]
    change Leaves _ record accounts (run.plan.following left later.host.host
      (Script.account run.plan.limit current.script later.maker)) at leaves
    rw [alone, RunPlan.following_of_ending _ rfl] at leaves
    have joined : Leaves (earlier ++ [current]) (record ++ [⟨none, .raised error⟩]) accounts _ :=
      leaves.concat ⟨rfl, rfl⟩
    rw [← submitted] at joined
    change Ledger.Between _ left (Interruption.ofSource error).outcome
    rw [← Ending.outcome_of_interruption (Ending.interruption?_ofSource error)]
    exact (run.ledger later record accounts).between_used joined
  | @unadvanced left cursor next phase advanced =>
    rw [idle (by simp [lastUse?, phase, advanced])]
    rw [phase] at before logged
    have whole := Cursor.untaken_nextResult false logged.1
    rw [advanced] at whole
    rw [BatchPhase.Accounted, ← whole, (Cursor.onward_of_waits advanced).1] at before
    exact before
  | @advanced left cursor next fetched phase advanced come =>
    rw [phase] at before logged
    have whole := Cursor.untaken_nextResult false logged.1
    rw [advanced] at whole
    rw [BatchPhase.Accounted, ← whole] at before
    cases fetched with
    | waits => exact absurd rfl come
    | value header =>
      rw [idle (by simp [lastUse?, phase, advanced])]
      rw [Cursor.onward_of_value advanced] at before
      exact before
    | ended =>
      have last : run.lastUse? false later = some ⟨some next, .finished⟩ := by
        simp [lastUse?, phase, advanced]
      rw [last]
      rw [Cursor.onward_of_ended advanced] at before
      exact before.close
    | failed error =>
      have last : run.lastUse? false later = some ⟨some next, .raised error⟩ := by
        simp [lastUse?, phase, advanced]
      rw [last]
      rw [Cursor.onward_of_failed advanced] at before
      change Ledger.Between _ left (Interruption.ofSource error).outcome
      rw [← Ending.outcome_of_interruption (Ending.interruption?_ofSource error)]
      exact before.close
  | @told left cursor notice notices next phase =>
    rw [idle (by simp [lastUse?, phase])]
    rw [phase] at before
    cases next with
    | result header | nextResult =>
      -- What has been told goes from what remains to the front of the account.
      exact Ledger.Amid.tell (by rw [Account.behind_behind]; exact before)
    | endOfRun | interruption reason => exact before
  | @uncreated left cursor header error phase made =>
    have last : run.lastUse? false world = some ⟨some cursor, .unstored error⟩ := by
      simp [lastUse?, phase, made]
    obtain ⟨failing, rfl⟩ := StoreMaker.failing_of_error made
    rw [phase] at before logged
    have broken : (run.ledger world record accounts).world.maker.failing = true := failing
    rw [BatchPhase.Accounted, ← logged.1, Script.account, if_pos broken, Account.behind,
      List.append_nil] at before
    rw [last, StoreMaker.create_spent]
    exact Ledger.Amid.close before
  | @created left cursor header store phase made =>
    rw [idle (by simp [lastUse?, phase, made])]
    have working : (run.ledger world record accounts).world.maker.failing = false :=
      StoreMaker.not_failing_of_ok made
    obtain ⟨keeps, opened, -, room⟩ := StoreMaker.create_keeps made
    rw [phase] at before logged
    rw [BatchPhase.Accounted, ← logged.1, Script.account, if_neg (by simp [working])] at before
    rw [StoreMaker.create_spent]
    refine ⟨store, by simp [withResult, ResultSet.ofHeader], opened, ?_⟩
    rw [room, keeps.published]
    exact before.remake _
  | @resumed left cursor phase =>
    rw [idle (by simp [lastUse?, phase])]
    rw [phase] at before logged
    rw [BatchPhase.Accounted, ← logged.1] at before
    exact before
  | unread phase missing =>
    -- While a result is read, the batch has one.
    rw [phase, missing] at before
    obtain ⟨store, none, -⟩ := before
    cases none
  | @read left cursor readPhase result phase last =>
    rw [phase, last] at before
    obtain ⟨store, same, reads⟩ := before
    cases same
    have used : run.lastUse? false later =
        Reading.lastUse? (.ofSettings run.settings) false ⟨result, cursor, readPhase⟩ := by
      simp [lastUse?, phase, last]
    rw [used]
    obtain ⟨stored, results⟩ := List.getLast?_eq_some_iff.mp last
    refine Progress.ensures_mapEvent (Progress.ensures_within ?_)
    refine ((Reading.ensures_key _ _ _).and (Reading.ensures_accounted (.ofSettings run.settings)
      rfl ⟨result, cursor, readPhase⟩ reads)).imp ?_ ?_
    · rintro next _ ⟨sameKey, accounted⟩
      have stands : (run.withReading left next).batch.results = stored ++ [next.result] :=
        Batch.results_setResult numbered results sameKey
      exact ⟨next.result.store, by rw [stands, List.getLast?_concat]; rfl, accounted⟩
    · rintro done _ ⟨-, accounted⟩
      unfold Accounted afterRead tellNotices
      cases outcome : done.outcome with
      | ok value =>
        rw [outcome] at accounted
        exact accounted
      | error error =>
        rw [outcome] at accounted
        exact accounted

theorem accounted_waits {now : Instant} {world : World (Recorded η)} {run next : BatchRun}
    {record : List LastUse} {accounts : List Account} (before : run.Accounted world record accounts)
    (waited : (run.step now false world).2 = .waits next) :
    world.host.submissions.length = accounts.length ∧
      ∃ last, accounts.getLast? = some last ∧ last.ending = none := by
  have turn := run.turn now false world
  unfold Accounted at before
  revert turn waited
  rcases run.step now false world with ⟨later, progress⟩
  intro waited turn
  -- A batch waits in three phases only: for a cursor, for the next result and for a row.
  cases turn with
  | unopened phase opened =>
    rw [phase] at before
    obtain ⟨earlier, current, submitted, rfl, leaves⟩ := before
    have amid : (run.ledger later record accounts).Amid _ current.script.notices _ :=
      ⟨submitted, (List.nil_append _).symm, leaves⟩
    exact amid.hang (Script.ending_of_open_waits opened _ _)
  | unadvanced phase advanced =>
    rw [phase] at before
    exact before.hang (Cursor.onward_of_waits advanced).2
  | @read left cursor readPhase result phase last =>
    rw [phase, last] at before
    obtain ⟨store, same, reads⟩ := before
    cases same
    obtain ⟨reading, rests, -⟩ := Progress.waits_of_within (Progress.waits_of_mapEvent waited)
    have turn := Reading.turn (.ofSettings run.settings) false ⟨result, cursor, readPhase⟩
    rw [rests] at turn
    cases turn with
    | waits fetching _ fetched =>
      cases fetching
      exact reads.2.hang (Cursor.within_of_waits fetched).2
  | _ => cases waited

end BatchRun

end SqlDesk
