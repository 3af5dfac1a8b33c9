import SqlDesk.Proofs.Batch.Tally
import SqlDesk.Proofs.Reading.Turn

/-! What a batch has said and what it has still to say, by its phase. A repetition under way has told
the notices in front, and those behind are still with its cursor; once its cursor has been used for the
last time, what has come in is due, and then the error that has ended it. -/

set_option autoImplicit false

namespace SqlDesk

theorem repetitions_concat {earlier : List Submission} {record : List LastUse}
    (even : earlier.length = record.length) (current : Submission) (last : LastUse) :
    repetitions (earlier ++ [current]) (record ++ [last]) =
      repetitions earlier record ++ [⟨last, current.script⟩] := by
  unfold repetitions
  rw [List.zipWith_append even]
  rfl

/-- A repetition is under way. Of the notices of its script those in front have been told, and those
behind are still to come. -/
inductive Within (site : Site) (submissions : List Submission) (record : List LastUse) (tally : Tally)
    (behind : List Notice) : Prop where
  | intro {earlier : List Submission} {current : Submission} {told : List Notice}
      (submitted : submissions = earlier ++ [current]) (even : earlier.length = record.length)
      (follow : ∀ repetition ∈ repetitions earlier record, repetition.Follows)
      (said : tally = tallyOf site (repetitions earlier record) ++ .ofNotices site told)
      (notices : current.script.notices = told ++ behind)

/-- No repetition is under way. What is due is what is missing of the last one. -/
structure Owes (site : Site) (submissions : List Submission) (record : List LastUse) (tally : Tally)
    (due : Tally) : Prop where
  even : submissions.length = record.length
  follow : ∀ repetition ∈ repetitions submissions record, repetition.Follows
  owed : tally ++ due = tallyOf site (repetitions submissions record)

/-- What the last repetition has ended with makes a batch leave off so. -/
def StoppedBy (record : List LastUse) (reason : Interruption) : Prop :=
  ∃ last, record.getLast? = some last ∧ last.ending.interruption? = some reason

section

variable {site : Site} {submissions : List Submission} {record : List LastUse} {tally : Tally}

/-- With the last use of its cursor a repetition is over. What has been made available is due. -/
theorem Within.close {cursor : Cursor} (within : Within site submissions record tally cursor.untaken)
    (ending : Ending) :
    Owes site submissions (record ++ [⟨some cursor, ending⟩]) tally
      (.ofNotices site cursor.notices ++ ending.tally site) := by
  obtain ⟨rfl, even, follow, rfl, notices⟩ := within
  rename_i earlier current told
  rw [Cursor.untaken, ← List.append_assoc] at notices
  have made := Repetition.made_of_notices notices ending
  have all := repetitions_concat even current ⟨some cursor, ending⟩
  refine ⟨by simp [even], ?_, ?_⟩
  -- The repetition that is now over is the last one; those before it are as they were.
  · intro repetition member
    rw [all] at member
    rcases List.mem_append.mp member with before | last
    · exact follow repetition before
    · rintro other same
      rw [List.mem_singleton.mp last] at same ⊢
      cases same
      rw [made]
      exact notices
  · rw [all, tallyOf_concat, Repetition.tally, made]
    simp [Tally.append_assoc]

theorem Within.tell {notice : Notice} {behind : List Notice}
    (within : Within site submissions record tally (notice :: behind)) :
    Within site submissions record (tally ++ .ofLines [notice.line site]) behind := by
  obtain ⟨submitted, even, follow, rfl, notices⟩ := within
  rename_i earlier current told
  refine ⟨submitted, even, follow, ?_, by rw [notices, List.append_cons]⟩
  rw [Tally.append_assoc, Tally.ofNotices_append]
  rfl

theorem Owes.say {said due : Tally} (owes : Owes site submissions record tally (said ++ due)) :
    Owes site submissions record (tally ++ said) due :=
  ⟨owes.even, owes.follow, by rw [Tally.append_assoc, owes.owed]⟩

theorem Owes.sayDriver {said : DriverMessage}
    (owes : Owes site submissions record tally ((Interruption.driver said).tally site)) :
    Owes site submissions record (tally ++ ⟨[], true⟩ ++ .ofLines (said.lines site)) .none := by
  have whole : (⟨[], true⟩ : Tally) ++ .ofLines (said.lines site) = ⟨said.lines site, true⟩ := by
    ext <;> simp [Tally.ofLines]
  rw [Tally.append_assoc, whole]
  exact Owes.say (by rw [Tally.append_none]; exact owes)

theorem Owes.reject {earlier : List Submission} {current : Submission}
    (submitted : submissions = earlier ++ [current]) (settled : Owes site earlier record tally .none)
    (error : SourceError) :
    Owes site submissions (record ++ [⟨none, .raised error⟩]) tally
      ((Ending.raised error).tally site) := by
  subst submitted
  have all := repetitions_concat settled.even current ⟨none, .raised error⟩
  refine ⟨by simp [settled.even], ?_, ?_⟩
  · intro repetition member
    rw [all] at member
    rcases List.mem_append.mp member with before | last
    · exact settled.follow repetition before
    · rw [List.mem_singleton.mp last]
      rintro other same
      cases same
  · rw [all, tallyOf_concat, ← settled.owed]
    simp [Repetition.tally, Repetition.made]

end

def ReadOutcome.Logged (site : Site) (submissions : List Submission) (record : List LastUse)
    (tally : Tally) (cursor : Cursor) : ReadOutcome → Prop
  | .ok () => cursor.items = [] ∧ Within site submissions record tally cursor.untaken
  | .error error =>
    Owes site submissions record tally
        (.ofNotices site cursor.notices ++ (Interruption.ofResult error).tally site) ∧
      StoppedBy record (.ofResult error)

def ReadPhase.Logged (site : Site) (submissions : List Submission) (record : List LastUse)
    (tally : Tally) (cursor : Cursor) : ReadPhase → Prop
  | .fetching _ => Within site submissions record tally cursor.untaken
  | .announcing outcome | .completing outcome =>
    ReadOutcome.Logged site submissions record tally cursor outcome

/-- What a batch with a number of results has said and what it has still to say, by its phase. -/
def BatchPhase.Logged (site : Site) (submissions : List Submission) (record : List LastUse)
    (tally : Tally) (results : Nat) : BatchPhase → Prop
  | .starting _ | .repeating _ => Owes site submissions record tally .none
  | .opening _ script => ∃ earlier current, submissions = earlier ++ [current] ∧
      current.script = script ∧ Owes site earlier record tally .none
  | .advancing _ cursor =>
    cursor.items = [] ∧ Within site submissions record tally cursor.untaken
  | .telling _ cursor notices (.result _) =>
    cursor.notices = [] ∧ Within site submissions record tally (notices ++ cursor.ahead)
  | .telling _ cursor notices .nextResult => cursor.notices = [] ∧ cursor.items = [] ∧
      Within site submissions record tally (notices ++ cursor.ahead)
  | .telling _ _ notices .endOfRun =>
    Owes site submissions record tally (.ofNotices site notices)
  | .telling _ _ notices (.interruption reason) =>
    Owes site submissions record tally (.ofNotices site notices ++ reason.tally site) ∧
      StoppedBy record reason
  | .reading _ cursor phase => 0 < results ∧ phase.Logged site submissions record tally cursor
  | .interrupted _ reason => Owes site submissions record tally (reason.tally site) ∧
      (reason = .cancelled ∨ StoppedBy record reason)
  | .concluding outcome => ∃ closing said, Closing site record outcome closing ∧
      Owes site submissions record said .none ∧ tally = said ++ .ofLines closing
  | .completing outcome => ∃ closing said, Closing site record outcome closing ∧
      Owes site submissions record said .none ∧ tally = (said ++ .ofLines closing).orSuccess site

namespace Reading

variable {site : Site} {submissions : List Submission} {record : List LastUse} {tally : Tally}

theorem logged_finish (reading : Reading) (announced : Bool) {outcome : ReadOutcome}
    (ended : ReadOutcome.Logged site submissions record tally reading.cursor outcome) :
    (reading.finish announced outcome).phase.Logged site submissions record tally
      (reading.finish announced outcome).cursor := by
  cases announced <;> exact ended

theorem logged_stop (reading : Reading) {cursor : Cursor} {ending : Ending} {error : ResultSetError}
    (announced : Bool) (within : Within site submissions record tally cursor.untaken)
    (stops : ending.interruption? = some (.ofResult error)) :
    (({ reading with cursor } : Reading).finish announced (.error error)).phase.Logged site
      submissions (record ++ [⟨some cursor, ending⟩]) tally
      (({ reading with cursor } : Reading).finish announced (.error error)).cursor := by
  refine logged_finish { reading with cursor } announced ⟨?_, ?_⟩
  · rw [← Ending.tally_of_interruption stops site]
    exact within.close ending
  · exact ⟨⟨some cursor, ending⟩, List.getLast?_concat, stops⟩

theorem ensures_logged (options : ReadOptions) (cancelled : Bool) (reading : Reading)
    (before : reading.phase.Logged site submissions record tally reading.cursor) :
    (reading.step options cancelled).Ensures
      (fun next _ => next.phase.Logged site submissions
        (record ++ (reading.lastUse? options cancelled).toList) tally next.cursor)
      (fun done _ => ReadOutcome.Logged site submissions
        (record ++ (reading.lastUse? options cancelled).toList) tally done.cursor done.outcome) := by
  have turn := reading.turn options cancelled
  -- Fetching moves notices from the items of the cursor to those that have come in, and loses none.
  have whole := Cursor.untaken_nextRow cancelled reading.cursor
  have idle (next : ReadPhase) {cursor : Cursor} (none : reading.lastUse? options cancelled = none)
      (kept : next.Logged site submissions record tally cursor) :
      next.Logged site submissions (record ++ (reading.lastUse? options cancelled).toList) tally
        cursor := by
    rw [none, Option.toList_none, List.append_nil]
    exact kept
  generalize reading.step options cancelled = progress at turn
  cases turn with
  | cancelled phase signalled =>
    have last : reading.lastUse? options cancelled = some ⟨some reading.cursor, .signalled⟩ := by
      simp [lastUse?, phase, signalled]
    rw [phase] at before
    rw [last]
    exact logged_stop reading _ before rfl
  | waits phase live fetched =>
    subst live
    rw [fetched] at whole
    rw [phase, ReadPhase.Logged, ← whole] at before
    exact idle _ (by simp [lastUse?, phase, fetched]) (phase ▸ before)
  | exhausted phase live fetched =>
    subst live
    rw [fetched] at whole
    rw [phase, ReadPhase.Logged, ← whole] at before
    have spent := Cursor.items_of_nextRow_ended fetched
    exact idle _ (by simp [lastUse?, phase, fetched])
      (logged_finish { reading with cursor := _ } _ ⟨spent, before⟩)
  | @failed announced cursor error phase live fetched =>
    subst live
    have last : reading.lastUse? options false = some ⟨some cursor, .raised error⟩ := by
      simp [lastUse?, phase, fetched]
    rw [fetched] at whole
    rw [phase, ReadPhase.Logged, ← whole] at before
    rw [last]
    exact logged_stop reading announced before (Ending.interruption?_readFailure error)
  | dropped phase live fetched atLimit =>
    subst live
    rw [fetched] at whole
    rw [phase, ReadPhase.Logged, ← whole] at before
    exact idle _ (by simp [lastUse?, phase, fetched, atLimit]) (phase ▸ before)
  | @refused announced cursor row error phase live fetched below refusal =>
    subst live
    have last : reading.lastUse? options false = some ⟨some cursor, .unstored error⟩ := by
      simp [lastUse?, phase, fetched, below, refusal]
    rw [fetched] at whole
    rw [phase, ReadPhase.Logged, ← whole] at before
    rw [last]
    exact logged_stop reading announced before rfl
  | stored phase live fetched below appended =>
    subst live
    rw [fetched] at whole
    rw [phase, ReadPhase.Logged, ← whole] at before
    exact idle (.fetching true) (by simp [lastUse?, phase, fetched, below, appended]) before
  | announced phase | completed phase =>
    rw [phase] at before
    exact idle _ (by simp [lastUse?, phase]) before

end Reading

namespace BatchRun

abbrev Logged (run : BatchRun) (submissions : List Submission) (record : List LastUse) : Prop :=
  run.phase.Logged run.batch.site submissions record run.batch.tally run.batch.results.length

end BatchRun

def BatchEnd.Logged (done : BatchEnd) (submissions : List Submission) (record : List LastUse) :
    Prop :=
  ∃ closing said, Closing done.batch.site record done.outcome closing ∧
    Owes done.batch.site submissions record said .none ∧
    done.batch.tally = (said ++ .ofLines closing).orSuccess done.batch.site

namespace BatchRun

variable {η : Type} [Host η]

theorem logged_say (run : BatchRun) {now : Instant} {isError : Bool} {text : String}
    {phase : BatchPhase} {submissions : List Submission} {record : List LastUse}
    {finished : BatchEnd → List Happening → Prop}
    (logged : phase.Logged run.batch.site submissions record
      (run.batch.tally ++ .ofLines [⟨run.batch.id, isError, text⟩]) run.batch.results.length) :
    (run.say now isError text phase).Ensures (fun next _ => next.Logged submissions record)
      finished := by
  have said := run.batch.tally_addMessage ⟨run.batch.id, isError, now, text⟩
  change BatchPhase.Logged _ _ _ (run.batch.addMessage ⟨run.batch.id, isError, now, text⟩).tally _ phase
  rw [said]
  exact logged

theorem tally_marked (run : BatchRun) : run.marked.batch.tally = run.batch.tally ++ ⟨[], true⟩ := by
  ext <;> simp [marked, Batch.tally]

theorem ensures_logged (now : Instant) (cancelled : Bool) (world : World (Recorded η))
    {run : BatchRun} {record : List LastUse} (before : run.Logged world.host.submissions record) :
    (run.step now cancelled world).2.Ensures
      (fun next _ => next.Logged (run.step now cancelled world).1.host.submissions
        (record ++ (run.lastUse? cancelled world).toList))
      (fun done _ => done.Logged (run.step now cancelled world).1.host.submissions
        (record ++ (run.lastUse? cancelled world).toList)) := by
  have turn := run.turn now cancelled world
  unfold Logged at before
  have idle (none : run.lastUse? cancelled world = none) :
      record ++ (run.lastUse? cancelled world).toList = record := by
    rw [none, Option.toList_none, List.append_nil]
  revert turn
  rcases run.step now cancelled world with ⟨later, progress⟩
  intro turn
  cases turn with
  -- Nothing is said here, and the next phase asks for what the last one has left.
  | started phase | exhausted phase | completed phase =>
    rw [idle (by simp [lastUse?, phase])]
    rw [phase] at before
    exact before
  | repeated phase =>
    rw [idle (by simp [lastUse?, phase])]
    rw [phase] at before
    exact ⟨[], _, .completed, before, by simp⟩
  | halted phase signalled =>
    rw [idle (by simp [lastUse?, phase])]
    rw [phase] at before
    exact ⟨before, .inl rfl⟩
  | submitted phase live =>
    rw [idle (by simp [lastUse?, phase])]
    rw [phase] at before
    exact ⟨_, _, rfl, rfl, before⟩
  | unopened phase opened =>
    rw [idle (by simp [lastUse?, phase, opened])]
    exact before
  | opened phase opened =>
    rw [idle (by simp [lastUse?, phase, opened])]
    rw [phase] at before
    obtain ⟨earlier, current, submitted, rfl, settled⟩ := before
    have answer := current.script.opened_open cancelled
    rw [opened] at answer
    cases answer
    -- Nothing has been told of this script yet, so all of its notices are behind.
    refine ⟨rfl, .intro submitted settled.even settled.follow ?_ (List.nil_append _).symm⟩
    simpa using settled.owed
  | @rejected left script error phase opened =>
    have last : run.lastUse? cancelled later = some ⟨none, .raised error⟩ := by
      simp [lastUse?, phase, opened]
    rw [phase] at before
    obtain ⟨earlier, current, submitted, rfl, settled⟩ := before
    have stops := Ending.interruption?_ofSource error
    rw [last]
    refine ⟨?_, .inr ⟨_, List.getLast?_concat, stops⟩⟩
    rw [← Ending.tally_of_interruption stops]
    exact settled.reject submitted error
  | @unadvanced left cursor next phase advanced =>
    rw [idle (by simp [lastUse?, phase, advanced])]
    rw [phase] at before
    have whole := Cursor.untaken_nextResult cancelled before.1
    rw [advanced] at whole
    exact ⟨Cursor.items_of_nextResult_waits advanced, whole ▸ before.2⟩
  | @advanced left cursor next fetched phase advanced come =>
    rw [phase] at before
    have whole := Cursor.untaken_nextResult cancelled before.1
    rw [advanced] at whole
    have within : Within _ _ _ _ next.untaken := whole ▸ before.2
    -- The cursor has lost nothing on the way: another result goes on with it, an end closes it.
    cases fetched with
    | waits => exact absurd rfl come
    | value header =>
      rw [idle (by simp [lastUse?, phase, advanced])]
      exact ⟨rfl, within⟩
    | ended =>
      have last : run.lastUse? cancelled later = some ⟨some next, .finished⟩ := by
        simp [lastUse?, phase, advanced]
      rw [last]
      have owes := within.close .finished
      rw [Ending.tally_of_finished rfl, Tally.append_none] at owes
      exact owes
    | failed error =>
      have last : run.lastUse? cancelled later = some ⟨some next, .raised error⟩ := by
        simp [lastUse?, phase, advanced]
      have stops := Ending.interruption?_ofSource error
      rw [last]
      refine ⟨?_, _, List.getLast?_concat, stops⟩
      rw [← Ending.tally_of_interruption stops]
      exact within.close (.raised error)
  | @told left cursor notice notices next phase =>
    rw [idle (by simp [lastUse?, phase])]
    rw [phase] at before
    have line : ⟨run.batch.id, notice.isError, notice.text run.batch.startLine⟩ =
        notice.line run.batch.site := (Notice.line_eq run.batch.site notice).symm
    -- What was still to come, or was due, has now been said.
    refine logged_say run ?_
    rw [line]
    cases next with
    | result header => exact ⟨before.1, before.2.tell⟩
    | nextResult => exact ⟨before.1, before.2.1, before.2.2.tell⟩
    | endOfRun =>
      rw [BatchPhase.Logged, Tally.ofNotices_cons] at before
      exact before.say
    | interruption reason =>
      rw [BatchPhase.Logged, Tally.ofNotices_cons, Tally.append_assoc] at before
      exact ⟨before.1.say, before.2⟩
  | @uncreated left cursor header error phase made =>
    have last : run.lastUse? cancelled world = some ⟨some cursor, .unstored error⟩ := by
      simp [lastUse?, phase, made]
    rw [phase] at before
    obtain ⟨taken, within⟩ := before
    rw [List.nil_append, ← Cursor.untaken_of_taken taken] at within
    have owes := within.close (.unstored error)
    rw [taken, Tally.ofNotices_nil, Tally.none_append] at owes
    rw [last]
    exact ⟨owes, .inr ⟨_, List.getLast?_concat, rfl⟩⟩
  | @created left cursor header store phase made =>
    rw [idle (by simp [lastUse?, phase, made])]
    rw [phase] at before
    obtain ⟨taken, within⟩ := before
    rw [List.nil_append, ← Cursor.untaken_of_taken taken] at within
    exact ⟨by simp [withResult], within⟩
  | @resumed left cursor phase =>
    rw [idle (by simp [lastUse?, phase])]
    rw [phase] at before
    obtain ⟨taken, spent, within⟩ := before
    rw [List.nil_append, ← Cursor.untaken_of_taken taken] at within
    exact ⟨spent, within⟩
  | broken phase =>
    rw [idle (by simp [lastUse?, phase])]
    rw [phase, BatchPhase.Logged, Tally.ofNotices_nil, Tally.none_append] at before
    exact ⟨before.1, .inr before.2⟩
  | unread phase missing =>
    -- While a result is read, the batch has one.
    rw [phase] at before
    have none : run.batch.results.length = 0 := by
      rw [List.getLast?_eq_none_iff.mp missing, List.length_nil]
    exact absurd before.1 (by omega)
  | @read left cursor readPhase result phase last =>
    rw [phase] at before
    have used : run.lastUse? cancelled later =
        Reading.lastUse? (.ofSettings run.settings) cancelled ⟨result, cursor, readPhase⟩ := by
      simp [lastUse?, phase, last]
    rw [used]
    refine Progress.ensures_mapEvent (Progress.ensures_within ?_)
    refine (Reading.ensures_logged (.ofSettings run.settings) cancelled
      ⟨result, cursor, readPhase⟩ before.2).imp ?_ ?_
    · intro next _ reads
      exact ⟨by simpa [withReading, Batch.setResult] using before.1, reads⟩
    · intro done _ ended
      unfold Logged afterRead tellNotices
      cases outcome : done.outcome with
      | ok value =>
        rw [outcome] at ended
        exact ⟨rfl, ended⟩
      | error error =>
        rw [outcome] at ended
        exact ended
  | @erred left message phase tone | @remarked left message phase tone =>
    rw [idle (by simp [lastUse?, phase])]
    rw [phase] at before
    have owes := before.1.sayDriver
    rw [DriverMessage.lines_eq, tone] at owes
    exact logged_say run.marked (by rw [tally_marked]; exact owes)
  | @suppressed left message phase tone =>
    rw [idle (by simp [lastUse?, phase])]
    rw [phase] at before
    have owes := before.1.sayDriver
    rw [DriverMessage.lines_eq, tone, Tally.ofLines_nil, Tally.append_none, ← tally_marked] at owes
    exact owes
  | cancelled phase =>
    rw [idle (by simp [lastUse?, phase])]
    rw [phase] at before
    exact logged_say _ ⟨_, run.batch.tally, .cancelled, before.1, rfl⟩
  | @failed left text phase =>
    rw [idle (by simp [lastUse?, phase])]
    rw [phase] at before
    obtain ⟨owes, live | ⟨last, final, stops⟩⟩ := before
    · cases live
    · exact logged_say run ⟨_, run.batch.tally, .failed final stops, owes, rfl⟩
  | @succeeded outcome phase quiet =>
    rw [idle (by simp [lastUse?, phase])]
    rw [phase] at before
    obtain ⟨closing, said, closes, owes, tally⟩ := before
    refine logged_say run ⟨closing, said, closes, owes, ?_⟩
    rw [← run.batch.quiet_tally] at quiet
    rw [← tally, Tally.orSuccess_of_quiet quiet]
    rfl
  | concluded phase loud =>
    rw [idle (by simp [lastUse?, phase])]
    rw [phase] at before
    obtain ⟨closing, said, closes, owes, tally⟩ := before
    refine ⟨closing, said, closes, owes, ?_⟩
    rw [← run.batch.quiet_tally] at loud
    rw [← tally, Tally.orSuccess_of_loud loud]

end BatchRun

theorem BatchEnd.Logged.lines {done : BatchEnd} {submissions : List Submission}
    {record : List LastUse} (logged : done.Logged submissions record) :
    ∃ closing, Closing done.batch.site record done.outcome closing ∧
      let said := (repetitions submissions record).flatMap (Repetition.lines done.batch.site) ++
        closing
      done.batch.messages.map BatchMessage.line =
        if said = [] ∧ done.batch.hasError = false then
          [⟨done.batch.site.batchId, false, BatchMessage.successText⟩]
        else said := by
  obtain ⟨closing, said, closes, owes, whole⟩ := logged
  have all : said = tallyOf done.batch.site (repetitions submissions record) := by
    rw [← owes.owed, Tally.append_none]
  have lines := congrArg Tally.lines whole
  have erred := congrArg Tally.erred whole
  rw [Tally.erred_orSuccess] at erred
  rw [Tally.lines_orSuccess, ← erred, Tally.lines_append, all, lines_tallyOf] at lines
  exact ⟨closing, closes, lines⟩

end SqlDesk
