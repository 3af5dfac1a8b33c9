import SqlDesk.Proofs.Batch.Showing
import SqlDesk.Proofs.Query.Cancellation
import SqlDesk.Proofs.Query.Life

/-! A query that has told its completion stays what its last events showed. What is told about a batch
always shows the batch as it is then, and once everything has been told no request changes anything
that is shown: at most the stores are closed, and these keep the number of their rows. -/

set_option autoImplicit false

namespace SqlDesk

namespace Query

def phaseAt (query : Query) (place : Nat) : Option BatchPhase :=
  match query.activity with
  | .executing index phase => if index = place then some phase else none
  | _ => none

/-- What has been told shows the batch at a place, whether or not it is under way. -/
def ShowsBatch (query : Query) (place : Nat) (batch : Batch) (told : List Happening) : Prop :=
  match query.phaseAt place with
  | some phase => (query.runOf batch phase).Shown told
  | none => (batch.executed = true → batch.started.isSome = true) ∧ batch.Shown told

/-- What a query has told shows each of its batches, and the end shows all of them together. -/
structure Shown (query : Query) (told : List Happening) : Prop where
  batches : ∀ (place : Nat) (batch : Batch), query.batches[place]? = some batch →
    query.ShowsBatch place batch (aboutBatch place told)
  completed : query.Over → ∃ earlier, told = earlier ++ [.queryCompleted query.summaries]

section

variable {query next left right : Query} {place : Nat} {batch : Batch} {told : List Happening}

theorem phaseAt_executing {phase : BatchPhase} (executes : query.activity = .executing place phase) :
    query.phaseAt place = some phase := by
  rw [phaseAt, executes]
  exact if_pos rfl

theorem phaseAt_other {other : Nat} {phase : BatchPhase}
    (executes : query.activity = .executing place phase) (apart : other ≠ place) :
    query.phaseAt other = none := by
  rw [phaseAt, executes]
  exact if_neg apart.symm

theorem not_over_of_executing {phase : BatchPhase}
    (executes : query.activity = .executing place phase) : ¬ query.Over := by
  rintro ⟨-, rests⟩
  rw [executes] at rests
  cases rests

theorem showsBatch_running {phase : BatchPhase} (runs : query.phaseAt place = some phase) :
    query.ShowsBatch place batch told ↔ (query.runOf batch phase).Shown told := by
  rw [ShowsBatch, runs]

theorem showsBatch_idle (idle : query.phaseAt place = none) :
    query.ShowsBatch place batch told ↔
      (batch.executed = true → batch.started.isSome = true) ∧ batch.Shown told := by
  rw [ShowsBatch, idle]

theorem shown_create (owner text : String) (connection : Connection) (settings : Settings) :
    (create owner text connection settings).Shown [] where
  batches place batch found := by
    obtain ⟨part, -, rfl⟩ := batchesOf_getElem? owner text found
    exact ⟨nofun, rfl, rfl, rfl⟩
  completed := nofun

theorem summaries_of_bare (same : left.bare = right.bare) : left.summaries = right.summaries := by
  have shown (query : Query) : query.bare.summaries = query.summaries := by
    simp only [summaries, bare, mapResults, List.map_map]
    exact List.map_congr_left fun batch _ => Batch.summary_of_bare (by
      simp [Batch.bare, Batch.mapResults, ResultSet.bare])
  rw [← shown left, ← shown right, same]

/-! What keeps it. -/

theorem Shown.of_bare (same : left.bare = right.bare) (shown : left.Shown told) :
    right.Shown told := by
  have state : left.bare.state = right.bare.state := by rw [same]
  have activity : left.bare.activity = right.bare.activity := by rw [same]
  change left.state = right.state at state
  change left.activity = right.activity at activity
  refine ⟨fun place batch found => ?_, fun atEnd => ?_⟩
  · obtain ⟨before, there, alike⟩ := batch_of_bare same found
    have shows := shown.batches place before there
    have phase : right.phaseAt place = left.phaseAt place := by rw [phaseAt, phaseAt, activity]
    -- A batch that executes is shown as far as its phase has come, any other as a whole.
    cases doing : left.phaseAt place with
    | some running =>
      rw [doing] at phase
      exact (showsBatch_running phase).mpr (((showsBatch_running doing).mp shows).of_bare rfl alike)
    | none =>
      rw [doing] at phase
      obtain ⟨begun, shows⟩ := (showsBatch_idle doing).mp shows
      obtain ⟨started, ended⟩ := Batch.times_of_bare alike
      refine (showsBatch_idle phase).mpr ⟨?_, shows.of_bare alike⟩
      rw [Batch.executed, ← ended, ← started]
      exact begun
  · have before : left.Over := by
      unfold Over isTerminal at atEnd ⊢
      rwa [state, activity]
    rw [← summaries_of_bare same]
    exact shown.completed before

theorem Shown.pass {events : List Happening} (shown : query.Shown told)
    (batches : next.batches = query.batches)
    (idle : ∀ place < query.batches.length, query.phaseAt place = none ∧ next.phaseAt place = none)
    (general : ∀ happening ∈ events, happening.batchId? = none)
    (completed : next.Over → ∃ earlier, told ++ events = earlier ++ [.queryCompleted next.summaries]) :
    next.Shown (told ++ events) where
  batches place batch found := by
    rw [batches] at found
    obtain ⟨before, after⟩ := idle place (List.getElem?_eq_some_iff.mp found).1
    have nothing : aboutBatch place events = [] :=
      List.filter_eq_nil_iff.mpr fun happening member => by simp [general happening member]
    rw [aboutBatch_append, nothing, List.append_nil]
    exact (showsBatch_idle after).mpr ((showsBatch_idle before).mp (shown.batches place batch found))
  completed := completed

theorem Shown.set {index : Nat} {later : Batch} {events : List Happening}
    (shown : query.Shown told) (found : query.batches[index]? = some batch)
    (batches : next.batches = query.batches.set index later)
    (idle : ∀ place ≠ index, query.phaseAt place = none ∧ next.phaseAt place = none)
    (about : ∀ happening ∈ events, happening.batchId? = some index)
    (own : next.ShowsBatch index later (aboutBatch index told ++ events)) (goesOn : ¬ next.Over) :
    next.Shown (told ++ events) where
  batches place other there := by
    rw [batches] at there
    rw [aboutBatch_append]
    by_cases here : index = place
    · subst here
      rw [List.getElem?_set_self (List.getElem?_eq_some_iff.mp found).1] at there
      cases there
      rwa [aboutBatch_of_all about]
    · rw [List.getElem?_set_ne here] at there
      obtain ⟨before, after⟩ := idle place (Ne.symm here)
      rw [aboutBatch_of_other about here, List.append_nil]
      exact (showsBatch_idle after).mpr ((showsBatch_idle before).mp (shown.batches place other there))
  completed atEnd := absurd atEnd goesOn

/-- A batch that has not been begun has not ended, so nothing has been told of its end. -/
theorem Shown.beginsBatch {index : Nat} (shown : query.Shown told)
    (numbered : query.Numbered) (chooses : query.activity = .choosing index)
    (found : query.batches[index]? = some batch) (fresh : batch.started.isSome = false)
    (now : Instant) :
    (query.withRun index (query.runOf { batch with started := some now }
      (.starting (BatchRun.runsOf batch query.settings)))).Shown told := by
  have idle : query.phaseAt index = none := by rw [phaseAt, chooses]
  obtain ⟨begun, messages, results, completed⟩ :=
    (showsBatch_idle idle).mp (shown.batches index batch found)
  have unended : batch.ended = none := by
    cases ended : batch.ended with
    | none => rfl
    | some time =>
      have used := begun (by rw [Batch.executed, ended]; rfl)
      rw [fresh] at used
      cases used
  rw [Batch.executed, unended] at completed
  rw [← List.append_nil told]
  refine shown.set found (batches_setBatch numbered found rfl) (fun place apart => ?_)
    (List.forall_mem_nil _) ?_ (not_over_of_executing rfl)
  · exact ⟨by rw [phaseAt, chooses], phaseAt_other rfl apart⟩
  · refine (showsBatch_running (phaseAt_executing rfl)).mpr ?_
    rw [List.append_nil]
    exact ⟨rfl, unended, messages, results, completed⟩

end

variable {η : Type} [Host η] {query : Query} {told : List Happening}

theorem Shown.stepsBatch {index : Nat} {phase : BatchPhase} {batch : Batch}
    (shown : query.Shown told) (numbered : query.Numbered)
    (executes : query.activity = .executing index phase)
    (found : query.batches[index]? = some batch) (now : Instant) (world : World η) :
    ((query.runOf batch phase).step now query.cancelRequested world).2.Ensures
      (fun run events => (query.withRun index run).Shown (told ++ events))
      (fun done events => (query.afterBatch index done).Shown (told ++ events)) := by
  have before := (showsBatch_running (phaseAt_executing executes)).mp
    (shown.batches index batch found)
  obtain ⟨ownId, -, inner⟩ := numbered _ _ found
  have step := ((BatchRun.ensures_numbered now query.cancelRequested world inner).and
    (BatchRun.ensures_batchId now query.cancelRequested world inner)).and
      (BatchRun.ensures_shown now query.cancelRequested world inner before)
  -- All that is told has the number of this batch, so nothing is told of the others.
  refine step.imp ?_ ?_
  · rintro next events ⟨⟨⟨id, -, -⟩, about⟩, shows⟩
    refine shown.set found (batches_setBatch numbered found id) (fun place apart => ?_)
      (fun happening member => (about happening member).trans (congrArg some ownId)) ?_
      (not_over_of_executing rfl)
    · exact ⟨phaseAt_other executes apart, phaseAt_other rfl apart⟩
    · have runs : (query.withRun index next).phaseAt index = some next.phase :=
        phaseAt_executing rfl
      exact (showsBatch_running runs).mpr (shows.of_bare rfl rfl)
  · rintro done events ⟨⟨⟨id, -, -⟩, about⟩, started, shows⟩
    have idle (place : Nat) : (query.afterBatch index done).phaseAt place = none := by
      unfold phaseAt afterBatch
      cases done.outcome <;> rfl
    refine shown.set found (batches_setBatch numbered found id) (fun place apart => ?_)
      (fun happening member => (about happening member).trans (congrArg some ownId)) ?_ ?_
    · exact ⟨phaseAt_other executes apart, idle place⟩
    · exact (showsBatch_idle (idle index)).mpr ⟨fun _ => started, shows⟩
    · rintro ⟨-, rests⟩
      unfold afterBatch at rests
      cases outcome : done.outcome <;> rw [outcome] at rests <;> cases rests

theorem ensures_shown (now : Instant) (world : World η) (numbered : query.Numbered)
    (shown : query.Shown told) :
    (query.step now world).2.Ensures (fun next events => next.Shown (told ++ events))
      (fun next events => next.Shown (told ++ events)) := by
  have turn := query.turn now world
  revert turn
  rcases query.step now world with ⟨later, progress⟩
  intro turn
  cases turn with
  | rested =>
    change query.Shown (told ++ [])
    rwa [List.append_nil]
  -- Nothing is told of a batch in these turns, and the query has not come to rest.
  | exhausted chooses | halted chooses | refused chooses =>
    refine shown.pass rfl (fun place _ => ⟨by rw [phaseAt, chooses], rfl⟩) nofun ?_
    exact fun atEnd => nomatch atEnd.2
  | closed closes =>
    refine shown.pass rfl (fun place _ => ⟨by rw [phaseAt, closes], rfl⟩) nofun ?_
    exact fun atEnd => nomatch atEnd.2
  | @lost index phase executes missing =>
    refine shown.pass rfl (fun place inside => ⟨phaseAt_other executes ?_, rfl⟩) nofun ?_
    · rintro rfl
      exact absurd inside (Nat.not_lt.mpr (List.getElem?_eq_none_iff.mp missing))
    · exact fun atEnd => nomatch atEnd.2
  | announced announces =>
    refine shown.pass rfl (fun place _ => ⟨by rw [phaseAt, announces], rfl⟩) ?_
      fun _ => ⟨told, rfl⟩
    intro happening member
    cases List.mem_singleton.mp member
    rfl
  | begun chooses found _ fresh =>
    change Shown _ (told ++ [])
    rw [List.append_nil]
    exact shown.beginsBatch numbered chooses found fresh now
  | executed executes found =>
    exact Progress.ensures_within (shown.stepsBatch numbered executes found now world)

theorem lasts_shown : Lasts η fun query told => query.Sound told ∧ query.Shown told where
  bare same before := ⟨before.1.of_bare same.symm, before.2.of_bare same⟩
  step now world _ _ numbered before :=
    ⟨before.1.step now world, (ensures_shown now world numbered before.2).outcome⟩

theorem Shown.begin {next : Query} {now : Instant} (shown : query.Shown told)
    (sound : query.Sound told) (accepted : query.begin now = .ok next) : next.Shown told := by
  obtain ⟨fresh, rfl⟩ := Stage.begin_eq_ok accepted
  have idle (place : Nat) : query.phaseAt place = none := by rw [phaseAt, sound.rests fresh]
  rw [← List.append_nil told]
  exact shown.pass rfl (fun place _ => ⟨idle place, rfl⟩) nofun fun atEnd => nomatch atEnd.2

end Query

/-! What stays of a query that is over. -/

/-- A batch that shows what it showed, whose stores are as they were or closed. -/
structure Batch.Stays (before after : Batch) : Prop where
  messages : after.messages = before.messages
  hasError : after.hasError = before.hasError
  cancelled : after.cancelled = before.cancelled
  summary : after.summary = before.summary
  count : after.results.length = before.results.length
  results : ∀ (place : Nat) (result : ResultSet), before.results[place]? = some result →
    ∃ later, after.results[place]? = some later ∧ later.summary = result.summary ∧
      (later.store = result.store ∨ later.store = result.store.close)

theorem Batch.stays_of_bare {before after : Batch} (same : after.bare = before.bare)
    (unfed : before.Unfed True after) : before.Stays after := by
  obtain ⟨messages, hasError⟩ := messages_of_bare same
  have cancelled : after.bare.cancelled = before.bare.cancelled := by rw [same]
  refine ⟨messages, hasError, cancelled, summary_of_bare same, length_of_same same, ?_⟩
  intro place result there
  obtain ⟨later, found, rests⟩ := unfed.kept place result there
  have summaries := congrArg (·[place]?) (summaries_of_bare same)
  simp only [List.getElem?_map, there, found, Option.map_some, Option.some.injEq] at summaries
  exact ⟨later, found, summaries, rests.imp_right And.right⟩

namespace Stage

variable {η α : Type} [Host η]

theorem Does.rests {act : Act} {stage next : Stage η α} (does : Does act stage next)
    (numbered : stage.query.Numbered) (atEnd : stage.query.Over) :
    next.query.Over ∧ next.query.bare = stage.query.bare ∧ stage.query.Unfed True next.query := by
  have same {query : Query} (bare : query.bare = stage.query.bare) : query.Over := by
    have state : query.bare.state = stage.query.bare.state := by rw [bare]
    have activity : query.bare.activity = stage.query.bare.activity := by rw [bare]
    exact ⟨(congrArg QueryState.isTerminal state).trans atEnd.1, activity.trans atEnd.2⟩
  -- What begins or cancels a query looks at its state and refuses.
  cases does with
  | begins now accepted =>
    have terminal := atEnd.1
    rw [Query.isTerminal, (begin_eq_ok accepted).1] at terminal
    cases terminal
  | cancels accepted =>
    unfold Query.cancel at accepted
    rw [if_pos atEnd.1] at accepted
    cases accepted
  | steps now =>
    have still : (stage.step now).query = stage.query := by
      change (stage.query.step now stage.world).2.outcome.1 = _
      rw [Query.step_of_rests now stage.world atEnd.2]
      rfl
    exact ⟨still ▸ atEnd, congrArg Query.bare still, .of_batches (congrArg Query.batches still)⟩
  | disposes => exact ⟨same stage.query.bare_dispose, stage.query.bare_dispose, .dispose stage.query⟩
  | saves accepted =>
    have unsaved := Query.unsaved_beginSave numbered accepted
    have bare := Query.bare_of_unsaved unsaved
    exact ⟨same bare, bare, .of_unsaved unsaved⟩
  | saved tree batchId resultId request =>
    have unsaved := Query.unsaved_runSave tree numbered batchId resultId request
    have bare := Query.bare_of_unsaved unsaved
    exact ⟨same bare, bare, .of_unsaved unsaved⟩
  | subscribes | elsewhere => exact ⟨atEnd, rfl, .of_batches rfl⟩

theorem Course.keeps_over {allowed : Act → Prop} {first stage : Stage η α}
    (course : Course allowed first stage) (numbered : first.query.Numbered)
    (atEnd : first.query.Over) :
    stage.query.Over ∧ stage.query.bare = first.query.bare ∧
      first.query.Unfed True stage.query := by
  have kept : stage.query.Numbered ∧ stage.query.Over ∧ stage.query.bare = first.query.bare ∧
      first.query.Unfed True stage.query := by
    refine course.preserves (fun stage => stage.query.Numbered ∧ stage.query.Over ∧
      stage.query.bare = first.query.bare ∧ first.query.Unfed True stage.query) ?_
      ⟨numbered, atEnd, rfl, .of_batches rfl⟩
    rintro act before after - does ⟨numbers, isOver, bare, unfed⟩
    obtain ⟨still, same, next⟩ := does.rests numbers isOver
    exact ⟨does.numbered numbers, still, same.trans bare, unfed.trans next⟩
  exact kept.2

theorem Does.shown {act : Act} {stage next : Stage η α} {owner : String} {first : Nat}
    {told : List Happening} (does : Does act stage next)
    (heard : stage.scene.Heard owner first told) (sound : stage.query.Sound told)
    (shown : stage.query.Shown told) :
    ∃ whole, next.scene.Heard owner first whole ∧ next.query.Sound whole ∧
      next.query.Shown whole := by
  -- All that the subscribers of a query can notice happens in the scene.
  have goesOn {scene : Scene α} (happened : Scene.Next (Recorded η) stage.scene scene) :
      ∃ whole, scene.Heard owner first whole ∧ scene.query.Sound whole ∧
        scene.query.Shown whole := by
    obtain ⟨more, told⟩ := Scene.next_told Query.lasts_shown heard ⟨sound, shown⟩ happened
    exact ⟨_, told⟩
  cases does with
  | begins now accepted =>
    have sounds := sound.begin accepted
    exact ⟨told, ⟨sounds.numbered, heard.same, heard.present, heard.heard⟩, sounds,
      shown.begin sound accepted⟩
  | steps now => exact goesOn (.steps now stage.world)
  | cancels accepted => exact goesOn (.cancels accepted)
  | disposes => exact goesOn .disposes
  | saves accepted => exact goesOn (.saves accepted)
  | saved tree batchId resultId request => exact goesOn (.saved tree batchId resultId request)
  | subscribes member => exact goesOn (.subscribes member)
  | elsewhere others => exact ⟨told, heard, sound, shown⟩

/-- A query that has just been made, and those who listen to it. -/
def attended (host : η) (maker : StoreMaker) (query : Query) (members : List α) : Stage η α :=
  ⟨⟨⟨host, []⟩, maker⟩, ⟨query, ⟨query.owner, members⟩, []⟩, []⟩

theorem Course.shown {allowed : Act → Prop} {owner text : String} {connection : Connection}
    {settings : Settings} {host : η} {maker : StoreMaker} {members : List α} {stage : Stage η α}
    (course : Course allowed
      (attended host maker (.create owner text connection settings) members) stage) :
    ∃ told, stage.scene.Heard owner members.length told ∧ stage.query.Sound told ∧
      stage.query.Shown told := by
  refine course.preserves (fun stage => ∃ told, stage.scene.Heard owner members.length told ∧
    stage.query.Sound told ∧ stage.query.Shown told) ?_ ?_
  · rintro act before after - does ⟨told, heard, sound, shown⟩
    exact does.shown heard sound shown
  · have sound := Query.sound_create owner text connection settings
    exact ⟨[], ⟨sound.numbered, rfl, Nat.le_refl _, fun _ _ => rfl⟩, sound, Query.shown_create ..⟩

/-- However a query has run and ended, and whatever is asked of it afterwards, in any order and any
number of times: it stays in its state, every batch keeps its messages and flags and goes on showing
the summary that the completion of the query has shown, nothing is submitted, told or stored, and at
most its stores are closed. Whoever has listened from the start has heard each message of a batch, and
last of each result, of each batch and of the query what these still are. Cancellation and another
execution are refused every time. -/
theorem finished_query_stays (owner text : String) (connection : Connection) (settings : Settings)
    (host : η) (maker : StoreMaker) (members : List α) {ended later : Stage η α}
    (reached : Course (fun _ => True)
      (attended host maker (.create owner text connection settings) members) ended)
    (atEnd : ended.query.Over) (course : Course (fun _ => True) ended later) :
    later.query.state = ended.query.state ∧
      later.query.batches.length = ended.query.batches.length ∧
      (∀ (place : Nat) (batch : Batch), ended.query.batches[place]? = some batch →
        ∃ kept, later.query.batches[place]? = some kept ∧ batch.Stays kept) ∧
      later.submissions = ended.submissions ∧ later.scene.rounds = ended.scene.rounds ∧
      (∀ place < members.length, ∃ told, later.scene.heard place =
          (told ++ [.queryCompleted later.query.summaries]).map (Event.mk owner) ∧
        ∀ (batchId : Nat) (batch : Batch), later.query.batches[batchId]? = some batch →
          batch.Shown (aboutBatch batchId told)) ∧
      later.query.cancel = .error .alreadyCompleted ∧
      ∀ now, later.query.begin now = .error .alreadyExecuted := by
  obtain ⟨_, -, sound, -⟩ := reached.shown
  obtain ⟨⟨terminal, rests⟩, bare, unfed⟩ := course.keeps_over sound.numbered atEnd
  obtain ⟨quiet, silent⟩ := course.rests sound.numbered atEnd.1 atEnd.2
  have state : later.query.bare.state = ended.query.bare.state := by rw [bare]
  refine ⟨state, unfed.length, ?_, quiet, silent, ?_, if_pos terminal, fun now => if_neg ?_⟩
  · intro place batch found
    obtain ⟨kept, there, stays⟩ := unfed.batches place batch found
    obtain ⟨before, same, alike⟩ := Query.batch_of_bare bare.symm there
    rw [found] at same
    cases same
    exact ⟨kept, there, Batch.stays_of_bare alike.symm stays⟩
  · intro place inside
    have all : Course (fun _ => True) _ later := reached.trans course
    obtain ⟨whole, heard, -, shown⟩ := all.shown
    obtain ⟨told, rfl⟩ := shown.completed ⟨terminal, rests⟩
    refine ⟨told, heard.heard place inside, fun batchId batch found => ?_⟩
    have idle : later.query.phaseAt batchId = none := by rw [Query.phaseAt, rests]
    have shows := ((Query.showsBatch_idle idle).mp (shown.batches batchId batch found)).2
    -- The completion of the query is about no batch.
    rw [aboutBatch_append] at shows
    simpa [aboutBatch, Happening.batchId?] using shows
  · intro fresh
    rw [Query.isTerminal, fresh] at terminal
    cases terminal

/-- Two batches, of which the first one yields two rows and the second one meets an error. -/
def watched : Stage (Array Replay) Unit :=
  attended #[⟨[[.notice (.rowsAffected 2),
      .result ⟨⟨[], false⟩, [.row [.int64 1], .row [.int64 2]], none⟩],
    [.stop (.fails (.driver ⟨208, 16, 1, 1, none, "no"⟩))]], []⟩] .file
    (.create "o" "select 1\ngo\nselect 2" 0 .standard) [()]

def watchedBegun : Stage (Array Replay) Unit :=
  watched.withQuery { watched.query with
    state := .running, started := some ⟨0, 0⟩, activity := .choosing 0 }

def watchedEnded : Stage (Array Replay) Unit := (step ⟨0, 0⟩)^[40] watchedBegun

/-- Disposed of twice, with a save that comes too late in between. -/
def watchedDisposed : Stage (Array Replay) Unit :=
  let once := watchedEnded.withQuery watchedEnded.query.dispose
  let saved := once.withQuery (once.query.runSave ⟨[], [], []⟩ 0 0
    ⟨"a", .csv, none, none, none, none, true⟩).2.1
  (step ⟨1, 0⟩)^[3] (saved.withQuery saved.query.dispose)

theorem finished_query_stays_watched :
    watchedEnded.query.state = .failed ∧ watchedDisposed.query.state = .failed ∧
      (watchedEnded.query.batches.map (·.results.map (·.store.isOpen))) = [[true], []] ∧
      (watchedDisposed.query.batches.map (·.results.map (·.store.isOpen))) = [[false], []] ∧
      (watchedDisposed.query.batches.map (·.results.map (·.rowCount))) = [[2], []] ∧
      (∃ told, watchedDisposed.scene.heard 0 =
          (told ++ [.queryCompleted watchedDisposed.query.summaries]).map (Event.mk "o") ∧
        ∀ (batchId : Nat) (batch : Batch), watchedDisposed.query.batches[batchId]? = some batch →
          batch.Shown (aboutBatch batchId told)) ∧
      (watchedDisposed.query.batches.map (·.messages.length)) = [1, 1] ∧
      watchedDisposed.query.cancel = .error .alreadyCompleted := by
  have fresh : watched.query.begin ⟨0, 0⟩ = .ok watchedBegun.query := if_pos rfl
  have begins : Course (fun _ => True) watched watchedBegun :=
    .single .begins trivial (.begins ⟨0, 0⟩ fresh)
  have reached : Course (fun _ => True) watched watchedEnded :=
    begins.trans (course_steps trivial _ 40 watchedBegun)
  have failed : watchedEnded.query.state = .failed := by decide +kernel
  have atEnd : watchedEnded.query.Over :=
    ⟨by rw [Query.isTerminal, failed]; rfl, Query.resting_of_batchesLeft (by decide +kernel)⟩
  have disposal (stage : Stage (Array Replay) Unit) :
      Course (fun _ => True) stage (stage.withQuery stage.query.dispose) :=
    .single .disposes trivial .disposes
  have saving (stage : Stage (Array Replay) Unit) (request : SaveRequest) :
      Course (fun _ => True) stage
        (stage.withQuery (stage.query.runSave ⟨[], [], []⟩ 0 0 request).2.1) :=
    .single .saves trivial (.saved _ 0 0 request)
  have later : Course (fun _ => True) watchedEnded watchedDisposed :=
    (((disposal _).trans (saving _ _)).trans (disposal _)).trans (course_steps trivial _ 3 _)
  obtain ⟨state, -, -, -, -, heard, refuses, -⟩ :=
    finished_query_stays "o" _ 0 _ _ _ [()] reached atEnd later
  exact ⟨failed, state.trans failed, by decide +kernel, by decide +kernel, by decide +kernel,
    heard 0 Nat.zero_lt_one, by decide +kernel, refuses⟩

end Stage

end SqlDesk
