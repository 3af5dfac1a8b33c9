import SqlDesk.Proofs.Batch.Bench
import SqlDesk.Proofs.Query.Results

/-! What a query has run on its connection. Text, connection and settings are given to a query when it
is made and stay with it. They fix a list of calls: batch by batch, each as often as its separator or
else the settings say, with the plans of the settings. What has been submitted at any time is the
beginning of this list, and all of it once the query is completed. -/

set_option autoImplicit false

namespace SqlDesk

structure Terms where
  text : String
  connection : Connection
  settings : Settings

abbrev Call := Connection × Execution

def Submission.call (submission : Submission) : Call := (submission.connection, submission.execution)

namespace Terms

def call (terms : Terms) (part : BatchText) : Call :=
  (terms.connection, ⟨part.sql, terms.settings.actualPlan, terms.settings.estimatedPlan⟩)

/-- How often a batch is submitted: as its separator says, else as the settings say. -/
def runs (terms : Terms) (part : BatchText) : Nat := max 1 (part.runs.getD terms.settings.runs)

def callsOf (terms : Terms) (part : BatchText) : List Call :=
  List.replicate (terms.runs part) (terms.call part)

def calls (terms : Terms) (parts : List BatchText) : List Call := parts.flatMap terms.callsOf

theorem calls_take_succ {terms : Terms} {parts : List BatchText} {index : Nat} {part : BatchText}
    (found : parts[index]? = some part) :
    terms.calls (parts.take (index + 1)) = terms.calls (parts.take index) ++ terms.callsOf part := by
  rw [List.take_add_one, found]
  simp [calls]

theorem calls_take_prefix (terms : Terms) (parts : List BatchText) (index : Nat) :
    terms.calls (parts.take index) <+: terms.calls parts := by
  refine ⟨terms.calls (parts.drop index), ?_⟩
  rw [calls, calls, ← List.flatMap_append, List.take_append_drop]
  rfl

/-- Some runs of the batch of a number, after all runs of the batches in front of it. -/
theorem calls_amid_prefix {terms : Terms} {parts : List BatchText} {index count : Nat}
    {part : BatchText} (found : parts[index]? = some part) (most : count ≤ terms.runs part) :
    terms.calls (parts.take index) ++ List.replicate count (terms.call part) <+:
      terms.calls parts := by
  refine .trans ?_ (terms.calls_take_prefix parts (index + 1))
  rw [calls_take_succ found, List.prefix_append_right_inj]
  exact ⟨List.replicate (terms.runs part - count) (terms.call part), by
    rw [callsOf, List.replicate_append_replicate, Nat.add_sub_cancel' most]⟩

end Terms

/-! Batches. -/

/-- Of all the runs of a batch some have been submitted. A batch that may go on has the others left. -/
def BatchPhase.Due (submitted total : Nat) : BatchPhase → Prop
  | .starting left | .repeating left | .opening left _ | .advancing left _ | .telling left _ _ _
  | .reading left _ _ | .interrupted left (.driver _) => submitted + left = total
  | .interrupted _ .cancelled | .interrupted _ (.failed _) => submitted ≤ total
  | .concluding outcome | .completing outcome =>
    submitted ≤ total ∧ (outcome = .completed → submitted = total)

theorem BatchPhase.Due.le {submitted total : Nat} {phase : BatchPhase}
    (due : phase.Due submitted total) : submitted ≤ total := by
  cases phase with
  | interrupted left reason => cases reason <;> simp only [Due] at due <;> omega
  | concluding outcome | completing outcome => exact due.1
  | _ => simp only [Due] at due; omega

theorem BatchPhase.due_interrupted {submitted left total : Nat} (whole : submitted + left = total)
    (reason : Interruption) : (interrupted left reason).Due submitted total := by
  cases reason with
  | driver message => exact whole
  | cancelled | failed text => exact Nat.le.intro whole

/-- A step submits the text of its batch at most once, and only a run that was left. -/
theorem BatchRun.submits {η : Type} [Host η] (now : Instant) (cancelled : Bool)
    (world : World (Recorded η)) (run : BatchRun) :
    ∃ new : List Submission,
      (run.step now cancelled world).1.host.submissions = world.host.submissions ++ new ∧
      new.map Submission.call = List.replicate new.length (run.connection, run.execution) ∧
      ∀ submitted total, run.phase.Due submitted total → (run.step now cancelled world).2.Ensures
        (fun next _ => next.phase.Due (submitted + new.length) total)
        (fun done _ => submitted + new.length ≤ total ∧
          (done.outcome = .completed → submitted + new.length = total)) := by
  have turn := run.turn now cancelled world
  revert turn
  rcases run.step now cancelled world with ⟨later, progress⟩
  intro turn
  -- All turns but one submit nothing; what is due is then all that they have to keep.
  have nothing {progress : BatchRun.Step}
      (keeps : ∀ submitted total, run.phase.Due submitted total → progress.Ensures
        (fun next _ => next.phase.Due submitted total)
        (fun done _ => submitted ≤ total ∧ (done.outcome = .completed → submitted = total))) :
      ∃ new : List Submission, world.host.submissions = world.host.submissions ++ new ∧
        new.map Submission.call = List.replicate new.length (run.connection, run.execution) ∧
        ∀ submitted total, run.phase.Due submitted total → progress.Ensures
          (fun next _ => next.phase.Due (submitted + new.length) total)
          (fun done _ => submitted + new.length ≤ total ∧
            (done.outcome = .completed → submitted + new.length = total)) :=
    ⟨[], (List.append_nil _).symm, rfl, keeps⟩
  cases turn with
  | @submitted left phase live =>
    refine ⟨_, rfl, rfl, fun submitted total due => ?_⟩
    rw [phase] at due
    simp only [BatchPhase.Due] at due
    change submitted + 1 + left = total
    omega
  | repeated phase =>
    refine nothing fun submitted total due => ?_
    rw [phase] at due
    simp only [BatchPhase.Due] at due
    exact ⟨by omega, fun _ => by omega⟩
  | halted phase =>
    refine nothing fun submitted total due => ?_
    rw [phase] at due
    simp only [BatchPhase.Due] at due
    change submitted ≤ total
    omega
  | unopened phase => exact nothing fun submitted total due => due
  | rejected phase | broken phase =>
    refine nothing fun submitted total due => ?_
    rw [phase] at due
    exact BatchPhase.due_interrupted due _
  | @uncreated left cursor header error phase =>
    refine nothing fun submitted total due => ?_
    rw [phase] at due
    have whole : submitted + left = total := due
    exact BatchPhase.due_interrupted whole (.ofResult (.storage error))
  | @read left cursor readPhase result phase last =>
    refine nothing fun submitted total due => ?_
    rw [phase] at due
    exact run.ensures_reading _ _ (fun _ _ => due) fun _ _ => due
  | cancelled phase | failed phase =>
    refine nothing fun submitted total due => ?_
    rw [phase] at due
    exact ⟨due, nofun⟩
  | completed phase =>
    refine nothing fun submitted total due => ?_
    rw [phase] at due
    exact due
  | started phase | opened phase | unadvanced phase | advanced phase | told phase | created phase
  | resumed phase | exhausted phase | unread phase | erred phase | remarked phase | suppressed phase
  | succeeded phase | concluded phase =>
    refine nothing fun submitted total due => ?_
    rw [phase] at due
    exact due

/-! Queries. -/

namespace Query

structure MadeWith (query : Query) (terms : Terms) : Prop where
  text : query.text = terms.text
  connection : query.connection = terms.connection
  settings : query.settings = terms.settings
  batches : query.batches.map Batch.text = splitBatches terms.text

theorem madeWith_create (owner text : String) (connection : Connection) (settings : Settings) :
    (create owner text connection settings).MadeWith ⟨text, connection, settings⟩ where
  text := rfl
  connection := rfl
  settings := rfl
  batches := by
    have whole := List.zipIdx_map_fst 0 (splitBatches text)
    rw [create, batchesOf, List.map_map]
    exact whole

namespace MadeWith

variable {query next : Query} {terms : Terms}

theorem of_bare (made : query.MadeWith terms) (same : next.bare = query.bare) :
    next.MadeWith terms where
  text := (congrArg Query.text same).trans made.text
  connection := (congrArg Query.connection same).trans made.connection
  settings := (congrArg Query.settings same).trans made.settings
  batches := by
    have texts := congrArg (fun query : Query => query.batches.map Batch.text) same
    simp only [Query.bare, Query.mapResults, List.map_map] at texts
    exact texts.trans made.batches

theorem part_of_batch (made : query.MadeWith terms) {index : Nat} {batch : Batch}
    (found : query.batches[index]? = some batch) : (splitBatches terms.text)[index]? = some batch.text := by
  rw [← made.batches, List.getElem?_map, found]
  rfl

theorem setBatch (made : query.MadeWith terms) (numbered : query.Numbered) {index : Nat}
    {batch : Batch} (later : Batch) (found : query.batches[index]? = some batch)
    (id : later.id = batch.id) (text : later.text = batch.text) (activity : Activity) :
    MadeWith { query.setBatch later with activity } terms where
  text := made.text
  connection := made.connection
  settings := made.settings
  batches := by
    rw [← made.batches, ← map_set_of_same Batch.text found text]
    exact congrArg (List.map Batch.text) (batches_setBatch numbered found id)

end MadeWith

def Called (query : Query) (terms : Terms) (calls : List Call) : Prop :=
  let parts := splitBatches terms.text
  match query.activity with
  | .choosing index => calls = terms.calls (parts.take index)
  | .executing index phase => ∃ part count, parts[index]? = some part ∧
      calls = terms.calls (parts.take index) ++ List.replicate count (terms.call part) ∧
      phase.Due count (terms.runs part)
  | .closing state => calls <+: terms.calls parts ∧ (state = .cancelled ∨ state = .failed)
  | .resting | .announcing => calls <+: terms.calls parts ∧
      (query.state = .completed → calls = terms.calls parts) ∧ (query.state = .notStarted → calls = [])

namespace Called

variable {query next : Query} {terms : Terms} {calls : List Call}

theorem isPrefix (called : query.Called terms calls) :
    calls <+: terms.calls (splitBatches terms.text) := by
  unfold Called at called
  split at called
  · rw [called]
    exact terms.calls_take_prefix _ _
  · obtain ⟨part, count, found, rfl, due⟩ := called
    exact Terms.calls_amid_prefix found due.le
  · exact called.1
  · exact called.1
  · exact called.1

theorem of_same (called : query.Called terms calls) (state : next.state = query.state)
    (activity : next.activity = query.activity) : next.Called terms calls := by
  unfold Called at called ⊢
  rw [state, activity]
  exact called

theorem finish (now : Instant) {state : QueryState} (started : state ≠ .notStarted)
    (isPrefix : calls <+: terms.calls (splitBatches terms.text))
    (whole : state = .completed → calls = terms.calls (splitBatches terms.text)) :
    (query.finish now state).Called terms calls := by
  have ended (state' : QueryState) (same : (query.finish now state).state = state') :
      state' = .failed ∨ state' = state := by
    rw [← same, Query.finish]
    split
    · exact .inl rfl
    · exact .inr rfl
  refine ⟨isPrefix, fun completed => ?_, fun fresh => ?_⟩
  · rcases ended _ completed with failed | same
    · cases failed
    · exact whole same.symm
  · rcases ended _ fresh with failed | same
    · cases failed
    · exact absurd same.symm started

end Called

theorem called_create (owner text : String) (connection : Connection) (settings : Settings) :
    (create owner text connection settings).Called ⟨text, connection, settings⟩ [] :=
  ⟨List.nil_prefix, nofun, fun _ => rfl⟩

theorem called_begin {query begun : Query} {terms : Terms} {calls : List Call} {now : Instant}
    (rests : query.activity = .resting) (called : query.Called terms calls)
    (begins : query.begin now = .ok begun) : begun.Called terms calls := by
  obtain ⟨fresh, rfl⟩ := Stage.begin_eq_ok begins
  unfold Called at called
  rw [rests] at called
  rw [called.2.2 fresh]
  rfl

variable {η : Type} [Host η]

/-- Every step keeps the terms, and what it submits is next in the list of calls. -/
theorem ensures_called (now : Instant) (world : World (Recorded η)) {query : Query} {terms : Terms}
    {calls : List Call} (numbered : query.Numbered) (made : query.MadeWith terms)
    (called : query.Called terms calls) :
    ∃ new : List Submission,
      (query.step now world).1.host.submissions = world.host.submissions ++ new ∧
      (query.step now world).2.Ensures
        (fun next _ => next.MadeWith terms ∧ next.Called terms (calls ++ new.map Submission.call))
        (fun next _ => next.MadeWith terms ∧ next.Called terms (calls ++ new.map Submission.call)) := by
  have turn := query.turn now world
  revert turn
  rcases query.step now world with ⟨later, progress⟩
  intro turn
  -- Most steps submit nothing.
  have quiet {world : World (Recorded η)} {progress : Progress Query Query Happening}
      (keeps : progress.Ensures (fun next _ => next.MadeWith terms ∧ next.Called terms calls)
        fun next _ => next.MadeWith terms ∧ next.Called terms calls) :
      ∃ new : List Submission, world.host.submissions = world.host.submissions ++ new ∧
        progress.Ensures
          (fun next _ => next.MadeWith terms ∧ next.Called terms (calls ++ new.map Submission.call))
          fun next _ => next.MadeWith terms ∧ next.Called terms (calls ++ new.map Submission.call) :=
    ⟨[], (List.append_nil _).symm, by simpa only [List.map_nil, List.append_nil] using keeps⟩
  have isPrefix := called.isPrefix
  have finishes {state : QueryState} (started : state ≠ .notStarted)
      (whole : state = .completed → calls = terms.calls (splitBatches terms.text)) :
      (query.finish now state).MadeWith terms ∧ (query.finish now state).Called terms calls :=
    ⟨⟨made.text, made.connection, made.settings, made.batches⟩, .finish now started isPrefix whole⟩
  cases turn with
  | rested => exact quiet ⟨made, called⟩
  | exhausted chooses missing =>
    refine quiet (finishes nofun fun _ => ?_)
    unfold Called at called
    rw [chooses] at called
    rw [called, List.take_of_length_le]
    rw [← made.batches, List.length_map]
    exact List.getElem?_eq_none_iff.mp missing
  | halted | refused => exact quiet (finishes nofun nofun)
  | lost => exact quiet (finishes nofun nofun)
  | @begun index batch chooses found live fresh =>
    let later := { batch with started := some now }
    refine quiet ⟨made.setBatch numbered later found rfl rfl _, ?_⟩
    unfold Called at called
    rw [chooses] at called
    refine ⟨batch.text, 0, made.part_of_batch found, by simpa using called, ?_⟩
    change 0 + BatchRun.runsOf batch query.settings = terms.runs batch.text
    rw [Nat.zero_add, made.settings]
    rfl
  | @executed index phase batch executes found =>
    unfold Called at called
    rw [executes] at called
    obtain ⟨part, count, there, same, due⟩ := called
    obtain rfl : batch.text = part := Option.some.inj ((made.part_of_batch found).symm.trans there)
    obtain ⟨new, submitted, named, goes⟩ :=
      (query.runOf batch phase).submits now query.cancelRequested world
    have own : ((query.runOf batch phase).connection, (query.runOf batch phase).execution) =
        terms.call batch.text := by
      rw [Terms.call, ← made.connection, ← made.settings]
      rfl
    have further : calls ++ new.map Submission.call =
        terms.calls ((splitBatches terms.text).take index) ++
          List.replicate (count + new.length) (terms.call batch.text) := by
      rw [same, named, own, List.append_assoc, List.replicate_append_replicate]
    have inner : (query.runOf batch phase).batch.Numbered := (numbered _ _ found).2.2
    have numbers := BatchRun.ensures_numbered now query.cancelRequested world inner
    have fixed := (query.runOf batch phase).ensures_fixed now query.cancelRequested world
    refine ⟨new, submitted, Progress.ensures_within ?_⟩
    rw [further]
    refine ((numbers.and fixed).and (goes count (terms.runs batch.text) due)).imp ?_ ?_
    · rintro next _ ⟨⟨⟨id, -, -⟩, ⟨-, text⟩, -⟩, due⟩
      refine ⟨made.setBatch numbered next.batch found id text _, ?_⟩
      exact ⟨batch.text, count + new.length, there, rfl, due⟩
    · rintro done _ ⟨⟨⟨id, -, -⟩, -, text⟩, most, whole⟩
      refine ⟨made.setBatch numbered done.batch found id text _, ?_⟩
      have early := Terms.calls_amid_prefix there most
      unfold Called afterBatch
      cases outcome : done.outcome with
      | completed =>
        change _ = terms.calls ((splitBatches terms.text).take (index + 1))
        rw [whole outcome, Terms.calls_take_succ there]
        rfl
      | cancelled => exact ⟨early, .inl rfl⟩
      | failed => exact ⟨early, .inr rfl⟩
  | @closed state closes =>
    unfold Called at called
    rw [closes] at called
    refine quiet (finishes ?_ ?_)
    · rintro rfl
      simp at called
    · rintro rfl
      simp at called
  | announced announces =>
    unfold Called at called
    rw [announces] at called
    exact quiet ⟨⟨made.text, made.connection, made.settings, made.batches⟩, called⟩

theorem called_advance (now : Instant) (world : World (Recorded η)) {query : Query} {terms : Terms}
    {calls : List Call} (numbered : query.Numbered)
    (rests : query.state = .notStarted → query.activity = .resting) (made : query.MadeWith terms)
    (called : query.Called terms calls) :
    ∃ new : List Submission,
      (query.advance now world).1.host.submissions = world.host.submissions ++ new ∧
      (query.advance now world).2.1.MadeWith terms ∧
      (query.advance now world).2.1.Called terms (calls ++ new.map Submission.call) := by
  unfold advance
  cases begins : query.begin now with
  | ok begun =>
    obtain ⟨fresh, rfl⟩ := Stage.begin_eq_ok begins
    refine ⟨[], (List.append_nil _).symm, ⟨made.text, made.connection, made.settings, made.batches⟩, ?_⟩
    rw [List.map_nil, List.append_nil]
    exact called_begin (rests fresh) called begins
  | error error =>
    obtain ⟨new, submitted, goes⟩ := ensures_called now world numbered made called
    exact ⟨new, submitted, goes.outcome⟩

end Query

end SqlDesk
