import SqlDesk.Proofs.Desk.Office
import SqlDesk.Proofs.Query.Cancellation

/-! What one step of a query does to its results. It leaves them as they are, begins a new one, or goes
on with the last one of the batch under way: stores a row there or completes it. Whatever is to be said
of results over a run can be taken from these cases. -/

set_option autoImplicit false

namespace SqlDesk

def ResultEvent.isUpdate : ResultEvent → Bool
  | updated _ => true
  | available _ | completed _ => false

def Happening.isUpdate : Happening → Bool
  | resultUpdated _ => true
  | batchStarted _ | batchCompleted _ | resultAvailable _ | resultCompleted _ | message _
  | queryCompleted _ => false

/-- What a step of a reading does to its result, and what it tells. -/
inductive ResultSet.Develops (options : ReadOptions) (result : ResultSet) :
    ResultSet → List ResultEvent → Prop where
  | rests {told : List ResultEvent} (quiet : ∀ event ∈ told, event.isUpdate = false) :
      Develops options result result told
  | ends (incomplete : result.complete = false) :
      Develops options result { result with complete := true } []
  | grows {row : Row} {store : RowStore} (incomplete : result.complete = false)
      (below : Reading.isAtLimit options result = false)
      (appended : result.store.append row = .ok store) :
      Develops options result { result with store }
        (Reading.eventFor options (decide (0 < result.rowCount)) { result with store }).toList

theorem ResultSet.Develops.key {options : ReadOptions} {result next : ResultSet}
    {told : List ResultEvent} (develops : result.Develops options next told) :
    next.store.key = result.store.key := by
  cases develops with
  | rests | ends => rfl
  | grows _ _ appended => exact RowStore.key_of_append appended

/-- A result that is being read is not complete, and has been announced if it has a row. -/
def ReadPhase.Attends (result : ResultSet) : ReadPhase → Prop
  | .fetching announced => result.complete = false ∧ announced = decide (0 < result.rowCount)
  | .announcing _ | .completing _ => True

namespace Reading

theorem ensures_develops (options : ReadOptions) (cancelled : Bool) {reading : Reading}
    (attends : reading.phase.Attends reading.result) :
    (reading.step options cancelled).Ensures
      (fun next told => reading.result.Develops options next.result told ∧
        next.phase.Attends next.result)
      (fun done told => reading.result.Develops options done.result told) := by
  have turn := reading.turn options cancelled
  generalize reading.step options cancelled = progress at turn
  have finished (reading : Reading) (announced : Bool) (outcome : ReadOutcome) :
      (reading.finish announced outcome).phase.Attends (reading.finish announced outcome).result := by
    cases announced <;> trivial
  have silent : ∀ event ∈ ([] : List ResultEvent), event.isUpdate = false := nofun
  -- A result grows only by a row that is stored; all other turns end it or leave it.
  cases turn with
  | cancelled phase | exhausted phase | failed phase | refused phase =>
    rw [phase] at attends
    exact ⟨.ends attends.1, finished _ _ _⟩
  | waits phase | dropped phase =>
    rw [phase] at attends
    exact ⟨.rests silent, by rw [phase]; exact attends⟩
  | @stored announced cursor row store phase live fetched below appended =>
    rw [phase] at attends
    obtain ⟨incomplete, rfl⟩ := attends
    refine ⟨.grows incomplete below appended, incomplete, ?_⟩
    have more := RowStore.published_of_append appended
    simp [ResultSet.rowCount, more]
  | announced => exact ⟨.rests (by simp [ResultEvent.isUpdate]), trivial⟩
  | completed => exact .rests (by simp [ResultEvent.isUpdate])

end Reading

namespace BatchRun

/-- What a step of a batch does to its results, and what it tells. -/
inductive Develops (run : BatchRun) : Batch → List Happening → Prop where
  | rests {next : Batch} {told : List Happening} (same : next.results = run.batch.results)
      (quiet : ∀ happening ∈ told, happening.isUpdate = false) : Develops run next told
  | begins {next : Batch} {store : RowStore} (header : Header) (empty : store.published = 0)
      (results : next.results = run.batch.results ++ [ResultSet.ofHeader store header]) :
      Develops run next []
  | reads {next : Batch} {earlier : List ResultSet} {result later : ResultSet}
      {told : List ResultEvent} (results : run.batch.results = earlier ++ [result])
      (develops : result.Develops (.ofSettings run.settings) later told)
      (after : next.results = earlier ++ [later]) :
      Develops run next (told.map ResultEvent.happening)

/-- The result that is read stands as its reading has left it. -/
def Attends (run : BatchRun) : Prop :=
  match run.phase with
  | .reading _ _ phase => ∀ result, run.batch.results.getLast? = some result →
      phase.Attends result
  | _ => True

theorem ensures_develops {η : Type} [Host η] (now : Instant) (cancelled : Bool) (world : World η)
    {run : BatchRun} (numbered : run.batch.Numbered) (attends : run.Attends) :
    (run.step now cancelled world).2.Ensures
      (fun next told => run.Develops next.batch told ∧ next.Attends)
      (fun done told => run.Develops done.batch told) := by
  have turn := run.turn now cancelled world
  revert turn
  rcases run.step now cancelled world with ⟨later, progress⟩
  intro turn
  have silent : ∀ happening ∈ ([] : List Happening), happening.isUpdate = false := nofun
  -- Results are made in one turn and read in another; all others leave them.
  cases turn with
  | created _ made =>
    have empty := (StoreMaker.create_keeps made).1.published
    refine ⟨.begins _ empty rfl, fun result last => ?_⟩
    change (run.batch.results ++ [ResultSet.ofHeader _ _]).getLast? = some result at last
    rw [List.getLast?_concat] at last
    cases last
    refine ⟨rfl, ?_⟩
    simp [ResultSet.ofHeader, ResultSet.rowCount, empty]
  | @read left cursor readPhase result phase last =>
    obtain ⟨earlier, results⟩ := List.getLast?_eq_some_iff.mp last
    unfold Attends at attends
    rw [phase] at attends
    have attending : readPhase.Attends (Reading.mk result cursor readPhase).result :=
      attends result last
    refine Progress.ensures_mapEvent (Progress.ensures_within ?_)
    refine (Reading.ensures_develops (.ofSettings run.settings) cancelled attending).imp ?_ ?_
    · rintro next told ⟨develops, attends⟩
      have after := Batch.results_setResult numbered results develops.key
      refine ⟨.reads results develops after, fun found isLast => ?_⟩
      change (run.batch.setResult next.result).results.getLast? = some found at isLast
      rw [after, List.getLast?_concat] at isLast
      cases isLast
      exact attends
    · intro done told develops
      have after := Batch.results_setResult numbered results develops.key
      exact ⟨.reads results develops after, trivial⟩
  | completed => exact .rests rfl (by simp [Happening.isUpdate])
  | started | erred | remarked | cancelled | failed | succeeded | told =>
    exact ⟨.rests rfl (by simp [Happening.isUpdate]), trivial⟩
  | unopened phase => exact ⟨.rests rfl silent, by unfold Attends; rw [phase]; trivial⟩
  | _ => exact ⟨.rests rfl silent, trivial⟩

end BatchRun

namespace Query

def resultAt (query : Query) (batchId resultId : Nat) : Option ResultSet :=
  (query.batches[batchId]?).bind fun batch => batch.results[resultId]?

theorem resultAt_eq_some {query : Query} {batchId resultId : Nat} {result : ResultSet} :
    query.resultAt batchId resultId = some result ↔ query.result batchId resultId = .ok result := by
  rw [resultAt, Option.bind_eq_some_iff, result_eq_ok_iff]

theorem resultAt_of_batches {query next : Query} (same : next.batches = query.batches)
    (batchId resultId : Nat) : next.resultAt batchId resultId = query.resultAt batchId resultId := by
  rw [resultAt, resultAt, same]

theorem resultAt_mapResults (f : ResultSet → ResultSet) (query : Query) (batchId resultId : Nat) :
    (query.mapResults f).resultAt batchId resultId = (query.resultAt batchId resultId).map f := by
  rw [resultAt, resultAt, mapResults, List.getElem?_map]
  cases query.batches[batchId]? with
  | none => rfl
  | some batch => exact List.getElem?_map

theorem resultAt_create (owner text : String) (connection : Connection) (settings : Settings)
    (batchId resultId : Nat) :
    (create owner text connection settings).resultAt batchId resultId = none := by
  unfold resultAt
  cases found : (create owner text connection settings).batches[batchId]? with
  | none => rfl
  | some batch =>
    obtain ⟨part, -, rfl⟩ := batchesOf_getElem? owner text found
    rfl

theorem Numbered.resultAt {query : Query} (numbered : query.Numbered) {batchId resultId : Nat}
    {result : ResultSet} (found : query.resultAt batchId resultId = some result) :
    result.batchId = batchId ∧ result.id = resultId := by
  obtain ⟨batch, there, inner⟩ := result_eq_ok_iff.mp (resultAt_eq_some.mp found)
  obtain ⟨id, -, places⟩ := numbered batchId batch there
  rw [ResultSet.batchId, ResultSet.id, places resultId result inner]
  exact ⟨id, rfl⟩

theorem resultAt_set {query next : Query} {index : Nat} {batch later : Batch}
    (found : query.batches[index]? = some batch)
    (batches : next.batches = query.batches.set index later) (batchId resultId : Nat) :
    next.resultAt batchId resultId =
      if batchId = index then later.results[resultId]? else query.resultAt batchId resultId := by
  rw [resultAt, batches]
  split
  · rename_i here
    rw [here, List.getElem?_set_self (List.getElem?_eq_some_iff.mp found).1]
    rfl
  · rename_i apart
    rw [List.getElem?_set_ne (Ne.symm apart), resultAt]

/-- What a step does to the results of a query, and what it tells. -/
inductive Develops (query : Query) : Query → List Happening → Prop where
  | rests {next : Query} {told : List Happening}
      (same : ∀ batchId resultId, next.resultAt batchId resultId = query.resultAt batchId resultId)
      (quiet : ∀ happening ∈ told, happening.isUpdate = false) : Develops query next told
  | begins {next : Query} {store : RowStore} (index number : Nat) (header : Header)
      (vacant : query.resultAt index number = none) (empty : store.published = 0)
      (after : ∀ batchId resultId, next.resultAt batchId resultId =
        if batchId = index ∧ resultId = number then some (ResultSet.ofHeader store header)
        else query.resultAt batchId resultId) : Develops query next []
  | reads {next : Query} {result later : ResultSet} {told : List ResultEvent} (index number : Nat)
      (found : query.resultAt index number = some result)
      (develops : result.Develops (.ofSettings query.settings) later told)
      (after : ∀ batchId resultId, next.resultAt batchId resultId =
        if batchId = index ∧ resultId = number then some later
        else query.resultAt batchId resultId) :
      Develops query next (told.map ResultEvent.happening)

theorem getElem?_concat_eq {α : Type} (earlier : List α) (last : α) (place : Nat) :
    (earlier ++ [last])[place]? = if place = earlier.length then some last else earlier[place]? := by
  split
  · rename_i here
    rw [here]
    exact List.getElem?_concat_length
  · rename_i apart
    rcases Nat.lt_or_gt_of_ne apart with inside | outside
    · exact List.getElem?_append_left inside
    · rw [List.getElem?_eq_none_iff.mpr (by simp; omega), List.getElem?_eq_none_iff.mpr (by omega)]

theorem Develops.of_run {query next : Query} {index : Nat} {phase : BatchPhase} {batch later : Batch}
    {told : List Happening} (found : query.batches[index]? = some batch)
    (batches : next.batches = query.batches.set index later)
    (develops : (query.runOf batch phase).Develops later told) : query.Develops next told := by
  -- The results of the other batches are where they were.
  have after := resultAt_set found batches
  have own (number : Nat) : query.resultAt index number = batch.results[number]? := by
    rw [resultAt, found]
    rfl
  cases develops with
  | rests same quiet =>
    refine .rests (fun batchId resultId => ?_) quiet
    rw [after]
    split
    · rename_i here
      rw [same, here, own]
      rfl
    · rfl
  | @begins store header empty results =>
    refine .begins index batch.results.length header ?_ empty fun batchId resultId => ?_
    · rw [own]
      exact List.getElem?_eq_none (Nat.le_refl _)
    · change later.results = batch.results ++ _ at results
      rw [after, results, getElem?_concat_eq]
      by_cases here : batchId = index
      · rw [if_pos here, here, own]
        simp only [true_and]
      · rw [if_neg here, if_neg fun both => here both.1]
  | @reads earlier result result' told results develops stands =>
    change batch.results = earlier ++ [result] at results
    have found : query.resultAt index earlier.length = some result := by
      rw [own, results]
      exact List.getElem?_concat_length
    refine .reads index earlier.length found develops fun batchId resultId => ?_
    rw [after, stands, getElem?_concat_eq]
    by_cases here : batchId = index
    · rw [if_pos here, here, own, results, getElem?_concat_eq]
      simp only [true_and]
      split <;> rfl
    · rw [if_neg here, if_neg fun both => here both.1]

def Attends (query : Query) : Prop :=
  ∀ index phase batch, query.activity = .executing index phase → query.batches[index]? = some batch →
    (query.runOf batch phase).Attends

theorem attends_of_idle {query : Query} (idle : ∀ index phase, query.activity ≠ .executing index phase) :
    query.Attends := fun index phase _ executes => absurd executes (idle index phase)

theorem Attends.of_bare {query next : Query} (attends : query.Attends)
    (activity : next.activity = query.activity) (same : next.bare = query.bare) : next.Attends := by
  intro index phase batch executes found
  rw [activity] at executes
  obtain ⟨before, there, alike⟩ := batch_of_bare same.symm found
  have earlier := attends index phase before executes there
  unfold BatchRun.Attends at earlier ⊢
  cases phase with
  | reading left cursor readPhase =>
    intro result last
    -- The last result has the same bare form on both sides, and with it the count of rows.
    have results : before.results.map ResultSet.bare = batch.results.map ResultSet.bare :=
      congrArg Batch.results alike
    have ends := congrArg List.getLast? results
    rw [List.getLast?_map, List.getLast?_map, show batch.results.getLast? = some result from last,
      Option.map_some, Option.map_eq_some_iff] at ends
    obtain ⟨original, isLast, bare⟩ := ends
    have attended := earlier original isLast
    have complete : original.bare.complete = result.bare.complete := by rw [bare]
    have rowCount : original.bare.rowCount = result.bare.rowCount := by rw [bare]
    change original.complete = result.complete at complete
    change original.rowCount = result.rowCount at rowCount
    cases readPhase with
    | fetching announced =>
      unfold ReadPhase.Attends at attended ⊢
      rw [← complete, ← rowCount]
      exact attended
    | announcing | completing => trivial
  | _ => trivial

/-- Requests leave a query as it is but for saves, media and the wish to cancel. -/
theorem bare_of_asked {query next : Query} (numbered : query.Numbered)
    (asked : Relation.ReflTransGen Query.Asked query next) :
    next.bare = query.bare ∧ next.activity = query.activity := by
  induction asked with
  | refl => exact ⟨rfl, rfl⟩
  | tail _ asked ih =>
    obtain ⟨bare, activity⟩ := ih
    have still := numbered_of_bare bare.symm numbered
    exact ⟨(asked.bare still).trans bare, asked.same.2.2.1.trans activity⟩

theorem attends_withRun {query : Query} {index : Nat} {batch : Batch} {run : BatchRun}
    (numbered : query.Numbered) (found : query.batches[index]? = some batch)
    (id : run.batch.id = batch.id) (attends : run.Attends) : (query.withRun index run).Attends := by
  intro other phase later executes there
  cases executes
  have batches : (query.withRun index run).batches = query.batches.set index run.batch :=
    batches_setBatch numbered found id
  rw [batches, List.getElem?_set_self (List.getElem?_eq_some_iff.mp found).1] at there
  cases there
  exact attends

variable {η : Type} [Host η]

theorem ensures_develops (now : Instant) (world : World η) {query : Query}
    (numbered : query.Numbered) (attends : query.Attends) :
    (query.step now world).2.Ensures (fun next told => query.Develops next told ∧ next.Attends)
      (fun next told => query.Develops next told ∧ next.Attends) := by
  have turn := query.turn now world
  revert turn
  rcases query.step now world with ⟨later, progress⟩
  intro turn
  have silent : ∀ happening ∈ ([] : List Happening), happening.isUpdate = false := nofun
  have quiet {next : Query} (same : next.batches = query.batches) : query.Develops next [] :=
    .rests (resultAt_of_batches same) silent
  -- A batch is written to when it is begun and while it executes, and otherwise never.
  cases turn with
  | rested rests => exact ⟨quiet rfl, attends⟩
  | exhausted | halted | refused | lost | closed =>
    exact ⟨quiet rfl, attends_of_idle fun _ _ => nofun⟩
  | announced =>
    refine ⟨.rests (resultAt_of_batches rfl) ?_, attends_of_idle fun _ _ => nofun⟩
    simp [Happening.isUpdate]
  | @begun index batch chooses found =>
    refine ⟨.rests (fun batchId resultId => ?_) silent, attends_withRun numbered found rfl trivial⟩
    let begun := { batch with started := some now }
    have batches : (query.setBatch begun).batches = query.batches.set index begun :=
      batches_setBatch numbered found rfl
    refine (resultAt_set found batches batchId resultId).trans ?_
    split
    · rename_i here
      rw [here, resultAt, found]
      rfl
    · rfl
  | @executed index phase batch executes found =>
    have inner : (query.runOf batch phase).batch.Numbered := (numbered _ _ found).2.2
    have attended := attends index phase batch executes found
    refine Progress.ensures_within ?_
    refine ((BatchRun.ensures_numbered now query.cancelRequested world inner).and
      (BatchRun.ensures_develops now query.cancelRequested world inner attended)).imp ?_ ?_
    · rintro next told ⟨⟨id, -, -⟩, develops, attends⟩
      exact ⟨.of_run found (batches_setBatch numbered found id) develops,
        attends_withRun numbered found id attends⟩
    · rintro done told ⟨⟨id, -, -⟩, develops⟩
      refine ⟨.of_run found (batches_setBatch numbered found id) develops, ?_⟩
      apply attends_of_idle
      intro other phase
      unfold afterBatch
      cases done.outcome <;> exact nofun

theorem develops_advance (now : Instant) (world : World η) {query : Query}
    (numbered : query.Numbered) (attends : query.Attends) :
    query.Develops (query.advance now world).2.1 (query.advance now world).2.2 ∧
      (query.advance now world).2.1.Attends := by
  unfold advance
  cases begins : query.begin now with
  | ok begun =>
    obtain ⟨-, rfl⟩ := Stage.begin_eq_ok begins
    exact ⟨.rests (resultAt_of_batches rfl) nofun, attends_of_idle fun _ _ => nofun⟩
  | error error => exact (ensures_develops now world numbered attends).outcome

end Query

end SqlDesk
