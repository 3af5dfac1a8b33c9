import SqlDesk.Proofs.Query.Stage

/-! Once a query has been cancelled it starts no batch, submits nothing and stores no row, whenever
the cancellation comes and whatever happens afterwards. A result may still be begun, and it stays
empty. What has been stored stays as it is until the stores are closed. -/

set_option autoImplicit false

namespace SqlDesk

theorem RowStore.close_close (store : RowStore) : store.close.close = store.close := by
  obtain ⟨key, medium, published, isOpen, room⟩ := store
  cases medium <;> rfl

/-! Results, batches and queries that take in nothing. -/

/-- The store stays as it is, or it is closed where that may happen. -/
def ResultSet.Rests (closing : Prop) (before after : ResultSet) : Prop :=
  after.store = before.store ∨ closing ∧ after.store = before.store.close

namespace ResultSet.Rests

variable {closing : Prop} {first second third : ResultSet}

theorem trans (left : first.Rests closing second) (right : second.Rests closing third) :
    first.Rests closing third := by
  rcases left with same | ⟨may, closed⟩ <;> rcases right with still | ⟨may, again⟩
  · exact .inl (still.trans same)
  · exact .inr ⟨may, same ▸ again⟩
  · exact .inr ⟨may, still.trans closed⟩
  · exact .inr ⟨may, by rw [again, closed, RowStore.close_close]⟩

theorem rowCount (rests : first.Rests closing second) : second.rowCount = first.rowCount := by
  unfold ResultSet.rowCount
  rcases rests with same | ⟨-, closed⟩
  · rw [same]
  · rw [closed]
    rfl

theorem window (rests : first.Rests closing second) (opened : second.store.isOpen = true)
    (start count : Int) : second.window start count = first.window start count := by
  rcases rests with same | ⟨-, closed⟩
  · unfold ResultSet.window ResultSet.rowCount
    rw [same]
  · rw [closed] at opened
    cases opened

end ResultSet.Rests

structure Batch.Unfed (closing : Prop) (before after : Batch) : Prop where
  started : after.started = before.started
  kept : ∀ (place : Nat) (result : ResultSet), before.results[place]? = some result →
    ∃ later, after.results[place]? = some later ∧ result.Rests closing later
  fresh : ∀ (place : Nat) (result : ResultSet), after.results[place]? = some result →
    before.results[place]? = none → result.rowCount = 0

structure Query.Unfed (closing : Prop) (before after : Query) : Prop where
  length : after.batches.length = before.batches.length
  batches : ∀ (place : Nat) (batch : Batch), before.batches[place]? = some batch →
    ∃ later, after.batches[place]? = some later ∧ batch.Unfed closing later

namespace Batch.Unfed

variable {closing : Prop} {first second third : Batch}

theorem of_same (started : second.started = first.started) (same : second.results = first.results) :
    first.Unfed closing second where
  started := started
  kept _ result there := ⟨result, same ▸ there, .inl rfl⟩
  fresh place result there missing := by
    rw [same, missing] at there
    cases there

theorem trans (left : first.Unfed closing second) (right : second.Unfed closing third) :
    first.Unfed closing third where
  started := right.started.trans left.started
  kept place result there := by
    obtain ⟨later, found, rests⟩ := left.kept place result there
    obtain ⟨last, stands, still⟩ := right.kept place later found
    exact ⟨last, stands, rests.trans still⟩
  fresh place result there missing := by
    -- A result that has come in between was empty then and has taken in nothing since.
    cases middle : second.results[place]? with
    | none => exact right.fresh place result there middle
    | some between =>
      obtain ⟨last, stands, rests⟩ := right.kept place between middle
      rw [there] at stands
      cases stands
      rw [rests.rowCount]
      exact left.fresh place between middle missing

theorem of_map {β : Type} {f : ResultSet → β}
    (rests : ∀ left right : ResultSet, f left = f right → left.Rests closing right)
    (started : second.started = first.started)
    (same : second.results.map f = first.results.map f) : first.Unfed closing second where
  started := started
  kept place result there := by
    have found := congrArg (·[place]?) same
    simp only [List.getElem?_map, there, Option.map_some, Option.map_eq_some_iff] at found
    obtain ⟨later, stands, alike⟩ := found
    exact ⟨later, stands, rests _ _ alike.symm⟩
  fresh place _ there missing := by
    have found := congrArg (·[place]?) same
    simp [there, missing] at found

theorem close (batch : Batch) : batch.Unfed True batch.close where
  started := rfl
  kept place result there :=
    ⟨result.close, by simp [Batch.close, there], .inr ⟨trivial, rfl⟩⟩
  fresh place _ there missing := by simp [Batch.close, missing] at there

theorem create {batch : Batch} {store : RowStore} (empty : store.published = 0) (header : Header) :
    batch.Unfed closing
      { batch with results := batch.results ++ [ResultSet.ofHeader store header] } where
  started := rfl
  kept place result there := by
    have inside := (List.getElem?_eq_some_iff.mp there).1
    exact ⟨result, by rw [List.getElem?_append_left inside, there], .inl rfl⟩
  fresh place result there missing := by
    rw [List.getElem?_append_right (List.getElem?_eq_none_iff.mp missing),
      List.getElem?_singleton] at there
    split at there <;> cases there
    exact empty

theorem setResult {batch : Batch} (numbered : batch.Numbered) {result next : ResultSet}
    (last : batch.results.getLast? = some result) (same : next.store = result.store) :
    batch.Unfed closing (batch.setResult next) := by
  obtain ⟨earlier, results⟩ := List.getLast?_eq_some_iff.mp last
  have stands := Batch.results_setResult numbered results (congrArg RowStore.key same)
  have stores : (batch.setResult next).results.map ResultSet.store =
      batch.results.map ResultSet.store := by
    rw [stands, results, List.map_append, List.map_append, List.map_singleton,
      List.map_singleton, same]
  exact of_map (fun _ _ alike => .inl alike.symm) rfl stores

end Batch.Unfed

namespace Query.Unfed

variable {closing : Prop} {first second third : Query}

theorem of_batches (same : second.batches = first.batches) : first.Unfed closing second where
  length := congrArg List.length same
  batches _ batch there := ⟨batch, same ▸ there, .of_same rfl rfl⟩

theorem imp {other : Prop} (weaker : closing → other) (unfed : first.Unfed closing second) :
    first.Unfed other second where
  length := unfed.length
  batches place batch there := by
    obtain ⟨later, found, started, kept, fresh⟩ := unfed.batches place batch there
    refine ⟨later, found, started, fun number result inside => ?_, fresh⟩
    obtain ⟨last, stands, rests⟩ := kept number result inside
    exact ⟨last, stands, rests.imp_right fun ⟨closes, same⟩ => ⟨weaker closes, same⟩⟩

theorem trans (left : first.Unfed closing second) (right : second.Unfed closing third) :
    first.Unfed closing third where
  length := right.length.trans left.length
  batches place batch there := by
    obtain ⟨later, found, unfed⟩ := left.batches place batch there
    obtain ⟨last, stands, still⟩ := right.batches place later found
    exact ⟨last, stands, unfed.trans still⟩

theorem set {query next : Query} {index : Nat} {batch later : Batch}
    (found : query.batches[index]? = some batch)
    (batches : next.batches = query.batches.set index later) (unfed : batch.Unfed closing later) :
    query.Unfed closing next where
  length := by rw [batches, List.length_set]
  batches place other there := by
    rw [batches]
    by_cases here : index = place
    · subst here
      rw [found] at there
      cases there
      exact ⟨later, List.getElem?_set_self (List.getElem?_eq_some_iff.mp found).1, unfed⟩
    · exact ⟨other, (List.getElem?_set_ne here).trans there, .of_same rfl rfl⟩

theorem dispose (query : Query) : query.Unfed True query.dispose where
  length := by simp [Query.dispose]
  batches place batch there := ⟨batch.close, by simp [Query.dispose, there], .close batch⟩

theorem of_unsaved {query next : Query}
    (same : next.mapResults ResultSet.unsaved = query.mapResults ResultSet.unsaved) :
    query.Unfed closing next where
  length := by simpa [mapResults] using congrArg (List.length ∘ Query.batches) same
  batches place batch there := by
    have batches := congrArg (fun query : Query => query.batches[place]?) same
    simp only [mapResults, List.getElem?_map, there, Option.map_some,
      Option.map_eq_some_iff] at batches
    obtain ⟨later, stands, alike⟩ := batches
    have started : (later.mapResults ResultSet.unsaved).started =
        (batch.mapResults ResultSet.unsaved).started := by rw [alike]
    refine ⟨later, stands, .of_map ?_ started (congrArg Batch.results alike)⟩
    intro left right equal
    exact .inl (congrArg ResultSet.store equal).symm

end Query.Unfed

/-! One step after cancellation. -/

theorem Reading.ensures_store (options : ReadOptions) (reading : Reading) :
    (reading.step options true).Ensures
      (fun next _ => next.result.store = reading.result.store)
      (fun done _ => done.result.store = reading.result.store) := by
  have turn := reading.turn options true
  generalize reading.step options true = progress at turn
  cases turn with
  | stored _ live => cases live
  | _ => rfl

section

variable {η : Type} [Host η]

theorem BatchRun.ensures_unfed (now : Instant) (world : World η) {run : BatchRun}
    (numbered : run.batch.Numbered) :
    (run.step now true world).1.host = world.host ∧
      (run.step now true world).2.Ensures (fun next _ => run.batch.Unfed False next.batch)
        (fun done _ => run.batch.Unfed False done.batch) := by
  have turn := run.turn now true world
  revert turn
  rcases run.step now true world with ⟨later, progress⟩
  intro turn
  -- A batch that has been cancelled may still make a result, but no row goes into one.
  cases turn with
  | submitted _ live => cases live
  | created _ made =>
    exact ⟨rfl, .create (StoreMaker.create_keeps made).1.published _⟩
  | read _ last =>
    refine ⟨rfl, Progress.ensures_mapEvent (Progress.ensures_within ?_)⟩
    refine (Reading.ensures_store _ _).imp ?_ ?_
    · intro next _ same
      exact .setResult numbered last same
    · intro done _ same
      exact .setResult numbered last same
  | _ => exact ⟨rfl, .of_same rfl rfl⟩

theorem Query.ensures_unfed (now : Instant) (world : World η) {query : Query}
    (numbered : query.Numbered) (signalled : query.cancelRequested = true) :
    (query.step now world).1.host = world.host ∧
      (query.step now world).2.Ensures
        (fun next _ => next.cancelRequested = true ∧ query.Unfed False next)
        (fun next _ => next.cancelRequested = true ∧ query.Unfed False next) := by
  have turn := query.turn now world
  revert turn
  rcases query.step now world with ⟨later, progress⟩
  intro turn
  -- No other batch is taken up any more, and the one under way is not fed.
  cases turn with
  | begun _ _ live => simp [signalled] at live
  | @executed index phase batch _ found =>
    rw [signalled]
    have inner : (query.runOf batch phase).batch.Numbered := (numbered _ _ found).2.2
    have quiet := BatchRun.ensures_unfed now world inner
    refine ⟨quiet.1, Progress.ensures_within ?_⟩
    refine ((BatchRun.ensures_numbered now true world inner).and quiet.2).imp ?_ ?_
    · rintro next _ ⟨⟨id, -, -⟩, unfed⟩
      exact ⟨signalled, .set found (batches_setBatch numbered found id) unfed⟩
    · rintro done _ ⟨⟨id, -, -⟩, unfed⟩
      exact ⟨signalled, .set found (batches_setBatch numbered found id) unfed⟩
  | _ => exact ⟨rfl, signalled, .of_batches rfl⟩

end

namespace Query.Unfed

theorem started {closing : Prop} {before after : Query} (unfed : before.Unfed closing after) :
    after.batches.map Batch.started = before.batches.map Batch.started := by
  apply List.ext_getElem?
  intro place
  rw [List.getElem?_map, List.getElem?_map]
  cases there : before.batches[place]? with
  | none =>
    have missing : after.batches[place]? = none := by
      rw [List.getElem?_eq_none_iff, unfed.length]
      exact List.getElem?_eq_none_iff.mp there
    rw [missing]
  | some batch =>
    obtain ⟨later, found, same⟩ := unfed.batches place batch there
    simp [found, same.started]

end Query.Unfed

theorem Query.result_eq_ok_iff {query : Query} {batchId resultId : Nat} {result : ResultSet} :
    query.result batchId resultId = .ok result ↔
      ∃ batch, query.batches[batchId]? = some batch ∧ batch.results[resultId]? = some result := by
  unfold Query.result Query.batch
  cases there : query.batches[batchId]? with
  | none => simp [bind, Except.bind]
  | some batch =>
    cases inner : batch.results[resultId]? <;>
      simp [bind, Except.bind, Batch.result, inner]

namespace Stage

variable {η α : Type} [Host η]

theorem Does.unfed {act : Act} {stage next : Stage η α} (does : Does act stage next)
    (numbered : stage.query.Numbered) (signalled : stage.query.cancelRequested = true) :
    next.query.cancelRequested = true ∧ next.submissions = stage.submissions ∧
      stage.query.Unfed (act = .disposes) next.query := by
  cases does with
  | begins now accepted =>
    obtain ⟨-, rfl⟩ := begin_eq_ok accepted
    exact ⟨signalled, rfl, .of_batches rfl⟩
  | steps now =>
    obtain ⟨host, quiet⟩ := Query.ensures_unfed now stage.world numbered signalled
    exact ⟨quiet.outcome.1, congrArg Recorded.submissions host, quiet.outcome.2.imp False.elim⟩
  | cancels accepted =>
    unfold Query.cancel at accepted
    split at accepted <;> cases accepted
    exact ⟨rfl, rfl, .of_batches rfl⟩
  | disposes =>
    have closed : stage.query.Unfed (Act.disposes = .disposes) stage.query.dispose := by
      simpa using Query.Unfed.dispose stage.query
    exact ⟨by simp [withQuery, Query.dispose, signalled], rfl, closed⟩
  | @saves _ batchId resultId path query accepted =>
    have same := Query.unsaved_beginSave numbered accepted
    have signal : (query.mapResults ResultSet.unsaved).cancelRequested =
        (stage.query.mapResults ResultSet.unsaved).cancelRequested := by rw [same]
    exact ⟨signal.trans signalled, rfl, .of_unsaved same⟩
  | saved tree batchId resultId request =>
    have same := Query.unsaved_runSave tree numbered batchId resultId request
    have signal := congrArg Query.cancelRequested same
    exact ⟨signal.trans signalled, rfl, .of_unsaved same⟩
  | subscribes member => exact ⟨signalled, rfl, .of_batches rfl⟩
  | elsewhere others => exact ⟨signalled, others, .of_batches rfl⟩

theorem Course.unfed {allowed : Act → Prop} {fired final : Stage η α}
    (course : Course allowed fired final) (numbered : fired.query.Numbered)
    (signalled : fired.query.cancelRequested = true) :
    final.submissions = fired.submissions ∧
      fired.query.Unfed (allowed .disposes) final.query := by
  have kept : final.query.Numbered ∧ final.query.cancelRequested = true ∧
      final.submissions = fired.submissions ∧
      fired.query.Unfed (allowed .disposes) final.query := by
    refine course.preserves (fun stage => stage.query.Numbered ∧
      stage.query.cancelRequested = true ∧ stage.submissions = fired.submissions ∧
      fired.query.Unfed (allowed .disposes) stage.query) ?_
      ⟨numbered, signalled, rfl, .of_batches rfl⟩
    rintro act first second permitted does ⟨numbers, fires, quiet, unfed⟩
    obtain ⟨still, silent, next⟩ := does.unfed numbers fires
    have closes : act = .disposes → allowed .disposes := fun same => same ▸ permitted
    exact ⟨does.numbered numbers, still, silent.trans quiet, unfed.trans (next.imp closes)⟩
  exact kept.2.2

/-- After the moment at which a query is cancelled, whichever that is, nothing is submitted, no batch
starts, every store stays as it is unless the query is disposed of, and whatever result is still begun
stays empty. A result whose store is open reads as it did at that moment. -/
theorem nothing_new_once_cancelled (owner text : String) (connection : Connection)
    (settings : Settings) (host : η) (maker : StoreMaker) {allowed : Act → Prop}
    {fired final : Stage η α}
    (reached : Course (fun _ => True) (ofQuery host maker (.create owner text connection settings))
      fired)
    (signalled : fired.query.cancelRequested = true) (later : Course allowed fired final) :
    final.submissions = fired.submissions ∧
      final.query.batches.map Batch.started = fired.query.batches.map Batch.started ∧
      (∀ (batchId resultId : Nat) (result : ResultSet),
        fired.query.result batchId resultId = .ok result →
        ∃ kept, final.query.result batchId resultId = .ok kept ∧
          (kept.store = result.store ∨ allowed .disposes ∧ kept.store = result.store.close) ∧
          (kept.store.isOpen = true →
            ∀ start count, kept.window start count = result.window start count)) ∧
      ∀ (batchId resultId : Nat) (new : ResultSet) (error : QueryError),
        final.query.result batchId resultId = .ok new →
        fired.query.result batchId resultId = .error error → new.rowCount = 0 := by
  have numbered := reached.numbered (Query.numbered_of_create owner text connection settings)
  obtain ⟨quiet, unfed⟩ := later.unfed numbered signalled
  refine ⟨quiet, unfed.started, ?_, ?_⟩
  · intro batchId resultId result there
    obtain ⟨batch, found, inner⟩ := Query.result_eq_ok_iff.mp there
    obtain ⟨last, stands, same⟩ := unfed.batches batchId batch found
    obtain ⟨kept, isThere, rests⟩ := same.kept resultId result inner
    exact ⟨kept, Query.result_eq_ok_iff.mpr ⟨last, stands, isThere⟩, rests, rests.window⟩
  · intro batchId resultId new error there missing
    obtain ⟨last, stands, inner⟩ := Query.result_eq_ok_iff.mp there
    have inside : batchId < fired.query.batches.length := by
      rw [← unfed.length]
      exact (List.getElem?_eq_some_iff.mp stands).1
    obtain ⟨after, found, same⟩ :=
      unfed.batches batchId _ (List.getElem?_eq_getElem inside)
    rw [stands] at found
    cases found
    refine same.fresh resultId new inner ?_
    -- The batch was there already, so it is its result that was missing.
    cases before : fired.query.batches[batchId].results[resultId]? with
    | none => rfl
    | some result =>
      have present : fired.query.result batchId resultId = .ok result :=
        Query.result_eq_ok_iff.mpr ⟨_, List.getElem?_eq_getElem inside, before⟩
      rw [present] at missing
      cases missing

/-- Two batches on a source that gives two rows and then hangs. -/
def created : Stage (Array Replay) Unit :=
  ofQuery #[⟨[[.result ⟨⟨[], false⟩, [.row [.int64 1], .row [.int64 2]], some .hangs⟩]], []⟩] .file
    (.create "o" "select 1\ngo\nselect 2" 0 .standard)

def begun : Stage (Array Replay) Unit :=
  created.withQuery { created.query with
    state := .running, started := some ⟨0, 0⟩, activity := .choosing 0 }

/-- Both rows have been stored, and the source gives nothing more. -/
def hung : Stage (Array Replay) Unit := (step ⟨0, 0⟩)^[10] begun

def hungCancelled : Stage (Array Replay) Unit :=
  hung.withQuery { hung.query with cancelRequested := true }

theorem nothing_new_once_cancelled_hung :
    hungCancelled.query.cancelRequested = true ∧
      ((step ⟨1, 0⟩)^[10] hungCancelled).query.state = .cancelled ∧
      ((step ⟨1, 0⟩)^[10] hungCancelled).submissions = hungCancelled.submissions ∧
      hungCancelled.submissions.length = 1 ∧
      ∃ kept, ((step ⟨1, 0⟩)^[10] hungCancelled).query.result 0 0 = .ok kept ∧
        kept.store.isOpen = true ∧ kept.store.read 0 9 = .ok [[.int64 1], [.int64 2]] := by
  have fresh : created.query.begin ⟨0, 0⟩ = .ok begun.query := if_pos rfl
  have first : Course (fun _ => True) created begun :=
    .single .begins trivial (.begins ⟨0, 0⟩ fresh)
  have running : hung.query.cancel = .ok hungCancelled.query := by
    unfold Query.cancel
    rw [if_neg (by decide +kernel)]
    rfl
  have reached : Course (fun _ => True) created hungCancelled :=
    (first.trans (course_steps trivial _ 10 begun)).tail ⟨.cancels, trivial, .cancels running⟩
  have later : Course (fun act => act ≠ .disposes) hungCancelled ((step ⟨1, 0⟩)^[10] hungCancelled) :=
    course_steps (by simp) _ 10 hungCancelled
  obtain ⟨quiet, -, stays, -⟩ := nothing_new_once_cancelled "o" _ 0 _ _ _ reached rfl later
  have shown : (hungCancelled.query.result 0 0).toOption.map
      (fun result => (result.store.isOpen, result.store.read 0 9)) =
        some (true, .ok [[.int64 1], [.int64 2]]) := by decide +kernel
  refine ⟨rfl, by decide +kernel, quiet, by decide +kernel, ?_⟩
  cases there : hungCancelled.query.result 0 0 with
  | error error =>
    rw [there] at shown
    cases shown
  | ok result =>
    rw [there] at shown
    obtain ⟨kept, stands, same | ⟨disposed, -⟩, -⟩ := stays 0 0 result there
    · obtain ⟨opened, rows⟩ := Prod.mk.inj (Option.some.inj shown)
      exact ⟨kept, stands, same ▸ opened, same ▸ rows⟩
    · exact absurd rfl disposed

end Stage

end SqlDesk
