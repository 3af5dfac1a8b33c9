import SqlDesk.Proofs.Batch.Winding
import SqlDesk.Proofs.Query.Cancellation
import SqlDesk.Proofs.Query.Ending

/-! What is left open of a query that has been disposed of. Disposing closes the stores that are there
and signals cancellation. If a header has been taken by then or can still be taken, one more result is
begun; its store stays empty, and nobody closes it. All other stores are closed, and no other comes. -/

set_option autoImplicit false

namespace SqlDesk

namespace Query

def stores (query : Query) : List (List RowStore) := query.batches.map Batch.stores

/-- The store of a result, by the numbers of its batch and of itself. -/
def storeAt (query : Query) (place : Nat × Nat) : Option RowStore :=
  query.stores[place.1]?.bind (·[place.2]?)

/-- The result that is still begun after cancellation. -/
def due? (query : Query) : Option (Nat × Nat) :=
  match query.activity with
  | .executing index phase => query.stores[index]?.bind fun stores =>
      if phase.owes stores.length then some (index, stores.length) else none
  | .resting | .choosing _ | .closing _ | .announcing => none

theorem storeAt_of_result {query : Query} {batchId resultId : Nat} {result : ResultSet}
    (found : query.result batchId resultId = .ok result) :
    query.storeAt (batchId, resultId) = some result.store := by
  obtain ⟨batch, there, inner⟩ := result_eq_ok_iff.mp found
  simp [storeAt, stores, there, Batch.stores, inner]

theorem result_of_storeAt {query : Query} {place : Nat × Nat} {store : RowStore}
    (found : query.storeAt place = some store) :
    ∃ result, query.result place.1 place.2 = .ok result ∧ result.store = store := by
  simp only [storeAt, stores, List.getElem?_map, Option.bind_eq_some_iff, Option.map_eq_some_iff]
    at found
  obtain ⟨_, ⟨batch, there, rfl⟩, inner⟩ := found
  simp only [Batch.stores, List.getElem?_map, Option.map_eq_some_iff] at inner
  obtain ⟨result, isThere, same⟩ := inner
  exact ⟨result, result_eq_ok_iff.mpr ⟨batch, there, isThere⟩, same⟩

theorem due?_of_same {left right : Query} (activity : left.activity = right.activity)
    (lengths : left.stores.map List.length = right.stores.map List.length) :
    left.due? = right.due? := by
  unfold due?
  rw [activity]
  cases right.activity with
  | executing index phase =>
    have count := congrArg (·[index]?) lengths
    simp only [List.getElem?_map] at count
    cases first : left.stores[index]? <;> cases second : right.stores[index]? <;>
      simp_all
  | resting | choosing | closing | announcing => rfl

theorem stores_dispose (query : Query) :
    query.dispose.stores = query.stores.map (List.map RowStore.close) := by
  simp [stores, dispose, Batch.stores, Batch.close, ResultSet.close]

theorem due?_dispose (query : Query) : query.dispose.due? = query.due? := by
  refine due?_of_same rfl ?_
  rw [stores_dispose, List.map_map]
  exact List.map_congr_left fun stores _ => List.length_map ..

theorem isOpen_storeAt_dispose {query : Query} {place : Nat × Nat} {store : RowStore}
    (found : query.dispose.storeAt place = some store) : store.isOpen = false := by
  simp only [storeAt, stores_dispose, List.getElem?_map, Option.bind_eq_some_iff,
    Option.map_eq_some_iff] at found
  obtain ⟨_, ⟨stores, -, rfl⟩, inner⟩ := found
  simp only [List.getElem?_map, Option.map_eq_some_iff] at inner
  obtain ⟨before, -, rfl⟩ := inner
  rfl

/-! One step. -/

/-- What a step of a cancelled query makes of its stores. They stay as they are, and so does what is
due; or the result that is due comes to its place, unless its store cannot be made. -/
inductive Winds (maker : StoreMaker) (query next : Query) (later : StoreMaker) : Prop where
  | quiet (untouched : later = maker) (stores : next.stores = query.stores)
      (due : next.due? = query.due?)
  | settled {place : Nat × Nat} (due : query.due? = some place) (done : next.due? = none)
      (others : ∀ other, other ≠ place → next.storeAt other = query.storeAt other)
      (refused : maker.failing = true → next.storeAt place = none)
      (made : maker.failing = false → ∃ store, next.storeAt place = some store ∧
        store.isOpen = true ∧ store.published = 0)

theorem Winds.of_unsaved (maker : StoreMaker) {query next : Query}
    (same : next.mapResults ResultSet.unsaved = query.mapResults ResultSet.unsaved) :
    query.Winds maker next maker := by
  have activity : (next.mapResults ResultSet.unsaved).activity =
      (query.mapResults ResultSet.unsaved).activity := by rw [same]
  have kept (query : Query) : (query.mapResults ResultSet.unsaved).stores = query.stores := by
    simp [stores, mapResults, Batch.mapResults, Batch.stores, ResultSet.unsaved]
  have stores : next.stores = query.stores := by rw [← kept next, same, kept]
  exact .quiet rfl stores (due?_of_same activity (by rw [stores]))

theorem Winds.of_run {maker later : StoreMaker} {query next : Query} {index : Nat}
    {phase : BatchPhase} {batch after : Batch} {owes : Bool}
    (executes : query.activity = .executing index phase)
    (found : query.batches[index]? = some batch)
    (batches : next.batches = query.batches.set index after)
    (due : next.due? = if owes then some (index, after.stores.length) else none)
    (winds : (query.runOf batch phase).Winds maker later after owes) :
    query.Winds maker next later := by
  have inside := (List.getElem?_eq_some_iff.mp found).1
  have stores : next.stores = query.stores.set index after.stores := by
    rw [Query.stores, batches, List.map_set]
    rfl
  have own : query.stores[index]? = some batch.stores := by simp [Query.stores, found]
  have there : next.stores[index]? = some after.stores := by
    rw [stores, List.getElem?_set_self (by simpa [Query.stores] using inside)]
  have was : query.due? =
      if phase.owes batch.stores.length then some (index, batch.stores.length) else none := by
    simp [due?, executes, own]
  -- One batch is written to, so the stores of the others are where they were.
  have elsewhere {place : Nat × Nat} (other : place.1 ≠ index) :
      next.storeAt place = query.storeAt place := by
    rw [storeAt, stores, List.getElem?_set_ne (Ne.symm other), storeAt]
  cases winds with
  | quiet same =>
    change after.stores = batch.stores at same
    refine .quiet rfl ?_ ?_
    · obtain ⟨bound, here⟩ := List.getElem?_eq_some_iff.mp own
      rw [stores, same, ← here, List.set_getElem_self]
    · rw [due, was, same]
      rfl
  | refused owing failing same =>
    change after.stores = batch.stores at same
    change phase.owes batch.stores.length = true at owing
    rw [if_pos owing] at was
    refine .settled was due ?_ ?_ fun working => ?_
    · intro other apart
      by_cases here : other.1 = index
      · rw [storeAt, storeAt, here, there, own, same]
      · exact elsewhere here
    · intro _
      simp [storeAt, there, same]
    · rw [failing] at working
      cases working
  | @made _ _ store owing working more opened empty =>
    change after.stores = batch.stores ++ [store] at more
    change phase.owes batch.stores.length = true at owing
    rw [if_pos owing] at was
    refine .settled was due ?_ (fun failing => ?_) fun _ => ⟨store, ?_, opened, empty⟩
    · intro other apart
      by_cases here : other.1 = index
      · have place : other.2 ≠ batch.stores.length := fun same => apart (Prod.ext here same)
        rw [storeAt, storeAt, here, there, own, more]
        simp only [Option.bind_some]
        by_cases before : other.2 < batch.stores.length
        · exact List.getElem?_append_left before
        · have beyond : batch.stores.length + 1 ≤ other.2 := by omega
          rw [List.getElem?_eq_none (by simpa using beyond), List.getElem?_eq_none (by omega)]
      · exact elsewhere here
    · rw [working] at failing
      cases failing
    · simp [storeAt, there, more]

variable {η : Type} [Host η]

theorem ensures_winds (now : Instant) (world : World η) {query : Query}
    (numbered : query.Numbered) (signalled : query.cancelRequested = true) :
    (query.step now world).2.Ensures
      (fun next _ => query.Winds world.maker next (query.step now world).1.maker)
      (fun next _ => query.Winds world.maker next (query.step now world).1.maker) := by
  have turn := query.turn now world
  revert turn
  rcases query.step now world with ⟨later, progress⟩
  intro turn
  -- All that is left to a cancelled query is the batch under way, and to close.
  cases turn with
  | rested => exact .quiet rfl rfl rfl
  | refused _ _ live | begun _ _ live => simp [signalled] at live
  | exhausted activity | halted activity | closed activity | announced activity =>
    exact .quiet rfl rfl (by simp [due?, activity, finish])
  | lost executes missing =>
    exact .quiet rfl rfl (by simp [due?, executes, finish, stores, missing])
  | @executed index phase batch executes found =>
    rw [signalled]
    have inner : (query.runOf batch phase).batch.Numbered := (numbered _ _ found).2.2
    have inside := (List.getElem?_eq_some_iff.mp found).1
    refine Progress.ensures_within ?_
    refine ((BatchRun.ensures_numbered now true world inner).and
      (BatchRun.ensures_winds now world inner)).imp ?_ ?_
    · rintro next _ ⟨⟨id, -, -⟩, winds⟩
      have batches := batches_setBatch numbered found id
      refine .of_run executes found batches ?_ winds
      simp [due?, withRun, stores, batches, inside]
    · rintro done _ ⟨⟨id, -, -⟩, winds⟩
      refine .of_run executes found (batches_setBatch numbered found id) ?_ winds
      cases outcome : done.outcome <;> simp [due?, afterBatch, outcome]

end Query

/-! Courses. -/

namespace Stage

variable {η α : Type}

/-- The query has been cancelled or has ended, as it has once it has been disposed of. -/
structure Halted (stage : Stage η α) : Prop where
  numbered : stage.query.Numbered
  stands : stage.query.StandsAt stage.endings
  stopped : stage.query.cancelRequested = true ∨ stage.query.isTerminal = true

theorem halted_dispose {stage : Stage η α} (numbered : stage.query.Numbered)
    (stands : stage.query.StandsAt stage.endings) :
    (stage.withQuery stage.query.dispose).Halted where
  numbered := Query.numbered_of_bare stage.query.bare_dispose.symm numbered
  stands := (Query.standsAt_of_bare stage.query.bare_dispose stands).1
  stopped := by
    change (stage.query.cancelRequested || !stage.query.isTerminal) = true ∨
      stage.query.isTerminal = true
    cases stage.query.isTerminal <;> simp

/-- At most the store of one result is open, and no other result is to come. -/
structure Confined (due : Option (Nat × Nat)) (stage : Stage η α) : Prop where
  coming : ∀ place, stage.query.due? = some place → due = some place
  empty : ∀ place store, stage.query.storeAt place = some store → store.isOpen = true →
    due = some place ∧ store.published = 0

def HoldsOpen (stage : Stage η α) : Prop :=
  ∃ place store, stage.query.storeAt place = some store ∧ store.isOpen = true

/-- Either all stores are closed and one may be to come, or it has come, unless it could not be made. -/
inductive Foreseen (due : Option (Nat × Nat)) (maker : StoreMaker) (stage : Stage η α) : Prop where
  | before (same : stage.query.due? = due) (untouched : stage.world.maker = maker)
      (closed : ¬ stage.HoldsOpen)
  | after {place : Nat × Nat} (was : due = some place) (done : stage.query.due? = none)
      (made : stage.HoldsOpen ↔ maker.failing = false)

theorem confined_dispose (stage : Stage η α) :
    Confined stage.query.due? (stage.withQuery stage.query.dispose) where
  coming place there := stage.query.due?_dispose ▸ there
  empty place store found opened := by
    rw [Query.isOpen_storeAt_dispose found] at opened
    cases opened

variable [Host η]

theorem Does.halted {act : Act} {stage next : Stage η α} (does : Does act stage next)
    (halted : stage.Halted) : next.Halted where
  numbered := does.numbered halted.numbered
  stands := (does.stands halted.numbered halted.stands).1
  stopped := by
    rcases halted.stopped with signalled | terminal
    · exact .inl (does.unfed halted.numbered signalled).1
    · exact .inr ((does.stands halted.numbered halted.stands).2.isTerminal terminal)

theorem due?_of_idle {query : Query} {endings : List BatchOutcome} (stands : query.StandsAt endings)
    (idle : query.state ≠ .running) : query.due? = none := by
  unfold Query.StandsAt at stands
  unfold Query.due?
  cases activity : query.activity with
  | executing index phase =>
    rw [activity] at stands
    exact absurd stands.1 idle
  | resting | choosing | closing | announcing => rfl

/-- Nothing but a step of the query, a disposal or others touch stores or what is due. -/
theorem Does.winds {act : Act} {stage next : Stage η α} (does : Does act stage next)
    (halted : stage.Halted) (notDisposes : act ≠ .disposes) (notElsewhere : act ≠ .elsewhere) :
    stage.query.Winds stage.world.maker next.query next.world.maker := by
  obtain ⟨numbered, stands, stopped⟩ := halted
  cases does with
  | begins now accepted =>
    obtain ⟨fresh, rfl⟩ := begin_eq_ok accepted
    refine .quiet rfl rfl ?_
    rw [due?_of_idle stands (by simp [fresh])]
    rfl
  | cancels accepted =>
    unfold Query.cancel at accepted
    split at accepted <;> cases accepted
    exact .quiet rfl rfl rfl
  | disposes => exact absurd rfl notDisposes
  | saves accepted => exact .of_unsaved _ (Query.unsaved_beginSave numbered accepted)
  | saved tree batchId resultId request =>
    exact .of_unsaved _ (Query.unsaved_runSave tree numbered batchId resultId request)
  | subscribes member => exact .quiet rfl rfl rfl
  | elsewhere others => exact absurd rfl notElsewhere
  | steps now =>
    rcases stopped with signalled | terminal
    · exact (Query.ensures_winds now stage.world numbered signalled).outcome
    · -- A query that has ended has at most its completion left to tell.
      have turn := stage.query.turn now stage.world
      have notRunning : stage.query.state ≠ .running := by
        intro running
        rw [Query.isTerminal, running] at terminal
        cases terminal
      change stage.query.Winds _ (stage.query.step now stage.world).2.outcome.1
        (stage.query.step now stage.world).1.maker
      unfold Query.StandsAt at stands
      revert turn
      rcases stage.query.step now stage.world with ⟨later, progress⟩
      intro turn
      cases turn with
      | rested => exact .quiet rfl rfl rfl
      | announced announces => exact .quiet rfl rfl (by simp [Query.due?, announces, Progress.outcome])
      | exhausted chooses | halted chooses | refused chooses | begun chooses =>
        rw [chooses] at stands
        exact absurd stands.1 notRunning
      | lost executes | executed executes =>
        rw [executes] at stands
        exact absurd stands.1 notRunning
      | closed closes =>
        rw [closes] at stands
        exact absurd stands.1 notRunning

theorem Does.confined {act : Act} {stage next : Stage η α} {due : Option (Nat × Nat)}
    (does : Does act stage next) (halted : stage.Halted) (confined : stage.Confined due) :
    next.Confined due := by
  by_cases disposes : act = .disposes
  · cases does <;> cases disposes
    obtain ⟨coming, empty⟩ := stage.confined_dispose
    refine ⟨fun place there => confined.coming place (coming place there), ?_⟩
    intro place store found opened
    rw [Query.isOpen_storeAt_dispose found] at opened
    cases opened
  · by_cases elsewhere : act = .elsewhere
    · cases does <;> cases elsewhere
      exact ⟨confined.coming, confined.empty⟩
    -- The one store that can be new is that of the result that was due.
    · cases does.winds halted disposes elsewhere with
      | quiet _ stores same =>
        refine ⟨fun place there => confined.coming place (same ▸ there), ?_⟩
        intro place store found
        rw [Query.storeAt, stores] at found
        exact confined.empty place store found
      | @settled place owed done others refused made =>
        refine ⟨fun other there => ?_, fun other store found opened => ?_⟩
        · rw [done] at there
          cases there
        by_cases here : other = place
        · subst here
          cases failing : stage.world.maker.failing with
          | true =>
            rw [refused failing] at found
            cases found
          | false =>
            obtain ⟨new, stands, -, empty⟩ := made failing
            rw [stands] at found
            cases found
            exact ⟨confined.coming other owed, empty⟩
        · rw [others other here] at found
          exact confined.empty other store found opened

theorem Does.foreseen {act : Act} {stage next : Stage η α} {due : Option (Nat × Nat)}
    {maker : StoreMaker} (does : Does act stage next) (halted : stage.Halted)
    (notDisposes : act ≠ .disposes) (notElsewhere : act ≠ .elsewhere)
    (foreseen : stage.Foreseen due maker) : next.Foreseen due maker := by
  have same (stores : next.query.stores = stage.query.stores) :
      next.HoldsOpen ↔ stage.HoldsOpen := by
    unfold HoldsOpen Query.storeAt
    rw [stores]
  cases does.winds halted notDisposes notElsewhere with
  | quiet untouched stores still =>
    cases foreseen with
    | before as_was original closed =>
      exact .before (still.trans as_was) (untouched.trans original) (closed ∘ (same stores).mp)
    | after was done made => exact .after was (still.trans done) ((same stores).trans made)
  | @settled place owed done others refused made =>
    cases foreseen with
    | after _ none => rw [none] at owed; cases owed
    | before as_was original closed =>
      rw [original] at refused made
      refine .after (as_was.symm.trans owed) done ⟨?_, fun working => ?_⟩
      · rintro ⟨other, store, found, opened⟩
        -- A broken maker gives nothing for the place that was due, and nothing else has changed.
        by_contra broken
        by_cases here : other = place
        · rw [here, refused (by simpa using broken)] at found
          cases found
        · exact closed ⟨other, store, others other here ▸ found, opened⟩
      · obtain ⟨store, stands, opened, -⟩ := made working
        exact ⟨place, store, stands, opened⟩

/-- What is open of a query after it has been disposed of, at whichever moment that is and whatever
happens before and afterwards: at most the store of the result that was due then, and that store is
empty. Once the query rests, a store is open just if a result was due and its store could be made, and
nobody else has made stores or disposed of the query again. -/
theorem open_after_disposal (owner text : String) (connection : Connection) (settings : Settings)
    (host : η) (maker : StoreMaker) {allowed : Act → Prop} {before final : Stage η α}
    (reached : Course (fun _ => True) (ofQuery host maker (.create owner text connection settings))
      before)
    (later : Course allowed (before.withQuery before.query.dispose) final) :
    (∀ batchId resultId result, final.query.result batchId resultId = .ok result →
      result.store.isOpen = true →
      before.query.due? = some (batchId, resultId) ∧ result.rowCount = 0) ∧
    (¬ allowed .disposes → ¬ allowed .elsewhere → final.query.activity = .resting →
      ((∃ batchId resultId result, final.query.result batchId resultId = .ok result ∧
        result.store.isOpen = true) ↔
      before.query.due?.isSome = true ∧ before.world.maker.failing = false)) := by
  have fresh := Query.numbered_of_create owner text connection settings
  have halted := halted_dispose (reached.numbered fresh)
    (reached.stands fresh (Query.standsAt_create owner text connection settings))
  constructor
  · have kept : final.Halted ∧ final.Confined before.query.due? := by
      refine later.preserves (fun stage => stage.Halted ∧ stage.Confined before.query.due?) ?_
        ⟨halted, before.confined_dispose⟩
      rintro act first second - does ⟨stops, confined⟩
      exact ⟨does.halted stops, does.confined stops confined⟩
    intro batchId resultId result found opened
    exact kept.2.empty (batchId, resultId) _ (Query.storeAt_of_result found) opened
  · intro notDisposes notElsewhere rests
    have kept : final.Halted ∧ final.Foreseen before.query.due? before.world.maker := by
      refine later.preserves
        (fun stage => stage.Halted ∧ stage.Foreseen before.query.due? before.world.maker) ?_
        ⟨halted, .before before.query.due?_dispose rfl ?_⟩
      · rintro act first second permitted does ⟨stops, foreseen⟩
        refine ⟨does.halted stops, does.foreseen stops ?_ ?_ foreseen⟩
        · rintro rfl
          exact notDisposes permitted
        · rintro rfl
          exact notElsewhere permitted
      · rintro ⟨place, store, found, opened⟩
        rw [Query.isOpen_storeAt_dispose found] at opened
        cases opened
    have held : (∃ batchId resultId result, final.query.result batchId resultId = .ok result ∧
        result.store.isOpen = true) ↔ final.HoldsOpen := by
      constructor
      · rintro ⟨batchId, resultId, result, found, opened⟩
        exact ⟨(batchId, resultId), _, Query.storeAt_of_result found, opened⟩
      · rintro ⟨place, store, found, opened⟩
        obtain ⟨result, there, rfl⟩ := Query.result_of_storeAt found
        exact ⟨_, _, result, there, opened⟩
    have nothing : final.query.due? = none := by
      unfold Query.due?
      rw [rests]
    rw [held]
    cases kept.2 with
    | before same _ closed => simp [closed, ← same, nothing]
    | after was _ made => simp [was, made]

/-- A query whose source has something to say before its only result. -/
def remarking : Stage (Array Replay) Unit :=
  ofQuery #[⟨[[.notice (.rowsAffected 1),
    .result ⟨⟨[], false⟩, [.row [.int64 0], .row [.int64 1]], none⟩]], []⟩] .file
    (.create "o" "a" 0 .standard)

def remarkingBegun : Stage (Array Replay) Unit :=
  remarking.withQuery { remarking.query with
    state := .running, started := some ⟨0, 0⟩, activity := .choosing 0 }

/-- The message has just been told, and the header of the result has been taken. -/
def remarked : Stage (Array Replay) Unit := (step ⟨0, 0⟩)^[6] remarkingBegun

def remarkedDisposed : Stage (Array Replay) Unit := remarked.withQuery remarked.query.dispose

def remarkedEnded : Stage (Array Replay) Unit := (step ⟨0, 0⟩)^[20] remarkedDisposed

theorem remarked_reached : Course (fun _ => True) remarking remarked := by
  have begins : remarking.query.begin ⟨0, 0⟩ = .ok remarkingBegun.query := if_pos rfl
  have first : Course (fun _ => True) remarking remarkingBegun :=
    .single .begins trivial (.begins ⟨0, 0⟩ begins)
  exact first.trans (course_steps trivial _ 6 remarkingBegun)

theorem remarkedEnded_rests : remarkedEnded.query.activity = .resting :=
  Query.resting_of_batchesLeft (by decide +kernel)

theorem open_after_disposal_remarked :
    remarked.query.due? = some (0, 0) ∧ remarkedEnded.query.state = .cancelled ∧
      ∃ result, remarkedEnded.query.result 0 0 = .ok result ∧ result.store.isOpen = true ∧
        result.rowCount = 0 := by
  have later : Course (· = .steps) remarkedDisposed remarkedEnded :=
    course_steps (by rfl) _ 20 remarkedDisposed
  have due : remarked.query.due? = some (0, 0) := by decide +kernel
  obtain ⟨only, held⟩ := open_after_disposal "o" "a" 0 .standard _ _ remarked_reached later
  have working : remarked.world.maker.failing = false := by decide +kernel
  obtain ⟨batchId, resultId, result, found, opened⟩ :=
    (held nofun nofun remarkedEnded_rests).mpr ⟨by rw [due]; rfl, working⟩
  obtain ⟨place, empty⟩ := only batchId resultId result found opened
  rw [due] at place
  cases place
  exact ⟨due, by decide +kernel, result, found, opened, empty⟩

/-- Disposed of from inside the delivery of a message, a query keeps a file when it has ended. -/
theorem file_left_by_disposed_query :
    ∃ before final : Stage (Array Replay) Unit,
      Course (fun _ => True) remarking before ∧
      Course (· = .steps) (before.withQuery before.query.dispose) final ∧
      final.query.isTerminal = true ∧ final.query.activity = .resting ∧
      (final.query.result 0 0).toOption.map (·.store.fileName?) =
        some (some ("querydeck-0-0-", ".rows")) :=
  ⟨remarked, remarkedEnded, remarked_reached, course_steps (by rfl) _ 20 remarkedDisposed,
    by decide +kernel, remarkedEnded_rests, by decide +kernel⟩

end Stage

end SqlDesk
