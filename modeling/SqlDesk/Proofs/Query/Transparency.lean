import SqlDesk.Proofs.Batch.Alike
import SqlDesk.Proofs.Query.Life
import SqlDesk.Proofs.Query.Undisturbed

/-! The limit of rows and the interval of updates change nothing but what they are about. Two runs of
one text on one source, under settings that differ in these alone, keep step with each other: whatever
one of them does next, the other does too, so where one has come to its end or waits, so has the
other. -/

set_option autoImplicit false

namespace SqlDesk

/-! The invariant, step by step. -/

structure Query.Alike (one other : Settings) (left right : Query) : Prop where
  connection : left.connection = right.connection
  settings : left.settings = one ∧ right.settings = other
  batches : List.Forall₂ (Batch.Alike one other) left.batches right.batches
  live : left.cancelRequested = false ∧ right.cancelRequested = false
  state : left.state = right.state
  started : left.started.isSome = right.started.isSome
  ended : left.ended.isSome = right.ended.isSome
  activity : left.activity = right.activity
  fresh : ∀ index phase batch, left.activity = .executing index phase → phase.unannounced = true →
    left.batches[index]? = some batch →
      ∀ result, batch.results.getLast? = some result → result.rowCount = 0

theorem forall₂_found {α β : Type} {related : α → β → Prop} {left : List α} {right : List β}
    (pairs : List.Forall₂ related left right) {place : Nat} {item : α}
    (found : left[place]? = some item) : ∃ other, right[place]? = some other ∧ related item other := by
  obtain ⟨inside, -⟩ := List.getElem?_eq_some_iff.mp found
  have there := List.getElem?_eq_getElem (pairs.length_eq ▸ inside)
  exact ⟨_, there, forall₂_getElem? pairs found there⟩

namespace Query

section

variable {one other : Settings} {left right : Query}

theorem Alike.plain (alike : left.Alike one other right) :
    left.summaries.map BatchSummary.plain = right.summaries.map BatchSummary.plain := by
  simp only [summaries, List.map_map]
  exact forall₂_map_eq (fun _ _ same => same.plain) alike.batches

theorem Alike.goesOn (alike : left.Alike one other right) {activity : Activity} {state : QueryState}
    {time later : Option Instant} (times : time.isSome = later.isSome)
    (idle : ∀ index phase, activity ≠ .executing index phase) :
    Alike one other { left with state, ended := time, activity }
      { right with state, ended := later, activity } :=
  ⟨alike.connection, alike.settings, alike.batches, alike.live, rfl, alike.started, times, rfl,
    fun index phase _ executes => absurd executes (idle index phase)⟩

theorem Alike.finish (alike : left.Alike one other right) (now later : Instant)
    (state : QueryState) : (left.finish now state).Alike one other (right.finish later state) := by
  have errors : left.batches.any Batch.hasError = right.batches.any Batch.hasError := by
    have flags := forall₂_map_eq (fun _ _ same => Batch.Alike.hasError same) alike.batches
    simpa only [List.any_map, Function.comp_def, id] using congrArg (·.any id) flags
  unfold Query.finish
  rw [errors]
  exact alike.goesOn rfl nofun

theorem Alike.runOf (alike : left.Alike one other right) {index : Nat} {phase : BatchPhase}
    {batch later : Batch} (executes : left.activity = .executing index phase)
    (found : left.batches[index]? = some batch) (same : batch.Alike one other later) :
    (left.runOf batch phase).Alike one other (right.runOf later phase) :=
  ⟨same, alike.settings, alike.connection, rfl, fun unannounced =>
    alike.fresh index phase batch executes unannounced found⟩

theorem Alike.withRun (alike : left.Alike one other right) {index : Nat} {batch : Batch}
    (numbered : left.Numbered) (found : left.batches[index]? = some batch) {run later : BatchRun}
    (id : run.batch.id = batch.id) (same : run.Alike one other later) :
    (left.withRun index run).Alike one other (right.withRun index later) where
  connection := alike.connection
  settings := alike.settings
  batches := by
    simp only [Query.withRun, Query.setBatch, same.batch.id]
    exact forall₂_set alike.batches _ same.batch
  live := alike.live
  state := alike.state
  started := alike.started
  ended := alike.ended
  activity := congrArg (Activity.executing index) same.phase
  fresh place phase current executes unannounced there result last := by
    injection executes with here phase
    subst here phase
    have stands : (left.withRun index run).batches[index]? = some run.batch := by
      rw [show (left.withRun index run).batches = _ from batches_setBatch numbered found id]
      exact List.getElem?_set_self (List.getElem?_eq_some_iff.mp found).1
    rw [stands] at there
    cases there
    exact same.fresh unannounced result last

theorem Alike.choose (alike : left.Alike one other right) (settings : one.Alike other)
    (numbered : left.Numbered) (index : Nat) (now later : Instant) :
    (left.choose now index).Alike one other (right.choose later index) := by
  unfold Query.choose
  rw [alike.live.1, alike.live.2]
  cases found : left.batches[index]? with
  | none =>
    have missing : right.batches[index]? = none := by
      rw [List.getElem?_eq_none_iff] at found ⊢
      rwa [← alike.batches.length_eq]
    rw [missing]
    exact alike.finish now later .completed
  | some batch =>
    obtain ⟨next, there, same⟩ := forall₂_found alike.batches found
    rw [there]
    simp only [Bool.false_eq_true, if_false, BatchRun.start, ← same.started]
    cases used : batch.started.isSome with
    | true => exact alike.finish now later .failed
    | false =>
      simp only [Bool.false_eq_true, if_false]
      -- The number of repetitions comes from the text and from a setting that is shared.
      have runs : BatchRun.runsOf next right.settings = BatchRun.runsOf batch left.settings := by
        simp only [BatchRun.runsOf, Settings.runs, same.text, alike.settings.1, alike.settings.2,
          settings.batchRuns]
      have begins : BatchRun.Alike one other
          (left.runOf { batch with started := some now } (.starting (BatchRun.runsOf batch _)))
          (right.runOf { next with started := some later } (.starting (BatchRun.runsOf next _))) :=
        ⟨same.begin now later, alike.settings, alike.connection,
          congrArg BatchPhase.starting runs.symm,
          fun unannounced => absurd unannounced Bool.false_ne_true⟩
      exact alike.withRun numbered found rfl begins

theorem Alike.afterBatch (alike : left.Alike one other right) (index : Nat) {done ends : BatchEnd}
    (same : done.Alike one other ends) :
    (left.afterBatch index done).Alike one other (right.afterBatch index ends) where
  connection := alike.connection
  settings := alike.settings
  batches := by
    simp only [Query.afterBatch, Query.setBatch, same.batch.id]
    exact forall₂_set alike.batches _ same.batch
  live := alike.live
  state := alike.state
  started := alike.started
  ended := alike.ended
  activity := by simp only [Query.afterBatch, same.outcome]
  fresh place phase current reads := by
    unfold Query.afterBatch at reads
    cases outcome : done.outcome <;> rw [outcome] at reads <;> cases reads

end

section

variable {η : Type} [Host η] {one other : Settings} {left right : Query}

/-- What either of the two queries does next, at whatever time, the other one does too. -/
theorem alike_step (now later : Instant) {world : World η} (flawless : world.maker.Flawless)
    (settings : one.Alike other) (numbered : left.Numbered) (alike : left.Alike one other right) :
    (left.step now world).1 = (right.step later world).1 ∧
      (left.step now world).1.maker.Flawless ∧
      Progress.Paired (Alike one other) (Alike one other) Happening.plain
        (left.step now world).2 (right.step later world).2 := by
  obtain ⟨liveL, liveR⟩ := alike.live
  have activity := alike.activity
  unfold Query.step
  rw [← activity]
  -- Both are at the same place of the same work, so one analysis of the cases serves both.
  cases doing : left.activity with
  | resting => exact ⟨rfl, flawless, alike⟩
  | closing state => exact ⟨rfl, flawless, alike.finish now later state, rfl⟩
  | announcing =>
    refine ⟨rfl, flawless, ⟨alike.connection, alike.settings, alike.batches, alike.live, alike.state,
      alike.started, alike.ended, rfl, fun index phase batch executes => ?_⟩, ?_⟩
    · cases executes
    · exact congrArg (fun summaries => some (Happening.queryCompleted summaries)) alike.plain
  | choosing index => exact ⟨rfl, flawless, alike.choose settings numbered index now later, rfl⟩
  | executing index phase =>
    simp only
    cases found : left.batches[index]? with
    | none =>
      have missing : right.batches[index]? = none := by
        rw [List.getElem?_eq_none_iff] at found ⊢
        rwa [← alike.batches.length_eq]
      rw [missing]
      exact ⟨rfl, flawless, alike.finish now later .failed, rfl⟩
    | some batch =>
      obtain ⟨next, there, same⟩ := forall₂_found alike.batches found
      rw [there, liveL, liveR]
      have inner := (numbered index batch found).2.2
      obtain ⟨worlds, stays, steps⟩ := BatchRun.alike_step now later flawless settings inner
        (alike.runOf doing found same)
      refine ⟨worlds, stays, ?_⟩
      refine Progress.paired_within (steps.withLeft
        ((BatchRun.ensures_numbered now false world inner).imp (fun _ _ kept => kept.1)
          fun _ _ _ => trivial)) ?_ ?_
      · rintro run after ⟨goes, id⟩
        exact alike.withRun numbered found id goes
      · rintro done ends ⟨goes, -⟩
        exact alike.afterBatch index goes

/-! Saves on either side leave them alike. -/

end

end Query

theorem ResultSet.Alike.of_unsaved {one other : Settings} {left right next later : ResultSet}
    (same : left.unsaved = next.unsaved) (again : right.unsaved = later.unsaved)
    (alike : left.Alike one other right) : next.Alike one other later := by
  obtain ⟨_, _, _, _, _⟩ := left
  obtain ⟨_, _, _, _, _⟩ := next
  obtain ⟨_, _, _, _, _⟩ := right
  obtain ⟨_, _, _, _, _⟩ := later
  cases same
  cases again
  obtain ⟨key, columns, action, complete, rows, stores, others⟩ := alike
  exact ⟨key, columns, action, complete, rows, ⟨stores.endless, stores.holds⟩,
    ⟨others.endless, others.holds⟩⟩

/-- Pairs stay related when both sides are changed in a way that the relation does not see. -/
theorem forall₂_of_same_both {α β : Type} {related : α → α → Prop} {f : α → β}
    (keeps : ∀ left right next later, f left = f next → f right = f later → related left right →
      related next later)
    {left right next later : List α} (same : left.map f = next.map f)
    (again : right.map f = later.map f) (pairs : List.Forall₂ related left right) :
    List.Forall₂ related next later := by
  have first : List.Forall₂ related next right := by
    refine forall₂_of_same ?_ same pairs
    exact fun before after held alike => keeps before held after held alike rfl
  refine (forall₂_of_same ?_ again first.flip).flip
  exact fun before after held alike => keeps held before held after rfl alike

theorem Batch.Alike.of_unsaved {one other : Settings} {left right next later : Batch}
    (same : left.mapResults ResultSet.unsaved = next.mapResults ResultSet.unsaved)
    (again : right.mapResults ResultSet.unsaved = later.mapResults ResultSet.unsaved)
    (alike : left.Alike one other right) : next.Alike one other later := by
  obtain ⟨_, _, _, stored, _, _, _, _, _⟩ := left
  obtain ⟨_, _, _, others, _, _, _, _, _⟩ := right
  obtain ⟨_, _, _, _, _, _, _, _, _⟩ := next
  obtain ⟨_, _, _, _, _, _, _, _, _⟩ := later
  simp only [Batch.mapResults, Batch.mk.injEq] at same again
  obtain ⟨rfl, rfl, rfl, first, rfl, rfl, rfl, rfl, rfl⟩ := same
  obtain ⟨rfl, rfl, rfl, second, rfl, rfl, rfl, rfl, rfl⟩ := again
  exact ⟨alike.id, alike.owner, alike.text,
    forall₂_of_same_both (fun _ _ _ _ same again held => held.of_unsaved same again) first second
      alike.results,
    alike.messages, alike.started, alike.ended, alike.hasError, alike.cancelled⟩

namespace Query

variable {one other : Settings} {left right next later : Query}

theorem Alike.of_unsaved (same : left.mapResults ResultSet.unsaved = next.mapResults ResultSet.unsaved)
    (again : right.mapResults ResultSet.unsaved = later.mapResults ResultSet.unsaved)
    (alike : left.Alike one other right) : next.Alike one other later := by
  have fresh := alike.fresh
  have batches := forall₂_of_same_both
    (fun _ _ _ _ same again held => Batch.Alike.of_unsaved same again held)
    (congrArg Query.batches same) (congrArg Query.batches again) alike.batches
  have bare := bare_of_unsaved same
  -- All fields but the batches are equal, so one name serves for each.
  obtain ⟨_, _, _, _, _, _, _, _, _, _⟩ := left
  obtain ⟨_, _, _, _, _, _, _, _, _, _⟩ := right
  obtain ⟨_, _, _, _, _, _, _, _, _, _⟩ := next
  obtain ⟨_, _, _, _, _, _, _, _, _, _⟩ := later
  simp only [mapResults, Query.mk.injEq] at same again
  obtain ⟨rfl, rfl, -, rfl, rfl, rfl, rfl, rfl, rfl, rfl⟩ := same
  obtain ⟨rfl, rfl, -, rfl, rfl, rfl, rfl, rfl, rfl, rfl⟩ := again
  refine ⟨alike.connection, alike.settings, batches, alike.live, alike.state, alike.started,
    alike.ended, alike.activity, ?_⟩
  intro index phase batch executes unannounced found result last
  obtain ⟨before, there, alike⟩ := batch_of_bare bare found
  have results := congrArg (fun batch : Batch => batch.results.getLast?) alike
  simp only [Batch.bare, Batch.mapResults, List.getLast?_map, last, Option.map_some,
    Option.map_eq_some_iff] at results
  obtain ⟨stored, isLast, sameBare⟩ := results
  have count : stored.bare.rowCount = result.bare.rowCount := by rw [sameBare]
  exact count.symm.trans (fresh index phase before executes unannounced there stored isLast)

/-! Runs. -/

variable {η : Type} [Host η]

/-- A run that nobody cancels or disposes of, up to where nothing happens any more of itself: each step
at a time of its own, with saves in between, and what is told on the way. -/
inductive Runs : World η × Query → List Happening → World η × Query → Prop where
  | settles {world : World η} {query final : Query} (now : Instant)
      (waits : (query.step now world).2 = .waits final) : Runs (world, query) [] (world, final)
  | steps {world : World η} {query : Query} {told : List Happening} {final : World η × Query}
      (now : Instant) (goesOn : ∀ state, (query.step now world).2 ≠ .waits state)
      (rest : Runs ((query.step now world).1, (query.step now world).2.outcome.1) told final) :
      Runs (world, query) ((query.step now world).2.outcome.2 ++ told) final
  | saves {world : World η} {query next : Query} {batchId resultId : Nat} {path : String}
      {told : List Happening} {final : World η × Query}
      (accepted : query.beginSave batchId resultId path = .ok next)
      (rest : Runs (world, next) told final) : Runs (world, query) told final
  | saved {world : World η} {query : Query} (tree : FileTree) (batchId resultId : Nat)
      (request : SaveRequest) {told : List Happening} {final : World η × Query}
      (rest : Runs (world, (query.runSave tree batchId resultId request).2.1) told final) :
      Runs (world, query) told final

theorem runs_run (now : Instant) (world : World η) (query : Query) :
    Runs (world, query) (query.run now world).2.2
      ((query.run now world).1, (query.run now world).2.1) := by
  -- Along the recursion of the run: it settles, it ends, or it goes on after a step.
  fun_induction run now world query with
  | case1 world query later next stepped =>
    have same := world_of_waits (congrArg Prod.snd stepped)
    rw [stepped] at same
    cases same
    exact .settles now (congrArg Prod.snd stepped)
  | case2 world query later next event stepped =>
    have rests := step_of_rests now later (rests_of_ends (congrArg Prod.snd stepped))
    have settled : Runs (later, next) [] (later, next) := .settles now (congrArg Prod.snd rests)
    have goesOn (state : Query) : (query.step now world).2 ≠ .waits state := by simp [stepped]
    have rest : Runs ((query.step now world).1, (query.step now world).2.outcome.1) []
        (later, next) := by
      rw [stepped]
      exact settled
    have step := Runs.steps now goesOn rest
    rw [stepped, List.append_nil] at step
    exact step
  | case3 world query later next event stepped final ended told ran ih =>
    have goesOn (state : Query) : (query.step now world).2 ≠ .waits state := by simp [stepped]
    have rest : Runs ((query.step now world).1, (query.step now world).2.outcome.1)
        (next.run now later).2.2 ((next.run now later).1, (next.run now later).2.1) := by
      rw [stepped]
      exact ih
    have step := Runs.steps now goesOn rest
    rw [stepped, ran] at step
    exact step

def runFor (now : Instant) : Nat → World η → Query → Option (World η × Query × List Happening)
  | 0, _, _ => none
  | count + 1, world, query =>
    match query.step now world with
    | (_, .waits final) => some (world, final, [])
    | (later, .moves next event) | (later, .ends next event) =>
      (runFor now count later next).map fun (world, final, told) =>
        (world, final, event.toList ++ told)

theorem run_of_runFor {now : Instant} {count : Nat} {world : World η} {query : Query}
    {reached : World η × Query × List Happening}
    (settled : runFor now count world query = some reached) : query.run now world = reached := by
  induction count generalizing world query reached with
  | zero => cases settled
  | succ count ih =>
    rw [runFor] at settled
    rw [run]
    split
    · rename_i later final stepped
      have same := world_of_waits (congrArg Prod.snd stepped)
      rw [stepped] at same settled
      cases same
      exact Option.some.inj settled
    · rename_i later final event stepped
      rw [stepped] at settled
      obtain ⟨rest, rests, rfl⟩ := Option.map_eq_some_iff.mp settled
      -- What follows the end is one more step, which waits.
      cases count with
      | zero => cases rests
      | succ count =>
        rw [runFor, step_of_rests now later (rests_of_ends (congrArg Prod.snd stepped))] at rests
        cases rests
        exact congrArg (fun told => (later, final, told)) (List.append_nil _).symm
    · rename_i later next event stepped
      rw [stepped] at settled
      obtain ⟨rest, rests, rfl⟩ := Option.map_eq_some_iff.mp settled
      rw [ih rests]

/-- Two runs that have got equally far. -/
structure Abreast (one other : Settings) (left right : World η × Query) : Prop where
  world : left.1 = right.1
  flawless : left.1.maker.Flawless
  numbered : left.2.Numbered ∧ right.2.Numbered
  alike : left.2.Alike one other right.2

omit [Host η] in
theorem Abreast.of_unsaved {world : World η} (abreast : Abreast one other (world, left) (world, right))
    (same : next.mapResults ResultSet.unsaved = left.mapResults ResultSet.unsaved)
    (again : later.mapResults ResultSet.unsaved = right.mapResults ResultSet.unsaved) :
    Abreast one other (world, next) (world, later) where
  world := rfl
  flawless := abreast.flawless
  numbered := ⟨numbered_of_bare (bare_of_unsaved same).symm abreast.numbered.1,
    numbered_of_bare (bare_of_unsaved again).symm abreast.numbered.2⟩
  alike := abreast.alike.of_unsaved same.symm again.symm

theorem Abreast.step {world : World η} (settings : one.Alike other)
    (abreast : Abreast one other (world, left) (world, right)) (now later : Instant) :
    Progress.Paired (Alike one other) (Alike one other) Happening.plain
        (left.step now world).2 (right.step later world).2 ∧
      Abreast one other ((left.step now world).1, (left.step now world).2.outcome.1)
        ((right.step later world).1, (right.step later world).2.outcome.1) := by
  obtain ⟨-, flawless, ⟨numberedL, numberedR⟩, alike⟩ := abreast
  obtain ⟨worlds, stays, steps⟩ := alike_step now later flawless settings numberedL alike
  exact ⟨steps, worlds, stays, ⟨(ensures_numbered now world numberedL).outcome.1,
    (ensures_numbered later world numberedR).outcome.1⟩, steps.outcome.1⟩

theorem Runs.settled {before after : World η × Query} {told : List Happening}
    (runs : Runs before told after) {world : World η} {final : Query} {now : Instant}
    (settings : one.Alike other) (abreast : Abreast one other (world, left) before)
    (waits : (left.step now world).2 = .waits final) :
    world = after.1 ∧ final.Alike one other after.2 ∧ plainly told = [] := by
  -- Saves change nothing that counts here, so the induction passes over them.
  induction runs with
  | @settles _ query stays later still =>
    cases abreast.world
    obtain ⟨paired, -⟩ := abreast.step settings now later
    have alike := paired.outcome.1
    rw [waits, still] at alike
    exact ⟨rfl, alike, rfl⟩
  | @steps _ query _ _ later goesOn rest ih =>
    cases abreast.world
    obtain ⟨paired, -⟩ := abreast.step settings now later
    obtain ⟨state, waited⟩ := paired.waits waits
    exact absurd waited (goesOn state)
  | saves accepted rest ih =>
    cases abreast.world
    exact ih (abreast.of_unsaved rfl (unsaved_beginSave abreast.numbered.2 accepted))
  | saved tree batchId resultId request rest ih =>
    cases abreast.world
    exact ih (abreast.of_unsaved rfl
      (unsaved_runSave tree abreast.numbered.2 batchId resultId request))

/-- Where one run goes on, the other one goes on as well, perhaps after some saves. -/
theorem Runs.stepped {before after : World η × Query} {told : List Happening}
    (runs : Runs before told after) {world : World η} {now : Instant} (settings : one.Alike other)
    (abreast : Abreast one other (world, left) before)
    (goesOn : ∀ state, (left.step now world).2 ≠ .waits state) :
    ∃ next first rest, told = first ++ rest ∧
      plainly (left.step now world).2.outcome.2 = plainly first ∧
      Abreast one other ((left.step now world).1, (left.step now world).2.outcome.1) next ∧
      Runs next rest after := by
  -- The other run may save some results first, and then it takes the step.
  induction runs with
  | @settles _ query stays later still =>
    cases abreast.world
    obtain ⟨paired, -⟩ := abreast.step settings now later
    obtain ⟨state, waited⟩ := paired.waited still
    exact absurd waited (goesOn state)
  | @steps _ query _ _ later goes rest ih =>
    cases abreast.world
    obtain ⟨paired, level⟩ := abreast.step settings now later
    exact ⟨_, _, _, rfl, paired.outcome.2, level, rest⟩
  | saves accepted rest ih =>
    cases abreast.world
    exact ih (abreast.of_unsaved rfl (unsaved_beginSave abreast.numbered.2 accepted))
  | saved tree batchId resultId request rest ih =>
    cases abreast.world
    exact ih (abreast.of_unsaved rfl
      (unsaved_runSave tree abreast.numbered.2 batchId resultId request))

theorem Runs.abreast (settings : one.Alike other)
    {before after otherBefore otherAfter : World η × Query} {told otherTold : List Happening}
    (runs : Runs before told after) (others : Runs otherBefore otherTold otherAfter)
    (abreast : Abreast one other before otherBefore) :
    after.1 = otherAfter.1 ∧ after.2.Alike one other otherAfter.2 ∧
      plainly told = plainly otherTold := by
  -- The run on the left sets the pace; the one on the right is unwound as far as each step needs.
  induction runs generalizing otherBefore otherTold with
  | settles now waits =>
    obtain ⟨worlds, alike, nothing⟩ := others.settled settings abreast waits
    exact ⟨worlds, alike, nothing.symm⟩
  | steps now goesOn rest ih =>
    obtain ⟨next, first, more, rfl, same, level, onward⟩ := others.stepped settings abreast goesOn
    obtain ⟨worlds, alike, told⟩ := ih onward level
    refine ⟨worlds, alike, ?_⟩
    rw [plainly, plainly, List.filterMap_append, List.filterMap_append]
    exact congrArg₂ (· ++ ·) same told
  | saves accepted rest ih =>
    obtain ⟨_, right⟩ := otherBefore
    cases abreast.world
    exact ih others (abreast.of_unsaved (unsaved_beginSave abreast.numbered.1 accepted) rfl)
  | saved tree batchId resultId request rest ih =>
    obtain ⟨_, right⟩ := otherBefore
    cases abreast.world
    exact ih others (abreast.of_unsaved
      (unsaved_runSave tree abreast.numbered.1 batchId resultId request) rfl)

theorem alike_create (owner text : String) (connection : Connection) (one other : Settings) :
    List.Forall₂ (Batch.Alike one other) (create owner text connection one).batches
      (create owner text connection other).batches := by
  refine List.forall₂_same.mpr fun batch member => ?_
  obtain ⟨place, there⟩ := List.mem_iff_getElem?.mp member
  obtain ⟨part, -, rfl⟩ := batchesOf_getElem? owner text there
  exact ⟨rfl, rfl, rfl, .nil, rfl, rfl, rfl, rfl, rfl⟩

end Query

/-- Two runs of one text on one source, under settings that differ at most in the limit of rows and the
interval of updates, without cancellation and with stores that never fail: they submit the same in the
same order, they get equally far and to the same state, their batches have the same flags and messages
and the same results, where of the same rows each side has stored the first ones up to its limit, and
they tell the same but for updates, times and counts of rows. Every query has such a run
(`Query.runs_run`). -/
theorem limits_are_transparent {η : Type} [Host η] (owner text : String) (connection : Connection)
    {one other : Settings} (settings : one.Alike other) (host : η) {maker : StoreMaker}
    (flawless : maker.Flawless) {begun otherBegun : Query} {start otherStart : Instant}
    (begins : (Query.create owner text connection one).begin start = .ok begun)
    (otherBegins : (Query.create owner text connection other).begin otherStart = .ok otherBegun)
    {final otherFinal : World (Recorded η) × Query} {told otherTold : List Happening}
    (runs : Query.Runs (⟨⟨host, []⟩, maker⟩, begun) told final)
    (otherRuns : Query.Runs (⟨⟨host, []⟩, maker⟩, otherBegun) otherTold otherFinal) :
    final.1.host.submissions = otherFinal.1.host.submissions ∧
      final.2.state = otherFinal.2.state ∧ final.2.activity = otherFinal.2.activity ∧
      List.Forall₂ (Batch.Alike one other) final.2.batches otherFinal.2.batches ∧
      plainly told = plainly otherTold := by
  have numbered (settings : Settings) := Query.numbered_of_create owner text connection settings
  obtain ⟨-, rfl⟩ := Stage.begin_eq_ok begins
  obtain ⟨-, rfl⟩ := Stage.begin_eq_ok otherBegins
  have batches := Query.alike_create owner text connection one other
  obtain ⟨worlds, alike, same⟩ := runs.abreast settings otherRuns
    ⟨rfl, flawless, ⟨numbered one, numbered other⟩, rfl, ⟨rfl, rfl⟩, batches, ⟨rfl, rfl⟩, rfl, rfl, rfl,
      rfl, fun index phase batch executes => by cases executes⟩
  exact ⟨congrArg (fun world => world.host.submissions) worlds, alike.state, alike.activity,
    alike.batches, same⟩

/-- Two executions: three rows after a notice, and two rows before an error. -/
def countingWorld : World (Recorded (Array Replay)) where
  host := ⟨#[⟨[[.notice (.rowsAffected 3), .result ⟨⟨[], false⟩,
      [.row [.int64 1], .row [.int64 2], .row [.int64 3]], none⟩],
    [.result ⟨⟨[], false⟩, [.row [.text "a"], .row [.text "b"]],
      some (.fails (.driver ⟨208, 16, 1, 1, none, "no"⟩))⟩]], []⟩], []⟩
  maker := .file

def cutSettings : Settings := { Settings.standard with storedRows := 1 }

def wholeSettings : Settings := { Settings.standard with updateRows := 1 }

def countingQuery (settings : Settings) : Query :=
  .create "o" "select 1\ngo\nselect 2" 0 settings

def countingBegun (settings : Settings) (start : Instant) : Query :=
  { countingQuery settings with state := .running, started := some start, activity := .choosing 0 }

theorem limits_are_transparent_cut :
    cutSettings.Alike wholeSettings ∧ countingWorld.maker.Flawless ∧
      ∃ (cut whole : World (Recorded (Array Replay)) × Query) (cutTold wholeTold : List Happening),
        (countingBegun cutSettings ⟨0, 0⟩).run ⟨0, 0⟩ countingWorld = (cut.1, cut.2, cutTold) ∧
        (countingBegun wholeSettings ⟨7, 0⟩).run ⟨7, 0⟩ countingWorld =
          (whole.1, whole.2, wholeTold) ∧
        (cut.2.state = .failed ∧
          cut.2.batches.map (·.results.map ResultSet.rowCount) = [[1], [1]] ∧
          cutTold.length = 11) ∧
        (whole.2.batches.map (·.results.map ResultSet.rowCount) = [[3], [2]] ∧
          wholeTold.length = 14) ∧
        cut.1.host.submissions = whole.1.host.submissions ∧ cut.2.state = whole.2.state ∧
        cut.2.activity = whole.2.activity ∧
        List.Forall₂ (Batch.Alike cutSettings wholeSettings) cut.2.batches whole.2.batches ∧
        plainly cutTold = plainly wholeTold := by
  have settings : cutSettings.Alike wholeSettings := ⟨rfl, rfl, rfl⟩
  have flawless : countingWorld.maker.Flawless := ⟨fun _ => rfl, fun _ => rfl⟩
  have begins (settings : Settings) (start : Instant) :
      (countingQuery settings).begin start = .ok (countingBegun settings start) := if_pos rfl
  obtain ⟨⟨cutWorld, cut, cutTold⟩, cutSettles⟩ := Option.isSome_iff_exists.mp
    (show (Query.runFor ⟨0, 0⟩ 60 countingWorld (countingBegun cutSettings ⟨0, 0⟩)).isSome = true
      by decide +kernel)
  obtain ⟨⟨wholeWorld, whole, wholeTold⟩, wholeSettles⟩ := Option.isSome_iff_exists.mp
    (show (Query.runFor ⟨7, 0⟩ 60 countingWorld (countingBegun wholeSettings ⟨7, 0⟩)).isSome = true
      by decide +kernel)
  have cutFacts : (Query.runFor ⟨0, 0⟩ 60 countingWorld (countingBegun cutSettings ⟨0, 0⟩)).map
      (fun reached => (reached.2.1.state,
        reached.2.1.batches.map (·.results.map ResultSet.rowCount), reached.2.2.length)) =
      some (.failed, [[1], [1]], 11) := by decide +kernel
  have wholeFacts : (Query.runFor ⟨7, 0⟩ 60 countingWorld
      (countingBegun wholeSettings ⟨7, 0⟩)).map
      (fun reached => (reached.2.1.batches.map (·.results.map ResultSet.rowCount),
        reached.2.2.length)) = some ([[3], [2]], 14) := by decide +kernel
  rw [cutSettles] at cutFacts
  rw [wholeSettles] at wholeFacts
  simp only [Option.map_some, Option.some.injEq, Prod.mk.injEq] at cutFacts wholeFacts
  have cutRun := Query.run_of_runFor cutSettles
  have wholeRun := Query.run_of_runFor wholeSettles
  have runs := Query.runs_run ⟨0, 0⟩ countingWorld (countingBegun cutSettings ⟨0, 0⟩)
  have others := Query.runs_run ⟨7, 0⟩ countingWorld (countingBegun wholeSettings ⟨7, 0⟩)
  rw [cutRun] at runs
  rw [wholeRun] at others
  exact ⟨settings, flawless, (cutWorld, cut), (wholeWorld, whole), cutTold, wholeTold, cutRun,
    wholeRun, cutFacts, wholeFacts,
    limits_are_transparent "o" _ 0 settings _ flawless (begins _ _) (begins _ _) runs others⟩

end SqlDesk
