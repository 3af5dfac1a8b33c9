import SqlDesk.Query.Run
import SqlDesk.Proofs.Batch.Turn
import SqlDesk.Proofs.Query.Stage

/-! How a query ends is settled by its batches. The invariant ties what the query is about to do to
the flags of its batches: those in front have run to their end and completed, one may be under way,
and those behind are untouched. It looks at flags and outcomes only, so requests keep it. -/

set_option autoImplicit false

namespace SqlDesk

def Query.flags (query : Query) : List BatchFlags := query.batches.map Batch.flags

/-- The batches in front have completed, and those behind are untouched. -/
structure Settled (ran rest : List BatchFlags) (endings : List BatchOutcome) : Prop where
  completed : ∀ flags ∈ ran, flags.Ended .completed
  endings : endings = List.replicate ran.length .completed
  untouched : ∀ flags ∈ rest, flags = .unrun

/-- No batch runs any more, because there is none left to run or because the last one has stopped. -/
inductive Over : List BatchFlags → List BatchOutcome → Prop where
  | completed {ran rest : List BatchFlags} {endings : List BatchOutcome}
      (settled : Settled ran rest endings) : Over (ran ++ rest) endings
  | stopped {ran rest : List BatchFlags} {last : BatchFlags} {endings : List BatchOutcome}
      {outcome : BatchOutcome} (settled : Settled ran rest endings) (ended : last.Ended outcome)
      (stopped : outcome ≠ .completed) : Over (ran ++ last :: rest) (endings ++ [outcome])

def verdict (endings : List BatchOutcome) (flags : List BatchFlags) : QueryState :=
  match endings.getLast? with
  | some .cancelled => .cancelled
  | some .failed => .failed
  | some .completed | none =>
    if endings.length < flags.length then .cancelled
    else if flags.any BatchFlags.hasError then .failed
    else .completed

def Stands (state : QueryState) (activity : Activity) (flags : List BatchFlags)
    (endings : List BatchOutcome) : Prop :=
  match activity with
  | .choosing index => state = .running ∧ ∃ ran rest, flags = ran ++ rest ∧ ran.length = index ∧
      Settled ran rest endings
  | .executing index phase => state = .running ∧ ∃ ran current rest,
      flags = ran ++ current :: rest ∧ ran.length = index ∧ Settled ran rest endings ∧
      current.Underway phase
  | .closing closing => state = .running ∧ Over flags endings ∧
      (closing = .cancelled ∧ endings.getLast? = some .cancelled ∨
        closing = .failed ∧ endings.getLast? = some .failed)
  | .announcing => state = verdict endings flags ∧ Over flags endings
  | .resting => state = .notStarted ∧ endings = [] ∧ (∀ batch ∈ flags, batch = .unrun) ∨
      state = verdict endings flags ∧ Over flags endings

inductive QueryState.Moves : QueryState → QueryState → Prop where
  | stays {state : QueryState} : Moves state state
  | begins : Moves .notStarted .running
  | ends {state : QueryState} (terminal : state.isTerminal = true) : Moves .running state

theorem QueryState.Moves.isTerminal {before after : QueryState} (moves : before.Moves after)
    (terminal : before.isTerminal = true) : after.isTerminal = true := by
  cases moves with
  | stays => exact terminal
  | begins => cases terminal
  | ends ended => exact ended

section

variable {ran rest : List BatchFlags} {endings : List BatchOutcome}

theorem Settled.length (settled : Settled ran rest endings) : endings.length = ran.length := by
  rw [settled.endings, List.length_replicate]

theorem Settled.extend {current : BatchFlags} (settled : Settled ran rest endings)
    (ended : current.Ended .completed) :
    Settled (ran ++ [current]) rest (endings ++ [.completed]) where
  completed := by
    intro flags member
    rcases List.mem_append.mp member with earlier | last
    · exact settled.completed flags earlier
    · exact List.mem_singleton.mp last ▸ ended
  endings := by
    rw [settled.endings, List.length_append, List.length_singleton, List.replicate_succ']
  untouched := settled.untouched

theorem Settled.verdict (settled : Settled ran rest endings) (flags : List BatchFlags) :
    verdict endings flags = if endings.length < flags.length then .cancelled
      else if flags.any BatchFlags.hasError then .failed else .completed := by
  unfold SqlDesk.verdict
  cases last : endings.getLast? with
  | none => rfl
  | some outcome =>
    have member := List.mem_of_getLast? last
    rw [settled.endings] at member
    rw [List.eq_of_mem_replicate member]

theorem verdict_isTerminal (endings : List BatchOutcome) (flags : List BatchFlags) :
    (verdict endings flags).isTerminal = true := by
  unfold verdict
  split
  · rfl
  · rfl
  all_goals
    split
    · rfl
    · split <;> rfl

end

namespace Stands

variable {state : QueryState} {activity : Activity} {flags : List BatchFlags}
  {endings : List BatchOutcome}

theorem of_notStarted (stands : Stands .notStarted activity flags endings) :
    endings = [] ∧ ∀ batch ∈ flags, batch = .unrun := by
  have unended : .notStarted ≠ verdict endings flags := by
    intro same
    have terminal := verdict_isTerminal endings flags
    rw [← same] at terminal
    cases terminal
  cases activity with
  | choosing | executing | closing => cases stands.1
  | announcing => exact absurd stands.1 unended
  | resting =>
    rcases stands with ⟨-, none, untouched⟩ | ⟨same, -⟩
    · exact ⟨none, untouched⟩
    · exact absurd same unended

theorem of_terminal (stands : Stands state activity flags endings)
    (terminal : state.isTerminal = true) : state = verdict endings flags ∧ Over flags endings := by
  cases activity with
  | choosing | executing | closing =>
    rw [stands.1] at terminal
    cases terminal
  | announcing => exact stands
  | resting =>
    rcases stands with ⟨rfl, -⟩ | finished
    · cases terminal
    · exact finished

end Stands

namespace Query

variable {η : Type} [Host η]

theorem returned_of_idle (now : Instant) (world : World η) {query : Query}
    (idle : ∀ index phase, query.activity ≠ .executing index phase) :
    query.returned now world = none := by
  unfold returned
  split
  · rename_i index phase executes
    exact absurd executes (idle index phase)
  · rfl

theorem returned_of_executing (now : Instant) (world : World η) {query : Query} {index : Nat}
    {phase : BatchPhase} {batch : Batch} (executes : query.activity = .executing index phase)
    (found : query.batches[index]? = some batch) :
    query.returned now world =
      ((query.runOf batch phase).step now query.cancelRequested world).2.result?.map
        BatchEnd.outcome := by
  simp [returned, executes, found]

abbrev StandsAt (query : Query) (endings : List BatchOutcome) : Prop :=
  Stands query.state query.activity query.flags endings

theorem flags_next {query : Query} {ran rest : List BatchFlags} {batch : Batch}
    (flags : query.flags = ran ++ rest) (found : query.batches[ran.length]? = some batch) :
    ∃ behind, rest = batch.flags :: behind := by
  have there : query.flags[ran.length]? = some batch.flags := by simp [Query.flags, found]
  rw [flags, List.getElem?_append_right (Nat.le_refl _), Nat.sub_self] at there
  cases rest with
  | nil => cases there
  | cons first behind =>
    cases there
    exact ⟨behind, rfl⟩

theorem flags_setBatch {query : Query} (numbered : query.Numbered) {ran rest : List BatchFlags}
    {current : BatchFlags} {batch next : Batch} (flags : query.flags = ran ++ current :: rest)
    (found : query.batches[ran.length]? = some batch) (id : next.id = batch.id) :
    (query.setBatch next).flags = ran ++ next.flags :: rest := by
  have stands : (query.setBatch next).flags = query.flags.set ran.length next.flags := by
    unfold Query.flags
    rw [batches_setBatch numbered found id, List.map_set]
  rw [stands, flags]
  simp

theorem stands_withRun {query : Query} {ran rest : List BatchFlags} {endings : List BatchOutcome}
    {run : BatchRun} (running : query.state = .running)
    (flags : (query.setBatch run.batch).flags = ran ++ run.batch.flags :: rest)
    (settled : Settled ran rest endings) (underway : run.batch.flags.Underway run.phase) :
    (query.withRun ran.length run).StandsAt endings :=
  ⟨running, ran, run.batch.flags, rest, flags, rfl, settled, underway⟩

/-- The end of a batch is where the next one is taken up, or where the query is closed. -/
theorem stands_afterBatch {query : Query} {ran rest : List BatchFlags}
    {endings : List BatchOutcome} {done : BatchEnd} (running : query.state = .running)
    (flags : (query.setBatch done.batch).flags = ran ++ done.batch.flags :: rest)
    (settled : Settled ran rest endings) (ended : done.batch.flags.Ended done.outcome) :
    (query.afterBatch ran.length done).StandsAt (endings ++ [done.outcome]) := by
  obtain ⟨batch, outcome⟩ := done
  -- Only after a batch that has completed another one is taken up.
  cases outcome with
  | completed =>
    refine ⟨running, ran ++ [batch.flags], rest, ?_, List.length_append, settled.extend ended⟩
    rw [← List.append_cons]
    exact flags
  | cancelled =>
    have finished := Over.stopped settled ended (by simp)
    rw [← flags] at finished
    exact ⟨running, finished, .inl ⟨rfl, List.getLast?_concat⟩⟩
  | failed =>
    have finished := Over.stopped settled ended (by simp)
    rw [← flags] at finished
    exact ⟨running, finished, .inr ⟨rfl, List.getLast?_concat⟩⟩

theorem ensures_stands (now : Instant) (world : World η) {query : Query}
    {endings : List BatchOutcome} (numbered : query.Numbered) (stands : query.StandsAt endings) :
    (query.step now world).2.Ensures
      (fun next _ => next.StandsAt (endings ++ (query.returned now world).toList) ∧
        query.state.Moves next.state)
      (fun next _ => next.StandsAt (endings ++ (query.returned now world).toList) ∧
        query.state.Moves next.state) := by
  have turn := query.turn now world
  have idle (quiet : ∀ index phase, query.activity ≠ .executing index phase) :
      endings ++ (query.returned now world).toList = endings := by
    rw [returned_of_idle now world quiet, Option.toList_none, List.append_nil]
  unfold StandsAt at stands
  revert turn
  rcases query.step now world with ⟨later, progress⟩
  intro turn
  cases turn with
  | rested rests =>
    rw [idle (by simp [rests])]
    exact ⟨stands, .stays⟩
  | announced announces =>
    rw [idle (by simp [announces])]
    rw [announces] at stands
    exact ⟨.inr stands, .stays⟩
  | closed closes =>
    rw [idle (by simp [closes])]
    rw [closes] at stands
    obtain ⟨running, finished, final⟩ := stands
    -- The state that was to be set is the one that the last ending calls for.
    have same : ∀ closing, (closing = .cancelled ∧ endings.getLast? = some .cancelled ∨
        closing = .failed ∧ endings.getLast? = some .failed) →
        (query.finish now closing).state = verdict endings query.flags := by
      rintro closing (⟨rfl, last⟩ | ⟨rfl, last⟩) <;> simp [finish, verdict, last]
    have state := same _ final
    exact ⟨⟨state, finished⟩, by rw [running, state]; exact .ends (verdict_isTerminal _ _)⟩
  | exhausted chooses missing =>
    rw [idle (by simp [chooses])]
    rw [chooses] at stands
    obtain ⟨running, ran, rest, flags, rfl, settled⟩ := stands
    have none : query.flags.length ≤ endings.length := by
      rw [settled.length]
      simpa [Query.flags] using missing
    have state : (query.finish now .completed).state = verdict endings query.flags := by
      rw [settled.verdict, if_neg (Nat.not_lt.mpr none)]
      simp [finish, Query.flags, Batch.flags, List.any_map, Function.comp_def]
    have finished : Over query.flags endings := flags ▸ .completed settled
    exact ⟨⟨state, finished⟩, by rw [running, state]; exact .ends (verdict_isTerminal _ _)⟩
  | halted chooses found signalled =>
    rw [idle (by simp [chooses])]
    rw [chooses] at stands
    obtain ⟨running, ran, rest, flags, rfl, settled⟩ := stands
    have more : endings.length < query.flags.length := by
      rw [settled.length]
      simpa [Query.flags] using (List.getElem?_eq_some_iff.mp found).1
    have state : (query.finish now .cancelled).state = verdict endings query.flags := by
      rw [settled.verdict, if_pos more]
      simp [finish]
    have finished : Over query.flags endings := flags ▸ .completed settled
    exact ⟨⟨state, finished⟩, by rw [running, state]; exact .ends (verdict_isTerminal _ _)⟩
  | @refused index batch chooses found _ used =>
    rw [chooses] at stands
    obtain ⟨running, ran, rest, flags, rfl, settled⟩ := stands
    obtain ⟨behind, rfl⟩ := flags_next flags found
    -- The next batch is untouched, so it cannot refuse to start.
    have fresh : batch.flags = .unrun := settled.untouched _ List.mem_cons_self
    rw [show batch.started.isSome = batch.flags.begun from rfl, fresh] at used
    cases used
  | @begun index batch chooses found =>
    rw [idle (by simp [chooses])]
    rw [chooses] at stands
    obtain ⟨running, ran, rest, flags, rfl, settled⟩ := stands
    obtain ⟨behind, rfl⟩ := flags_next flags found
    have fresh : batch.flags = .unrun := settled.untouched _ List.mem_cons_self
    have behindAll : Settled ran behind endings :=
      ⟨settled.completed, settled.endings, fun flags member => settled.untouched flags (List.mem_cons_of_mem _ member)⟩
    refine ⟨stands_withRun running (flags_setBatch numbered flags found rfl) behindAll ?_,
      .stays⟩
    exact ⟨congrArg BatchFlags.executed fresh, congrArg BatchFlags.cancelled fresh⟩
  | lost executes missing =>
    rw [executes] at stands
    obtain ⟨-, ran, current, rest, flags, rfl, -⟩ := stands
    have inside : ran.length < query.batches.length := by
      rw [← List.length_map (f := Batch.flags), show query.batches.map Batch.flags = _ from flags]
      simp
    exact absurd (List.getElem?_eq_none_iff.mp missing) (Nat.not_le.mpr inside)
  | @executed index phase batch executes found =>
    rw [returned_of_executing now world executes found]
    rw [executes] at stands
    obtain ⟨running, ran, current, rest, flags, rfl, settled, underway⟩ := stands
    obtain ⟨behind, same⟩ := flags_next flags found
    cases same
    have inner := (numbered _ _ found).2.2
    have flagged := (query.runOf batch phase).ensures_flags now query.cancelRequested world underway
    have kept := (BatchRun.ensures_numbered now query.cancelRequested world inner).and flagged
    -- The outcome that the step returns is known once the step of the batch is.
    cases progress : ((query.runOf batch phase).step now query.cancelRequested world).2 with
    | waits run =>
      rw [progress] at kept
      obtain ⟨⟨id, -, -⟩, runs⟩ := kept
      refine ⟨?_, .stays⟩
      rw [Progress.result?, Option.map_none, Option.toList_none, List.append_nil]
      exact stands_withRun running (flags_setBatch numbered flags found id) settled runs
    | moves run event =>
      rw [progress] at kept
      obtain ⟨⟨id, -, -⟩, runs⟩ := kept
      refine ⟨?_, .stays⟩
      rw [Progress.result?, Option.map_none, Option.toList_none, List.append_nil]
      exact stands_withRun running (flags_setBatch numbered flags found id) settled runs
    | ends done event =>
      rw [progress] at kept
      obtain ⟨⟨id, -, -⟩, ended⟩ := kept
      exact ⟨stands_afterBatch running (flags_setBatch numbered flags found id) settled ended, .stays⟩

end Query

/-! What the flags say once no batch runs any more. -/

namespace BatchFlags

/-- The batch has run and there is nothing to complain of. -/
def Clear (flags : BatchFlags) : Prop :=
  flags.executed = true ∧ flags.hasError = false ∧ flags.cancelled = false

end BatchFlags

theorem Settled.uncancelled {ran rest : List BatchFlags} {endings : List BatchOutcome}
    (settled : Settled ran rest endings) : ∀ flags ∈ ran ++ rest, flags.cancelled = false := by
  intro flags member
  rcases List.mem_append.mp member with inRan | inRest
  · simpa using (settled.completed flags inRan).cancelled
  · rw [settled.untouched flags inRest]
    rfl

namespace Over

variable {flags : List BatchFlags} {endings : List BatchOutcome}

theorem front (finished : Over flags endings) :
    ∃ ran rest, flags = ran ++ rest ∧ ran.length = endings.length ∧
      (∀ batch ∈ ran, batch.executed = true) ∧ ∀ batch ∈ rest, batch = .unrun := by
  cases finished with
  | @completed ran rest _ settled =>
    exact ⟨ran, rest, rfl, settled.length.symm,
      fun batch member => (settled.completed batch member).executed, settled.untouched⟩
  | @stopped ran rest last done outcome settled ended =>
    refine ⟨ran ++ [last], rest, by simp, by simp [settled.length], ?_, settled.untouched⟩
    intro batch member
    rcases List.mem_append.mp member with earlier | final
    · exact (settled.completed batch earlier).executed
    · exact List.mem_singleton.mp final ▸ ended.executed

theorem last_of_cancelled (finished : Over flags endings) {place : Nat} {batch : BatchFlags}
    (there : flags[place]? = some batch) (marked : batch.cancelled = true) :
    place + 1 = endings.length := by
  cases finished with
  | completed settled =>
    have clean := settled.uncancelled batch (List.mem_of_getElem? there)
    simp [clean] at marked
  | @stopped ran rest last done outcome settled ended =>
    rw [List.length_append, List.length_singleton, settled.length]
    -- In front of the last one all have completed, and behind it none has run.
    rcases Nat.lt_trichotomy place ran.length with before | same | behind
    · rw [List.getElem?_append_left before] at there
      have clean := settled.uncancelled batch (List.mem_append_left _ (List.mem_of_getElem? there))
      simp [clean] at marked
    · rw [same]
    · rw [List.getElem?_append_right (Nat.le_of_lt behind), List.getElem?_cons,
        if_neg (by omega)] at there
      have clean := settled.uncancelled batch (List.mem_append_right _ (List.mem_of_getElem? there))
      simp [clean] at marked

theorem verdict_eq_completed_iff (finished : Over flags endings) :
    verdict endings flags = .completed ↔ ∀ batch ∈ flags, batch.Clear := by
  cases finished with
  | @completed ran rest _ settled =>
    rw [settled.verdict, settled.length]
    constructor
    · intro clean batch member
      split at clean
      · cases clean
      · rename_i all
        split at clean
        · cases clean
        · rename_i quiet
          -- All batches have run, so each of them has completed.
          have none : rest = [] := by
            rw [List.length_append] at all
            exact List.eq_nil_of_length_eq_zero (by omega)
          have inRan : batch ∈ ran := by simpa [none] using member
          refine ⟨(settled.completed batch inRan).executed, ?_, settled.uncancelled batch member⟩
          simp only [List.any_eq_true, not_exists, not_and, Bool.not_eq_true] at quiet
          exact quiet batch member
    · intro clear
      have none : rest = [] := by
        refine List.eq_nil_iff_forall_not_mem.mpr fun batch member => ?_
        have executed := (clear batch (List.mem_append_right _ member)).1
        rw [settled.untouched batch member] at executed
        cases executed
      have quiet : ¬ (ran ++ rest).any BatchFlags.hasError = true := by
        simp only [List.any_eq_true, not_exists, not_and, Bool.not_eq_true]
        exact fun batch member => (clear batch member).2.1
      rw [if_neg (by simp [none]), if_neg quiet]
  | @stopped ran rest last done outcome settled ended stopped =>
    have unclear : ¬ last.Clear := by
      rintro ⟨-, clean, unmarked⟩
      cases outcome with
      | completed => exact stopped rfl
      | cancelled => simp [ended.cancelled.mpr rfl] at unmarked
      | failed => simp [ended.failed rfl] at clean
    constructor
    · intro same
      unfold verdict at same
      rw [List.getLast?_concat] at same
      cases outcome with
      | completed => exact absurd rfl stopped
      | cancelled | failed => cases same
    · intro clear
      exact absurd (clear last (by simp)) unclear

theorem verdict_eq_failed_iff (finished : Over flags endings) :
    verdict endings flags = .failed ↔
      (∀ batch ∈ flags, batch.cancelled = false) ∧ (∃ batch ∈ flags, batch.hasError = true) ∧
        (endings.length = flags.length ∨ endings.getLast? = some .failed) := by
  cases finished with
  | @completed ran rest _ settled =>
    have unfailed : endings.getLast? ≠ some .failed := by
      intro last
      have member := List.mem_of_getLast? last
      rw [settled.endings] at member
      cases List.eq_of_mem_replicate member
    have erred : ((ran ++ rest).any BatchFlags.hasError = true) ↔
        ∃ batch ∈ ran ++ rest, batch.hasError = true := List.any_eq_true
    have bound : endings.length ≤ (ran ++ rest).length := by
      rw [settled.length, List.length_append]
      exact Nat.le_add_right _ _
    -- No batch has failed here, so it takes an error, and that all batches have run.
    rw [settled.verdict, ← erred]
    constructor
    · intro same
      split at same
      · cases same
      · rename_i all
        split at same
        · rename_i error
          exact ⟨settled.uncancelled, error, .inl (Nat.le_antisymm bound (Nat.not_lt.mp all))⟩
        · cases same
    · rintro ⟨-, error, all | last⟩
      · rw [if_neg (by omega), if_pos error]
      · exact absurd last unfailed
  | @stopped ran rest last done outcome settled ended stopped =>
    unfold verdict
    rw [List.getLast?_concat]
    cases outcome with
    | completed => exact absurd rfl stopped
    | cancelled =>
      refine iff_of_false (by simp) ?_
      rintro ⟨uncancelled, -⟩
      have clean := uncancelled last (by simp)
      simp [ended.cancelled.mpr rfl] at clean
    | failed =>
      refine iff_of_true rfl ⟨?_, ⟨last, by simp, ended.failed rfl⟩, .inr rfl⟩
      intro batch member
      rcases List.mem_append.mp member with inRan | inRest
      · exact settled.uncancelled batch (List.mem_append_left _ inRan)
      · rcases List.mem_cons.mp inRest with rfl | behind
        · simpa using ended.cancelled
        · exact settled.uncancelled batch (List.mem_append_right _ behind)

end Over

/-- How the end of a query hangs together with the batches that have run, the outcomes of these, and
the batches that have not run. -/
structure Query.EndsWith (query : Query) (endings : List BatchOutcome) (ran unrun : List Batch) :
    Prop where
  batches : query.batches = ran ++ unrun
  outcomes : ran.length = endings.length
  executed : ∀ batch ∈ ran, batch.executed = true
  untouched : ∀ batch ∈ unrun, batch.started = none ∧ batch.executed = false
  completed : query.state = .completed ↔ ∀ batch ∈ query.batches,
    batch.executed = true ∧ batch.hasError = false ∧ batch.cancelled = false
  failed : query.state = .failed ↔ (∀ batch ∈ query.batches, batch.cancelled = false) ∧
    (∃ batch ∈ query.batches, batch.hasError = true) ∧
    (unrun = [] ∨ endings.getLast? = some .failed)
  cancelled : query.state = .cancelled ↔ query.state ≠ .completed ∧ query.state ≠ .failed
  last : ∀ (place : Nat) (batch : Batch), query.batches[place]? = some batch →
    batch.cancelled = true → place + 1 = ran.length

theorem Over.endsWith {query : Query} {endings : List BatchOutcome}
    (finished : Over query.flags endings) (state : query.state = verdict endings query.flags) :
    ∃ ran unrun, query.EndsWith endings ran unrun := by
  obtain ⟨ranFlags, restFlags, flags, length, executed, untouched⟩ := finished.front
  obtain ⟨ran, unrun, batches, rfl, rfl⟩ := List.map_eq_append_iff.mp flags
  rw [List.length_map] at length
  have all : (endings.length = query.flags.length) ↔ unrun = [] := by
    rw [flags, ← length, List.length_append, List.length_map, List.length_map,
      ← List.length_eq_zero_iff]
    omega
  refine ⟨ran, unrun, batches, length, ?_, ?_, ?_, ?_, ?_, ?_⟩
  · intro batch member
    exact executed _ (List.mem_map_of_mem member)
  · intro batch member
    have clean := untouched _ (List.mem_map_of_mem member)
    simp only [Batch.flags, BatchFlags.unrun, BatchFlags.mk.injEq] at clean
    exact ⟨by simpa using clean.1, clean.2.1⟩
  · rw [state, finished.verdict_eq_completed_iff]
    exact List.forall_mem_map
  · rw [state, finished.verdict_eq_failed_iff, all]
    simp [Query.flags, Batch.flags]
  · have terminal := verdict_isTerminal endings query.flags
    rw [← state] at terminal
    cases final : query.state <;> simp [final, QueryState.isTerminal] at terminal ⊢
  · intro place batch there marked
    rw [length]
    have flagged : query.flags[place]? = some batch.flags := by simp [Query.flags, there]
    exact finished.last_of_cancelled flagged marked

theorem Query.resting_of_batchesLeft {query : Query} (none : query.batchesLeft = 0) :
    query.activity = .resting := by
  unfold batchesLeft at none
  split at none <;> first | assumption | omega

theorem Query.flags_bare (query : Query) : query.bare.flags = query.flags := by
  simp only [Query.flags, Query.bare, Query.mapResults, List.map_map]
  rfl

theorem Query.standsAt_of_bare {before after : Query} {endings : List BatchOutcome}
    (same : after.bare = before.bare) (stands : before.StandsAt endings) :
    after.StandsAt endings ∧ before.state = after.state := by
  have state : after.bare.state = before.bare.state := by rw [same]
  have activity : after.bare.activity = before.bare.activity := by rw [same]
  have flags : after.flags = before.flags := by rw [← after.flags_bare, same, before.flags_bare]
  change after.state = before.state at state
  change after.activity = before.activity at activity
  refine ⟨?_, state.symm⟩
  unfold StandsAt
  rw [state, activity, flags]
  exact stands

theorem Query.standsAt_create (owner text : String) (connection : Connection)
    (settings : Settings) : (create owner text connection settings).StandsAt [] := by
  refine .inl ⟨rfl, rfl, ?_⟩
  intro flags member
  obtain ⟨batch, inside, rfl⟩ := List.mem_map.mp member
  obtain ⟨place, there⟩ := List.mem_iff_getElem?.mp inside
  obtain ⟨part, -, rfl⟩ := Query.batchesOf_getElem? owner text there
  rfl

namespace Stage

variable {η α : Type} [Host η]

theorem Does.stands {act : Act} {stage next : Stage η α} (does : Does act stage next)
    (numbered : stage.query.Numbered) (stands : stage.query.StandsAt stage.endings) :
    next.query.StandsAt next.endings ∧ stage.query.state.Moves next.query.state := by
  rcases does.cases numbered with ⟨now, -, rfl⟩ | ⟨now, query, accepted, rfl⟩ | asked
  · exact (Query.ensures_stands now stage.world numbered stands).outcome
  · obtain ⟨fresh, rfl⟩ := begin_eq_ok accepted
    unfold Query.StandsAt at stands
    rw [fresh] at stands
    obtain ⟨none, untouched⟩ := stands.of_notStarted
    have settled : Settled [] stage.query.flags stage.endings := ⟨by simp, by simp [none], untouched⟩
    exact ⟨⟨rfl, [], _, rfl, rfl, settled⟩, fresh ▸ .begins⟩
  · rw [asked.endings]
    obtain ⟨still, same⟩ := Query.standsAt_of_bare asked.bare stands
    exact ⟨still, same ▸ .stays⟩

theorem Course.stands {allowed : Act → Prop} {first stage : Stage η α}
    (course : Course allowed first stage) (numbered : first.query.Numbered)
    (stands : first.query.StandsAt first.endings) : stage.query.StandsAt stage.endings := by
  have kept : stage.query.Numbered ∧ stage.query.StandsAt stage.endings := by
    refine course.preserves (fun stage => stage.query.Numbered ∧
      stage.query.StandsAt stage.endings) ?_ ⟨numbered, stands⟩
    rintro act first second - does ⟨numbers, at_⟩
    exact ⟨does.numbered numbers, (does.stands numbers at_).1⟩
  exact kept.2

theorem Course.rests {allowed : Act → Prop} {first stage : Stage η α}
    (course : Course allowed first stage) (numbered : first.query.Numbered)
    (ended : first.query.isTerminal = true) (rests : first.query.activity = .resting) :
    stage.submissions = first.submissions ∧ stage.scene.rounds = first.scene.rounds := by
  have kept : stage.query.Numbered ∧ (stage.query.isTerminal = true ∧
      stage.query.activity = .resting) ∧ stage.submissions = first.submissions ∧
      stage.scene.rounds = first.scene.rounds := by
    refine course.preserves (fun stage => stage.query.Numbered ∧
      (stage.query.isTerminal = true ∧ stage.query.activity = .resting) ∧
      stage.submissions = first.submissions ∧ stage.scene.rounds = first.scene.rounds) ?_
      ⟨numbered, ⟨ended, rests⟩, rfl, rfl⟩
    rintro act before after - does ⟨numbers, ⟨finished, resting⟩, quiet, silent⟩
    refine ⟨does.numbered numbers, ?_⟩
    -- A step only waits, beginning is refused, and what is asked leaves state and activity.
    rcases does.cases numbers with ⟨now, -, rfl⟩ | ⟨now, query, accepted, rfl⟩ | asked
    · have waits : before.query.step now before.world = (before.world, .waits before.query) := by
        simp [Query.step, resting]
      simp only [step, query, submissions, waits, Progress.outcome, Scene.tell, List.map_nil,
        List.append_nil]
      exact ⟨⟨finished, resting⟩, quiet, silent⟩
    · have fresh := (begin_eq_ok accepted).1
      simp [Query.isTerminal, fresh, QueryState.isTerminal] at finished
    · have state : after.query.bare.state = before.query.bare.state := by rw [asked.bare]
      have activity : after.query.bare.activity = before.query.bare.activity := by rw [asked.bare]
      refine ⟨⟨?_, activity.trans resting⟩, asked.submissions.trans quiet,
        asked.rounds.trans silent⟩
      exact (congrArg QueryState.isTerminal state).trans finished
  exact kept.2.2

/-- However a query runs, and whatever is asked of it meanwhile, it is begun once and ended once, and
its batches settle how it ends. Once it has been begun it refuses to be begun again, and once it has
come to rest nothing more is run or told. -/
theorem ends_as_its_batches_do (owner text : String) (connection : Connection) (settings : Settings)
    (host : η) (maker : StoreMaker) {stage : Stage η α}
    (reached : Course (fun _ => True) (ofQuery host maker (.create owner text connection settings))
      stage) :
    (∀ (act : Act) (next : Stage η α), Does act stage next →
      stage.query.state.Moves next.query.state) ∧
    (stage.query.isTerminal = true → ∃ ran unrun, stage.query.EndsWith stage.endings ran unrun) ∧
    (stage.query.state ≠ .notStarted → ∀ now, stage.query.begin now = .error .alreadyExecuted) ∧
    (stage.query.isTerminal = true → stage.query.activity = .resting →
      ∀ {allowed : Act → Prop} {later : Stage η α}, Course allowed stage later →
        later.submissions = stage.submissions ∧ later.scene.rounds = stage.scene.rounds) := by
  have fresh := Query.numbered_of_create owner text connection settings
  have numbered := reached.numbered fresh
  have stands : stage.query.StandsAt stage.endings := by
    refine reached.stands fresh (.inl ⟨rfl, rfl, ?_⟩)
    intro flags member
    obtain ⟨batch, inside, rfl⟩ := List.mem_map.mp member
    obtain ⟨place, there⟩ := List.mem_iff_getElem?.mp inside
    obtain ⟨part, -, rfl⟩ := Query.batchesOf_getElem? owner text there
    rfl
  refine ⟨fun act next does => (does.stands numbered stands).2, ?_, ?_, ?_⟩
  · intro terminal
    obtain ⟨state, finished⟩ := stands.of_terminal terminal
    exact finished.endsWith state
  · intro begun now
    exact if_neg begun
  · intro terminal rests allowed later course
    exact course.rests numbered terminal rests

/-- Three batches. The first one meets an error of the database, the second one cannot store its
result, and the third one is never run. -/
def faulty : Stage (Array Replay) Unit :=
  ofQuery #[⟨[[.stop (.fails (.driver ⟨208, 16, 1, 1, none, "no"⟩))],
    [.result ⟨⟨[], false⟩, [], none⟩]], []⟩] { StoreMaker.file with failures := ⟨(· = 0)⟩ }
    (.create "o" "select 1\ngo\nselect 2\ngo\nselect 3" 0 .standard)

def faultyBegun : Stage (Array Replay) Unit :=
  faulty.withQuery { faulty.query with
    state := .running, started := some ⟨0, 0⟩, activity := .choosing 0 }

def faultyEnded : Stage (Array Replay) Unit := (step ⟨0, 0⟩)^[30] faultyBegun

theorem ends_as_its_batches_do_faulty :
    faultyEnded.query.state = .failed ∧ faultyEnded.endings = [.completed, .failed] ∧
      (∃ ran unrun, faultyEnded.query.EndsWith faultyEnded.endings ran unrun ∧
        ran.length = 2 ∧ unrun.length = 1) ∧
      faultyEnded.query.begin ⟨1, 0⟩ = .error .alreadyExecuted ∧
      ((step ⟨1, 0⟩)^[5] faultyEnded).submissions = faultyEnded.submissions ∧
      faultyEnded.submissions.length = 2 := by
  have begins : faulty.query.begin ⟨0, 0⟩ = .ok faultyBegun.query := if_pos rfl
  have first : Course (fun _ => True) faulty faultyBegun :=
    .single .begins trivial (.begins ⟨0, 0⟩ begins)
  have reached : Course (fun _ => True) faulty faultyEnded :=
    first.trans (course_steps trivial _ 30 faultyBegun)
  have later : Course (fun _ => True) faultyEnded ((step ⟨1, 0⟩)^[5] faultyEnded) :=
    course_steps trivial _ 5 faultyEnded
  have endings : faultyEnded.endings = [.completed, .failed] := by decide +kernel
  have state : faultyEnded.query.state = .failed := by decide +kernel
  obtain ⟨-, settled, refuses, quiet⟩ := ends_as_its_batches_do "o" _ 0 _ _ _ reached
  have terminal : faultyEnded.query.isTerminal = true := by rw [Query.isTerminal, state]; rfl
  have rests : faultyEnded.query.activity = .resting :=
    Query.resting_of_batchesLeft (by decide +kernel)
  obtain ⟨ran, unrun, ends⟩ := settled terminal
  have two : ran.length = 2 := by rw [ends.outcomes, endings]; rfl
  have three : faultyEnded.query.batches.length = 3 := by decide +kernel
  rw [ends.batches, List.length_append, two] at three
  exact ⟨state, endings, ⟨ran, unrun, ends, two, by omega⟩, refuses (by simp [state]) _,
    (quiet terminal rests later).1, by decide +kernel⟩

end Stage

end SqlDesk
