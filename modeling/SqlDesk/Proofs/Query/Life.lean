import SqlDesk.Proofs.Batch.Winding
import SqlDesk.Proofs.Query.Ending
import SqlDesk.Proofs.Query.Grammar
import SqlDesk.Proofs.Query.Undisturbed

/-! A query among others, seen from outside: what it is asked, what it has told, and when it is over.
One invariant holds of every query from its making on, whoever asks what of it. A query that is over
has told its completion, once and last, and tells nothing more. One that has been cancelled comes to
its end without waiting. -/

set_option autoImplicit false

namespace SqlDesk

/-! The completion of a query is told by the query and not by its batches. -/

def Happening.isEnd : Happening → Bool
  | queryCompleted _ => true
  | batchStarted _ | batchCompleted _ | resultAvailable _ | resultUpdated _ | resultCompleted _
  | message _ => false

def Endless (told : List Happening) : Prop := ∀ happening ∈ told, happening.isEnd = false

theorem endless_append {left right : List Happening} :
    Endless (left ++ right) ↔ Endless left ∧ Endless right := by
  simp only [Endless, List.mem_append, or_imp, forall_and]

theorem endless_updates (updates : List ResultSummary) :
    Endless (updates.map Happening.resultUpdated) := by
  intro happening member
  obtain ⟨summary, -, rfl⟩ := List.mem_map.mp member
  rfl

theorem ResultBlock.endless (block : ResultBlock) : Endless block.happenings := by
  have updates := endless_updates block.updates
  simp only [Endless, happenings, List.cons_append, List.mem_cons, List.mem_append,
    List.not_mem_nil, or_false]
  rintro happening (rfl | member | rfl)
  · rfl
  · exact updates happening member
  · rfl

theorem StoryPart.endless (part : StoryPart) : Endless part.happenings := by
  cases part with
  | message said => simp [Endless, happenings, Happening.isEnd]
  | block told => exact told.endless

theorem endless_parts (parts : List StoryPart) : Endless (parts.flatMap StoryPart.happenings) := by
  intro happening member
  obtain ⟨part, -, inside⟩ := List.mem_flatMap.mp member
  exact part.endless happening inside

theorem BatchStory.endless (story : BatchStory) : Endless story.happenings := by
  have parts := endless_parts story.parts
  simp only [Endless, happenings, List.cons_append, List.mem_cons, List.mem_append,
    List.not_mem_nil, or_false]
  rintro happening (rfl | member | rfl)
  · rfl
  · exact parts happening member
  · rfl

theorem endless_stories (stories : List BatchStory) :
    Endless (stories.flatMap BatchStory.happenings) := by
  intro happening member
  obtain ⟨story, -, inside⟩ := List.mem_flatMap.mp member
  exact story.endless happening inside

theorem PartsTold.endless {batchId blocks : Nat} {told : List Happening}
    (parts : PartsTold batchId blocks told) : Endless told := by
  obtain ⟨started, told, rfl, -⟩ := parts
  intro happening member
  rcases List.mem_cons.mp member with rfl | inside
  · rfl
  · exact endless_parts told happening inside

theorem OpenBlock.endless {result : ResultSummary} {told : List Happening}
    (opened : OpenBlock result told) : Endless told := by
  obtain ⟨available, updates, rfl, -⟩ := opened
  intro happening member
  rcases List.mem_cons.mp member with rfl | inside
  · rfl
  · exact endless_updates updates happening inside

theorem BlockTold.endless {result : ResultSummary} {phase : ReadPhase} {told : List Happening}
    (block : BlockTold result phase told) : Endless told := by
  have nothing (none : told = []) : Endless told := by
    rw [none]
    rintro happening ⟨⟩
  cases phase with
  | fetching announced =>
    cases announced with
    | false => exact nothing block
    | true => exact OpenBlock.endless block
  | announcing outcome => exact nothing block.1
  | completing outcome => exact block.1.endless

theorem StoryTold.endless {batch : Batch} {phase : BatchPhase} {told : List Happening}
    (story : StoryTold batch phase told) : Endless told := by
  cases phase with
  | starting left =>
    rw [story.1]
    rintro happening ⟨⟩
  | reading left cursor readPhase =>
    obtain ⟨before, block, earlier, result, rfl, -, parts, last⟩ := story
    exact endless_append.mpr ⟨parts.endless, last.endless⟩
  | _ => exact PartsTold.endless story

namespace Query

/-! Requests. -/

/-- What someone asks of a query, whether or not it runs. A request that is refused is none. -/
inductive Asked (query : Query) : Query → Prop where
  | cancels {next : Query} (accepted : query.cancel = .ok next) : Asked query next
  | disposes : Asked query query.dispose
  | saves {batchId resultId : Nat} {path : String} {next : Query}
      (accepted : query.beginSave batchId resultId path = .ok next) : Asked query next
  | saved (tree : FileTree) (batchId resultId : Nat) (request : SaveRequest) :
      Asked query (query.runSave tree batchId resultId request).2.1

theorem Asked.bare {query next : Query} (numbered : query.Numbered) (asked : query.Asked next) :
    next.bare = query.bare := by
  cases asked with
  | cancels accepted => exact bare_cancel accepted
  | disposes => exact query.bare_dispose
  | saves accepted => exact bare_of_unsaved (unsaved_beginSave numbered accepted)
  | saved tree batchId resultId request =>
    exact bare_of_unsaved (unsaved_runSave tree numbered batchId resultId request)

/-- A request leaves alone who owns the query and how far it is, and takes no cancellation back. -/
theorem Asked.same {query next : Query} (asked : query.Asked next) :
    next.owner = query.owner ∧ next.state = query.state ∧ next.activity = query.activity ∧
      (query.cancelRequested = true → next.cancelRequested = true) := by
  -- To put a result back is to write to the batches alone.
  have put (query : Query) (result : ResultSet) :
      ∃ batches, query.setResult result = { query with batches } := by
    unfold setResult
    split
    · exact ⟨_, rfl⟩
    · exact ⟨query.batches, rfl⟩
  cases asked with
  | cancels accepted =>
    unfold cancel at accepted
    split at accepted <;> cases accepted
    exact ⟨rfl, rfl, rfl, fun _ => rfl⟩
  | disposes => exact ⟨rfl, rfl, rfl, fun signalled => by simp [dispose, signalled]⟩
  | saves accepted =>
    unfold beginSave at accepted
    split at accepted
    · cases accepted
    · split at accepted
      · cases accepted
      · rename_i result _
        obtain ⟨batches, same⟩ := put query result
        rw [same] at accepted
        cases accepted
        exact ⟨rfl, rfl, rfl, id⟩
  | saved tree batchId resultId request =>
    unfold runSave
    split
    · exact ⟨rfl, rfl, rfl, id⟩
    · rename_i result _
      obtain ⟨batches, same⟩ := put query (result.endSave request.path)
      rw [same]
      exact ⟨rfl, rfl, rfl, id⟩

/-- The query has ended and has told so. -/
def Over (query : Query) : Prop := query.isTerminal = true ∧ query.activity = .resting

/-- It has been cancelled or has ended. -/
def Stopped (query : Query) : Prop := query.cancelRequested = true ∨ query.isTerminal = true

theorem stopped_dispose (query : Query) : query.dispose.Stopped := by
  unfold Stopped dispose isTerminal
  cases query.state.isTerminal <;> simp

/-! The invariant. -/

/-- What holds of a query that has told a list of happenings. -/
structure Sound (query : Query) (told : List Happening) : Prop where
  numbered : query.Numbered
  stands : ∃ endings, query.StandsAt endings
  story : query.state = .notStarted ∧ told = [] ∧ StoriesTold query.batches [] 0 ∨
    query.state ≠ .notStarted ∧ query.Told told

theorem sound_create (owner text : String) (connection : Connection) (settings : Settings) :
    (create owner text connection settings).Sound [] where
  numbered := numbered_of_create owner text connection settings
  stands := ⟨[], standsAt_create owner text connection settings⟩
  story := by
    refine .inl ⟨rfl, rfl, by simp, ?_⟩
    intro place batch _ found
    obtain ⟨part, -, rfl⟩ := batchesOf_getElem? owner text found
    rfl

namespace Sound

variable {query next : Query} {told : List Happening}

theorem rests (sound : query.Sound told) (fresh : query.state = .notStarted) :
    query.activity = .resting := by
  obtain ⟨endings, stands⟩ := sound.stands
  have unended := verdict_isTerminal endings query.flags
  unfold StandsAt at stands
  rw [fresh] at stands
  cases activity : query.activity with
  | resting => rfl
  | announcing =>
    rw [activity] at stands
    rw [← stands.1] at unended
    cases unended
  | choosing | executing | closing =>
    rw [activity] at stands
    cases stands.1

theorem over_of_rests (sound : query.Sound told) (begun : query.state ≠ .notStarted)
    (rests : query.activity = .resting) : query.Over := by
  obtain ⟨endings, stands⟩ := sound.stands
  unfold StandsAt at stands
  rw [rests] at stands
  rcases stands with ⟨fresh, -⟩ | ⟨state, -⟩
  · exact absurd fresh begun
  · exact ⟨by rw [isTerminal, state]; exact verdict_isTerminal _ _, rests⟩

/-- Only what it has left to tell is before a query whose final state is set. -/
theorem idle_of_terminal (sound : query.Sound told) (terminal : query.isTerminal = true) :
    query.activity = .resting ∨ query.activity = .announcing := by
  obtain ⟨endings, stands⟩ := sound.stands
  unfold StandsAt at stands
  unfold isTerminal at terminal
  cases activity : query.activity with
  | resting => exact .inl rfl
  | announcing => exact .inr rfl
  | choosing | executing | closing =>
    rw [activity] at stands
    rw [stands.1] at terminal
    cases terminal

theorem told_of_over (sound : query.Sound told) (atEnd : query.Over) :
    ∃ stories summaries, told = stories.flatMap BatchStory.happenings ++ [.queryCompleted summaries] ∧
      StoriesTold query.batches stories stories.length := by
  rcases sound.story with ⟨fresh, -⟩ | ⟨-, stories, lately, rfl, invariant⟩
  · have terminal := atEnd.1
    rw [isTerminal, fresh] at terminal
    cases terminal
  · simp only [LatelyTold, atEnd.2] at invariant
    obtain ⟨⟨summaries, rfl⟩, regular⟩ := invariant
    exact ⟨stories, summaries, rfl, regular⟩

theorem endless (sound : query.Sound told) (unended : ¬ query.Over) : Endless told := by
  rcases sound.story with ⟨-, rfl, -⟩ | ⟨begun, stories, lately, rfl, invariant⟩
  · rintro happening ⟨⟩
  · refine endless_append.mpr ⟨endless_stories stories, ?_⟩
    unfold LatelyTold at invariant
    have nothing (none : lately = []) : Endless lately := by
      rw [none]
      rintro happening ⟨⟩
    -- The end of the query is told last of all, and then the query rests.
    cases activity : query.activity with
    | resting => exact absurd (sound.over_of_rests begun activity) unended
    | choosing index =>
      rw [activity] at invariant
      exact nothing invariant.2.1
    | closing | announcing =>
      rw [activity] at invariant
      exact nothing invariant.1
    | executing index phase =>
      rw [activity] at invariant
      obtain ⟨-, -, batch, -, story⟩ := invariant
      exact story.endless

/-! What keeps it. -/

theorem of_bare (same : next.bare = query.bare) (sound : query.Sound told) : next.Sound told where
  numbered := numbered_of_bare same.symm sound.numbered
  stands := by
    obtain ⟨endings, stands⟩ := sound.stands
    exact ⟨endings, (standsAt_of_bare same stands).1⟩
  story := by
    have state : next.bare.state = query.bare.state := by rw [same]
    change next.state = query.state at state
    rw [state]
    rcases sound.story with ⟨fresh, nothing, unread⟩ | ⟨begun, story⟩
    · exact .inl ⟨fresh, nothing, unread.of_bare same.symm⟩
    · exact .inr ⟨begun, story.of_bare same.symm⟩

theorem asked (sound : query.Sound told) (asked : query.Asked next) : next.Sound told :=
  sound.of_bare (asked.bare sound.numbered)

theorem begin {now : Instant} (sound : query.Sound told) (accepted : query.begin now = .ok next) :
    next.Sound told := by
  obtain ⟨fresh, rfl⟩ := Stage.begin_eq_ok accepted
  rcases sound.story with ⟨-, rfl, unread⟩ | ⟨begun, -⟩
  · obtain ⟨endings, stands⟩ := sound.stands
    unfold StandsAt at stands
    rw [fresh] at stands
    obtain ⟨none, untouched⟩ := stands.of_notStarted
    have settled : Settled [] query.flags endings := ⟨by simp, by simp [none], untouched⟩
    exact ⟨sound.numbered, ⟨endings, rfl, [], _, rfl, rfl, settled⟩,
      .inr ⟨nofun, [], [], rfl, rfl, rfl, unread⟩⟩
  · exact absurd fresh begun

end Sound

structure Keeps (before after : Query) : Prop where
  owner : after.owner = before.owner
  begun : before.state ≠ .notStarted → after.state ≠ .notStarted
  stopped : before.Stopped → after.Stopped

theorem Keeps.refl (query : Query) : query.Keeps query := ⟨rfl, id, id⟩

theorem Keeps.trans {first second third : Query} (left : first.Keeps second)
    (right : second.Keeps third) : first.Keeps third :=
  ⟨right.owner.trans left.owner, right.begun ∘ left.begun, right.stopped ∘ left.stopped⟩

theorem Asked.keeps {query next : Query} (asked : query.Asked next) : query.Keeps next := by
  obtain ⟨owner, state, -, signal⟩ := asked.same
  refine ⟨owner, fun begun => state ▸ begun, ?_⟩
  rintro (signalled | terminal)
  · exact .inl (signal signalled)
  · exact .inr (by rw [isTerminal, state]; exact terminal)

theorem keeps_begin {query next : Query} {now : Instant} (accepted : query.begin now = .ok next) :
    query.Keeps next := by
  obtain ⟨fresh, rfl⟩ := Stage.begin_eq_ok accepted
  refine ⟨rfl, nofun, ?_⟩
  rintro (signalled | terminal)
  · exact .inl signalled
  · rw [isTerminal, fresh] at terminal
    cases terminal

variable {η : Type} [Host η] {query : Query} {told : List Happening}

theorem step_of_rests (now : Instant) (world : World η) (rests : query.activity = .resting) :
    query.step now world = (world, .waits query) := by
  unfold step
  rw [rests]

theorem ensures_signal (now : Instant) (world : World η) (query : Query) :
    (query.step now world).2.Ensures
      (fun next _ => next.cancelRequested = query.cancelRequested)
      (fun next _ => next.cancelRequested = query.cancelRequested) := by
  have turn := query.turn now world
  revert turn
  rcases query.step now world with ⟨later, progress⟩
  intro turn
  cases turn with
  | @executed index phase batch executes found =>
    refine Progress.ensures_within ?_
    generalize ((query.runOf batch phase).step now query.cancelRequested world).2 = inner
    cases inner <;> rfl
  | _ => rfl

theorem Sound.keeps_step (now : Instant) (world : World η) (sound : query.Sound told) :
    query.Keeps (query.step now world).2.outcome.1 := by
  obtain ⟨endings, stands⟩ := sound.stands
  have signal := (ensures_signal now world query).outcome
  have moves := (ensures_stands now world sound.numbered stands).outcome.2
  refine ⟨(ensures_numbered now world sound.numbered).outcome.2, ?_, ?_⟩
  · intro begun fresh
    rw [fresh] at moves
    generalize query.state = state at begun moves
    cases moves with
    | stays => exact begun rfl
    | ends terminal => cases terminal
  · rintro (signalled | terminal)
    · exact .inl (signal.trans signalled)
    · exact .inr (moves.isTerminal terminal)

theorem Sound.step (now : Instant) (world : World η) (sound : query.Sound told) :
    (query.step now world).2.outcome.1.Sound (told ++ (query.step now world).2.outcome.2) := by
  rcases sound.story with ⟨fresh, rfl, -⟩ | ⟨begun, story⟩
  · rw [step_of_rests now world (sound.rests fresh)]
    exact sound
  · obtain ⟨endings, stands⟩ := sound.stands
    exact ⟨(ensures_numbered now world sound.numbered).outcome.1,
      ⟨_, (ensures_stands now world sound.numbered stands).outcome.1⟩,
      .inr ⟨(sound.keeps_step now world).begun begun,
        (ensures_told now world sound.numbered story).outcome⟩⟩

/-! Being over, and getting there. -/

theorem Asked.over_iff {next : Query} (asked : query.Asked next) : next.Over ↔ query.Over := by
  obtain ⟨-, state, activity, -⟩ := asked.same
  unfold Over isTerminal
  rw [state, activity]

theorem Sound.rests_of_waits {now : Instant} {world : World η} {next : Query}
    (sound : query.Sound told) (stopped : query.Stopped)
    (waits : (query.step now world).2 = .waits next) : query.activity = .resting := by
  have turn := query.turn now world
  revert turn waits
  rcases query.step now world with ⟨later, progress⟩
  intro waits turn
  -- Only the batch under way can wait, and it does not once the query is stopped.
  cases turn with
  | rested rests => exact rests
  | @executed index phase batch executes found =>
    rcases stopped with signalled | terminal
    · rw [signalled] at waits
      obtain ⟨run, still, -⟩ := Progress.waits_of_within waits
      exact absurd still (BatchRun.step_ne_waits now world _ run)
    · rcases sound.idle_of_terminal terminal with rests | announces
      · exact rests
      · rw [executes] at announces
        cases announces
  | _ => cases waits

/-- Steps of a query one after the other, each in the world that the one before has left. -/
inductive Steps (now : Instant) : World η × Query → List Happening → World η × Query → Prop where
  | none {reached : World η × Query} : Steps now reached [] reached
  | more {world : World η} {query : Query} {told : List Happening} {final : World η × Query}
      (rest : Steps now ((query.step now world).1, (query.step now world).2.outcome.1) told final) :
      Steps now (world, query) ((query.step now world).2.outcome.2 ++ told) final

theorem steps_run (now : Instant) (world : World η) (query : Query) :
    Steps now (world, query) (query.run now world).2.2
      ((query.run now world).1, (query.run now world).2.1) := by
  fun_induction run now world query with
  | case1 world query later next stepped =>
    have step : Steps now (world, query) _ _ := .more .none
    rwa [stepped] at step
  | case2 world query later next event stepped =>
    have step : Steps now (world, query) _ _ := .more .none
    rw [stepped] at step
    simpa [Progress.outcome] using step
  | case3 world query later next event stepped final ended told ran ih =>
    have step : Steps now (world, query) _ _ := .more (by rw [stepped]; exact ih)
    rw [stepped, ran] at step
    exact step

theorem Sound.steps {now : Instant} {before after : World η × Query} {told more : List Happening}
    (steps : Steps now before more after) (sound : before.2.Sound told) :
    after.2.Sound (told ++ more) ∧ before.2.Keeps after.2 := by
  induction steps generalizing told with
  | none => exact ⟨(List.append_nil told).symm ▸ sound, .refl _⟩
  | @more world query _ _ _ ih =>
    obtain ⟨sounds, keeps⟩ := ih (sound.step now world)
    have first := sound.keeps_step now world
    rw [← List.append_assoc]
    exact ⟨sounds, first.trans keeps⟩

theorem Sound.over_run (now : Instant) (world : World η) (sound : query.Sound told)
    (begun : query.state ≠ .notStarted) (stopped : query.Stopped) :
    (query.run now world).2.1.Over := by
  -- A run ends where a step waits or ends the query, and one that has been stopped waits only at rest.
  have rests : (query.run now world).2.1.activity = .resting := by
    fun_induction run now world query generalizing told with
    | case1 world query later next stepped =>
      have waits := congrArg Prod.snd stepped
      have quiet := sound.rests_of_waits stopped waits
      rw [step_of_rests now world quiet] at waits
      cases waits
      exact quiet
    | case2 world query later next event stepped => exact rests_of_ends (congrArg Prod.snd stepped)
    | case3 world query later next event stepped final ended told ran ih =>
      have sounds := sound.step now world
      have keeps := sound.keeps_step now world
      rw [stepped] at sounds keeps
      rw [ran] at ih
      exact ih sounds (keeps.begun begun) (keeps.stopped stopped)
  obtain ⟨sounds, keeps⟩ := Sound.steps (steps_run now world query) sound
  exact sounds.over_of_rests (keeps.begun begun) rests

end Query

end SqlDesk
