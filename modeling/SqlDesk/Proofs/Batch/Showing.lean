import SqlDesk.Proofs.Batch.Hearing

/-! What has been shown of a batch. Its messages are told as they are logged, the last that is told of
a result is the result as it has been left, and the completion shows the batch as it ends. So whoever
has collected the events of a batch holds what the batch itself says. -/

set_option autoImplicit false

namespace SqlDesk

namespace Happening

def batchId? : Happening → Option Nat
  | batchStarted batch | batchCompleted batch => some batch.id
  | resultAvailable result | resultUpdated result | resultCompleted result => some result.batchId
  | message said => some said.batchId
  | queryCompleted _ => none

def completedResult? : Happening → Option ResultSummary
  | resultCompleted result => some result
  | _ => none

def completedBatch? : Happening → Option BatchSummary
  | batchCompleted batch => some batch
  | _ => none

end Happening

def aboutBatch (batchId : Nat) (told : List Happening) : List Happening :=
  told.filter fun happening => happening.batchId? = some batchId

def completedResults (told : List Happening) : List ResultSummary :=
  told.filterMap Happening.completedResult?

def completedBatches (told : List Happening) : List BatchSummary :=
  told.filterMap Happening.completedBatch?

section

variable {batchId : Nat} {told : List Happening}

theorem aboutBatch_append (told more : List Happening) :
    aboutBatch batchId (told ++ more) = aboutBatch batchId told ++ aboutBatch batchId more :=
  List.filter_append ..

theorem aboutBatch_of_all (all : ∀ happening ∈ told, happening.batchId? = some batchId) :
    aboutBatch batchId told = told :=
  List.filter_eq_self.mpr fun happening member => decide_eq_true (all happening member)

theorem aboutBatch_of_other {other : Nat} (all : ∀ happening ∈ told, happening.batchId? = some other)
    (apart : other ≠ batchId) : aboutBatch batchId told = [] := by
  refine List.filter_eq_nil_iff.mpr fun happening member => ?_
  simp [all happening member, apart]

end

/-- What has been told about a batch shows it as it is. -/
structure Batch.Shown (batch : Batch) (told : List Happening) : Prop where
  messages : messagesOf told = batch.messages
  results : completedResults told = batch.results.map ResultSet.summary
  completed : completedBatches told = if batch.executed then [batch.summary] else []

def BatchRun.resultsRead (run : BatchRun) : List ResultSet :=
  match run.phase with
  | .reading .. => run.batch.results.dropLast
  | _ => run.batch.results

/-- What has been told about a batch under way shows it but for the result that is being read. -/
structure BatchRun.Shown (run : BatchRun) (told : List Happening) : Prop where
  begun : run.batch.started.isSome = true
  unended : run.batch.ended = none
  messages : messagesOf told = run.batch.messages
  results : completedResults told = run.resultsRead.map ResultSet.summary
  completed : completedBatches told = []

section

variable {left right : Batch}

theorem Batch.summary_of_bare (same : left.bare = right.bare) : left.summary = right.summary := by
  have shown (batch : Batch) : batch.bare.summary = batch.summary := by
    simp only [Batch.summary, Batch.bare, Batch.mapResults, executed, List.map_map]
    rfl
  rw [← shown left, ← shown right, same]

theorem Batch.summaries_of_bare (same : left.bare = right.bare) :
    left.results.map ResultSet.summary = right.results.map ResultSet.summary := by
  have bare := congrArg (fun batch : Batch => batch.results.map ResultSet.summary) same
  simp only [Batch.bare, Batch.mapResults, List.map_map] at bare
  exact bare

theorem Batch.times_of_bare (same : left.bare = right.bare) :
    left.started = right.started ∧ left.ended = right.ended := by
  have started : left.bare.started = right.bare.started := by rw [same]
  have ended : left.bare.ended = right.bare.ended := by rw [same]
  exact ⟨started, ended⟩

theorem Batch.Shown.of_bare {told : List Happening} (same : left.bare = right.bare)
    (shown : left.Shown told) : right.Shown told where
  messages := shown.messages.trans (messages_of_bare same).1
  results := shown.results.trans (summaries_of_bare same)
  completed := by
    rw [executed, ← (times_of_bare same).2, ← summary_of_bare same]
    exact shown.completed

end

namespace BatchRun.Shown

variable {run next : BatchRun} {told : List Happening}

theorem of_bare (shown : run.Shown told) (phase : next.phase = run.phase)
    (same : run.batch.bare = next.batch.bare) : next.Shown told where
  begun := (Batch.times_of_bare same).1 ▸ shown.begun
  unended := (Batch.times_of_bare same).2 ▸ shown.unended
  messages := shown.messages.trans (Batch.messages_of_bare same).1
  results := by
    rw [shown.results, resultsRead, resultsRead, phase]
    split
    · rw [List.map_dropLast, List.map_dropLast, Batch.summaries_of_bare same]
    · exact Batch.summaries_of_bare same
  completed := shown.completed

theorem go {events : List Happening} (shown : run.Shown told)
    (started : next.batch.started = run.batch.started) (ended : next.batch.ended = run.batch.ended)
    (messages : next.batch.messages = run.batch.messages ++ messagesOf events)
    (results : next.resultsRead.map ResultSet.summary =
      run.resultsRead.map ResultSet.summary ++ completedResults events)
    (completed : completedBatches events = []) : next.Shown (told ++ events) where
  begun := started ▸ shown.begun
  unended := ended ▸ shown.unended
  messages := by
    rw [messages, ← shown.messages]
    exact List.filterMap_append ..
  results := by
    rw [results, ← shown.results]
    exact List.filterMap_append ..
  completed := by
    rw [completedBatches, List.filterMap_append, ← completedBatches, shown.completed]
    exact completed

theorem still (shown : run.Shown told) (started : next.batch.started = run.batch.started)
    (ended : next.batch.ended = run.batch.ended)
    (messages : next.batch.messages = run.batch.messages)
    (results : next.resultsRead = run.resultsRead) : next.Shown (told ++ []) := by
  refine shown.go started ended ?_ ?_ rfl
  · rw [messages]
    exact (List.append_nil _).symm
  · rw [results]
    exact (List.append_nil _).symm

theorem say {message : BatchMessage} (shown : run.Shown told)
    (started : next.batch.started = run.batch.started) (ended : next.batch.ended = run.batch.ended)
    (messages : next.batch.messages = run.batch.messages ++ [message])
    (results : next.resultsRead = run.resultsRead) : next.Shown (told ++ [.message message]) := by
  refine shown.go started ended messages ?_ rfl
  rw [results]
  exact (List.append_nil _).symm

end BatchRun.Shown

/-! Steps. -/

/-- The end of a reading tells the result as it has been left, and nothing before does. -/
theorem Reading.ensures_completed (options : ReadOptions) (cancelled : Bool) (reading : Reading) :
    (reading.step options cancelled).Ensures
      (fun _ events => completedResults (events.map ResultEvent.happening) = [])
      (fun done events => completedResults (events.map ResultEvent.happening) =
        [done.result.summary]) := by
  have turn := reading.turn options cancelled
  generalize reading.step options cancelled = progress at turn
  cases turn with
  | @stored announced cursor row store =>
    simp only [Progress.Ensures, eventFor]
    split
    · rfl
    · split <;> rfl
  | _ => rfl

theorem completedBatches_results (events : List ResultEvent) :
    completedBatches (events.map ResultEvent.happening) = [] := by
  refine List.filterMap_eq_nil_iff.mpr ?_
  intro happening member
  obtain ⟨event, -, rfl⟩ := List.mem_map.mp member
  cases event <;> rfl

theorem Reading.ensures_batchId (options : ReadOptions) (cancelled : Bool) (reading : Reading) :
    (reading.step options cancelled).Ensures
      (fun _ events => ∀ event ∈ events,
        event.happening.batchId? = some reading.result.batchId)
      (fun _ events => ∀ event ∈ events,
        event.happening.batchId? = some reading.result.batchId) := by
  have turn := reading.turn options cancelled
  generalize reading.step options cancelled = progress at turn
  -- The result changes only with a row that is stored, and its store keeps the key.
  cases turn with
  | @stored announced cursor row store _ _ _ _ appended =>
    have same : ResultSet.batchId { reading.result with store } = reading.result.batchId :=
      congrArg StoreKey.batchId (RowStore.key_of_append appended)
    simp only [Progress.Ensures, eventFor]
    intro event told
    split at told
    · simp only [Option.toList_some, List.mem_singleton] at told
      exact told ▸ congrArg some same
    · split at told
      · simp only [Option.toList_some, List.mem_singleton] at told
        exact told ▸ congrArg some same
      · cases told
  | announced | completed =>
    intro event told
    simp only [Option.toList_some, List.mem_singleton] at told
    exact told ▸ rfl
  | _ => rintro event ⟨⟩

namespace BatchRun

variable {η : Type} [Host η]

theorem ensures_batchId (now : Instant) (cancelled : Bool) (world : World η) {run : BatchRun}
    (numbered : run.batch.Numbered) :
    (run.step now cancelled world).2.Ensures
      (fun _ events => ∀ happening ∈ events, happening.batchId? = some run.batch.id)
      (fun _ events => ∀ happening ∈ events, happening.batchId? = some run.batch.id) := by
  have turn := run.turn now cancelled world
  revert turn
  rcases run.step now cancelled world with ⟨later, progress⟩
  intro turn
  -- What a batch tells itself bears its own number; a result has it in the key of its store.
  cases turn with
  | @read left cursor readPhase result phase last =>
    obtain ⟨earlier, results⟩ := List.getLast?_eq_some_iff.mp last
    have own : result.batchId = run.batch.id := congrArg StoreKey.batchId (numbered.last results)
    have inner := Reading.ensures_batchId (.ofSettings run.settings) cancelled
      ⟨result, cursor, readPhase⟩
    have about : ∀ events : List ResultEvent,
        (∀ event ∈ events, event.happening.batchId? = some result.batchId) →
        ∀ happening ∈ events.map ResultEvent.happening,
          happening.batchId? = some run.batch.id := by
      intro events all happening member
      obtain ⟨event, told, rfl⟩ := List.mem_map.mp member
      exact (all event told).trans (congrArg some own)
    exact Progress.ensures_mapEvent (Progress.ensures_within
      (inner.imp (fun _ => about) (fun _ => about)))
  | started | told | erred | remarked | cancelled | failed | succeeded | completed =>
    intro happening told
    simp only [Option.toList_some, List.mem_singleton] at told
    exact told ▸ rfl
  | _ => rintro happening ⟨⟩

/-- A step goes on showing the batch, and the last one shows it as it ends. -/
theorem ensures_shown (now : Instant) (cancelled : Bool) (world : World η) {run : BatchRun}
    {told : List Happening} (numbered : run.batch.Numbered) (before : run.Shown told) :
    (run.step now cancelled world).2.Ensures (fun next events => next.Shown (told ++ events))
      (fun done events => done.batch.started.isSome = true ∧ done.batch.Shown (told ++ events)) := by
  have turn := run.turn now cancelled world
  revert turn
  rcases run.step now cancelled world with ⟨later, progress⟩
  intro turn
  cases turn with
  | told phase | cancelled phase | failed phase | succeeded phase | remarked phase | erred phase =>
    change BatchRun.Shown _ (_ ++ [_])
    refine before.say rfl rfl rfl ?_
    rw [resultsRead, resultsRead, phase]
    rfl
  | started phase =>
    have same : run.resultsRead = run.batch.results := by rw [resultsRead, phase]
    have nothing {α : Type} (items : List α) : items = items ++ [] := (List.append_nil items).symm
    exact before.go rfl rfl (nothing _) (same ▸ nothing _) rfl
  | created phase =>
    refine before.still rfl rfl rfl ?_
    rw [resultsRead, resultsRead, phase]
    exact List.dropLast_concat
  | unread phase missing =>
    refine before.still rfl rfl rfl ?_
    rw [resultsRead, resultsRead, phase, List.getLast?_eq_none_iff.mp missing]
    rfl
  | @read left cursor readPhase result phase last =>
    -- The result that is read is the last one, and it counts from the moment its end is told.
    obtain ⟨earlier, results⟩ := List.getLast?_eq_some_iff.mp last
    have readBefore : run.resultsRead = earlier := by
      rw [resultsRead, phase, results]
      exact List.dropLast_concat
    have reads := (Reading.ensures_key (.ofSettings run.settings) cancelled
      ⟨result, cursor, readPhase⟩).and (Reading.ensures_completed (.ofSettings run.settings) cancelled
        ⟨result, cursor, readPhase⟩)
    refine Progress.ensures_mapEvent (Progress.ensures_within (reads.imp ?_ ?_))
    · rintro next events ⟨sameKey, nothing⟩
      have stands := Batch.results_setResult numbered results sameKey
      refine before.go rfl rfl ?_ ?_ ?_
      · rw [messagesOf_results, List.append_nil]
        rfl
      · rw [nothing, readBefore, List.append_nil]
        exact congrArg (List.map ResultSet.summary)
          ((congrArg List.dropLast stands).trans List.dropLast_concat)
      · exact completedBatches_results events
    · rintro done events ⟨sameKey, ends⟩
      have stands := Batch.results_setResult numbered results sameKey
      refine before.go rfl rfl ?_ ?_ ?_
      · rw [messagesOf_results, List.append_nil]
        rfl
      · rw [ends, readBefore]
        exact (congrArg (List.map ResultSet.summary) stands).trans (List.map_append ..)
      · exact completedBatches_results events
  | completed phase =>
    obtain ⟨begun, unended, messages, results, completed⟩ := before
    rw [resultsRead, phase] at results
    refine ⟨begun, ?_, ?_, ?_⟩
    · exact (List.filterMap_append ..).trans ((List.append_nil _).trans messages)
    · exact (List.filterMap_append ..).trans ((List.append_nil _).trans results)
    · rw [completedBatches, List.filterMap_append, ← completedBatches, completed]
      rfl
  | unopened => exact before.still rfl rfl rfl rfl
  | advanced phase | suppressed phase =>
    change BatchRun.Shown _ (_ ++ [])
    refine before.still rfl rfl rfl ?_
    rw [resultsRead, resultsRead, phase]
    rfl
  | _ phase =>
    change BatchRun.Shown _ (_ ++ [])
    refine before.still rfl rfl rfl ?_
    rw [resultsRead, resultsRead, phase]

end BatchRun

end SqlDesk
