import SqlDesk.Proofs.Batch.Numbering

/-! What a batch tells while it runs. A story is the start of a batch, then messages and blocks in any
mixture, then its completion; a block is what is told about one result, with nothing in between. The
invariant ties what has been told so far to the phase of the run: a block is open exactly while the
last result is being read and has been made available. -/

set_option autoImplicit false

namespace SqlDesk

/-- What is told about one result. -/
structure ResultBlock where
  available : ResultSummary
  updates : List ResultSummary
  completed : ResultSummary

namespace ResultBlock

def happenings (block : ResultBlock) : List Happening :=
  .resultAvailable block.available :: block.updates.map .resultUpdated ++
    [.resultCompleted block.completed]

def summaries (block : ResultBlock) : List ResultSummary :=
  block.available :: block.updates ++ [block.completed]

/-- All summaries are about the same result, whose rows only become more until it is complete. -/
structure Regular (batchId resultId : Nat) (block : ResultBlock) : Prop where
  ids : ∀ summary ∈ block.summaries, summary.id = resultId ∧ summary.batchId = batchId
  growing : (block.summaries.map ResultSummary.rowCount).Pairwise (· ≤ ·)
  complete : block.completed.complete = true

end ResultBlock

inductive StoryPart where
  | message (said : BatchMessage)
  | block (block : ResultBlock)

namespace StoryPart

def happenings : StoryPart → List Happening
  | message said => [.message said]
  | block told => told.happenings

def block? : StoryPart → Option ResultBlock
  | message _ => none
  | block told => some told

/-- The messages are those of the batch, and its blocks are numbered from zero. -/
structure Regular (batchId blocks : Nat) (parts : List StoryPart) : Prop where
  messages : ∀ said, message said ∈ parts → said.batchId = batchId
  numbered : ∀ (place : Nat) (told : ResultBlock), (parts.filterMap block?)[place]? = some told →
    told.Regular batchId place
  count : (parts.filterMap block?).length = blocks

theorem blocks_say (parts : List StoryPart) (said : BatchMessage) :
    (parts ++ [message said]).filterMap block? = parts.filterMap block? := by
  rw [List.filterMap_append]
  exact List.append_nil _

theorem blocks_close (parts : List StoryPart) (told : ResultBlock) :
    (parts ++ [block told]).filterMap block? = parts.filterMap block? ++ [told] := by
  rw [List.filterMap_append]
  rfl

theorem Regular.say {batchId blocks : Nat} {parts : List StoryPart}
    (regular : Regular batchId blocks parts) {said : BatchMessage} (own : said.batchId = batchId) :
    Regular batchId blocks (parts ++ [message said]) where
  messages other member := by
    rcases List.mem_append.mp member with earlier | last
    · exact regular.messages other earlier
    · cases List.mem_singleton.mp last
      exact own
  numbered place told there := regular.numbered place told (blocks_say parts said ▸ there)
  count := by rw [blocks_say]; exact regular.count

theorem Regular.close {batchId blocks : Nat} {parts : List StoryPart}
    (regular : Regular batchId blocks parts) {told : ResultBlock}
    (own : told.Regular batchId blocks) : Regular batchId (blocks + 1) (parts ++ [block told]) where
  messages other member := by
    rcases List.mem_append.mp member with earlier | last
    · exact regular.messages other earlier
    · cases List.mem_singleton.mp last
  numbered place found there := by
    rw [blocks_close] at there
    -- Either one of the earlier blocks is meant or the one just closed.
    by_cases inside : place < (parts.filterMap block?).length
    · rw [List.getElem?_append_left inside] at there
      exact regular.numbered place found there
    · have last : place = blocks := by
        have bound := (List.getElem?_eq_some_iff.mp there).1
        simp only [List.length_append, List.length_singleton, regular.count] at bound inside
        omega
      rw [last, ← regular.count, List.getElem?_concat_length] at there
      cases there
      rw [last]
      exact own
  count := by rw [blocks_close, List.length_append, regular.count]; rfl

end StoryPart

structure BatchStory where
  started : BatchSummary
  parts : List StoryPart
  completed : BatchSummary

namespace BatchStory

def happenings (story : BatchStory) : List Happening :=
  .batchStarted story.started :: story.parts.flatMap StoryPart.happenings ++
    [.batchCompleted story.completed]

structure Regular (batchId results : Nat) (story : BatchStory) : Prop where
  started : story.started.id = batchId
  completed : story.completed.id = batchId
  parts : StoryPart.Regular batchId results story.parts

end BatchStory

/-! Blocks, while a result is read. -/

structure ResultSummary.Follows (result : ResultSummary) (told : List ResultSummary) : Prop where
  ids : ∀ summary ∈ told, summary.id = result.id ∧ summary.batchId = result.batchId
  below : ∀ summary ∈ told, summary.rowCount ≤ result.rowCount
  growing : (told.map ResultSummary.rowCount).Pairwise (· ≤ ·)

theorem ResultSummary.Follows.grow {result next : ResultSummary} {told : List ResultSummary}
    (follows : result.Follows told) (id : next.id = result.id)
    (batchId : next.batchId = result.batchId) (more : result.rowCount ≤ next.rowCount) :
    next.Follows told where
  ids summary member := by rw [id, batchId]; exact follows.ids summary member
  below summary member := Nat.le_trans (follows.below summary member) more
  growing := follows.growing

theorem ResultSummary.Follows.tell {result : ResultSummary} {told : List ResultSummary}
    (follows : result.Follows told) : result.Follows (told ++ [result]) where
  ids summary member := by
    rcases List.mem_append.mp member with earlier | last
    · exact follows.ids summary earlier
    · rw [List.mem_singleton.mp last]
      exact ⟨rfl, rfl⟩
  below summary member := by
    rcases List.mem_append.mp member with earlier | last
    · exact follows.below summary earlier
    · exact Nat.le_of_eq (congrArg ResultSummary.rowCount (List.mem_singleton.mp last))
  growing := by
    rw [List.map_append, List.pairwise_append]
    refine ⟨follows.growing, by simp, ?_⟩
    intro count member last same
    obtain ⟨summary, earlier, rfl⟩ := List.mem_map.mp member
    rw [List.mem_singleton.mp same]
    exact follows.below summary earlier

def OpenBlock (result : ResultSummary) (told : List Happening) : Prop :=
  ∃ available updates, told = .resultAvailable available :: updates.map .resultUpdated ∧
    result.Follows (available :: updates)

theorem OpenBlock.begin (result : ResultSummary) : OpenBlock result [.resultAvailable result] :=
  ⟨result, [], rfl, by simpa using (ResultSummary.Follows.mk (by simp) (by simp) (by simp) :
    result.Follows []).tell⟩

theorem OpenBlock.grow {result next : ResultSummary} {told : List Happening}
    (opened : OpenBlock result told) (id : next.id = result.id)
    (batchId : next.batchId = result.batchId) (more : result.rowCount ≤ next.rowCount) :
    OpenBlock next told := by
  obtain ⟨available, updates, same, follows⟩ := opened
  exact ⟨available, updates, same, follows.grow id batchId more⟩

theorem OpenBlock.update {result : ResultSummary} {told : List Happening}
    (opened : OpenBlock result told) : OpenBlock result (told ++ [.resultUpdated result]) := by
  obtain ⟨available, updates, rfl, follows⟩ := opened
  exact ⟨available, updates ++ [result], by simp, follows.tell⟩

theorem OpenBlock.complete {result : ResultSummary} {told : List Happening}
    (opened : OpenBlock result told) (complete : result.complete = true) :
    ∃ block : ResultBlock, told ++ [.resultCompleted result] = block.happenings ∧
      block.Regular result.batchId result.id := by
  obtain ⟨available, updates, rfl, follows⟩ := opened
  have whole := follows.tell
  exact ⟨⟨available, updates, result⟩, rfl, whole.ids, whole.growing, complete⟩

def BlockTold (result : ResultSummary) : ReadPhase → List Happening → Prop
  | .fetching false, told => told = []
  | .fetching true, told => OpenBlock result told
  | .announcing _, told => told = [] ∧ result.complete = true
  | .completing _, told => OpenBlock result told ∧ result.complete = true

namespace Reading

theorem blockTold_finish {reading : Reading} {announced : Bool} {told : List Happening}
    (before : BlockTold reading.result.summary (.fetching announced) told) (outcome : ReadOutcome) :
    BlockTold (reading.finish announced outcome).result.summary
      (reading.finish announced outcome).phase told := by
  cases announced with
  | false => exact ⟨before, rfl⟩
  | true => exact ⟨OpenBlock.grow before rfl rfl (Nat.le_refl _), rfl⟩

theorem blockTold_stored {options : ReadOptions} {announced : Bool} {result next : ResultSet}
    {told : List Happening} (before : BlockTold result.summary (.fetching announced) told)
    (id : next.id = result.id) (batchId : next.batchId = result.batchId)
    (more : result.rowCount ≤ next.rowCount) :
    OpenBlock next.summary
      (told ++ ((eventFor options announced next).toList.map ResultEvent.happening)) := by
  cases announced with
  | false =>
    rw [show told = [] from before]
    exact OpenBlock.begin next.summary
  | true =>
    have grown : OpenBlock next.summary told := OpenBlock.grow before id batchId more
    unfold eventFor
    by_cases due : next.rowCount % max options.interval 1 = 0
    · simp only [Bool.not_true, Bool.false_eq_true, if_false, if_pos due]
      exact grown.update
    · simp only [Bool.not_true, Bool.false_eq_true, if_false, if_neg due]
      simpa using grown

/-- A step of a reading goes on with the block of its result, and its end closes the block. -/
theorem ensures_block (options : ReadOptions) (cancelled : Bool) {reading : Reading}
    {told : List Happening} (before : BlockTold reading.result.summary reading.phase told) :
    (reading.step options cancelled).Ensures
      (fun next events => BlockTold next.result.summary next.phase
        (told ++ events.map ResultEvent.happening))
      (fun _ events => ∃ block : ResultBlock,
        told ++ events.map ResultEvent.happening = block.happenings ∧
          block.Regular reading.result.batchId reading.result.id) := by
  have turn := reading.turn options cancelled
  generalize reading.step options cancelled = progress at turn
  -- A reading that leaves off begins the block if nothing has been announced, and else ends it.
  cases turn with
  | cancelled phase _ =>
    rw [phase] at before
    simpa [Progress.Ensures] using blockTold_finish before (.error .cancelled)
  | waits phase _ _ => simpa [Progress.Ensures] using before
  | @exhausted announced cursor phase _ _ =>
    rw [phase] at before
    have finished := @blockTold_finish { reading with cursor } announced told before (.ok ())
    simpa [Progress.Ensures] using finished
  | @failed announced cursor error phase _ _ =>
    rw [phase] at before
    have finished := @blockTold_finish { reading with cursor } announced told before
      (.error (readFailure error))
    simpa [Progress.Ensures] using finished
  | dropped phase _ _ _ => simpa [Progress.Ensures] using before
  | @refused announced cursor row error phase _ _ _ _ =>
    rw [phase] at before
    have finished := @blockTold_finish { reading with cursor } announced told before
      (.error (.storage error))
    simpa [Progress.Ensures] using finished
  | @stored announced cursor row store phase _ _ _ appended =>
    rw [phase] at before
    have sameKey := RowStore.key_of_append appended
    refine blockTold_stored before ?_ ?_ ?_
    · exact congrArg StoreKey.resultId sameKey
    · exact congrArg StoreKey.batchId sameKey
    · exact Nat.le_trans (Nat.le_succ _) (Nat.le_of_eq (RowStore.published_of_append appended).symm)
  | announced phase =>
    rw [phase] at before
    obtain ⟨nothing, complete⟩ := before
    rw [nothing]
    exact ⟨OpenBlock.begin _, complete⟩
  | completed phase =>
    rw [phase] at before
    exact before.1.complete before.2

end Reading

/-! Parts, while a batch runs. -/

def PartsTold (batchId blocks : Nat) (told : List Happening) : Prop :=
  ∃ started parts, told = .batchStarted started :: parts.flatMap StoryPart.happenings ∧
    started.id = batchId ∧ StoryPart.Regular batchId blocks parts

theorem PartsTold.say {batchId blocks : Nat} {told : List Happening}
    (before : PartsTold batchId blocks told) {said : BatchMessage} (own : said.batchId = batchId) :
    PartsTold batchId blocks (told ++ [.message said]) := by
  obtain ⟨started, parts, rfl, id, regular⟩ := before
  exact ⟨started, parts ++ [.message said], by simp [StoryPart.happenings], id, regular.say own⟩

theorem PartsTold.close {batchId blocks : Nat} {told : List Happening}
    (before : PartsTold batchId blocks told) {block : ResultBlock}
    (own : block.Regular batchId blocks) :
    PartsTold batchId (blocks + 1) (told ++ block.happenings) := by
  obtain ⟨started, parts, rfl, id, regular⟩ := before
  exact ⟨started, parts ++ [.block block], by simp [StoryPart.happenings], id, regular.close own⟩

def StoryTold (batch : Batch) (phase : BatchPhase) (told : List Happening) : Prop :=
  match phase with
  | .starting _ => told = [] ∧ batch.results = []
  | .reading _ _ readPhase => ∃ before block earlier result, told = before ++ block ∧
      batch.results = earlier ++ [result] ∧ PartsTold batch.id earlier.length before ∧
      BlockTold result.summary readPhase block
  | _ => PartsTold batch.id batch.results.length told

namespace BatchRun

theorem storyTold_withReading {run : BatchRun} (numbered : run.batch.Numbered)
    {earlier : List ResultSet} {result : ResultSet}
    (results : run.batch.results = earlier ++ [result]) {before block : List Happening}
    (parts : PartsTold run.batch.id earlier.length before) {left : Nat} {next : Reading}
    (sameKey : next.result.store.key = result.store.key)
    (told : BlockTold next.result.summary next.phase block) :
    StoryTold (run.withReading left next).batch (run.withReading left next).phase
      (before ++ block) :=
  ⟨before, block, earlier, next.result, rfl,
    Batch.results_setResult numbered results sameKey, parts, told⟩

theorem storyTold_afterRead {run : BatchRun} (numbered : run.batch.Numbered)
    {earlier : List ResultSet} {result : ResultSet}
    (results : run.batch.results = earlier ++ [result]) {before : List Happening}
    (parts : PartsTold run.batch.id earlier.length before) {left : Nat} {done : ReadEnd}
    (sameKey : done.result.store.key = result.store.key) {block : ResultBlock}
    (own : block.Regular result.batchId result.id) :
    StoryTold (run.afterRead left done).batch (run.afterRead left done).phase
      (before ++ block.happenings) := by
  have place := numbered.last results
  rw [ResultSet.batchId, ResultSet.id, place] at own
  have length : (run.afterRead left done).batch.results.length = earlier.length + 1 := by
    simp [afterRead, Batch.results_setResult numbered results sameKey]
  change PartsTold run.batch.id (run.afterRead left done).batch.results.length _
  rw [length]
  exact parts.close own

/-- A step of a batch goes on with its story, and its end completes the story. -/
theorem ensures_story {η : Type} [Host η] (now : Instant) (cancelled : Bool) (world : World η)
    {run : BatchRun} {told : List Happening} (numbered : run.batch.Numbered)
    (before : StoryTold run.batch run.phase told) :
    (run.step now cancelled world).2.Ensures
      (fun next events => StoryTold next.batch next.phase (told ++ events))
      (fun done events => ∃ story : BatchStory, told ++ events = story.happenings ∧
        story.Regular run.batch.id done.batch.results.length) := by
  have turn := run.turn now cancelled world
  revert turn
  rcases run.step now cancelled world with ⟨later, progress⟩
  intro turn
  cases turn with
  | started phase =>
    rw [phase] at before
    obtain ⟨nothing, fresh⟩ := before
    refine ⟨run.batch.summary, [], by simp [nothing], rfl, by simp, by simp, ?_⟩
    simp [fresh]
  -- The new result has nothing told of it, so its block is empty still.
  | created phase _ =>
    rw [phase] at before
    exact ⟨told, [], run.batch.results, _, by simp, rfl, before, rfl⟩
  | read phase last =>
    rw [phase] at before
    obtain ⟨parted, block, earlier, result, rfl, results, parts, reading⟩ := before
    rw [results, List.getLast?_concat] at last
    cases last
    refine Progress.ensures_mapEvent (Progress.ensures_within ?_)
    refine ((Reading.ensures_key _ _ _).and (Reading.ensures_block _ _ reading)).imp ?_ ?_
    · rintro next events ⟨sameKey, blockTold⟩
      rw [List.append_assoc]
      exact storyTold_withReading numbered results parts sameKey blockTold
    · rintro done events ⟨sameKey, whole, closes, own⟩
      rw [List.append_assoc, closes]
      exact storyTold_afterRead numbered results parts sameKey own
  | unread phase none =>
    rw [phase] at before
    obtain ⟨_, _, earlier, result, _, results, _⟩ := before
    simp [results] at none
  | completed phase =>
    rw [phase] at before
    obtain ⟨started, parts, rfl, id, regular⟩ := before
    exact ⟨⟨started, parts, _⟩, rfl, id, rfl, regular⟩
  | told phase | erred phase _ | remarked phase _ | cancelled phase | failed phase
  | succeeded phase _ =>
    rw [phase] at before
    exact PartsTold.say before rfl
  | unopened phase _ => simpa [Progress.Ensures] using before
  | _ phase =>
    rw [phase] at before
    simpa [Progress.Ensures, goOn, StoryTold, tellNotices, marked] using before

end BatchRun

end SqlDesk
