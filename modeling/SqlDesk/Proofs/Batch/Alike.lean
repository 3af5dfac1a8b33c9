import Mathlib.Data.List.Forall2
import SqlDesk.Proofs.Batch.Numbering
import SqlDesk.Proofs.Batch.Tally
import SqlDesk.Proofs.Reading.Alike

/-! One batch run under two settings that differ in the limit and in the interval of updates, on the
same source and with stores that never fail. Rows that are dropped are still taken from the cursor, so
both runs go through the same phases, submit the same and say the same. -/

set_option autoImplicit false

namespace SqlDesk

/-- Settings that differ at most in the limit and in the interval of updates. -/
structure Settings.Alike (one other : Settings) : Prop where
  batchRuns : one.batchRuns = other.batchRuns
  actualPlan : one.actualPlan = other.actualPlan
  estimatedPlan : one.estimatedPlan = other.estimatedPlan

/-- Stores are always made, and they never get full. -/
structure StoreMaker.Flawless (maker : StoreMaker) : Prop where
  made : ∀ attempt, maker.failures.ofAttempt attempt = false
  endless : ∀ attempt, maker.rooms.ofAttempt attempt = none

theorem StoreMaker.Flawless.create {maker : StoreMaker} (flawless : maker.Flawless)
    (key : StoreKey) :
    ∃ store, maker.create key = (.ok store, { maker with attempts := maker.attempts + 1 }) ∧
      store.key = key ∧ store.room = none ∧ store.Holds [] := by
  have made : maker.create key = (.ok ⟨key, if maker.inFile then .file #[] #[] 0 else .memory #[], 0,
      true, maker.rooms.ofAttempt maker.attempts⟩,
      { maker with attempts := maker.attempts + 1 }) := by
    unfold StoreMaker.create
    rw [if_neg (by simp [flawless.made])]
  exact ⟨_, made, rfl, flawless.endless _, create_holds (congrArg Prod.fst made)⟩

section

variable {α β : Type} {related : α → β → Prop} {left : List α} {right : List β}

theorem forall₂_concat (pairs : List.Forall₂ related left right) {front : List α} {last : α}
    (split : left = front ++ [last]) :
    ∃ others final, right = others ++ [final] ∧ List.Forall₂ related front others ∧
      related last final := by
  subst split
  have before := List.forall₂_take_append right front [last] pairs.flip
  have behind := List.forall₂_drop_append right front [last] pairs.flip
  cases rest : right.drop front.length with
  | nil =>
    rw [rest] at behind
    cases behind
  | cons final more =>
    rw [rest] at behind
    cases behind with
    | cons same none =>
      cases none
      exact ⟨_, final, by rw [← rest, List.take_append_drop], before.flip, same⟩

theorem forall₂_map_eq {γ : Type} {f : α → γ} {g : β → γ}
    (same : ∀ item other, related item other → f item = g other)
    (pairs : List.Forall₂ related left right) : left.map f = right.map g := by
  rw [← List.forall₂_eq_eq_eq, List.forall₂_map_left_iff, List.forall₂_map_right_iff]
  exact pairs.imp same

theorem forall₂_set (pairs : List.Forall₂ related left right) (place : Nat) {item : α} {other : β}
    (same : related item other) :
    List.Forall₂ related (left.set place item) (right.set place other) := by
  induction pairs generalizing place with
  | nil => exact .nil
  | cons first _ ih =>
    cases place with
    | zero => exact .cons same ‹_›
    | succ place => exact .cons first (ih place)

end

/-! Batches. -/

structure Batch.Alike (one other : Settings) (left right : Batch) : Prop where
  id : left.id = right.id
  owner : left.owner = right.owner
  text : left.text = right.text
  results : List.Forall₂ (ResultSet.Alike one other) left.results right.results
  messages : left.messages.map BatchMessage.line = right.messages.map BatchMessage.line
  started : left.started.isSome = right.started.isSome
  ended : left.ended.isSome = right.ended.isSome
  hasError : left.hasError = right.hasError
  cancelled : left.cancelled = right.cancelled

theorem Instant.forget {left right : Option Instant} (same : left.isSome = right.isSome)
    (time : Instant) : (left.map fun _ => time) = right.map fun _ => time := by
  cases left <;> cases right <;> first | rfl | cases same

namespace Batch.Alike

variable {one other : Settings} {left right : Batch}

theorem plain (alike : left.Alike one other right) : left.summary.plain = right.summary.plain := by
  have shown : (left.results.map ResultSet.summary).map ResultSummary.plain =
      (right.results.map ResultSet.summary).map ResultSummary.plain := by
    rw [List.map_map, List.map_map]
    exact forall₂_map_eq (fun _ _ same => same.plain) alike.results
  have results : left.summary.results.map (·.map ResultSummary.plain) =
      right.summary.results.map (·.map ResultSummary.plain) := by
    -- The results are in a summary once the batch has ended, on both sides or on neither.
    have executed : left.executed = right.executed := alike.ended
    simp only [summary, executed]
    split
    · exact congrArg some shown
    · rfl
  simp only [BatchSummary.plain, results]
  simp only [summary, alike.id, alike.text, alike.hasError, Instant.forget alike.started,
    Instant.forget alike.ended]

theorem addMessage (alike : left.Alike one other right) {message told : BatchMessage}
    (same : message.line = told.line) :
    (left.addMessage message).Alike one other (right.addMessage told) where
  id := alike.id
  owner := alike.owner
  text := alike.text
  results := alike.results
  messages := by
    simp only [Batch.addMessage, List.map_append, List.map_cons, List.map_nil, alike.messages, same]
  started := alike.started
  ended := alike.ended
  hasError := by
    have isError : message.isError = told.isError := congrArg Line.isError same
    simp only [Batch.addMessage, alike.hasError, isError]
  cancelled := alike.cancelled

theorem setResult (alike : left.Alike one other right) {next later : ResultSet}
    (same : next.Alike one other later) :
    (left.setResult next).Alike one other (right.setResult later) where
  id := alike.id
  owner := alike.owner
  text := alike.text
  results := by
    have place : next.id = later.id := congrArg StoreKey.resultId same.key
    simp only [Batch.setResult, place]
    exact forall₂_set alike.results _ same
  messages := alike.messages
  started := alike.started
  ended := alike.ended
  hasError := alike.hasError
  cancelled := alike.cancelled

theorem append (alike : left.Alike one other right) {next later : ResultSet}
    (same : next.Alike one other later) :
    Alike one other { left with results := left.results ++ [next] }
      { right with results := right.results ++ [later] } :=
  ⟨alike.id, alike.owner, alike.text, List.rel_append alike.results (.cons same .nil),
    alike.messages, alike.started, alike.ended, alike.hasError, alike.cancelled⟩

theorem begin (alike : left.Alike one other right) (now after : Instant) :
    Alike one other { left with started := some now } { right with started := some after } :=
  ⟨alike.id, alike.owner, alike.text, alike.results, alike.messages, rfl, alike.ended,
    alike.hasError, alike.cancelled⟩

theorem finish (alike : left.Alike one other right) (now after : Instant) :
    Alike one other { left with ended := some now } { right with ended := some after } :=
  ⟨alike.id, alike.owner, alike.text, alike.results, alike.messages, alike.started, rfl,
    alike.hasError, alike.cancelled⟩

theorem mark (alike : left.Alike one other right) :
    Alike one other { left with hasError := true } { right with hasError := true } :=
  ⟨alike.id, alike.owner, alike.text, alike.results, alike.messages, alike.started, alike.ended,
    rfl, alike.cancelled⟩

theorem cancel (alike : left.Alike one other right) :
    Alike one other { left with cancelled := true } { right with cancelled := true } :=
  ⟨alike.id, alike.owner, alike.text, alike.results, alike.messages, alike.started, alike.ended,
    alike.hasError, rfl⟩

theorem quiet (alike : left.Alike one other right) :
    (left.messages.isEmpty && !left.hasError) = (right.messages.isEmpty && !right.hasError) := by
  have same := congrArg List.isEmpty alike.messages
  rw [List.isEmpty_map, List.isEmpty_map] at same
  rw [same, alike.hasError]

theorem nextKey (alike : left.Alike one other right) : left.nextKey = right.nextKey := by
  simp only [Batch.nextKey, alike.id, alike.owner, alike.results.length_eq]

end Batch.Alike

/-! Runs of a batch. -/

def BatchPhase.unannounced : BatchPhase → Bool
  | reading _ _ (.fetching false) => true
  | _ => false

theorem BatchPhase.unannounced_reading {left : Nat} {cursor : Cursor} {phase : ReadPhase} :
    (reading left cursor phase).unannounced = true ↔ phase = .fetching false := by
  cases phase with
  | fetching announced => cases announced <;> simp [unannounced]
  | announcing | completing => simp [unannounced]

structure BatchRun.Alike (one other : Settings) (left right : BatchRun) : Prop where
  batch : left.batch.Alike one other right.batch
  settings : left.settings = one ∧ right.settings = other
  connection : left.connection = right.connection
  phase : left.phase = right.phase
  fresh : left.phase.unannounced = true →
    ∀ result, left.batch.results.getLast? = some result → result.rowCount = 0

structure BatchEnd.Alike (one other : Settings) (left right : BatchEnd) : Prop where
  batch : left.batch.Alike one other right.batch
  outcome : left.outcome = right.outcome

namespace BatchRun

variable {one other : Settings} {left right : BatchRun}

theorem Alike.execution (alike : left.Alike one other right) (settings : one.Alike other) :
    left.execution = right.execution := by
  obtain ⟨isOne, isOther⟩ := alike.settings
  simp only [BatchRun.execution, alike.batch.text, isOne, isOther, settings.actualPlan,
    settings.estimatedPlan]

theorem Alike.goesOn (alike : left.Alike one other right) {batch later : Batch} {phase : BatchPhase}
    (same : batch.Alike one other later)
    (announced : phase.unannounced = false) :
    Alike one other { left with batch, phase } { right with batch := later, phase } :=
  ⟨same, alike.settings, alike.connection, rfl,
    fun unannounced => absurd unannounced (Bool.eq_false_iff.mp announced)⟩

theorem Alike.says (alike : left.Alike one other right) {batch later : Batch}
    (same : batch.Alike one other later) (now after : Instant) (isError : Bool) {text words : String}
    (texts : text = words) (phase : BatchPhase)
    (announced : phase.unannounced = false) :
    Progress.Paired (Alike one other) (BatchEnd.Alike one other) Happening.plain
      (BatchRun.say { left with batch } now isError text phase)
      (BatchRun.say { right with batch := later } after isError words phase) := by
  subst texts
  have line : BatchMessage.line ⟨batch.id, isError, now, text⟩ =
      BatchMessage.line ⟨later.id, isError, after, text⟩ := by
    simp only [BatchMessage.line, same.id]
  refine ⟨alike.goesOn (same.addMessage line) announced, ?_⟩
  simp only [Option.bind_some, Happening.plain, BatchMessage.plain, same.id]

theorem Alike.reads (alike : left.Alike one other right) (numbered : left.batch.Numbered)
    {runs : Nat} {cursor : Cursor} {readPhase : ReadPhase}
    (phase : left.phase = .reading runs cursor readPhase) :
    Progress.Paired (Alike one other) (BatchEnd.Alike one other) Happening.plain
      (left.stepReading false runs cursor readPhase)
      (right.stepReading false runs cursor readPhase) := by
  obtain ⟨rfl, rfl⟩ := alike.settings
  unfold stepReading
  -- The results go in pairs, so a last one is there on both sides or on neither.
  rcases List.eq_nil_or_concat left.batch.results with none | ⟨earlier, result, results⟩
  · have missing : right.batch.results = [] := by
      have length := alike.batch.results.length_eq
      rw [none] at length
      exact List.eq_nil_of_length_eq_zero length.symm
    rw [none, missing]
    exact ⟨alike.goesOn alike.batch rfl, rfl⟩
  · rw [List.concat_eq_append] at results
    obtain ⟨others, final, found, -, same⟩ := forall₂_concat alike.batch.results results
    rw [results, found, List.getLast?_concat, List.getLast?_concat]
    have reading : Reading.Alike left.settings right.settings ⟨result, cursor, readPhase⟩
        ⟨final, cursor, readPhase⟩ := by
      refine ⟨same, rfl, rfl, fun fresh => ?_⟩
      refine alike.fresh ?_ result (by rw [results, List.getLast?_concat])
      rw [phase]
      exact BatchPhase.unannounced_reading.mpr fresh
    have steps := (Reading.alike_step reading).withLeft
      (Reading.ensures_key (.ofSettings left.settings) false ⟨result, cursor, readPhase⟩)
    refine Progress.paired_mapEvent (Progress.paired_within steps ?_ ?_)
    · rintro next later ⟨goes, sameKey⟩
      have stands := Batch.results_setResult numbered results sameKey
      refine ⟨alike.batch.setResult goes.result, ⟨rfl, rfl⟩, alike.connection, ?_, ?_⟩
      · rw [goes.phase, goes.cursor]
      · intro unannounced read last
        change (left.batch.setResult next.result).results.getLast? = some read at last
        rw [stands, List.getLast?_concat] at last
        cases last
        exact goes.fresh (BatchPhase.unannounced_reading.mp unannounced)
    · rintro done ends ⟨goes, -⟩
      rw [goes.outcome, goes.cursor]
      exact ⟨alike.batch.setResult goes.result, ⟨rfl, rfl⟩, alike.connection, rfl,
        fun unannounced => absurd unannounced Bool.false_ne_true⟩

theorem Alike.saysDriverError (alike : left.Alike one other right) (now later : Instant)
    (message : DriverMessage) (phase : BatchPhase)
    (announced : phase.unannounced = false) :
    Progress.Paired (Alike one other) (BatchEnd.Alike one other) Happening.plain
      (left.sayDriverError now message phase) (right.sayDriverError later message phase) := by
  have line : left.batch.startLine = right.batch.startLine := by
    rw [Batch.startLine, alike.batch.text]
    rfl
  unfold sayDriverError
  cases message.tone with
  | error => exact alike.says alike.batch.mark now later _ (congrArg message.errorText line) _ announced
  | informational => exact alike.says alike.batch.mark now later _ rfl _ announced
  | suppressed => exact ⟨alike.goesOn alike.batch.mark announced, rfl⟩

/-- Both stores are made, under the same key, and both results begin without rows. -/
theorem Alike.makesResult (alike : left.Alike one other right) {maker : StoreMaker}
    (flawless : maker.Flawless) (runs : Nat) (cursor : Cursor) (header : Header) :
    (left.makeResult maker runs cursor header).1 = (right.makeResult maker runs cursor header).1 ∧
      (left.makeResult maker runs cursor header).1.Flawless ∧
      (left.makeResult maker runs cursor header).2.Alike one other
        (right.makeResult maker runs cursor header).2 := by
  obtain ⟨store, made, -, endless, holds⟩ := flawless.create right.batch.nextKey
  simp only [makeResult, alike.batch.nextKey, made, true_and]
  have empty (settings : Settings) : ResultSet.Stores settings [] (ResultSet.ofHeader store header) :=
    ⟨endless, by rw [upTo_nil]; exact holds⟩
  have begun : ResultSet.Alike one other (ResultSet.ofHeader store header)
      (ResultSet.ofHeader store header) := ⟨rfl, rfl, rfl, rfl, [], empty one, empty other⟩
  refine ⟨⟨flawless.made, flawless.endless⟩, alike.batch.append begun, alike.settings,
    alike.connection, rfl, ?_⟩
  intro _ result last
  rw [List.getLast?_concat] at last
  cases last
  exact holds.published

variable {η : Type} [Host η]

/-- A step of either run, at whatever time, does the same to the source and goes on alike. -/
theorem alike_step (now later : Instant) {world : World η} (flawless : world.maker.Flawless)
    (settings : one.Alike other) (numbered : left.batch.Numbered)
    (alike : left.Alike one other right) :
    (left.step now false world).1 = (right.step later false world).1 ∧
      (left.step now false world).1.maker.Flawless ∧
      Progress.Paired (Alike one other) (BatchEnd.Alike one other) Happening.plain
        (left.step now false world).2 (right.step later false world).2 := by
  have execution := alike.execution settings
  have goes (phase : BatchPhase)
      (announced : phase.unannounced = false) :
      Progress.Paired (Alike one other) (BatchEnd.Alike one other) Happening.plain
        (left.goOn phase) (right.goOn phase) := ⟨alike.goesOn alike.batch announced, rfl⟩
  obtain ⟨batchL, settingsL, connection, phase⟩ := left
  obtain ⟨batchR, settingsR, _, _⟩ := right
  obtain ⟨batch, isSettings, rfl, rfl, -⟩ := id alike
  have line : batchL.startLine = batchR.startLine := by rw [Batch.startLine, batch.text]; rfl
  -- The phase is shared, and it decides what is asked of the source and of the maker of stores.
  cases phase with
  | starting runs =>
    refine ⟨rfl, flawless, alike.goesOn batch rfl, ?_⟩
    exact congrArg (fun summary => some (Happening.batchStarted summary)) batch.plain
  | repeating runs =>
    cases runs with
    | zero => exact ⟨rfl, flawless, goes _ rfl⟩
    | succ runs =>
      simp only [step, Bool.false_eq_true, if_false, execution, true_and]
      exact ⟨flawless, goes _ rfl⟩
  | opening runs script =>
    refine ⟨rfl, flawless, ?_⟩
    simp only [step]
    cases script.open false with
    | waits => exact alike
    | value cursor | ended | failed error => exact goes _ rfl
  | advancing runs cursor =>
    refine ⟨rfl, flawless, ?_⟩
    simp only [step]
    rcases cursor.nextResult false with ⟨fetched, next⟩
    cases fetched with
    | waits => exact alike.goesOn batch rfl
    | value | ended | failed => exact goes _ rfl
  | telling runs cursor notices next =>
    cases notices with
    | cons notice notices =>
      refine ⟨rfl, flawless, ?_⟩
      exact alike.says batch now later _ (congrArg notice.text line) _ rfl
    | nil =>
      cases next with
      | nextResult | endOfRun | interruption => exact ⟨rfl, flawless, goes _ rfl⟩
      | result header =>
        obtain ⟨makers, stays, made⟩ := alike.makesResult flawless runs cursor header
        exact ⟨congrArg (fun maker => { world with maker }) makers, stays, made, rfl⟩
  | reading runs cursor readPhase => exact ⟨rfl, flawless, alike.reads numbered rfl⟩
  | interrupted runs reason =>
    refine ⟨by cases reason <;> rfl, by cases reason <;> exact flawless, ?_⟩
    cases reason with
    | driver message => exact alike.saysDriverError now later message _ rfl
    | cancelled => exact alike.says batch.cancel now later _ rfl _ rfl
    | failed text => exact alike.says batch now later _ rfl _ rfl
  | concluding outcome =>
    simp only [step, batch.quiet]
    split
    · exact ⟨rfl, flawless, alike.says batch now later _ rfl _ rfl⟩
    · exact ⟨rfl, flawless, goes _ rfl⟩
  | completing outcome =>
    have ended := batch.finish now later
    refine ⟨rfl, flawless, ⟨ended, rfl⟩, ?_⟩
    exact congrArg (fun summary => some (Happening.batchCompleted summary)) ended.plain

end BatchRun

end SqlDesk
