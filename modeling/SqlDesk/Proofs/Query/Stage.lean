import SqlDesk.Proofs.Acts
import SqlDesk.Proofs.Query.Course

/-! A query on its way together with the databases and stores that it draws on. Beside what has been
delivered, a stage keeps what the query has submitted and how its batches have ended, so that a
statement can speak of a whole course from the making of the query on. -/

set_option autoImplicit false

namespace SqlDesk

def Progress.result? {σ ρ ε : Type} : Progress σ ρ ε → Option ρ
  | waits _ | moves _ _ => none
  | ends result _ => some result

/-- How the batch under way ends, if the next step ends it. -/
def Query.returned {η : Type} [Host η] (now : Instant) (world : World η) (query : Query) :
    Option BatchOutcome :=
  match query.activity with
  | .executing index phase => query.batches[index]?.bind fun batch =>
      ((query.runOf batch phase).step now query.cancelRequested world).2.result?.map BatchEnd.outcome
  | _ => none

structure Stage (η α : Type) where
  world : World (Recorded η)
  scene : Scene α
  /-- The outcomes that the runs of batches have returned, oldest first. -/
  endings : List BatchOutcome

namespace Stage

variable {η α : Type}

abbrev query (stage : Stage η α) : Query := stage.scene.query

def submissions (stage : Stage η α) : List Submission := stage.world.host.submissions

/-- A query that has just been made. Nothing has been submitted for it. -/
def ofQuery (host : η) (maker : StoreMaker) (query : Query) : Stage η α :=
  ⟨⟨⟨host, []⟩, maker⟩, .ofQuery query, []⟩

def withQuery (stage : Stage η α) (query : Query) : Stage η α :=
  { stage with scene := { stage.scene with query } }

variable [Host η]

def step (now : Instant) (stage : Stage η α) : Stage η α :=
  let stepped := stage.query.step now stage.world
  { world := stepped.1
    scene := { stage.scene with query := stepped.2.outcome.1 }.tell stepped.2.outcome.2
    endings := stage.endings ++ (stage.query.returned now stage.world).toList }

/-- What happens next. A request that is refused changes nothing and is no act. -/
inductive Does : Act → Stage η α → Stage η α → Prop where
  | begins {stage : Stage η α} {query : Query} (now : Instant)
      (accepted : stage.query.begin now = .ok query) : Does .begins stage (stage.withQuery query)
  | steps {stage : Stage η α} (now : Instant) : Does .steps stage (stage.step now)
  | cancels {stage : Stage η α} {query : Query} (accepted : stage.query.cancel = .ok query) :
      Does .cancels stage (stage.withQuery query)
  | disposes {stage : Stage η α} : Does .disposes stage (stage.withQuery stage.query.dispose)
  | saves {stage : Stage η α} {batchId resultId : Nat} {path : String} {query : Query}
      (accepted : stage.query.beginSave batchId resultId path = .ok query) :
      Does .saves stage (stage.withQuery query)
  | saved {stage : Stage η α} (tree : FileTree) (batchId resultId : Nat) (request : SaveRequest) :
      Does .saves stage (stage.withQuery (stage.query.runSave tree batchId resultId request).2.1)
  | subscribes {stage : Stage η α} (member : α) :
      Does .subscribes stage
        { stage with scene := { stage.scene with
            subscribers := stage.scene.subscribers.subscribe member } }
  | elsewhere {stage : Stage η α} {world : World (Recorded η)}
      (others : world.host.submissions = stage.submissions) :
      Does .elsewhere stage { stage with world }

def Course (allowed : Act → Prop) : Stage η α → Stage η α → Prop := Along Does allowed

/-- What every act keeps that is neither a step nor the beginning. -/
structure Asked (stage next : Stage η α) : Prop where
  bare : next.query.bare = stage.query.bare
  signalled : stage.query.cancelRequested = true → next.query.cancelRequested = true
  submissions : next.submissions = stage.submissions
  endings : next.endings = stage.endings
  rounds : next.scene.rounds = stage.scene.rounds

theorem course_steps {allowed : Act → Prop} (permitted : allowed .steps) (now : Instant)
    (count : Nat) (stage : Stage η α) : Course allowed stage ((step now)^[count] stage) :=
  Along.iterate permitted (fun _ => .steps now) count stage

theorem Does.cases {act : Act} {stage next : Stage η α} (numbered : stage.query.Numbered)
    (does : Does act stage next) :
    (∃ now, act = .steps ∧ next = stage.step now) ∨
      (∃ now query, stage.query.begin now = .ok query ∧ next = stage.withQuery query) ∨
      Asked stage next := by
  -- A save is left out of the bare form, and takes no cancellation back.
  have unsaved {query : Query}
      (same : query.mapResults ResultSet.unsaved = stage.query.mapResults ResultSet.unsaved) :
      Asked stage (stage.withQuery query) := by
    have signal : (query.mapResults ResultSet.unsaved).cancelRequested =
        (stage.query.mapResults ResultSet.unsaved).cancelRequested := by rw [same]
    exact ⟨Query.bare_of_unsaved same, fun signalled => signal.trans signalled, rfl, rfl, rfl⟩
  cases does with
  | steps now => exact .inl ⟨now, rfl, rfl⟩
  | begins now accepted => exact .inr (.inl ⟨now, _, accepted, rfl⟩)
  | cancels accepted =>
    refine .inr (.inr ⟨Query.bare_cancel accepted, fun _ => ?_, rfl, rfl, rfl⟩)
    unfold Query.cancel at accepted
    split at accepted <;> cases accepted
    rfl
  | disposes =>
    refine .inr (.inr ⟨stage.query.bare_dispose, fun signalled => ?_, rfl, rfl, rfl⟩)
    simp [withQuery, Query.dispose, signalled]
  | saves accepted => exact .inr (.inr (unsaved (Query.unsaved_beginSave numbered accepted)))
  | saved tree batchId resultId request =>
    exact .inr (.inr (unsaved (Query.unsaved_runSave tree numbered batchId resultId request)))
  | subscribes member => exact .inr (.inr ⟨rfl, id, rfl, rfl, rfl⟩)
  | elsewhere others => exact .inr (.inr ⟨rfl, id, others, rfl, rfl⟩)

theorem begin_eq_ok {query begun : Query} {now : Instant} (accepted : query.begin now = .ok begun) :
    query.state = .notStarted ∧
      begun = { query with state := .running, started := some now, activity := .choosing 0 } := by
  unfold Query.begin at accepted
  split at accepted
  · rename_i fresh
    cases accepted
    exact ⟨fresh, rfl⟩
  · cases accepted

theorem Does.numbered {act : Act} {stage next : Stage η α} (does : Does act stage next)
    (numbered : stage.query.Numbered) : next.query.Numbered := by
  rcases does.cases numbered with ⟨now, -, rfl⟩ | ⟨now, query, accepted, rfl⟩ | asked
  · exact (Query.ensures_numbered now stage.world numbered).outcome.1
  · obtain ⟨-, rfl⟩ := begin_eq_ok accepted
    exact numbered
  · exact Query.numbered_of_bare asked.bare.symm numbered

theorem Course.numbered {allowed : Act → Prop} {first stage : Stage η α}
    (course : Course allowed first stage) (numbered : first.query.Numbered) : stage.query.Numbered :=
  course.preserves (·.query.Numbered) (fun _ does => does.numbered) numbered

end Stage

end SqlDesk
