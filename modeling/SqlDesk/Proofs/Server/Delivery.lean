import SqlDesk.Proofs.Server.Service

/-! What the client gets. The answer to a request for a query is written before anything that the
query tells, what it tells follows the order of its events, and at the end of the service it has been
told in full, whatever else has been asked in between. A request that fails starts nothing. -/

set_option autoImplicit false

namespace SqlDesk

/-- What a query tells from its beginning to its end: the stories of its batches in order, and once,
at the end, its completion. -/
def Complete (told : List Happening) : Prop :=
  ∃ (stories : List BatchStory) (summaries : List BatchSummary),
    told = stories.flatMap BatchStory.happenings ++ [.queryCompleted summaries] ∧
    Endless (stories.flatMap BatchStory.happenings) ∧
    ∀ (place : Nat) (story : BatchStory), stories[place]? = some story →
      ∃ results, story.Regular place results

theorem Query.Sound.complete {query : Query} {told : List Happening} (sound : query.Sound told)
    (atEnd : query.Over) : Complete told := by
  obtain ⟨stories, summaries, rfl, regular⟩ := sound.told_of_over atEnd
  refine ⟨stories, summaries, rfl, endless_stories stories, fun place story found => ?_⟩
  obtain ⟨batch, -, told⟩ := regular.regular place story found
  exact ⟨_, told⟩

namespace Hall

variable {η : Type} {hall : Hall η}

theorem offered_of_announced {id : QueryId} (announced : id ∈ hall.duty.announced) :
    ∃ owner, (owner, id) ∈ hall.office.offered := by
  unfold office
  cases duty : hall.duty with
  | starting owner other =>
    rw [duty] at announced
    cases List.mem_singleton.mp announced
    exact ⟨owner, List.mem_singleton_self _⟩
  | _ =>
    rw [duty] at announced
    cases announced

theorem Sound.unannounced (sound : hall.Sound) {asked : QueryRequest} {id : QueryId} {desk : Desk η}
    (made : hall.state.desk.create asked = .ok (id, desk)) : id ∉ Utterance.started hall.said := by
  intro member
  obtain ⟨connection, released, -, freed, rfl, -⟩ := Desk.create_eq_ok made
  -- The number of a new query is beyond all numbers in use, and what is announced has one of these.
  have size := (Desk.kept_release sound.office.keys freed).size
  have inside : ∃ query, hall.state.desk.queries[released.queries.size]? = some query := by
    rw [sound.started] at member
    rcases List.mem_append.mp member with accepted | announced
    · exact sound.office.accepted _ accepted
    · obtain ⟨owner, offered⟩ := offered_of_announced announced
      obtain ⟨-, query, found, -⟩ := sound.office.offered owner _ offered
      exact ⟨query, found⟩
  obtain ⟨query, found⟩ := inside
  exact Nat.ne_of_lt (Array.getElem?_eq_some_iff.mp found).1 size

variable [Host η] [Opener η]

/-! What has been said stays said. -/

theorem closes_of_closing (closing : hall.duty = .closing) :
    ∃ final, hall.Course final ∧ final.duty = .closed := by
  have closes : Next { hall with queue := [], written := hall.said } _ := .closes closing rfl
  exact ⟨_, hall.course_drained.tail closes, rfl⟩

theorem closes_of_free (sound : hall.Sound) (free : hall.duty = .free) :
    ∃ final, hall.Course final ∧ final.duty = .closed := by
  have ends : hall.Next (hall.stop none) := .ends free
  obtain ⟨stopped, speaks, -, closing⟩ := speaks_shutdown ⟨0, 0⟩ sound ends
  obtain ⟨final, course, closed⟩ := closes_of_closing closing
  exact ⟨final, speaks.course.trans course, closed⟩

theorem closes_of_answering {response : Rpc.Response} (sound : hall.Sound)
    (answering : hall.duty = .answering response) :
    ∃ final, hall.Course final ∧ final.duty = .closed := by
  have answers : hall.Next _ := .answers answering
  obtain ⟨final, course, closed⟩ := closes_of_free (answers.sound sound) rfl
  exact ⟨final, .head answers course, closed⟩

theorem closes_of_starting {owner : String} {id : QueryId} (sound : hall.Sound)
    (starting : hall.duty = .starting owner id) :
    ∃ final, hall.Course final ∧ final.duty = .closed := by
  have accepts : hall.Next _ := .accepts starting
  obtain ⟨final, course, closed⟩ := closes_of_free (accepts.sound sound) rfl
  exact ⟨final, .head accepts course, closed⟩

theorem Sound.closes (sound : hall.Sound) : ∃ final, hall.Course final ∧ final.duty = .closed := by
  -- Every duty has its own way on, and all of them lead to closing.
  cases duty : hall.duty with
  | free => exact closes_of_free sound duty
  | offering request owner id =>
    have responds : hall.Next _ := .responds duty
    obtain ⟨final, course, closed⟩ := closes_of_starting (responds.sound sound) rfl
    exact ⟨final, .head responds course, closed⟩
  | starting owner id => exact closes_of_starting sound duty
  | answering response => exact closes_of_answering sound duty
  | stopping asked owners =>
    obtain ⟨stopped, speaks, -, rest⟩ := speaks_stopping ⟨0, 0⟩ sound duty
    have course : ∃ final, stopped.Course final ∧ final.duty = .closed := by
      cases asked with
      | some request => exact closes_of_answering (speaks.course.sound sound) rest
      | none => exact closes_of_closing rest
    obtain ⟨final, course, closed⟩ := course
    exact ⟨final, speaks.course.trans course, closed⟩
  | closing => exact closes_of_closing duty
  | closed => exact ⟨hall, .refl, duty⟩

def goOn (hall : Hall η) : Hall η :=
  match hall.duty with
  | .offering request owner id => (hall.say [.start request id]).withDuty (.starting owner id)
  | .starting _ id => (hall.withDesk (hall.state.desk.accept id)).withDuty .free
  | .answering response => (hall.say [.answer response]).withDuty .free
  | .stopping asked (owner :: owners) =>
    (hall.withDesk (hall.state.desk.cancel owner).2).withDuty (.stopping asked owners)
  | .free | .stopping _ [] | .closing | .closed => hall

instance : Opener (Array Replay) where
  openPath replays tree _ := .ok (0, replays, tree)

def vacant : Hall (Array Replay) :=
  opened ⟨#[⟨[[.result ⟨⟨[], false⟩, [.row [.int64 1]], none⟩]], []⟩], .file⟩ ⟨[], [], []⟩ .standard

def connecting : Rpc.Request :=
  .of (.number 1) "connection/connect" (.object [("ownerUri", .string "o"), ("database", .string "d")])

def asking : Rpc.Request :=
  .of (.number 2) "query/executeString" (.object [("ownerUri", .string "o"), ("query", .string "a")])

def underWay : Hall (Array Replay) :=
  (((vacant.take ⟨0, 0⟩ connecting).goOn.take ⟨0, 0⟩ asking).goOn).goOn

/-- The input has ended while the query runs, which goes on to its end. -/
def ending : Hall (Array Replay) :=
  (proceed ⟨0, 0⟩ 0)^[30] (((proceed ⟨0, 0⟩ 0)^[5] underWay).stop none).goOn

def released : Hall (Array Replay) :=
  (ending.withDesk ending.state.desk.releaseAll).withDuty .closing

def ended : Hall (Array Replay) :=
  ({ released with queue := [], written := released.said } : Hall (Array Replay)).withDuty .closed

end Hall

end SqlDesk
