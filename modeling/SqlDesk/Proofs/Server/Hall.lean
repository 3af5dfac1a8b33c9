import SqlDesk.Proofs.Desk.Office
import SqlDesk.Proofs.Desk.Requests
import SqlDesk.Server

/-! A server at work. One loop takes requests and answers them, while accepted queries and saves go on
beside it, in any order; whatever they have to say goes through one queue to a writer. Shutting down
cancels the registered queries one after the other, waits until all that runs is over, and lets
everything go; at the end of the service the queue is written out.

First what the methods of the service do to the desk. All of them are requests at the desk that let
nothing run, except the two that make a query and shut down. -/

set_option autoImplicit false

namespace SqlDesk.Server.State

variable {η : Type} {state : State η} {reply : Reply η} {method : String} {params : Json}

theorem withParams_eq_ok {α : Type} {params : Option α} {use : α → Except MethodError (Reply η)}
    (answered : withParams params use = .ok reply) : ∃ read, params = some read ∧ use read = .ok reply := by
  cases params with
  | none => cases answered
  | some read => exact ⟨read, rfl, answered⟩

def Handled (state : State η) (reply : Reply η) : Prop :=
  reply.told = [] ∧ Relation.ReflTransGen Desk.Handles state.desk reply.state.desk

theorem handled_connect [Opener η] {params : Rpc.ConnectParams}
    (answered : state.connect params = .ok reply) : state.Handled reply := by
  unfold connect at answered
  split at answered
  · cases answered
  · rename_i connection host tree opened
    cases answered
    exact ⟨rfl, .tail (.single (.elsewhere { state.desk.world with host }))
      (.connects params.owner connection)⟩

theorem handled_disconnect (state : State η) (owner : String) :
    state.Handled (state.disconnect owner) := by
  unfold disconnect
  cases disposed : state.desk.dispose owner with
  | ok desk => exact ⟨rfl, .tail (.single (.disposes disposed)) (.disconnects owner)⟩
  | error _ => exact ⟨rfl, .single (.disconnects owner)⟩

theorem handled_subset {params : Rpc.SubsetParams} (answered : state.subset params = .ok reply) :
    state.Handled reply := by
  unfold subset at answered
  split at answered <;> cases answered
  exact ⟨rfl, .refl⟩

theorem handled_cancel (state : State η) (owner : String) : state.Handled (state.cancel owner) :=
  ⟨rfl, .single (.cancels owner)⟩

theorem handled_dispose {owner : String} (answered : state.dispose owner = .ok reply) :
    state.Handled reply := by
  unfold dispose at answered
  split at answered <;> cases answered
  rename_i desk disposed
  exact ⟨rfl, .single (.disposes disposed)⟩

theorem handled_save {params : Rpc.SaveParams} (answered : state.save params = .ok reply) :
    state.Handled reply := by
  unfold save at answered
  split at answered <;> cases answered
  rename_i task desk accepted
  exact ⟨rfl, .single (.saves accepted)⟩

theorem handled_settings (state : State η) (params : Rpc.SettingsParams) :
    state.Handled (state.settings params) := by
  unfold settings
  cases params.owner with
  | some owner => exact ⟨rfl, .single (.overrides owner params.settings)⟩
  | none => exact ⟨rfl, .single (.defaults _)⟩

variable [Host η] [Opener η]

theorem dispatch_shutdown (now : Instant) (state : State η) (params : Json) :
    state.dispatch now "shutdown" params = .ok (state.shutdown now) := rfl

theorem dispatch_execute (now : Instant) (state : State η) (params : Json) :
    state.dispatch now "query/executeString" params =
      withParams (Rpc.queryRequest? params) state.execute := rfl

theorem handled_dispatch {now : Instant} (unlike : method ≠ "query/executeString")
    (other : method ≠ "shutdown") (answered : state.dispatch now method params = .ok reply) :
    state.Handled reply := by
  unfold dispatch at answered
  split at answered
  · obtain ⟨read, -, connected⟩ := withParams_eq_ok answered
    exact handled_connect connected
  · obtain ⟨read, -, disconnected⟩ := withParams_eq_ok answered
    cases disconnected
    exact state.handled_disconnect read.owner
  · exact absurd rfl unlike
  · obtain ⟨read, -, given⟩ := withParams_eq_ok answered
    exact handled_subset given
  · obtain ⟨read, -, cancelled⟩ := withParams_eq_ok answered
    cases cancelled
    exact state.handled_cancel read.owner
  · obtain ⟨read, -, disposed⟩ := withParams_eq_ok answered
    exact handled_dispose disposed
  · obtain ⟨read, -, saving⟩ := withParams_eq_ok answered
    exact handled_save saving
  · obtain ⟨read, -, saving⟩ := withParams_eq_ok answered
    exact handled_save saving
  · obtain ⟨read, -, set⟩ := withParams_eq_ok answered
    cases set
    exact state.handled_settings read
  · exact absurd rfl other
  · cases answered

end SqlDesk.Server.State

namespace SqlDesk

/-- What is said to the client, and what it is about. -/
inductive Utterance where
  /-- The answer to a request for a query that has been made. -/
  | start (request : Rpc.MessageId) (id : QueryId)
  | answer (response : Rpc.Response)
  | event (id : QueryId) (told : Event)
  | saved (owner path : String) (outcome : Except ResultSetError Unit)

namespace Utterance

def message : Utterance → Rpc.Message
  | start request _ => .response (.success request (.object []))
  | answer response => .response response
  | event _ told => .notification (.ofEvent told)
  | saved owner path outcome => Server.saveNotification owner path outcome

def starts? : Utterance → Option QueryId
  | start _ id => some id
  | answer _ | event _ _ | saved _ _ _ => none

def told? : Utterance → Option (QueryId × Event)
  | event id told => some (id, told)
  | start _ _ | answer _ | saved _ _ _ => none

theorem filterMap_told (id : QueryId) (owner : String) (happenings : List Happening) :
    (happenings.map fun happening => Utterance.event id ⟨owner, happening⟩).filterMap
      Utterance.told? = happenings.map fun happening => (id, ⟨owner, happening⟩) := by
  rw [List.filterMap_map, ← List.filterMap_eq_map]
  rfl

end Utterance

/-- What the loop that takes requests is about. -/
inductive Duty where
  | free
  /-- A query has been made, and its request is to be answered. -/
  | offering (request : Rpc.MessageId) (owner : String) (id : QueryId)
  /-- The request has been answered, and its query is to be accepted. -/
  | starting (owner : String) (id : QueryId)
  | answering (response : Rpc.Response)
  /-- Shutting down, for a request or for good. What is registered for the owners listed is still to be
  cancelled; after that everything has to come to its end. -/
  | stopping (asked : Option Rpc.MessageId) (owners : List String)
  /-- Nothing runs any more, and what has been said is written out. -/
  | closing
  | closed

namespace Duty

def offered : Duty → List (String × QueryId)
  | offering _ owner id | starting owner id => [(owner, id)]
  | free | answering _ | stopping _ _ | closing | closed => []

/-- The query whose request has been answered although it is not accepted yet. -/
def announced : Duty → List QueryId
  | starting _ id => [id]
  | free | offering _ _ _ | answering _ | stopping _ _ | closing | closed => []

/-- What remains to be done for a shutdown once nothing runs. -/
def stopped : Option Rpc.MessageId → Duty
  | some request => answering (.success request .null)
  | none => closing

end Duty

structure Hall (η : Type) where
  state : Server.State η
  duty : Duty
  /-- What has been said and not written yet, oldest first. -/
  queue : List Utterance
  written : List Utterance

namespace Hall

variable {η : Type}

def opened (world : World η) (tree : FileTree) (defaults : Settings) : Hall η :=
  ⟨⟨.empty world defaults, tree, []⟩, .free, [], []⟩

def said (hall : Hall η) : List Utterance := hall.written ++ hall.queue

def say (hall : Hall η) (utterances : List Utterance) : Hall η :=
  { hall with queue := hall.queue ++ utterances }

def withDesk (hall : Hall η) (desk : Desk η) : Hall η := { hall with state := hall.state.withDesk desk }

def withDuty (hall : Hall η) (duty : Duty) : Hall η := { hall with duty }

/-- The desk with what is offered there and what its queries have told. -/
def office (hall : Hall η) : Office η :=
  ⟨hall.state.desk, hall.duty.offered, hall.said.filterMap Utterance.told?⟩

def stop (hall : Hall η) (asked : Option Rpc.MessageId) : Hall η :=
  hall.withDuty (.stopping asked (hall.state.desk.registered.map Prod.fst))

def save (hall : Hall η) (others : List (String × SaveTask)) (owner : String) (task : SaveTask) :
    Hall η :=
  let (tree, desk, outcome) := hall.state.desk.runSave hall.state.tree task
  { hall.say [.saved owner task.request.path outcome] with state := ⟨desk, tree, others⟩ }

@[simp]
theorem said_say (hall : Hall η) (utterances : List Utterance) :
    (hall.say utterances).said = hall.said ++ utterances := (List.append_assoc ..).symm

@[simp]
theorem said_withDesk (hall : Hall η) (desk : Desk η) : (hall.withDesk desk).said = hall.said := rfl

@[simp]
theorem said_withDuty (hall : Hall η) (duty : Duty) : (hall.withDuty duty).said = hall.said := rfl

/-- A query has come to a state in a world, and has told what happened. -/
def put (hall : Hall η) (id : QueryId) (owner : String) (reached : World η × Query)
    (happenings : List Happening) : Hall η :=
  (hall.withDesk ({ hall.state.desk with world := reached.1 }.setQuery id reached.2)).say
    (happenings.map fun happening => .event id ⟨owner, happening⟩)

/-- What taking a request comes to. -/
inductive Taken (hall : Hall η) (request : Rpc.Request) : Hall η → Prop where
  | answered {state : Server.State η} (response : Rpc.Response)
      (handles : Relation.ReflTransGen Desk.Handles hall.state.desk state.desk) :
      Taken hall request { hall with state, duty := .answering response }
  | offered {asked : QueryRequest} {id : QueryId} {desk : Desk η}
      (made : hall.state.desk.create asked = .ok (id, desk)) :
      Taken hall request ((hall.withDesk desk).withDuty (.offering request.id asked.owner id))
  | stopped : Taken hall request (hall.stop (some request.id))

theorem Taken.said {hall next : Hall η} {request : Rpc.Request} (taken : hall.Taken request next) :
    next.said = hall.said := by
  cases taken <;> rfl

theorem Taken.announced {hall next : Hall η} {request : Rpc.Request}
    (taken : hall.Taken request next) : next.duty.announced = [] := by
  cases taken <;> rfl

theorem Taken.accepted {hall next : Hall η} {request : Rpc.Request}
    (taken : hall.Taken request next) (keys : (hall.state.desk.registered.map Prod.fst).Nodup) :
    next.state.desk.accepted = hall.state.desk.accepted := by
  cases taken with
  | answered response handles => exact (Desk.kept_of_handles keys handles).accepted
  | offered made =>
    obtain ⟨connection, released, -, freed, -, rfl⟩ := Desk.create_eq_ok made
    exact (Desk.kept_release keys freed).accepted
  | stopped => rfl

variable [Host η]

def advance (now : Instant) (hall : Hall η) (id : QueryId) (query : Query) : Hall η :=
  let (world, next, happenings) := query.advance now hall.state.desk.world
  hall.put id query.owner (world, next) happenings

theorem course_to {hall next : Hall η} {office : Office η} (course : hall.office.Course office)
    (desk : next.state.desk = office.desk) (offered : next.duty.offered = office.offered)
    (told : next.said.filterMap Utterance.told? = office.told) : hall.office.Course next.office := by
  have same : next.office = office := by
    unfold Hall.office
    rw [desk, offered, told]
  exact same ▸ course

theorem Taken.course {hall next : Hall η} {request : Rpc.Request} (free : hall.duty = .free)
    (taken : hall.Taken request next) : hall.office.Course next.office := by
  have nothing : hall.office.offered = [] := congrArg Duty.offered free
  cases taken with
  | stopped => exact course_to .refl rfl nothing.symm rfl
  | @offered asked id desk made =>
    have offers : hall.office.Next _ := .offers made
    rw [nothing] at offers
    exact course_to (.single offers) rfl rfl rfl
  | @answered state response handles =>
    have handled (desk : Desk η) (handles : Relation.ReflTransGen Desk.Handles hall.state.desk desk) :
        hall.office.Course { hall.office with desk } := by
      induction handles with
      | refl => exact .refl
      | tail _ last ih => exact ih.tail (.handles last)
    exact course_to (handled state.desk handles) rfl nothing.symm rfl

variable [Opener η]

def refuse (hall : Hall η) (request : Rpc.Request) (error : Server.MethodError) : Hall η :=
  hall.withDuty (.answering (.rejection request.id error.code error.message))

def engage (hall : Hall η) (request : Rpc.Request) : Hall η :=
  match Rpc.queryRequest? request.params with
  | none => hall.refuse request .invalidParams
  | some asked =>
    match hall.state.desk.create asked with
    | .error error => hall.refuse request (.desk error)
    | .ok (id, desk) => (hall.withDesk desk).withDuty (.offering request.id asked.owner id)

def take (now : Instant) (hall : Hall η) (request : Rpc.Request) : Hall η :=
  if request.method = "query/executeString" then hall.engage request
  else if request.method = "shutdown" then hall.stop (some request.id)
  else match hall.state.dispatch now request.method request.params with
    | .error error => hall.refuse request error
    | .ok reply => { hall with
      state := reply.state, duty := .answering (.success request.id reply.result) }

theorem take_of_error {now : Instant} {hall : Hall η} {request : Rpc.Request}
    {error : Server.MethodError}
    (fails : hall.state.dispatch now request.method request.params = .error error) :
    hall.take now request = hall.refuse request error := by
  unfold take
  split
  · rename_i asks
    rw [asks, Server.State.dispatch_execute] at fails
    unfold engage
    cases read : Rpc.queryRequest? request.params with
    | none =>
      rw [read] at fails
      cases fails
      rfl
    | some asked =>
      rw [read] at fails
      change hall.state.execute asked = .error error at fails
      unfold Server.State.execute at fails
      split at fails
      · rename_i made
        cases fails
        simp only [made]
      · cases fails
  · split
    · rename_i shuts
      rw [shuts, Server.State.dispatch_shutdown] at fails
      cases fails
    · rw [fails]

theorem take_of_execute {now : Instant} {hall : Hall η} {request : Rpc.Request}
    {reply : Server.Reply η} (asks : request.method = "query/executeString")
    (answered : hall.state.dispatch now request.method request.params = .ok reply) :
    ∃ asked id desk, hall.state.desk.create asked = .ok (id, desk) ∧
      reply = (hall.state.withDesk (desk.accept id)).reply (.object []) ∧
      hall.take now request =
        (hall.withDesk desk).withDuty (.offering request.id asked.owner id) := by
  rw [asks, Server.State.dispatch_execute] at answered
  obtain ⟨asked, read, executes⟩ := Server.State.withParams_eq_ok answered
  unfold Server.State.execute at executes
  split at executes
  · cases executes
  · rename_i id desk made
    cases executes
    exact ⟨asked, id, desk, made, rfl, by simp only [take, if_pos asks, engage, read, made]⟩

theorem take_of_other {now : Instant} {hall : Hall η} {request : Rpc.Request}
    {reply : Server.Reply η} (unlike : request.method ≠ "query/executeString")
    (answered : hall.state.dispatch now request.method request.params = .ok reply) :
    (reply = hall.state.shutdown now ∧ hall.take now request = hall.stop (some request.id)) ∨
      reply.told = [] ∧ hall.take now request =
        { hall with
          state := reply.state, duty := .answering (.success request.id reply.result) } := by
  unfold take
  rw [if_neg unlike]
  by_cases shuts : request.method = "shutdown"
  · rw [shuts, Server.State.dispatch_shutdown] at answered
    cases answered
    exact .inl ⟨rfl, if_pos shuts⟩
  · rw [if_neg shuts, answered]
    exact .inr ⟨(Server.State.handled_dispatch unlike shuts answered).1, rfl⟩

inductive Next (hall : Hall η) : Hall η → Prop where
  | runs (now : Instant) {id : QueryId} {query : Query} (accepted : id ∈ hall.state.desk.accepted)
      (found : hall.state.desk.queries[id]? = some query) : Next hall (hall.advance now id query)
  | saves {before after : List (String × SaveTask)} {owner : String} {task : SaveTask}
      (pending : hall.state.saves = before ++ (owner, task) :: after)
      (unclosed : hall.duty ≠ .closed) : Next hall (hall.save (before ++ after) owner task)
  | elsewhere (world : World η) (tree : FileTree) :
      Next hall { hall with state := { hall.state with desk := { hall.state.desk with world }, tree } }
  | writes {first : Utterance} {rest : List Utterance} (queued : hall.queue = first :: rest) :
      Next hall { hall with queue := rest, written := hall.written ++ [first] }
  | takes (now : Instant) (request : Rpc.Request) (free : hall.duty = .free) :
      Next hall (hall.take now request)
  | responds {request : Rpc.MessageId} {owner : String} {id : QueryId}
      (duty : hall.duty = .offering request owner id) :
      Next hall ((hall.say [.start request id]).withDuty (.starting owner id))
  | accepts {owner : String} {id : QueryId} (duty : hall.duty = .starting owner id) :
      Next hall ((hall.withDesk (hall.state.desk.accept id)).withDuty .free)
  | answers {response : Rpc.Response} (duty : hall.duty = .answering response) :
      Next hall ((hall.say [.answer response]).withDuty .free)
  | ends (free : hall.duty = .free) : Next hall (hall.stop none)
  | cancels {asked : Option Rpc.MessageId} {owner : String} {owners : List String}
      (duty : hall.duty = .stopping asked (owner :: owners)) :
      Next hall ((hall.withDesk (hall.state.desk.cancel owner).2).withDuty (.stopping asked owners))
  | releases {asked : Option Rpc.MessageId} (duty : hall.duty = .stopping asked [])
      (atEnd : ∀ id ∈ hall.state.desk.accepted, ∀ query,
        hall.state.desk.queries[id]? = some query → query.Over) :
      Next hall ((hall.withDesk hall.state.desk.releaseAll).withDuty (.stopped asked))
  | closes (duty : hall.duty = .closing) (drained : hall.queue = []) :
      Next hall (hall.withDuty .closed)

def Course : Hall η → Hall η → Prop := Relation.ReflTransGen Next

/-! What happens in the hall happens in its office. -/

theorem taken (now : Instant) (hall : Hall η) (request : Rpc.Request) :
    hall.Taken request (hall.take now request) := by
  unfold take
  split
  · unfold engage
    split
    · exact .answered _ .refl
    · split
      · exact .answered _ .refl
      · rename_i made
        exact .offered made
  · rename_i unlike
    split
    · exact .stopped
    · rename_i other
      split
      · exact .answered _ .refl
      · rename_i answered
        exact .answered _ (Server.State.handled_dispatch unlike other answered).2

theorem Next.course {hall next : Hall η} (happened : hall.Next next) :
    hall.office.Course next.office := by
  -- What happens at the hall is one thing at the office or none, and tells the same.
  cases happened with
  | @runs now id query accepted found =>
    refine course_to (.single (.runs now accepted found)) rfl rfl ?_
    unfold advance Office.advance put
    simp only [said_say, said_withDesk, List.filterMap_append, Utterance.filterMap_told]
    rfl
  | @saves before after owner task pending unclosed =>
    refine course_to (.single (.handles (.saved hall.state.tree task))) rfl rfl ?_
    exact (congrArg _ (hall.said_say _)).trans (by simp [Utterance.told?, office])
  | elsewhere world tree => exact .single (.handles (.elsewhere world))
  | @writes first rest queued =>
    refine course_to .refl rfl rfl (congrArg _ ?_)
    simp [said, queued]
  | takes now request free => exact (hall.taken now request).course free
  | responds duty =>
    refine course_to .refl rfl ?_ ?_
    · exact (congrArg Duty.offered duty).symm
    · simp [Utterance.told?, office]
  | @accepts owner id duty =>
    have offered : hall.office.offered = [(owner, id)] := congrArg Duty.offered duty
    have waits : (owner, id) ∈ hall.office.offered := by simp [offered]
    refine course_to (.single (.accepts waits)) rfl ?_ rfl
    simp [Office.accept, Office.decided, offered, withDuty, Duty.offered]
  | answers duty =>
    refine course_to .refl rfl ?_ ?_
    · exact (congrArg Duty.offered duty).symm
    · simp [Utterance.told?, office]
  | ends free => exact course_to .refl rfl (congrArg Duty.offered free).symm rfl
  | @cancels _ owner _ duty =>
    exact course_to (.single (.handles (.cancels owner))) rfl (congrArg Duty.offered duty).symm rfl
  | @releases asked duty atEnd =>
    refine course_to (.single (.handles .releases)) rfl ?_ rfl
    have nothing : hall.office.offered = [] := congrArg Duty.offered duty
    refine Eq.trans ?_ nothing.symm
    cases asked <;> rfl
  | closes duty drained => exact course_to .refl rfl (congrArg Duty.offered duty).symm rfl

theorem Course.course {hall later : Hall η} (course : hall.Course later) :
    hall.office.Course later.office := by
  induction course with
  | refl => exact .refl
  | tail _ happened ih => exact ih.trans happened.course

end Hall

end SqlDesk
