import SqlDesk.Proofs.Server.Answers
import SqlDesk.Proofs.Server.Turns

/-! The service, which does one thing after the other, as one course of a hall. Taking a message is
answered, and what has been accepted runs as far as it gets; at the end everything is cancelled, runs
to its end and is let go. What the service writes is what is said in the hall. -/

set_option autoImplicit false

namespace SqlDesk.Hall

variable {η : Type}

theorem notifications_append (front back : List Event) :
    Server.notifications (front ++ back) = Server.notifications front ++ Server.notifications back :=
  List.map_append

section

variable [Host η]

theorem settled_eq (now : Instant) (hall : Hall η) (ids : List QueryId) (told : List Event) :
    let settled := ids.foldl (fun (desk, told) id =>
      let (desk, events) := desk.runQuery now id
      (desk, told ++ events)) (hall.state.desk, told)
    ∃ more, hall.settled now ids = (hall.withDesk settled.1).say more ∧
      Server.notifications settled.2 =
        Server.notifications told ++ more.map Utterance.message := by
  induction ids generalizing hall told with
  | nil => exact ⟨[], (say_nil _).symm, (List.append_nil _).symm⟩
  | cons id rest ih =>
    obtain ⟨more, same, messages⟩ := ih (hall.ran now id) (told ++ (hall.state.desk.runQuery now id).2)
    refine ⟨(hall.state.desk.runQuery now id).2.map (.event id) ++ more, ?_, ?_⟩
    · refine same.trans ?_
      simp only [ran, say, withDesk, Server.State.withDesk, List.append_assoc]
      rfl
    · refine messages.trans ?_
      rw [notifications_append, List.append_assoc, List.map_append, List.map_map]
      rfl

end

/-- What has been said in between comes to these messages. -/
structure Speaks [Host η] [Opener η] (before after : Hall η) (messages : List Rpc.Message) : Prop where
  course : before.Course after
  said : after.said.map Utterance.message = before.said.map Utterance.message ++ messages

structure Stands (hall : Hall η) (server : Server η) : Prop where
  state : hall.state = server.state
  drained : hall.queue = []
  duty : hall.duty = if server.ending.isSome then .closed else .free

theorem stands_start (world : World η) (tree : FileTree) (defaults : Settings) :
    (opened world tree defaults).Stands (Server.start world tree defaults) := ⟨rfl, rfl, rfl⟩

variable [Host η] [Opener η] {hall : Hall η}

theorem Speaks.refl (hall : Hall η) : hall.Speaks hall [] := ⟨.refl, (List.append_nil _).symm⟩

theorem Speaks.trans {first second third : Hall η} {told more : List Rpc.Message}
    (left : first.Speaks second told) (right : second.Speaks third more) :
    first.Speaks third (told ++ more) where
  course := left.course.trans right.course
  said := by rw [right.said, left.said, List.append_assoc]

theorem Next.silent {next : Hall η} (happened : hall.Next next) (said : next.said = hall.said) :
    hall.Speaks next [] := ⟨.single happened, by rw [said, List.append_nil]⟩

theorem speaks_settled (now : Instant) (sound : hall.Sound) :
    hall.Speaks (hall.settled now hall.state.desk.accepted)
        (Server.notifications (hall.state.desk.settle now).2) ∧
      (hall.settled now hall.state.desk.accepted).state =
        hall.state.withDesk (hall.state.desk.settle now).1 := by
  obtain ⟨more, same, messages⟩ := settled_eq now hall hall.state.desk.accepted []
  have beside := beside_settled now sound fun id member => member
  refine ⟨⟨beside.course, ?_⟩, ?_⟩
  · rw [same, said_say, said_withDesk, List.map_append]
    exact congrArg _ messages.symm
  · rw [same]
    rfl

theorem speaks_saves (hall : Hall η) (state : Server.State η) (free : hall.duty = .free)
    (desk : state.desk = hall.state.desk) (tree : state.tree = hall.state.tree) :
    ∃ later, hall.Speaks later (Server.writeSaves state hall.state.saves).1 ∧
      later.state = (Server.writeSaves state hall.state.saves).2 ∧ later.duty = .free := by
  generalize pending : hall.state.saves = saves
  -- Save by save: the hall writes the one in front as the server does.
  induction saves generalizing hall state with
  | nil =>
    refine ⟨hall, .refl hall, ?_, free⟩
    change hall.state = ⟨state.desk, state.tree, []⟩
    rw [desk, tree, ← pending]
  | cons save rest ih =>
    obtain ⟨owner, task⟩ := save
    have unclosed : hall.duty ≠ .closed := by
      rw [free]
      nofun
    have written : hall.Next (hall.save ([] ++ rest) owner task) := .saves pending unclosed
    obtain ⟨later, speaks, same, still⟩ := ih (hall.save ([] ++ rest) owner task)
      { state with
        desk := (state.desk.runSave state.tree task).2.1
        tree := (state.desk.runSave state.tree task).1 }
      free (by rw [desk, tree]; rfl) (by rw [desk, tree]; rfl) rfl
    have first : hall.Speaks (hall.save ([] ++ rest) owner task)
        [Server.saveNotification owner task.request.path (state.desk.runSave state.tree task).2.2] := by
      refine ⟨.single written, ?_⟩
      refine (congrArg _ (hall.said_say _)).trans ?_
      rw [List.map_append, desk, tree]
      rfl
    exact ⟨later, first.trans speaks, same, still⟩

/-- What has been accepted runs as far as it gets, and then saves are written. -/
theorem speaks_settle {server : Server η} (now : Instant) (sound : hall.Sound)
    (free : hall.duty = .free) (state : server.state = hall.state) :
    ∃ later, hall.Speaks later (server.settle now).1 ∧ later.state = (server.settle now).2.state ∧
      later.duty = .free := by
  obtain ⟨speaks, same⟩ := speaks_settled now sound
  have beside := beside_settled now sound fun id member => member
  unfold Server.settle
  rw [state]
  generalize hall.settled now hall.state.desk.accepted = settled at speaks same beside
  obtain ⟨later, saves, ends, still⟩ :=
    speaks_saves settled settled.state (beside.duty.trans free) rfl rfl
  rw [same] at saves ends
  exact ⟨later, speaks.trans saves, ends, still⟩

/-- What is registered is cancelled owner by owner. Then all of it comes to its end and is let go. -/
theorem speaks_stopping (now : Instant) (sound : hall.Sound) {asked : Option Rpc.MessageId}
    {owners : List String} (duty : hall.duty = .stopping asked owners) :
    let cancelled := owners.foldl (fun desk owner => (desk.cancel owner).2) hall.state.desk
    ∃ later, hall.Speaks later (Server.notifications (cancelled.settle now).2) ∧
      later.state = hall.state.withDesk (cancelled.settle now).1.releaseAll ∧
      later.duty = .stopped asked := by
  induction owners generalizing hall with
  | nil =>
    -- All that may run has left the register, which means that it was stopped, or is cancelled by now.
    obtain ⟨speaks, same⟩ := speaks_settled now sound
    have beside := beside_settled now sound fun id member => member
    have atEnd := over_settled now sound hall.state.desk.accepted fun id accepted => by
      obtain ⟨query, found⟩ := sound.office.accepted id accepted
      refine ⟨accepted, query, found, ?_⟩
      rcases sound.office.live id query found (.inl accepted) with registered | stopped
      · exact sound.shut.stopping asked [] duty _ id query registered (by simp) found
      · exact stopped
    generalize hall.settled now hall.state.desk.accepted = settled at speaks same beside atEnd
    have ends (id : QueryId) (accepted : id ∈ settled.state.desk.accepted) (query : Query)
        (found : settled.state.desk.queries[id]? = some query) : query.Over := by
      obtain ⟨final, there, ended⟩ := atEnd id (beside.accepted ▸ accepted)
      cases found.symm.trans there
      exact ended
    have released : settled.Next _ := .releases (beside.duty.trans duty) ends
    refine ⟨_, List.append_nil _ ▸ speaks.trans (released.silent rfl), ?_, rfl⟩
    change settled.state.withDesk settled.state.desk.releaseAll = _
    rw [same]
    rfl
  | cons owner rest ih =>
    have cancels : hall.Next _ := .cancels duty
    obtain ⟨later, speaks, same, stopped⟩ := ih (cancels.sound sound) rfl
    exact ⟨later, (cancels.silent rfl).trans speaks, same, stopped⟩

theorem speaks_shutdown (now : Instant) (sound : hall.Sound) {asked : Option Rpc.MessageId}
    (stops : hall.Next (hall.stop asked)) :
    ∃ later, hall.Speaks later (Server.notifications (hall.state.shutdown now).told) ∧
      later.state = (hall.state.shutdown now).state ∧ later.duty = .stopped asked := by
  obtain ⟨later, speaks, same, stopped⟩ := speaks_stopping now (stops.sound sound)
    (show (hall.stop asked).duty = _ from rfl)
  have cancelled : (hall.state.desk.registered.map Prod.fst).foldl
      (fun desk owner => (desk.cancel owner).2) (hall.stop asked).state.desk =
        hall.state.desk.cancelAll := List.foldl_map
  rw [cancelled] at speaks same
  exact ⟨later, (stops.silent rfl).trans speaks, same, stopped⟩

theorem speaks_respond {server : Server η} (now : Instant) (sound : hall.Sound)
    (free : hall.duty = .free) (state : server.state = hall.state) (request : Rpc.Request) :
    ∃ later, hall.Speaks later (server.respond now request).1 ∧
      later.state = (server.respond now request).2.state ∧ later.duty = .free := by
  have takes : hall.Next (hall.take now request) := .takes now request free
  -- The answer, once the loop knows it.
  have answers {taken : Hall η} {response : Rpc.Response} (duty : taken.duty = .answering response) :
      ∃ later, taken.Speaks later [.response response] ∧ later.state = taken.state ∧
        later.duty = .free := by
    have step : taken.Next _ := .answers duty
    refine ⟨_, ⟨.single step, ?_⟩, rfl, rfl⟩
    rw [said_withDuty, said_say, List.map_append]
    rfl
  unfold Server.respond
  rw [state]
  cases dispatched : hall.state.dispatch now request.method request.params with
  | error error =>
    rw [take_of_error dispatched] at takes
    obtain ⟨later, speaks, same, ready⟩ := answers (show (hall.refuse request error).duty = _ from rfl)
    exact ⟨later, (takes.silent rfl).trans speaks, same.trans state.symm, ready⟩
  | ok reply =>
    dsimp only
    by_cases asks : request.method = "query/executeString"
    · obtain ⟨asked, id, desk, -, rfl, offers⟩ := take_of_execute asks dispatched
      rw [offers] at takes
      have responds : ((hall.withDesk desk).withDuty (.offering request.id asked.owner id)).Next _ :=
        .responds rfl
      have said := (hall.withDesk desk).said_say [.start request.id id]
      have speaks : Speaks _ _ [.response (.success request.id (.object []))] :=
        ⟨.single responds, (congrArg _ said).trans List.map_append⟩
      have accepts : (((hall.withDesk desk).say [.start request.id id]).withDuty
        (.starting asked.owner id)).Next _ := .accepts rfl
      exact ⟨_, (takes.silent rfl).trans (speaks.trans (accepts.silent rfl)), rfl, rfl⟩
    · rcases take_of_other asks dispatched with ⟨rfl, stops⟩ | ⟨told, handled⟩
      · rw [stops] at takes
        obtain ⟨stopped, told, same, duty⟩ := speaks_shutdown now sound takes
        obtain ⟨later, speaks, still, ready⟩ := answers duty
        exact ⟨later, told.trans speaks, still.trans same, ready⟩
      · rw [handled] at takes
        rw [told]
        obtain ⟨later, speaks, same, ready⟩ := answers
          (show ({ hall with
            state := reply.state, duty := .answering (.success request.id reply.result) } :
              Hall η).duty = _ from rfl)
        exact ⟨later, (takes.silent rfl).trans speaks, same, ready⟩

theorem course_drained (hall : Hall η) :
    hall.Course { hall with queue := [], written := hall.said } := by
  obtain ⟨state, duty, queue, written⟩ := hall
  induction queue generalizing written with
  | nil =>
    unfold said
    rw [List.append_nil]
    exact .refl
  | cons first rest ih =>
    have writes : Next (⟨state, duty, first :: rest, written⟩ : Hall η) _ := .writes rfl
    have later := ih (written ++ [first])
    simp only [said, List.append_assoc, List.singleton_append] at later
    exact .head writes later

/-! Turns of the service. -/

theorem Speaks.stands {server : Server η} {later : Hall η} {messages : List Rpc.Message}
    (speaks : hall.Speaks later messages) (state : later.state = server.state)
    (free : later.duty = .free) (going : server.ending = none) :
    ∃ next, hall.Speaks next messages ∧ next.Stands server := by
  have written : ({ later with queue := [], written := later.said } : Hall η).said = later.said :=
    List.append_nil _
  refine ⟨_, ⟨speaks.course.trans later.course_drained, ?_⟩, state, rfl, ?_⟩
  · rw [written, speaks.said]
  · rw [going]
    exact free

theorem speaks_stop {server : Server η} (now : Instant) (sound : hall.Sound)
    (stands : hall.Stands server) (going : server.ending = none) (ending : Server.Ending) :
    ∃ next, hall.Speaks next (server.stop now ending).1 ∧ next.Stands (server.stop now ending).2 := by
  have free := stands.duty
  rw [going] at free
  have ends : hall.Next (hall.stop none) := .ends free
  obtain ⟨stopped, speaks, same, closing⟩ := speaks_shutdown now sound ends
  have drained := stopped.course_drained
  have closes : Next { stopped with queue := [], written := stopped.said } _ := .closes closing rfl
  rw [stands.state] at speaks same
  refine ⟨_, ⟨speaks.course.trans (drained.tail closes), ?_⟩, same, rfl, rfl⟩
  have written : ({ stopped with queue := [], written := stopped.said } : Hall η).said =
    stopped.said := List.append_nil _
  rw [said_withDuty, written, speaks.said]
  rfl

theorem speaks_take {server : Server η} (now : Instant) (sound : hall.Sound)
    (stands : hall.Stands server) (received : Rpc.Received) :
    ∃ next, hall.Speaks next (server.take now received).1 ∧
      next.Stands (server.take now received).2 := by
  have silent : ∃ next, hall.Speaks next [] ∧ next.Stands server := ⟨hall, .refl hall, stands⟩
  cases ending : server.ending with
  | some _ =>
    rw [Server.take_of_ended (by simp [ending])]
    exact silent
  | none =>
    have open_ : ¬ server.ending.isSome = true := by simp [ending]
    unfold Server.take
    rw [if_neg open_]
    have free := stands.duty
    rw [ending] at free
    cases received with
    | malformed => exact speaks_stop now sound stands ending .closed
    | message message =>
      cases message with
      | request request =>
        obtain ⟨answered, speaks, same, ready⟩ :=
          speaks_respond now sound free stands.state.symm request
        obtain ⟨settled, tells, still, idle⟩ :=
          speaks_settle now (speaks.course.sound sound) ready same.symm
        exact (speaks.trans tells).stands still idle
          ((Server.same_respond now server request).2.trans ending)
      | notification notification =>
        dsimp only
        split
        · exact speaks_stop now sound stands ending .closed
        · exact silent
      | response => exact silent

theorem speaks_takeAll {server : Server η} (now : Instant) (sound : hall.Sound)
    (stands : hall.Stands server) (received : List Rpc.Received) :
    ∃ next, hall.Speaks next (Server.takeAll now server received).1 ∧
      next.Stands (Server.takeAll now server received).2 := by
  induction received generalizing hall server with
  | nil => exact ⟨hall, .refl hall, stands⟩
  | cons first rest ih =>
    obtain ⟨middle, speaks, stands⟩ := speaks_take now sound stands first
    obtain ⟨next, more, last⟩ := ih (speaks.course.sound sound) stands
    exact ⟨next, speaks.trans more, last⟩

/-- Whatever a service writes until it has ended is written in a hall that has closed. -/
theorem written_by_service (world : World η) (tree : FileTree) (defaults : Settings)
    (received : List Rpc.Received) (now : Instant) :
    let taken := Server.takeAll now (Server.start world tree defaults) received
    ∃ final, (opened world tree defaults).Course final ∧ final.duty = .closed ∧
      final.written.map Utterance.message = taken.1 ++ (taken.2.finish now).1 := by
  intro taken
  have sound := sound_opened world tree defaults
  obtain ⟨between, speaks, stands⟩ := speaks_takeAll now sound (stands_start world tree defaults) received
  have finished : ∃ final, between.Speaks final (taken.2.finish now).1 ∧
      final.Stands (taken.2.finish now).2 ∧ final.duty = .closed := by
    have duty := stands.duty
    unfold Server.finish
    cases ending : taken.2.ending with
    | some _ =>
      rw [if_pos Option.isSome_some]
      rw [ending] at duty
      exact ⟨between, .refl between, stands, duty⟩
    | none =>
      obtain ⟨final, tells, last⟩ := speaks_stop now (speaks.course.sound sound) stands ending
        (if taken.2.buffer.isEmpty then .closed else .unfinished)
      exact ⟨final, tells, last, last.duty⟩
  obtain ⟨final, tells, last, closed⟩ := finished
  have whole := speaks.trans tells
  refine ⟨final, whole.course, closed, ?_⟩
  have written := whole.said
  rw [said, last.drained, List.append_nil] at written
  exact written

end SqlDesk.Hall
