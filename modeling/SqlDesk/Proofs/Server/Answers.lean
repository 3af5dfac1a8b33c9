import SqlDesk.Proofs.Rpc.Frames
import SqlDesk.Server
import SqlDesk.Sql.Connections

/-! What the service answers. Whatever a method does, its request gets one response, with its own id,
and nothing else that the service writes is a response. So the responses that have been written tell
which requests have been taken. The input of a session comes in pieces, with anything going on in between;
the responses among all that is written are those to the requests of the input, in order, up to the
message that ends the service. -/

set_option autoImplicit false

namespace SqlDesk

def Rpc.Message.answers? : Rpc.Message → Option Rpc.MessageId
  | .response message => some message.id
  | .request _ | .notification _ => none

namespace Rpc.Received

def asks? : Received → Option MessageId
  | .message (.request request) => some request.id
  | .message (.notification _) | .message (.response _) | .malformed => none

/-- The service goes on after what it has received. -/
def goesOn : Received → Bool
  | .message (.notification notification) => notification.method ≠ "exit"
  | .message (.request _) | .message (.response _) => true
  | .malformed => false

end Rpc.Received

namespace Server

open Rpc (Message Received MessageId)

def answered (told : List Message) : List MessageId := told.filterMap Message.answers?

def asked (received : List Received) : List MessageId :=
  (received.takeWhile Received.goesOn).filterMap Received.asks?

theorem answered_append (first second : List Message) :
    answered (first ++ second) = answered first ++ answered second := List.filterMap_append

theorem asked_append (first second : List Received) :
    asked (first ++ second) =
      asked first ++ if first.all Received.goesOn then asked second else [] := by
  induction first with
  | nil => rfl
  | cons received rest ih =>
    cases goesOn : received.goesOn with
    | true =>
      have front (later : List Received) :
          asked (received :: later) = [received].filterMap Received.asks? ++ asked later := by
        rw [asked, List.takeWhile_cons_of_pos goesOn]
        exact List.filterMap_append (l := [received])
      rw [List.cons_append, front, front, ih, List.append_assoc, List.all_cons, goesOn, Bool.true_and]
    | false => simp [asked, goesOn]

variable {η : Type}

theorem answered_notifications (events : List Event) : answered (notifications events) = [] := by
  induction events with
  | nil => rfl
  | cons event rest ih => exact ih

theorem answered_writeSaves (state : State η) (saves : List (String × SaveTask)) :
    answered (writeSaves state saves).1 = [] := by
  induction saves generalizing state with
  | nil => rfl
  | cons save rest ih => exact ih _

variable [Host η]

theorem answered_settle (now : Instant) (server : Server η) : answered (server.settle now).1 = [] := by
  unfold settle
  dsimp only
  rw [answered_append, answered_notifications, answered_writeSaves, List.append_nil]

theorem answered_stop (now : Instant) (server : Server η) (ending : Ending) :
    answered (server.stop now ending).1 = [] := answered_notifications _

/-- What taking messages comes to: a response for every request, in order, up to the message that ends
the service. -/
structure Took (server : Server η) (received : List Received) (turn : Turn η) : Prop where
  answered : answered turn.1 = asked received
  buffer : turn.2.buffer = server.buffer
  ending : turn.2.ending = none ↔ received.all Received.goesOn = true

variable {server : Server η}

theorem took_stop (now : Instant) (server : Server η) {received : Received} (ending : Ending)
    (last : received.goesOn = false) : Took server [received] (server.stop now ending) where
  answered := by rw [answered_stop, asked, List.takeWhile_cons_of_neg (by simp [last])]; rfl
  buffer := rfl
  ending := by simp [stop, last]

variable [Opener η]

theorem answered_respond (now : Instant) (server : Server η) (request : Rpc.Request) :
    answered (server.respond now request).1 = [request.id] := by
  unfold respond
  split
  · rfl
  · dsimp only
    rw [answered_append, answered_notifications]
    rfl

theorem same_respond (now : Instant) (server : Server η) (request : Rpc.Request) :
    (server.respond now request).2.buffer = server.buffer ∧
      (server.respond now request).2.ending = server.ending := by
  unfold respond
  split <;> exact ⟨rfl, rfl⟩

theorem took_take (going : server.ending = none) (now : Instant) (received : Received) :
    Took server [received] (server.take now received) := by
  have open_ : ¬ server.ending.isSome = true := by simp [going]
  unfold take
  rw [if_neg open_]
  cases received with
  | malformed => exact took_stop now server .closed rfl
  | message message =>
    cases message with
    | request request =>
      -- What runs on after the answer tells nothing but events and ends of saves.
      obtain ⟨buffer, ending⟩ := same_respond now server request
      constructor
      · dsimp only
        rw [answered_append, answered_respond, answered_settle]
        rfl
      · exact buffer
      · exact iff_of_true (ending.trans going) rfl
    | notification notification =>
      dsimp only
      split
      · rename_i exit
        exact took_stop now server .closed (by simp [Received.goesOn, exit])
      · rename_i other
        have goesOn : Received.goesOn (.message (.notification notification)) = true := by
          simp [Received.goesOn, other]
        constructor
        · rw [asked, List.takeWhile_cons_of_pos goesOn]
          rfl
        · rfl
        · simp [going, goesOn]
    | response response => exact ⟨rfl, rfl, iff_of_true going rfl⟩

theorem take_of_ended (ended : server.ending.isSome = true) (now : Instant) (received : Received) :
    server.take now received = ([], server) := if_pos ended

theorem takeAll_of_ended (ended : server.ending.isSome = true) (now : Instant)
    (received : List Received) : takeAll now server received = ([], server) := by
  induction received with
  | nil => rfl
  | cons first rest ih =>
    rw [takeAll, take_of_ended ended]
    dsimp only
    rw [ih]
    rfl

theorem took_takeAll (going : server.ending = none) (now : Instant) (received : List Received) :
    Took server received (takeAll now server received) := by
  induction received generalizing server with
  | nil => exact ⟨rfl, rfl, iff_of_true going rfl⟩
  | cons first rest ih =>
    -- The first message decides whether the others are taken at all.
    have took := took_take going now first
    have whole : asked (first :: rest) =
        asked [first] ++ if [first].all Received.goesOn then asked rest else [] :=
      asked_append [first] rest
    have each : (first :: rest).all Received.goesOn =
        ([first].all Received.goesOn && rest.all Received.goesOn) := by simp
    rw [takeAll]
    dsimp only
    cases ending : (server.take now first).2.ending with
    | none =>
      have goesOn := took.ending.1 ending
      obtain ⟨answered, buffer, ends⟩ := ih ending
      constructor
      · rw [answered_append, took.answered, answered, whole, if_pos goesOn]
      · exact buffer.trans took.buffer
      · rw [ends, each, goesOn, Bool.true_and]
    | some reason =>
      have stops : ¬ [first].all Received.goesOn = true := by
        intro goesOn
        rw [took.ending.2 goesOn] at ending
        cases ending
      rw [takeAll_of_ended (by rw [ending]; rfl)]
      constructor
      · rw [List.append_nil, took.answered, whole, if_neg stops, List.append_nil]
      · exact took.buffer
      · simp only [ending, each, Bool.and_eq_true, stops, false_and, reduceCtorEq]

theorem receive_of_ended (ended : server.ending.isSome = true) (now : Instant) (bytes : Bytes) :
    server.receive now bytes = ([], server) := if_pos ended

def goesOnAfter (drained : Rpc.Drained) : Bool :=
  drained.received.all Received.goesOn && drained.failure.isNone

theorem receive_answers (going : server.ending = none) (now : Instant) (bytes : Bytes) :
    let drained := Rpc.drain Rpc.messageLimit (server.buffer ++ bytes)
    let turn := server.receive now bytes
    answered turn.1 = asked drained.received ∧ turn.2.buffer = drained.left ∧
      (turn.2.ending = none ↔ goesOnAfter drained = true) := by
  intro drained turn
  have open_ : ¬ server.ending.isSome = true := by simp [going]
  have begins : ({ server with buffer := drained.left } : Server η).ending = none := going
  obtain ⟨answers, buffer, ending⟩ := took_takeAll begins now drained.received
  -- The service ends with a message, or else with the failure of the stream.
  have result : turn = server.receive now bytes := rfl
  unfold receive at result
  rw [if_neg open_] at result
  dsimp only at result
  split at result
  · rename_i error ends fails
    rw [result]
    refine ⟨?_, buffer, ?_⟩
    · rw [answered_append, answers, answered_stop, List.append_nil]
    · simp [stop, goesOnAfter, drained, fails]
  · rename_i others
    rw [result]
    refine ⟨answers, buffer, ending.trans ?_⟩
    cases fails : drained.failure with
    | none => simp [goesOnAfter, fails]
    | some error =>
      have ended : ¬ drained.received.all Received.goesOn = true := fun goesOn =>
        others error (ending.2 goesOn) fails
      simp [goesOnAfter, fails, ended]

end Server

end SqlDesk

/-! Sessions. -/

namespace SqlDesk.Server

open Rpc (Message Received)

variable {η : Type} [Host η] {server : Server η}

theorem answered_finish (now : Instant) (server : Server η) : answered (server.finish now).1 = [] := by
  unfold finish
  split
  · rfl
  · exact answered_stop ..

variable [Opener η]

/-- Bytes that come in, and the state in which they find the service: what has been accepted runs in
between, and the files around it may have changed. -/
structure Arrival (η : Type) where
  state : State η
  now : Instant
  bytes : Bytes

def serve (server : Server η) : List (Arrival η) → Turn η
  | [] => ([], server)
  | arrival :: rest =>
    let (told, server) := { server with state := arrival.state }.receive arrival.now arrival.bytes
    let (more, server) := server.serve rest
    (told ++ more, server)

def session (server : Server η) (arrivals : List (Arrival η)) (now : Instant) : List Message :=
  let (told, server) := server.serve arrivals
  told ++ (server.finish now).1

theorem serve_of_ended (ended : server.ending.isSome = true) (arrivals : List (Arrival η)) :
    (server.serve arrivals).1 = [] := by
  induction arrivals generalizing server with
  | nil => rfl
  | cons arrival rest ih =>
    have found : ({ server with state := arrival.state } : Server η).ending.isSome = true := ended
    rw [serve, receive_of_ended found]
    exact ih found

theorem asked_feed_cons (limit : Nat) (left piece : Bytes) (rest : List Bytes) :
    asked (Rpc.feed limit left (piece :: rest)).received =
      asked (Rpc.drain limit (left ++ piece)).received ++
        if goesOnAfter (Rpc.drain limit (left ++ piece)) then
          asked (Rpc.feed limit (Rpc.drain limit (left ++ piece)).left rest).received
        else [] := by
  rw [Rpc.feed]
  cases fails : (Rpc.drain limit (left ++ piece)).failure with
  | some error => simp [goesOnAfter, fails]
  | none =>
    have sound : goesOnAfter (Rpc.drain limit (left ++ piece)) =
        (Rpc.drain limit (left ++ piece)).received.all Received.goesOn := by
      simp [goesOnAfter, fails]
    rw [sound]
    exact asked_append _ _

theorem answered_serve (going : server.ending = none) (arrivals : List (Arrival η)) :
    answered (server.serve arrivals).1 =
      asked (Rpc.feed Rpc.messageLimit server.buffer (arrivals.map Arrival.bytes)).received := by
  induction arrivals generalizing server with
  | nil => rfl
  | cons arrival rest ih =>
    -- Nothing of the state matters, only what is left in the buffer and that the service goes on.
    have found : ({ server with state := arrival.state } : Server η).ending = none := going
    obtain ⟨answers, buffer, ending⟩ := receive_answers found arrival.now arrival.bytes
    rw [serve, List.map_cons, asked_feed_cons]
    dsimp only
    rw [answered_append, answers]
    congr 1
    split
    · rename_i goesOn
      rw [ih (ending.2 goesOn), buffer]
    · rename_i stops
      rw [serve_of_ended (Option.isSome_iff_ne_none.2 fun goesOn => stops (ending.1 goesOn))]
      rfl

/-- The requests that are answered are those in front of the message that ends the service, each of
them once and in order. -/
theorem requests_answered_in_order (world : World η) (tree : FileTree) (defaults : Settings)
    (arrivals : List (Arrival η)) (now : Instant) :
    answered ((start world tree defaults).session arrivals now) =
      asked (Rpc.feed Rpc.messageLimit [] (arrivals.map Arrival.bytes)).received := by
  rw [session]
  dsimp only
  rw [answered_append, answered_serve rfl, answered_finish, List.append_nil]
  rfl

def brokenBodies : List Bytes :=
  [Bytes.ofString "\x7bbad",
    Bytes.ofString "\x7b\"jsonrpc\":\"2.0\",\"id\":\"a\",\"method\":\"shutdown\"\x7d"]

def emptyServer : Server Sql.Databases := start ⟨.none, .memory⟩ ⟨[], [], []⟩ .standard

/-- A malformed frame keeps the request behind it from being answered. -/
theorem broken_input_unanswered :
    let input := brokenBodies.flatMap Rpc.Frame.write
    (Rpc.feed Rpc.messageLimit [] [input]).received =
        [.malformed, .message (.request (.of (.text "a") "shutdown" .null))] ∧
      answered (emptyServer.session [⟨emptyServer.state, ⟨0, 0⟩, input⟩] ⟨0, 0⟩) = [] := by
  intro input
  have word : Rpc.messageLimit < Text.wordBound 64 := by decide
  have fit : ∀ body ∈ brokenBodies, body.length ≤ Rpc.messageLimit := by decide
  have contents : brokenBodies.map Received.ofBody =
      [.malformed, .message (.request (.of (.text "a") "shutdown" .null))] := by cbv
  have cut : [input].flatten = Rpc.stream (brokenBodies.map Rpc.headed) := by
    rw [Rpc.stream_headed, List.flatten_cons, List.flatten_nil, List.append_nil]
  have taken := Rpc.feed_frames (Rpc.heads_of_mem_headed word fit) (Rpc.short_of_mem_headed word fit) cut
  rw [Rpc.received_headed, contents] at taken
  refine ⟨by rw [taken], ?_⟩
  have going : emptyServer.ending = none := rfl
  have answers := answered_serve going [⟨emptyServer.state, ⟨0, 0⟩, input⟩]
  have buffer : emptyServer.buffer = [] := rfl
  rw [buffer, List.map_cons, List.map_nil, taken] at answers
  rw [session]
  dsimp only
  rw [answered_append, answers, answered_finish]
  rfl

end SqlDesk.Server
