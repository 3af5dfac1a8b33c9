import SqlDesk.Rpc.Stream
import SqlDesk.Server.Methods

/-! The service on a pair of byte streams. Messages are taken from the input in order; every request
gets one response, and whatever has been set going by it comes after that. The service ends with the
`exit` notification, with a body that is no message, with a stream that cannot be cut into frames, or
with its input; then everything that still runs is cancelled and let go. -/

set_option autoImplicit false

namespace SqlDesk

inductive Server.Ending where
  | closed
  | failed (error : Rpc.FrameError)
  | unfinished
  deriving DecidableEq

structure Server (η : Type) where
  state : Server.State η
  buffer : Bytes
  ending : Option Server.Ending

namespace Server

def Ending.error? : Ending → Option String
  | closed => none
  | failed error => some s!"protocol error: {error.message}"
  | unfinished => some "protocol error: I/O error: bytes remaining on stream"

variable {η : Type}

def start (world : World η) (tree : FileTree) (defaults : Settings) : Server η :=
  ⟨⟨.empty world defaults, tree, []⟩, [], none⟩

abbrev Turn (η : Type) := List Rpc.Message × Server η

def notifications (events : List Event) : List Rpc.Message :=
  events.map fun event => .notification (.ofEvent event)

def saveNotification (owner path : String) (outcome : Except ResultSetError Unit) : Rpc.Message :=
  let reason := match outcome with
    | .ok () => none
    | .error error => some (Json.string error.message)
  .notification (.of "query/saveComplete"
    (.ofPresent [("ownerUri", some (.string owner)), ("filePath", some (.string path)),
      ("message", reason)]))

def writeSaves (state : State η) : List (String × SaveTask) → List Rpc.Message × State η
  | [] => ([], { state with saves := [] })
  | (owner, task) :: rest =>
    let (tree, desk, outcome) := state.desk.runSave state.tree task
    let (told, state) := writeSaves { state with desk, tree } rest
    (saveNotification owner task.request.path outcome :: told, state)

variable [Host η]

/-- Lets everything that has been accepted run as far as it gets. -/
def settle (now : Instant) (server : Server η) : Turn η :=
  let (desk, events) := server.state.desk.settle now
  let state := server.state.withDesk desk
  let (told, state) := writeSaves state state.saves
  (notifications events ++ told, { server with state })

def stop (now : Instant) (server : Server η) (ending : Ending) : Turn η :=
  let reply := server.state.shutdown now
  (notifications reply.told, { server with state := reply.state, ending := some ending })

variable [Opener η]

def respond (now : Instant) (server : Server η) (request : Rpc.Request) : Turn η :=
  match server.state.dispatch now request.method request.params with
  | .error error => ([.response (.rejection request.id error.code error.message)], server)
  | .ok reply =>
    (notifications reply.told ++ [.response (.success request.id reply.result)],
      { server with state := reply.state })

def take (now : Instant) (server : Server η) (received : Rpc.Received) : Turn η :=
  if server.ending.isSome then ([], server)
  else match received with
    | .malformed => server.stop now .closed
    | .message (.request request) =>
      let (answer, server) := server.respond now request
      let (told, server) := server.settle now
      (answer ++ told, server)
    | .message (.notification notification) =>
      if notification.method = "exit" then server.stop now .closed else ([], server)
    | .message (.response _) => ([], server)

def takeAll (now : Instant) (server : Server η) : List Rpc.Received → Turn η
  | [] => ([], server)
  | received :: rest =>
    let (told, server) := server.take now received
    let (more, server) := takeAll now server rest
    (told ++ more, server)

def receive (now : Instant) (server : Server η) (bytes : Bytes) : Turn η :=
  if server.ending.isSome then ([], server)
  else
    let drained := Rpc.drain Rpc.messageLimit (server.buffer ++ bytes)
    let (told, server) := takeAll now { server with buffer := drained.left } drained.received
    match server.ending, drained.failure with
    | none, some error =>
      let (more, server) := server.stop now (.failed error)
      (told ++ more, server)
    | _, _ => (told, server)

def finish (now : Instant) (server : Server η) : Turn η :=
  if server.ending.isSome then ([], server)
  else server.stop now (if server.buffer.isEmpty then .closed else .unfinished)

end Server

end SqlDesk
