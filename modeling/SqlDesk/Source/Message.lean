import SqlDesk.Json.Basic

/-! What a database says besides rows: messages with a number, a severity and a line, counts of
changed rows, and the errors that end an operation. -/

set_option autoImplicit false

namespace SqlDesk

structure DriverMessage where
  code : Int
  severity : Nat
  state : Nat
  /-- One-based line in the submitted text; zero when unknown. -/
  line : Nat
  procedure : Option String
  message : String
  deriving DecidableEq, Repr

def DriverMessage.toJson (message : DriverMessage) : Json :=
  .object [("code", .integer message.code), ("severity", .ofNat message.severity),
    ("state", .ofNat message.state), ("line", .ofNat message.line),
    ("procedure", Json.ofOption Json.string message.procedure),
    ("message", .string message.message)]

/-- Output of a source beside the rows of its results. -/
inductive Notice where
  | rowsAffected (count : Nat)
  | message (message : DriverMessage)
  deriving DecidableEq, Repr

inductive SourceError where
  | driver (message : DriverMessage)
  | cancelled
  | disconnected
  | io (text : String)
  deriving DecidableEq, Repr

def SourceError.message : SourceError → String
  | driver message => message.message
  | cancelled => "operation was canceled"
  | disconnected => "connection closed"
  | io text => s!"I/O error: {text}"

end SqlDesk
