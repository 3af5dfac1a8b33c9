import SqlDesk.Rpc.Frame
import SqlDesk.Rpc.Message

/-! Messages on a byte stream. A body that is no message is passed over with its frame; a stream
that cannot be cut into frames stays where it is. -/

set_option autoImplicit false

namespace SqlDesk.Rpc

def messageLimit : Nat := 64 * 1024 * 1024

inductive Received where
  | message (message : Message)
  | malformed

def Received.ofBody (body : Bytes) : Received :=
  match Message.ofBody? body with
  | some found => .message found
  | none => .malformed

/-- What has come out of a buffer: the contents of its frames, the bytes left in it, and why no
frame can be taken from them if not for want of bytes. -/
structure Drained where
  received : List Received
  left : Bytes
  failure : Option FrameError

def drain (limit : Nat) (buffer : Bytes) : Drained :=
  match _taken : Frame.take limit buffer with
  | .more => ⟨[], buffer, none⟩
  | .failed error => ⟨[], buffer, some error⟩
  | .frame body rest =>
    let later := drain limit rest
    { later with received := Received.ofBody body :: later.received }
termination_by buffer.length
decreasing_by exact Frame.length_of_take _taken

def Message.frame (message : Message) : Bytes := Frame.write message.body

end SqlDesk.Rpc
