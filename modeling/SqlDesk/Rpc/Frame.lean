import SqlDesk.Bytes
import SqlDesk.Text.Ascii
import SqlDesk.Text.Layout

/-! Frames of a byte stream. A frame is a header, an empty line and a body; the header announces the
number of bytes of the body. Its lines end with a carriage return and a line feed. A buffer gives up
its first frame whole or stays as it is. -/

set_option autoImplicit false

namespace SqlDesk.Rpc

/-- Why a stream cannot be cut into frames. -/
inductive FrameError where
  | invalidHeader (text : String)
  | missingLength
  | tooLong (size limit : Nat)
  deriving DecidableEq, Repr

def FrameError.message : FrameError → String
  | invalidHeader text => s!"invalid header: {text}"
  | missingLength => "missing Content-Length header"
  | tooLong size limit => s!"message of {size} bytes exceeds the limit of {limit} bytes"

/-- What a buffer yields. -/
inductive Taken where
  | more
  | frame (body rest : Bytes)
  | failed (error : FrameError)
  deriving DecidableEq

namespace Frame

/-- Most bytes that may come in before the header is complete. -/
def headerLimit : Nat := 8192

def lengthName : List Char := "content-length".toList

/-- The bytes before and after the first empty line; `passed` holds bytes already looked at, last
one first. -/
def splitHeaderFrom (passed : Bytes) : Bytes → Option (Bytes × Bytes)
  | 13 :: 10 :: 13 :: 10 :: rest => some (passed.reverse, rest)
  | byte :: rest => splitHeaderFrom (byte :: passed) rest
  | [] => none

def splitHeader (buffer : Bytes) : Option (Bytes × Bytes) := splitHeaderFrom [] buffer

theorem length_of_splitHeaderFrom {buffer header rest : Bytes} (passed : Bytes)
    (split : splitHeaderFrom passed buffer = some (header, rest)) :
    rest.length < buffer.length := by
  fun_induction splitHeaderFrom passed buffer with
  | case1 =>
    obtain ⟨-, rfl⟩ : _ ∧ _ := by simpa using split
    simp
    omega
  | case2 _ _ _ _ ih =>
    have := ih split
    simp
    omega
  | case3 => simp at split

/-- The lines of a header; `pending` holds the characters of the current one in reverse. -/
def linesFrom (pending : List Char) : List Char → List (List Char)
  | '\r' :: '\n' :: rest => pending.reverse :: linesFrom [] rest
  | c :: rest => linesFrom (c :: pending) rest
  | [] => [pending.reverse]

/-- The length that a line announces; lines with another name announce none. -/
def announced (line : List Char) : Except FrameError (Option Nat) :=
  match line.dropWhile (· ≠ ':') with
  | [] => .error (.invalidHeader (String.ofList line))
  | _ :: value =>
    if Text.sameIgnoringCase (Text.trim (line.takeWhile (· ≠ ':'))) lengthName then
      match Text.readNatural? (Text.wordBound 64) (Text.trim value) with
      | some length => .ok (some length)
      | none => .error (.invalidHeader (String.ofList line))
    else .ok none

def lastLength (known : Option Nat) : List (List Char) → Except FrameError Nat
  | [] => match known with
    | some length => .ok length
    | none => .error .missingLength
  | line :: rest =>
    if line.isEmpty then lastLength known rest
    else match announced line with
      | .error error => .error error
      | .ok found => lastLength (found.or known) rest

def bodyLength (header : Bytes) : Except FrameError Nat :=
  match Bytes.toString? header with
  | some text => lastLength none (linesFrom [] text.toList)
  | none => .error (.invalidHeader "headers are not UTF-8")

/-- Takes the first frame of a buffer, with a body of at most `limit` bytes. -/
def take (limit : Nat) (buffer : Bytes) : Taken :=
  match splitHeader buffer with
  | none =>
    if headerLimit < buffer.length then .failed (.invalidHeader "header block too long") else .more
  | some (header, rest) =>
    match bodyLength header with
    | .error error => .failed error
    | .ok length =>
      if limit < length then .failed (.tooLong length limit)
      else if (rest.take length).length < length then .more
      else .frame (rest.take length) (rest.drop length)

/-- A number of bytes without which the first frame of a buffer stays incomplete. -/
def wanted (buffer : Bytes) : Nat :=
  match splitHeader buffer with
  | none => 1
  | some (header, rest) => match bodyLength header with
    | .error _ => 1
    | .ok length => max 1 (length - rest.length)

theorem length_of_take {limit : Nat} {buffer body rest : Bytes}
    (taken : take limit buffer = .frame body rest) : rest.length < buffer.length := by
  unfold take at taken
  split at taken
  · split at taken <;> simp at taken
  · next split =>
    have := length_of_splitHeaderFrom [] split
    split at taken
    · simp at taken
    · split at taken
      · simp at taken
      · split at taken
        · simp at taken
        · obtain ⟨-, rfl⟩ : _ ∧ _ := by simpa using taken
          simp
          omega

def write (body : Bytes) : Bytes :=
  Bytes.ofString s!"Content-Length: {body.length}\r\n\r\n" ++ body

end Frame

end SqlDesk.Rpc
