import Mathlib
import SqlDesk.Proofs.Rpc.Feeding
import SqlDesk.Proofs.Rpc.Heading

/-! Frames that announce what they hold. However such frames come in pieces, they come out as they went
in: one result for every body, and nothing is left. -/

set_option autoImplicit false

namespace SqlDesk.Rpc

open SqlDesk.Rpc.Frame

variable {limit : Nat} {frames : List (Bytes × Bytes)}

theorem length_toDigits_le {number : Nat} (word : number < Text.wordBound 64) :
    (Nat.toDigits 10 number).length ≤ 20 := by
  apply (Nat.length_toDigits_le_iff (by decide) (by decide)).2
  exact Nat.lt_trans word (by decide)

theorem heading_short {length : Nat} (word : length < Text.wordBound 64) :
    (heading 1 length).length + 3 ≤ headerLimit := by
  have digits := length_toDigits_le word
  rw [length_heading, headerLimit]
  omega

def stream (frames : List (Bytes × Bytes)) : Bytes := frames.flatMap fun frame => framed frame.1 frame.2

theorem drain_frames (heads : ∀ frame ∈ frames, Heads limit frame.1 frame.2) :
    drain limit (stream frames) =
      ⟨frames.map fun frame => Received.ofBody frame.2, [], none⟩ := by
  induction frames with
  | nil => exact drain_of_more rfl
  | cons frame rest ih =>
    have first := heads frame List.mem_cons_self
    rw [stream, List.flatMap_cons, ← stream, drain_of_frame (first.take _),
      ih fun other member => heads other (List.mem_cons_of_mem _ member)]
    rfl

theorem headers_frames (heads : ∀ frame ∈ frames, Heads limit frame.1 frame.2) :
    headers limit (stream frames) = frames.map Prod.fst := by
  induction frames with
  | nil => exact headers_of_unsplit rfl
  | cons frame rest ih =>
    have first := heads frame List.mem_cons_self
    rw [stream, List.flatMap_cons, ← stream, headers_of_frame (first.split _) (first.take _),
      ih fun other member => heads other (List.mem_cons_of_mem _ member), List.map_cons]

/-- Frames come out one for one, whatever their headers say besides the lengths of the bodies. -/
theorem feed_frames (heads : ∀ frame ∈ frames, Heads limit frame.1 frame.2)
    (short : ∀ frame ∈ frames, frame.1.length + 3 ≤ headerLimit) {pieces : List Bytes}
    (cut : pieces.flatten = stream frames) :
    feed limit [] pieces = ⟨frames.map fun frame => Received.ofBody frame.2, [], none⟩ := by
  -- No header is long enough for a piece to catch it, so the pieces come to the stream as a whole.
  have steady : Steady limit ([] ++ pieces.flatten) := by
    intro header member
    rw [List.nil_append, cut, headers_frames heads] at member
    obtain ⟨frame, among, rfl⟩ := List.mem_map.1 member
    exact .inl (short frame among)
  have alike := feed_alike (show Frame.take limit [] = .more from rfl) steady
  rw [List.nil_append, cut, drain_frames heads] at alike
  obtain ⟨received, sound, left⟩ := alike
  cases fed : feed limit [] pieces with
  | mk contents rest failure =>
    rw [fed] at received sound left
    obtain rfl : failure = none := sound
    obtain rfl : rest = [] := left rfl
    exact congrArg (Drained.mk · [] none) received

def headed (body : Bytes) : Bytes × Bytes := (heading 1 body.length, body)

theorem stream_headed (bodies : List Bytes) :
    stream (bodies.map headed) = bodies.flatMap Frame.write := by
  rw [stream, List.flatMap_map]
  exact congrArg bodies.flatMap (funext write_eq).symm

theorem heads_of_mem_headed (word : limit < Text.wordBound 64) {bodies : List Bytes}
    (fit : ∀ body ∈ bodies, body.length ≤ limit) :
    ∀ frame ∈ bodies.map headed, Heads limit frame.1 frame.2 := by
  intro frame member
  obtain ⟨body, among, rfl⟩ := List.mem_map.1 member
  exact heads_heading word 1 (fit body among)

theorem short_of_mem_headed (word : limit < Text.wordBound 64) {bodies : List Bytes}
    (fit : ∀ body ∈ bodies, body.length ≤ limit) :
    ∀ frame ∈ bodies.map headed, frame.1.length + 3 ≤ headerLimit := by
  intro frame member
  obtain ⟨body, among, rfl⟩ := List.mem_map.1 member
  exact heading_short (Nat.lt_of_le_of_lt (fit body among) word)

theorem received_headed (bodies : List Bytes) :
    (bodies.map headed).map (fun frame => Received.ofBody frame.2) = bodies.map Received.ofBody := by
  rw [List.map_map]
  rfl

/-- Frames that have been written come out one for one, with their messages or as malformed, however
they are cut into pieces. -/
theorem frames_received {limit : Nat} (word : limit < Text.wordBound 64) (bodies : List Bytes)
    (fit : ∀ body ∈ bodies, body.length ≤ limit) (pieces : List Bytes)
    (cut : pieces.flatten = bodies.flatMap Frame.write) :
    feed limit [] pieces = ⟨bodies.map Received.ofBody, [], none⟩ := by
  have heads := heads_of_mem_headed word fit
  have short := short_of_mem_headed word fit
  rw [feed_frames heads short (cut.trans (stream_headed bodies).symm), received_headed]

def mixedBodies : List Bytes :=
  [Bytes.ofString "Content-Length: 3\r\n\r\n", [], Bytes.ofString "\x7bbad",
    Bytes.ofString "\x7b\"jsonrpc\":\"2.0\",\"method\":\"exit\"\x7d"]

theorem frames_received_bytewise :
    (∀ body ∈ mixedBodies, body.length ≤ 33) ∧
      feed 33 [] ((mixedBodies.flatMap Frame.write).map fun byte => [byte]) =
        ⟨[.malformed, .malformed, .malformed, .message (.notification (.of "exit" .null))], [],
          none⟩ := by
  have fit : ∀ body ∈ mixedBodies, body.length ≤ 33 := by decide
  have contents : mixedBodies.map Received.ofBody =
      [.malformed, .malformed, .malformed, .message (.notification (.of "exit" .null))] := by cbv
  have whole {bytes : Bytes} : (bytes.map fun byte => [byte]).flatten = bytes :=
    (List.flatMap_def ..).symm.trans (List.flatMap_singleton' bytes)
  refine ⟨fit, ?_⟩
  rw [← contents]
  exact frames_received (by decide) mixedBodies fit _ whole

/-! Frames taken one by one. As many frames as have been written come off the front of a buffer with the
bodies that they were written for (`receive_bodies`), whatever stands behind them, and that is what is
left. Frames that stand behind them as well come out later (`drain_of_receive`). -/

/-- Takes so many frames off a buffer: what they hold, and the bytes that are left. -/
def receive (limit : Nat) : Nat → Bytes → Option (List Received × Bytes)
  | 0, buffer => some ([], buffer)
  | count + 1, buffer =>
    match Frame.take limit buffer with
    | .frame body rest => (receive limit count rest).map (Prod.map (Received.ofBody body :: ·) id)
    | _ => none

theorem receive_of_frame {buffer body rest : Bytes} (taken : Frame.take limit buffer = .frame body rest)
    (count : Nat) :
    receive limit (count + 1) buffer =
      (receive limit count rest).map (Prod.map (Received.ofBody body :: ·) id) := by
  rw [receive, taken]

theorem drain_of_receive {count : Nat} {buffer left : Bytes} {received : List Received}
    (came : receive limit count buffer = some (received, left)) :
    drain limit buffer = (drain limit left).after received := by
  induction count generalizing buffer received with
  | zero =>
    obtain ⟨rfl, rfl⟩ := Prod.mk.inj (Option.some.inj came)
    rfl
  | succ count ih =>
    cases taken : Frame.take limit buffer with
    | frame body rest =>
      rw [receive_of_frame taken] at came
      obtain ⟨⟨later, behind⟩, among, same⟩ := Option.map_eq_some_iff.mp came
      obtain ⟨rfl, rfl⟩ := Prod.mk.inj same
      rw [drain_of_frame taken, ih among]
      rfl
    | more =>
      rw [receive, taken] at came
      cases came
    | failed error =>
      rw [receive, taken] at came
      cases came

theorem take_write (word : limit < Text.wordBound 64) {body : Bytes} (fits : body.length ≤ limit)
    (behind : Bytes) : Frame.take limit (Frame.write body ++ behind) = .frame body behind := by
  rw [write_eq]
  exact (heads_heading word 1 fits).take behind

theorem receive_bodies (word : limit < Text.wordBound 64) {bodies : List Bytes}
    (fit : ∀ body ∈ bodies, body.length ≤ limit) (behind : Bytes) :
    receive limit bodies.length (bodies.flatMap Frame.write ++ behind) =
      some (bodies.map Received.ofBody, behind) := by
  induction bodies with
  | nil => rfl
  | cons body rest ih =>
    have first := take_write word (fit body List.mem_cons_self) (rest.flatMap Frame.write ++ behind)
    have later := ih fun other member => fit other (List.mem_cons_of_mem _ member)
    rw [List.flatMap_cons, List.append_assoc, List.length_cons, receive_of_frame first, later]
    rfl

theorem receive_body (word : limit < Text.wordBound 64) {body : Bytes} (fits : body.length ≤ limit)
    (behind : Bytes) :
    receive limit 1 (Frame.write body ++ behind) = some ([Received.ofBody body], behind) := by
  rw [receive_of_frame (take_write word fits behind)]
  rfl

theorem write_injective : Function.Injective Frame.write := by
  intro first second same
  -- The headers have no carriage return, so both frames are cut at the same place.
  have split (body : Bytes) : splitHeader (Frame.write body) = some (heading 1 body.length, body) := by
    rw [write_eq]
    exact splitHeader_of_plain (return_not_mem_heading 1 body.length) body
  have cut := split first
  rw [same, split second] at cut
  exact (Prod.mk.inj (Option.some.inj cut)).2.symm

end SqlDesk.Rpc
