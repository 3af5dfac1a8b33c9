import SqlDesk.Proofs.Rpc.Heading
import SqlDesk.Proofs.Rpc.Taking
import SqlDesk.Rpc.Stream

/-! A stream that comes in pieces. Taking frames off what has come in so far, piece by piece, comes to
the same as taking them off the whole stream, except where a piece ends within a header that is too
long. The length of a header is looked at only as long as its end is missing, so a header above the limit
goes through in one piece and is refused when the last byte of its end comes in a piece of its own. So
the pieces make no difference exactly if no header of the stream can be caught that way. -/

set_option autoImplicit false

namespace SqlDesk.Rpc

variable {limit : Nat} {buffer body rest header : Bytes}

def Drained.after (drained : Drained) (received : List Received) : Drained :=
  { drained with received := received ++ drained.received }

theorem drain_of_more (waits : Frame.take limit buffer = .more) :
    drain limit buffer = ⟨[], buffer, none⟩ := by
  rw [drain]
  split <;> simp_all

theorem drain_of_failed {error : FrameError} (failed : Frame.take limit buffer = .failed error) :
    drain limit buffer = ⟨[], buffer, some error⟩ := by
  rw [drain]
  split <;> simp_all

theorem drain_of_frame (taken : Frame.take limit buffer = .frame body rest) :
    drain limit buffer = (drain limit rest).after [Received.ofBody body] := by
  rw [drain]
  split <;> simp_all [Drained.after]

/-- Appends pieces to what is left of a stream, one at a time, and takes frames as long as there are
any; a stream that cannot be cut into frames any more is given up. -/
def feed (limit : Nat) (left : Bytes) : List Bytes → Drained
  | [] => ⟨[], left, none⟩
  | piece :: rest =>
    let drained := drain limit (left ++ piece)
    match drained.failure with
    | some _ => drained
    | none => (feed limit drained.left rest).after drained.received

theorem take_left_drain (sound : (drain limit buffer).failure = none) :
    Frame.take limit (drain limit buffer).left = .more := by
  fun_induction drain limit buffer with
  | case1 buffer waits => exact waits
  | case2 => cases sound
  | case3 buffer body rest taken later ih => exact ih sound

theorem drain_append (sound : (drain limit buffer).failure = none) (more : Bytes) :
    drain limit (buffer ++ more) =
      (drain limit ((drain limit buffer).left ++ more)).after (drain limit buffer).received := by
  fun_induction drain limit buffer with
  | case1 => rfl
  | case2 => cases sound
  | case3 buffer body rest taken later ih =>
    rw [drain_of_frame (Frame.take_append_of_frame taken more), ih sound]
    rfl

/-! Headers. -/

namespace Frame

/-- The headers that stand at the beginnings of frames, up to the first one that fails or whose frame
is not complete. -/
def headers (limit : Nat) (buffer : Bytes) : List Bytes :=
  match splitHeader buffer with
  | none => []
  | some (header, _) =>
    header :: match _taken : take limit buffer with
      | .frame _ rest => headers limit rest
      | .more | .failed _ => []
termination_by buffer.length
decreasing_by exact length_of_take _taken

theorem headers_of_unsplit (unsplit : splitHeader buffer = none) : headers limit buffer = [] := by
  rw [headers, unsplit]

theorem headers_of_frame {after : Bytes} (split : splitHeader buffer = some (header, after))
    (taken : take limit buffer = .frame body rest) :
    headers limit buffer = header :: headers limit rest := by
  rw [headers, split]
  dsimp only
  split <;> simp_all

theorem headers_of_last {after : Bytes} (split : splitHeader buffer = some (header, after))
    (last : ∀ body rest, take limit buffer ≠ .frame body rest) :
    headers limit buffer = [header] := by
  rw [headers, split]
  dsimp only
  split
  · exact absurd ‹_› (last _ _)
  · rfl
  · rfl

theorem mem_headers_of_splitHeader {after : Bytes}
    (split : splitHeader buffer = some (header, after)) : header ∈ headers limit buffer := by
  rw [headers, split]
  exact List.mem_cons_self

theorem mem_headers_of_frame (taken : take limit buffer = .frame body rest)
    (member : header ∈ headers limit rest) : header ∈ headers limit buffer := by
  obtain ⟨first, after, split, -⟩ := splitHeader_of_take taken
  rw [headers_of_frame split taken]
  exact List.mem_cons_of_mem _ member

theorem mem_headers_of_drain (sound : (drain limit buffer).failure = none) {more : Bytes}
    (member : header ∈ headers limit ((drain limit buffer).left ++ more)) :
    header ∈ headers limit (buffer ++ more) := by
  fun_induction drain limit buffer with
  | case1 => exact member
  | case2 => cases sound
  | case3 buffer body rest taken later ih =>
    exact mem_headers_of_frame (take_append_of_frame taken more) (ih sound member)

theorem exists_of_mem_headers (member : header ∈ headers limit buffer) :
    ∃ front behind rest, buffer = front ++ behind ∧ splitHeader behind = some (header, rest) ∧
      ∀ other, drain limit (front ++ other) =
        (drain limit other).after (drain limit front).received := by
  -- The first header of a buffer stands behind no frames at all.
  have first {buffer : Bytes} {after : Bytes} (split : splitHeader buffer = some (header, after)) :
      ∃ front behind rest, buffer = front ++ behind ∧ splitHeader behind = some (header, rest) ∧
        ∀ other, drain limit (front ++ other) =
          (drain limit other).after (drain limit front).received := by
    refine ⟨[], buffer, after, rfl, split, ?_⟩
    intro other
    rw [drain_of_more (show take limit [] = .more from rfl)]
    rfl
  have last {buffer : Bytes} (others : ∀ body rest, take limit buffer ≠ .frame body rest)
      (member : header ∈ headers limit buffer) : ∃ after, splitHeader buffer = some (header, after) := by
    cases split : splitHeader buffer with
    | none =>
      rw [headers_of_unsplit split] at member
      cases member
    | some found =>
      obtain ⟨only, after⟩ := found
      rw [headers_of_last split others, List.mem_singleton] at member
      exact ⟨after, by rw [member]⟩
  fun_induction drain limit buffer with
  | case1 buffer waits =>
    obtain ⟨after, split⟩ := last (by simp [waits]) member
    exact first split
  | case2 buffer error failed =>
    obtain ⟨after, split⟩ := last (by simp [failed]) member
    exact first split
  | case3 buffer body rest taken later ih =>
    obtain ⟨only, after, split, -⟩ := splitHeader_of_take taken
    rw [headers_of_frame split taken] at member
    rcases List.mem_cons.1 member with rfl | among
    · exact first split
    · obtain ⟨front, behind, following, rfl, stands, drains⟩ := ih among
      obtain ⟨frame, rfl, whole⟩ := exists_frame_of_take taken
      refine ⟨frame ++ front, behind, following, (List.append_assoc ..).symm, stands, ?_⟩
      intro other
      rw [List.append_assoc, drain_of_frame (whole _), drain_of_frame (whole _), drains other]
      rfl

/-- No piece can end within a header of the stream and have it refused for its length, unless what
the header says is refused with the same words. -/
def Steady (limit : Nat) (stream : Bytes) : Prop :=
  ∀ header ∈ headers limit stream,
    header.length + 3 ≤ headerLimit ∨ bodyLength header = .error headerTooLong

end Frame

open SqlDesk.Rpc.Frame

/-- A stream that has failed does not come round, as long as no header has been too long only for
want of its end. -/
theorem drain_append_of_failure {error : FrameError} {more : Bytes}
    (steady : Steady limit (buffer ++ more)) (failed : (drain limit buffer).failure = some error) :
    (drain limit (buffer ++ more)).received = (drain limit buffer).received ∧
      (drain limit (buffer ++ more)).failure = some error := by
  fun_induction drain limit buffer with
  | case1 => cases failed
  | case2 buffer found stuck =>
    obtain rfl : found = error := by simpa using failed
    have refused {reason : FrameError} (again : take limit (buffer ++ more) = .failed reason)
        (same : reason = found) : (drain limit (buffer ++ more)).received = [] ∧
          (drain limit (buffer ++ more)).failure = some found := by
      rw [drain_of_failed again, same]
      exact ⟨rfl, rfl⟩
    cases split : splitHeader buffer with
    | some header => exact refused (take_append_of_failed split stuck more) rfl
    | none =>
      -- The buffer is too long without the end of a header in it. With more bytes it still has none,
      -- or the header that ends in them is as long.
      rw [take_of_unsplit split] at stuck
      split at stuck
      · rename_i long
        obtain rfl : headerTooLong = found := by simpa using stuck
        cases complete : splitHeader (buffer ++ more) with
        | none =>
          have longer : headerLimit < (buffer ++ more).length := by
            rw [List.length_append]
            omega
          exact refused ((take_of_unsplit complete).trans (if_pos longer)) rfl
        | some found =>
          obtain ⟨header, rest⟩ := found
          have bound := length_le_of_unsplit split complete
          rw [List.length_nil, Nat.zero_add] at bound
          rcases steady header (mem_headers_of_splitHeader complete) with short | wrong
          · omega
          · have again : take limit (buffer ++ more) = .failed headerTooLong := by
              simp only [take, complete, wrong]
            exact refused again rfl
      · cases stuck
  | case3 buffer body rest taken later ih =>
    have longer := take_append_of_frame taken more
    obtain ⟨received, failure⟩ :=
      ih (fun header member => steady header (mem_headers_of_frame longer member)) failed
    rw [drain_of_frame longer]
    exact ⟨congrArg (Received.ofBody body :: ·) received, failure⟩

/-- Two ways of taking a stream yield the same, up to the bytes that are left of a broken one. -/
def Drained.Alike (first second : Drained) : Prop :=
  first.received = second.received ∧ first.failure = second.failure ∧
    (first.failure = none → first.left = second.left)

theorem Drained.Alike.after {first second : Drained} (alike : first.Alike second)
    (received : List Received) : (first.after received).Alike (second.after received) := by
  obtain ⟨same, failure, left⟩ := alike
  exact ⟨congrArg (received ++ ·) same, failure, left⟩

theorem feed_alike {left : Bytes} {pieces : List Bytes} (waits : take limit left = .more)
    (steady : Steady limit (left ++ pieces.flatten)) :
    (feed limit left pieces).Alike (drain limit (left ++ pieces.flatten)) := by
  induction pieces generalizing left with
  | nil =>
    rw [List.flatten_nil, List.append_nil, drain_of_more waits]
    exact ⟨rfl, rfl, fun _ => rfl⟩
  | cons piece rest ih =>
    rw [List.flatten_cons, ← List.append_assoc] at steady ⊢
    rw [feed]
    cases sound : (drain limit (left ++ piece)).failure with
    | some error =>
      obtain ⟨received, failure⟩ := drain_append_of_failure steady sound
      refine ⟨received.symm, sound.trans failure.symm, ?_⟩
      intro none
      dsimp only at none
      rw [sound] at none
      cases none
    | none =>
      -- What is left waits again, and the headers that are still to come are headers of the whole.
      have alike := ih (take_left_drain sound)
        fun header member => steady header (mem_headers_of_drain sound member)
      rw [drain_append sound]
      exact alike.after _

/-! Pieces that make no difference. -/

/-- What there is to see of the taking of frames: their contents, and why it has come to an end. -/
def Drained.outcome (drained : Drained) : List Received × Option FrameError :=
  (drained.received, drained.failure)

theorem feed_one (limit : Nat) (buffer : Bytes) : feed limit [] [buffer] = drain limit buffer := by
  rw [feed, List.nil_append]
  cases sound : (drain limit buffer).failure with
  | some error => rfl
  | none =>
    dsimp only [feed, Drained.after]
    rw [List.append_nil, ← sound]

/-- A header above the limit is refused if its last byte is still to come. -/
theorem drain_of_cut_header (split : splitHeader buffer = some (header, rest))
    (long : headerLimit < header.length + 3) :
    drain limit (buffer.take (header.length + 3)) =
      ⟨[], buffer.take (header.length + 3), some headerTooLong⟩ := by
  have whole := congrArg List.length (eq_append_of_splitHeader split)
  have length : (buffer.take (header.length + 3)).length = header.length + 3 := by
    simp only [headerEnd, List.length_append, List.length_cons, List.length_nil] at whole
    rw [List.length_take]
    omega
  apply drain_of_failed
  rw [take_of_unsplit (splitHeader_take split), length, if_pos long]

theorem outcome_of_cut_header (split : splitHeader buffer = some (header, rest))
    (long : headerLimit < header.length + 3) :
    (feed limit [] [buffer.take (header.length + 3), buffer.drop (header.length + 3)]).outcome =
      ([], some headerTooLong) := by
  rw [feed, List.nil_append, drain_of_cut_header split long]
  rfl

/-- A buffer whose header has ended fails with those words only for what the header says. -/
theorem bodyLength_of_outcome (split : splitHeader buffer = some (header, rest))
    (refused : (drain limit buffer).outcome = ([], some headerTooLong)) :
    bodyLength header = .error headerTooLong := by
  obtain ⟨none, failure⟩ := Prod.mk.inj refused
  cases taken : take limit buffer with
  | more =>
    rw [drain_of_more taken] at failure
    cases failure
  | frame body rest =>
    rw [drain_of_frame taken] at none
    cases none
  | failed error =>
    rw [drain_of_failed taken] at failure
    obtain rfl : error = headerTooLong := Option.some.inj failure
    unfold take at taken
    -- Behind a header that can be read nothing fails with these words.
    rw [split] at taken
    dsimp only at taken
    split at taken
    · rename_i found said
      rw [said, Taken.failed.inj taken]
    · split at taken
      · cases taken
      · split at taken <;> cases taken

/-- Pieces make no difference to a stream exactly if no header in it is above the limit, short of one
that is refused for being a line of those words. -/
theorem pieces_agree_iff (limit : Nat) (stream : Bytes) :
    (∀ first second : List Bytes, first.flatten = stream → second.flatten = stream →
      (feed limit [] first).outcome = (feed limit [] second).outcome) ↔ Steady limit stream := by
  constructor
  · intro agree header member
    apply Classical.or_iff_not_imp_left.2
    intro long
    rw [Nat.not_le] at long
    -- The stream as one piece, and cut before the last byte of the end of the header.
    obtain ⟨front, behind, rest, rfl, split, drains⟩ := exists_of_mem_headers member
    have whole : [front ++ behind].flatten = front ++ behind := by simp
    have parts : [front ++ behind.take (header.length + 3), behind.drop (header.length + 3)].flatten =
        front ++ behind := by simp
    have same := agree _ _ whole parts
    rw [feed_one, drains, feed, List.nil_append, drains, drain_of_cut_header split long] at same
    obtain ⟨received, failure⟩ := Prod.mk.inj same
    apply bodyLength_of_outcome split
    exact Prod.ext (List.append_cancel_left received) failure
  · intro steady
    -- Either way comes to taking the stream in one piece.
    have one {pieces : List Bytes} (whole : pieces.flatten = stream) :
        (feed limit [] pieces).outcome = (drain limit stream).outcome := by
      subst whole
      obtain ⟨received, failure, -⟩ := feed_alike (show take limit [] = .more from rfl) steady
      exact Prod.ext received failure
    intro first second whole parts
    rw [one whole, one parts]

theorem outcome_of_heads {body : Bytes} (heads : Heads limit header body) :
    (feed limit [] [framed header body]).outcome = ([Received.ofBody body], none) := by
  have taken := heads.take []
  rw [List.append_nil] at taken
  rw [feed_one, drain_of_frame taken, drain_of_more (show take limit [] = .more from rfl)]
  rfl

def exitBody : Bytes :=
  Bytes.ofString "\x7b\"jsonrpc\":\"2.0\",\"method\":\"exit\",\"params\":null\x7d"

def exitFrame (blanks : Nat) : Bytes := framed (heading blanks exitBody.length) exitBody

/-- A frame with a header of 8190 bytes is taken when it comes in one piece, but not when the last
byte of the empty line behind that header comes later. -/
theorem long_header_in_one_piece_only :
    (feed messageLimit [] [exitFrame 8173]).outcome = ([Received.ofBody exitBody], none) ∧
      (feed messageLimit [] [(exitFrame 8173).take 8193, (exitFrame 8173).drop 8193]).outcome =
        ([], some headerTooLong) := by
  have fits : exitBody.length ≤ messageLimit := by decide
  have heads : Heads messageLimit (heading 8173 exitBody.length) exitBody :=
    heads_heading (by decide) 8173 fits
  have split := heads.split []
  rw [List.append_nil] at split
  have digits : (Nat.toDigits 10 exitBody.length).length = 2 := by decide
  have place : (heading 8173 exitBody.length).length + 3 = 8193 := by rw [length_heading, digits]
  constructor
  · exact outcome_of_heads heads
  · rw [← place]
    exact outcome_of_cut_header split (by rw [place]; decide)

end SqlDesk.Rpc
