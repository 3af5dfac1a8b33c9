import SqlDesk.Proofs.Rpc.Frames

/-!
One call of a decoder takes one whole frame off the front of a buffer, or nothing at all. Where the frame
ends is settled by its own bytes: by the first empty line, and by what the header in front of it announces
(`Frame.IsFrame`). So what comes out does not depend on the bytes behind the frame, and calls that go on
taking frames come to one that takes none (`decode_takes_frame_or_nothing`).
-/

set_option autoImplicit false

namespace SqlDesk.Rpc

open SqlDesk.Rpc.Frame

variable {limit : Nat} {header body buffer left : Bytes}

namespace Frame

theorem exists_splitHeaderFrom (passed front behind : Bytes) :
    ∃ header rest, splitHeaderFrom passed (front ++ (headerEnd ++ behind)) = some (header, rest) := by
  induction front generalizing passed with
  | nil => exact ⟨passed.reverse, behind, rfl⟩
  | cons byte front ih =>
    rw [List.cons_append, splitHeaderFrom.eq_def]
    split
    · exact ⟨_, _, rfl⟩
    · rename_i same
      obtain ⟨rfl, rfl⟩ := List.cons.inj same
      exact ih _
    · rename_i empty
      cases empty

/-- A header and a body that make a frame: no empty line ends before the one behind the header, and the
last length in the header is that of the body. -/
structure IsFrame (limit : Nat) (header body : Bytes) : Prop where
  ends : ∀ front behind, header ++ headerEnd = front ++ (headerEnd ++ behind) → behind = []
  announces : Announces header body.length
  fits : body.length ≤ limit

theorem splitHeader_block_iff : splitHeader (header ++ headerEnd) = some (header, []) ↔
    ∀ front behind, header ++ headerEnd = front ++ (headerEnd ++ behind) → behind = [] := by
  constructor
  · intro split front behind same
    -- An empty line that ends earlier splits the header off there, and keeps what is behind it.
    obtain ⟨first, rest, early⟩ := exists_splitHeaderFrom [] front []
    have whole := splitHeader_append behind early
    rw [List.append_nil, List.append_assoc, ← same, split] at whole
    obtain ⟨-, rest⟩ := Prod.mk.inj (Option.some.inj whole)
    exact (List.append_eq_nil_iff.mp rest.symm).2
  · intro ends
    obtain ⟨first, rest, split⟩ := exists_splitHeaderFrom [] header []
    rw [List.append_nil] at split
    have whole := eq_append_of_splitHeader split
    obtain rfl := ends first rest whole
    obtain rfl := List.append_cancel_right (whole.trans (by rw [List.append_nil]))
    exact split

theorem heads_iff : Heads limit header body ↔ IsFrame limit header body := by
  constructor
  · rintro ⟨ends, announces, fits⟩
    exact ⟨splitHeader_block_iff.mp ends, (bodyLength_eq_ok_iff _ _).mp announces, fits⟩
  · rintro ⟨ends, announces, fits⟩
    exact ⟨splitHeader_block_iff.mpr ends, (bodyLength_eq_ok_iff _ _).mpr announces, fits⟩

theorem take_eq_frame_iff : take limit buffer = .frame body left ↔
    ∃ header, IsFrame limit header body ∧ buffer = framed header body ++ left := by
  constructor
  · intro taken
    obtain ⟨header, after, split, announces, fits, rfl⟩ := splitHeader_of_take taken
    obtain rfl := eq_append_of_splitHeader split
    have ends := splitHeader_replace split []
    rw [List.append_nil] at ends
    exact ⟨header, heads_iff.mp ⟨ends, announces, fits⟩, by simp only [framed, List.append_assoc]⟩
  · rintro ⟨header, frame, rfl⟩
    exact (heads_iff.mpr frame).take left

end Frame

/-! ## Calls -/

/-- What a call yields. -/
inductive Decoded where
  | more
  | failed (error : FrameError)
  | received (content : Received)

def decode (limit : Nat) (buffer : Bytes) : Decoded × Bytes :=
  match Frame.take limit buffer with
  | .more => (.more, buffer)
  | .failed error => (.failed error, buffer)
  | .frame body rest => (.received (Received.ofBody body), rest)

theorem drain_eq_decode (limit : Nat) (buffer : Bytes) :
    drain limit buffer = match decode limit buffer with
      | (.more, left) => ⟨[], left, none⟩
      | (.failed error, left) => ⟨[], left, some error⟩
      | (.received content, left) => (drain limit left).after [content] := by
  unfold decode
  cases taken : Frame.take limit buffer with
  | more => exact drain_of_more taken
  | failed error => exact drain_of_failed taken
  | frame body rest => exact drain_of_frame taken

theorem decode_eq_received_iff {content : Received} : decode limit buffer = (.received content, left) ↔
    ∃ header body, IsFrame limit header body ∧ buffer = framed header body ++ left ∧
      content = Received.ofBody body := by
  unfold decode
  constructor
  · intro taken
    split at taken
    · cases taken
    · cases taken
    · rename_i body rest frame
      cases taken
      obtain ⟨header, whole, same⟩ := take_eq_frame_iff.mp frame
      exact ⟨header, body, whole, same, rfl⟩
  · rintro ⟨header, body, whole, same, rfl⟩
    rw [take_eq_frame_iff.mpr ⟨header, whole, same⟩]

/-- The calls that take a frame are no more than there are bytes, and the call behind them takes none. -/
theorem receive_drain (limit : Nat) (buffer : Bytes) : ∃ count,
    receive limit count buffer = some ((drain limit buffer).received, (drain limit buffer).left) ∧
      count + (drain limit buffer).left.length ≤ buffer.length ∧
      (decode limit (drain limit buffer).left).1 =
        ((drain limit buffer).failure.elim .more .failed : Decoded) := by
  fun_induction drain limit buffer with
  | case1 buffer waits => exact ⟨0, rfl, by simp, by simp only [decode, waits]; rfl⟩
  | case2 buffer error failed => exact ⟨0, rfl, by simp, by simp only [decode, failed]; rfl⟩
  | case3 buffer body rest taken later ih =>
    obtain ⟨count, came, bound, last⟩ := ih
    have shorter := length_of_take taken
    refine ⟨count + 1, ?_, ?_, last⟩
    · rw [receive_of_frame taken, came]
      rfl
    · change count + 1 + (drain limit rest).left.length ≤ buffer.length
      omega

/-- A call that wants more bytes or fails leaves the buffer alone. A call yields the contents of a frame
exactly if the buffer begins with the frame, whatever stands behind it, and then it removes the frame and
nothing else. Calls one after the other come to one that wants more bytes or fails. -/
theorem decode_takes_frame_or_nothing (limit : Nat) (buffer : Bytes) :
    (∀ left, decode limit buffer = (.more, left) → left = buffer) ∧
      (∀ error left, decode limit buffer = (.failed error, left) → left = buffer) ∧
      (∀ content left, decode limit buffer = (.received content, left) ↔
        ∃ header body, IsFrame limit header body ∧ buffer = framed header body ++ left ∧
          content = Received.ofBody body) ∧
      (∀ header body, IsFrame limit header body → ∀ other,
        decode limit (framed header body ++ other) = (.received (Received.ofBody body), other)) ∧
      ∃ count,
        receive limit count buffer = some ((drain limit buffer).received, (drain limit buffer).left) ∧
          count + (drain limit buffer).left.length ≤ buffer.length ∧
          (decode limit (drain limit buffer).left).1 =
            ((drain limit buffer).failure.elim .more .failed : Decoded) := by
  refine ⟨fun left waits => ?_, fun error left failed => ?_, fun content left => decode_eq_received_iff,
    fun header body frame other => decode_eq_received_iff.mpr ⟨header, body, frame, rfl, rfl⟩,
    receive_drain limit buffer⟩
  · unfold decode at waits
    split at waits <;> cases waits
    rfl
  · unfold decode at failed
    split at failed <;> cases failed
    rfl

end SqlDesk.Rpc
