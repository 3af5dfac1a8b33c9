import SqlDesk.Rpc.Frame

/-! What taking a frame makes of bytes that come later. Once the end of a header has come in, what the
header says does not change any more, and neither does a frame that is complete. Before that a buffer
holds three bytes of that end at most, so its length tells how long the header is at least. -/

set_option autoImplicit false

namespace SqlDesk.Rpc.Frame

def headerEnd : Bytes := [13, 10, 13, 10]

theorem eq_append_of_splitHeaderFrom {passed buffer header rest : Bytes}
    (split : splitHeaderFrom passed buffer = some (header, rest)) :
    passed.reverse ++ buffer = header ++ (headerEnd ++ rest) := by
  fun_induction splitHeaderFrom passed buffer with
  | case1 passed rest =>
    obtain ⟨rfl, rfl⟩ : passed.reverse = header ∧ rest = _ := by simpa using split
    rfl
  | case2 passed byte after _ ih =>
    rw [← ih split, List.reverse_cons, List.append_assoc, List.singleton_append]
  | case3 => cases split

theorem length_le_of_splitHeaderFrom {passed buffer header rest : Bytes}
    (split : splitHeaderFrom passed buffer = some (header, rest)) :
    passed.length ≤ header.length := by
  fun_induction splitHeaderFrom passed buffer with
  | case1 =>
    obtain ⟨rfl, -⟩ : _ ∧ _ := by simpa using split
    exact Nat.le_of_eq (List.length_reverse ..).symm
  | case2 passed byte after _ ih =>
    have longer := ih split
    rw [List.length_cons] at longer
    omega
  | case3 => cases split

theorem headerEnd_fits {passed buffer header rest : Bytes}
    (split : splitHeaderFrom passed buffer = some (header, rest)) : 4 ≤ buffer.length := by
  have whole := congrArg List.length (eq_append_of_splitHeaderFrom split)
  have longer := length_le_of_splitHeaderFrom split
  simp only [headerEnd, List.length_append, List.length_reverse, List.length_cons,
    List.length_nil] at whole
  omega

theorem begins_of_append {after more later : Bytes} (long : 3 ≤ after.length)
    (begins : after ++ more = 10 :: 13 :: 10 :: later) : ∃ rest, after = 10 :: 13 :: 10 :: rest := by
  obtain _ | ⟨second, _ | ⟨third, _ | ⟨fourth, rest⟩⟩⟩ := after
  · cases long
  · simp at long
  · simp at long
  · simp only [List.cons_append, List.cons.injEq] at begins
    obtain ⟨rfl, rfl, rfl, -⟩ := begins
    exact ⟨rest, rfl⟩

theorem splitHeaderFrom_append {passed buffer header rest : Bytes} (more : Bytes)
    (split : splitHeaderFrom passed buffer = some (header, rest)) :
    splitHeaderFrom passed (buffer ++ more) = some (header, rest ++ more) := by
  fun_induction splitHeaderFrom passed buffer with
  | case1 passed after =>
    obtain ⟨rfl, rfl⟩ : _ ∧ _ := by simpa using split
    rfl
  | case2 passed byte after other ih =>
    -- The end of the header comes later, so it cannot have begun with this byte.
    have fits := headerEnd_fits split
    have still : ∀ later, byte = 13 → after ++ more = 10 :: 13 :: 10 :: later → False := by
      intro later first begins
      obtain ⟨rest, rfl⟩ := begins_of_append (Nat.le_of_succ_le fits) begins
      exact other rest first rfl
    rw [List.cons_append, splitHeaderFrom.eq_2 _ _ _ still]
    exact ih split
  | case3 => cases split

/-- A buffer in which the header has not ended holds three bytes of its end at most. -/
theorem length_le_of_unsplit {passed buffer more header rest : Bytes}
    (unsplit : splitHeaderFrom passed buffer = none)
    (split : splitHeaderFrom passed (buffer ++ more) = some (header, rest)) :
    passed.length + buffer.length ≤ header.length + 3 := by
  fun_induction splitHeaderFrom passed buffer with
  | case1 => cases unsplit
  | case2 passed byte after other ih =>
    rw [List.cons_append, splitHeaderFrom.eq_def] at split
    split at split
    · rename_i later begins
      -- The end of the header begins with this byte, so the buffer breaks off within it.
      obtain ⟨rfl, -⟩ : _ ∧ _ := by simpa using split
      obtain ⟨first, begins⟩ := List.cons.inj begins
      have short : after.length < 3 := by
        apply Nat.lt_of_not_le
        intro long
        obtain ⟨rest, rfl⟩ := begins_of_append long begins
        exact other rest first rfl
      rw [List.length_reverse, List.length_cons]
      omega
    · rename_i next later _ same
      obtain ⟨rfl, rfl⟩ := List.cons.inj same
      have bound := ih unsplit split
      rw [List.length_cons] at bound ⊢
      omega
    · cases split
  | case3 passed =>
    have longer := length_le_of_splitHeaderFrom split
    rw [List.length_nil]
    omega

variable {limit : Nat} {buffer body rest header : Bytes}

theorem splitHeader_append (more : Bytes) (split : splitHeader buffer = some (header, rest)) :
    splitHeader (buffer ++ more) = some (header, rest ++ more) := splitHeaderFrom_append more split

theorem eq_append_of_splitHeader (split : splitHeader buffer = some (header, rest)) :
    buffer = header ++ (headerEnd ++ rest) := eq_append_of_splitHeaderFrom split

/-- Without the last byte of its end a header has not ended. -/
theorem splitHeader_take (split : splitHeader buffer = some (header, rest)) :
    splitHeader (buffer.take (header.length + 3)) = none := by
  cases early : splitHeader (buffer.take (header.length + 3)) with
  | none => rfl
  | some found =>
    -- What splits early would split the whole buffer at the same place, and there is no room for it.
    obtain ⟨first, after⟩ := found
    have whole := splitHeader_append (buffer.drop (header.length + 3)) early
    rw [List.take_append_drop, split] at whole
    obtain ⟨rfl, -⟩ : header = first ∧ _ := by simpa using whole
    have long := congrArg List.length (eq_append_of_splitHeader early)
    simp only [headerEnd, List.length_append, List.length_cons, List.length_take] at long
    omega

theorem splitHeader_replace (split : splitHeader (header ++ (headerEnd ++ rest)) = some (header, rest))
    (other : Bytes) : splitHeader (header ++ (headerEnd ++ other)) = some (header, other) := by
  -- The header splits off with nothing behind it, and then whatever comes is left over.
  rw [← List.append_assoc] at split ⊢
  cases bare : splitHeader (header ++ headerEnd) with
  | none =>
    have short := length_le_of_unsplit bare split
    simp only [headerEnd, List.length_append, List.length_cons, List.length_nil] at short
    omega
  | some found =>
    obtain ⟨first, after⟩ := found
    have whole := splitHeader_append rest bare
    rw [split] at whole
    obtain ⟨rfl, same⟩ : header = first ∧ rest = after ++ rest := by simpa using whole
    have none : after = [] := List.self_eq_append_left.1 same
    rw [splitHeader_append other bare, none, List.nil_append]

/-- A header that has no carriage return in it ends at the first empty line. -/
theorem splitHeader_of_plain (plain : (13 : UInt8) ∉ header) (rest : Bytes) :
    splitHeader (header ++ (headerEnd ++ rest)) = some (header, rest) := by
  have onward (passed : Bytes) :
      splitHeaderFrom passed (header ++ (headerEnd ++ rest)) =
        some (passed.reverse ++ header, rest) := by
    -- The end is found byte by byte: without a carriage return no place before it looks like it.
    induction header generalizing passed with
    | nil => simp [headerEnd, splitHeaderFrom]
    | cons byte after ih =>
      have other : ∀ later, byte = 13 →
          after ++ (headerEnd ++ rest) = 10 :: 13 :: 10 :: later → False := by
        rintro later rfl -
        exact plain List.mem_cons_self
      rw [List.cons_append, splitHeaderFrom.eq_2 _ _ _ other,
        ih (fun member => plain (List.mem_cons_of_mem _ member))]
      simp
  exact onward []

/-! Frames. -/

theorem splitHeader_of_take (taken : take limit buffer = .frame body rest) :
    ∃ header after, splitHeader buffer = some (header, after) ∧
      bodyLength header = .ok body.length ∧ body.length ≤ limit ∧ after = body ++ rest := by
  unfold take at taken
  split at taken
  · split at taken <;> cases taken
  · rename_i header after split
    split at taken
    · cases taken
    · rename_i length announced
      split at taken
      · cases taken
      · split at taken
        · cases taken
        · rename_i short enough
          obtain ⟨rfl, rfl⟩ : _ ∧ _ := by simpa using taken
          have complete : (after.take length).length = length := by
            rw [List.length_take] at enough ⊢
            omega
          exact ⟨header, after, split, by rw [complete, announced], by omega,
            (List.take_append_drop ..).symm⟩

theorem take_of_splitHeader (split : splitHeader buffer = some (header, body ++ rest))
    (announced : bodyLength header = .ok body.length) (small : body.length ≤ limit) :
    take limit buffer = .frame body rest := by
  simp [take, split, announced, Nat.not_lt.2 small]

theorem exists_frame_of_take (taken : take limit buffer = .frame body rest) :
    ∃ frame, buffer = frame ++ rest ∧ ∀ other, take limit (frame ++ other) = .frame body other := by
  obtain ⟨header, after, split, announced, small, rfl⟩ := splitHeader_of_take taken
  have whole := eq_append_of_splitHeader split
  refine ⟨header ++ (headerEnd ++ body), by simp [whole], ?_⟩
  intro other
  rw [whole] at split
  have replaced := splitHeader_replace split (body ++ other)
  rw [List.append_assoc, List.append_assoc]
  exact take_of_splitHeader replaced announced small

theorem take_append_of_frame (taken : take limit buffer = .frame body rest) (more : Bytes) :
    take limit (buffer ++ more) = .frame body (rest ++ more) := by
  obtain ⟨frame, rfl, same⟩ := exists_frame_of_take taken
  rw [List.append_assoc]
  exact same (rest ++ more)

theorem take_append_of_failed {error : FrameError} {after : Bytes}
    (split : splitHeader buffer = some (header, after))
    (failed : take limit buffer = .failed error) (more : Bytes) :
    take limit (buffer ++ more) = .failed error := by
  unfold take at failed ⊢
  rw [split] at failed
  rw [splitHeader_append more split]
  dsimp only at failed ⊢
  split at failed
  · exact failed
  · split at failed
    · rw [if_pos ‹_›]
      exact failed
    · split at failed <;> cases failed

def framed (header body : Bytes) : Bytes := header ++ (headerEnd ++ body)

/-- The header ends where it should and says how long the body is. -/
structure Heads (limit : Nat) (header body : Bytes) : Prop where
  ends : splitHeader (header ++ headerEnd) = some (header, [])
  announces : bodyLength header = .ok body.length
  fits : body.length ≤ limit

theorem Heads.split (heads : Heads limit header body) (rest : Bytes) :
    splitHeader (framed header body ++ rest) = some (header, body ++ rest) := by
  have whole := splitHeader_append (body ++ rest) heads.ends
  rw [List.nil_append] at whole
  rw [← whole, framed]
  simp only [List.append_assoc]

theorem Heads.take (heads : Heads limit header body) (rest : Bytes) :
    Frame.take limit (framed header body ++ rest) = .frame body rest :=
  take_of_splitHeader (heads.split rest) heads.announces heads.fits

def headerTooLong : FrameError := .invalidHeader "header block too long"

theorem take_of_unsplit (unsplit : splitHeader buffer = none) :
    take limit buffer = if headerLimit < buffer.length then .failed headerTooLong else .more := by
  rw [take, unsplit]
  rfl

end SqlDesk.Rpc.Frame
