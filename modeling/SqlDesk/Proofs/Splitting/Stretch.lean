import SqlDesk.Proofs.Splitting.Separator

/-! A text as stretches of lines between separators. Cutting goes through the lines once; what it has
in hand is the beginning of a stretch, and every separator that counts closes one. The stretches
leave nothing out but the separators themselves, and the batches are those of the stretches that
hold something. -/

set_option autoImplicit false

namespace SqlDesk.Splitting

namespace Stretch

def stop (stretch : Stretch) : Nat := stretch.start + stretch.lines.length

def Covers (stretch : Stretch) (number : Nat) : Prop :=
  stretch.start ≤ number ∧ number < stretch.stop

/-- A stretch reaches from one separator that counts, or the beginning of the text, to the next one
or the end. Its count is that of the separator behind it. -/
structure Of (lines : List (List Char)) (stretch : Stretch) : Prop where
  taken : stretch.lines = lines.extract stretch.start stretch.stop
  within : stretch.stop ≤ lines.length
  begins : stretch.start = 0 ∨
    ∃ before runs, stretch.start = before + 1 ∧ separatorAt? lines before = some runs
  unbroken : ∀ number, stretch.Covers number → separatorAt? lines number = none
  ends : separatorAt? lines stretch.stop = some stretch.runs ∨
    stretch.stop = lines.length ∧ stretch.runs = none

def Filled (stretch : Stretch) : Prop := ∃ line ∈ stretch.lines, Text.isAllBlank line = false

variable {lines : List (List Char)} {stretch other : Stretch} {number : Nat}

theorem Of.start_le (of : stretch.Of lines) (others : other.Of lines)
    (covers : stretch.Covers number) (shared : other.Covers number) :
    stretch.start ≤ other.start := by
  rcases of.begins with first | ⟨before, runs, next, separated⟩
  · omega
  · -- The separator in front of the one stretch cannot stand within the other.
    apply Nat.le_of_not_lt
    intro later
    have inside : other.Covers before := by
      unfold Covers at covers shared ⊢
      omega
    rw [others.unbroken before inside] at separated
    cases separated

theorem Of.le_stop (of : stretch.Of lines) (others : other.Of lines)
    (covers : stretch.Covers number) (shared : other.Covers number) :
    other.stop ≤ stretch.stop := by
  rcases of.ends with separated | ⟨last, -⟩
  · apply Nat.le_of_not_lt
    intro earlier
    have inside : other.Covers stretch.stop := by
      unfold Covers at covers shared ⊢
      omega
    rw [others.unbroken stretch.stop inside] at separated
    cases separated
  · exact last ▸ others.within

theorem Of.runs_eq (of : stretch.Of lines) (others : other.Of lines)
    (same : stretch.stop = other.stop) : stretch.runs = other.runs := by
  have beyond : separatorAt? lines lines.length = none := separatorAt?_of_length_le (Nat.le_refl _)
  rcases of.ends with separated | ⟨last, none⟩ <;> rcases others.ends with closed | ⟨end_, nothing⟩
  · rw [same, closed] at separated
    exact (Option.some.inj separated).symm
  · rw [same, end_, beyond] at separated
    cases separated
  · rw [← same, last, beyond] at closed
    cases closed
  · rw [none, nothing]

theorem Of.eq (of : stretch.Of lines) (others : other.Of lines)
    (covers : stretch.Covers number) (shared : other.Covers number) : stretch = other := by
  have start := Nat.le_antisymm (of.start_le others covers shared)
    (others.start_le of shared covers)
  have stop := Nat.le_antisymm (others.le_stop of shared covers) (of.le_stop others covers shared)
  have runs := of.runs_eq others stop
  have taken : stretch.lines = other.lines := by rw [of.taken, others.taken, start, stop]
  cases stretch
  cases other
  simp_all

theorem Of.getElem?_lines (of : stretch.Of lines) (place : Nat) :
    stretch.lines[place]? =
      if place < stretch.lines.length then lines[stretch.start + place]? else none := by
  have taken := of.taken
  rw [List.extract_eq_take_drop, stop, Nat.add_sub_cancel_left] at taken
  conv => lhs; rw [taken]
  rw [List.getElem?_take, List.getElem?_drop]

theorem Of.exists_mem_iff (of : stretch.Of lines) (holds : List Char → Prop) :
    (∃ line ∈ stretch.lines, holds line) ↔
      ∃ number line, stretch.Covers number ∧ lines[number]? = some line ∧ holds line := by
  constructor
  · rintro ⟨line, member, held⟩
    obtain ⟨place, within, rfl⟩ := List.mem_iff_getElem.mp member
    have found := List.getElem?_eq_getElem within
    rw [of.getElem?_lines, if_pos within] at found
    exact ⟨stretch.start + place, _, ⟨Nat.le_add_right _ _, Nat.add_lt_add_left within _⟩, found,
      held⟩
  · rintro ⟨number, line, ⟨low, high⟩, found, held⟩
    unfold stop at high
    refine ⟨line, List.mem_iff_getElem?.2 ⟨number - stretch.start, ?_⟩, held⟩
    rw [of.getElem?_lines, if_pos (by omega), Nat.add_sub_cancel' low, found]

theorem length_pos_of_filled (filled : stretch.Filled) : 0 < stretch.lines.length :=
  have ⟨_, member, _⟩ := filled
  List.length_pos_of_mem member

theorem mem_batches_iff {cut : BatchText} :
    cut ∈ stretch.batches ↔ stretch.Filled ∧ cut = stretch.batch := by
  have filled : stretch.lines.all Text.isAllBlank = false ↔ stretch.Filled := by
    simp [List.all_eq_false, Filled]
  unfold batches
  split
  · rename_i blank
    have empty : ¬stretch.Filled := by
      rw [← filled, blank]
      decide
    simp [empty]
  · rename_i holds
    rw [Bool.not_eq_true, filled] at holds
    simp [holds]

theorem batches_of_filled (filled : stretch.Filled) : stretch.batches = [stretch.batch] := by
  obtain ⟨line, member, visible⟩ := filled
  have holds : ¬stretch.lines.all Text.isAllBlank = true := by
    intro blank
    rw [List.all_eq_true.mp blank line member] at visible
    cases visible
  exact if_neg holds

/-! Where all lines of the text have numbers that are words, a batch tells its place as it is. -/

theorem placed_of_lt {place : Nat} (few : lines.length ≤ Text.wordBound 32)
    (within : place < lines.length) : Selection.placed place = place :=
  Nat.mod_eq_of_lt (Nat.lt_of_lt_of_le within few)

theorem Of.startLine_batch (of : stretch.Of lines) (few : lines.length ≤ Text.wordBound 32)
    (filled : stretch.Filled) : stretch.batch.selection.startLine = stretch.start := by
  have within := of.within
  have some := length_pos_of_filled filled
  unfold stop at within
  exact placed_of_lt few (by omega)

theorem Of.endLine_batch (of : stretch.Of lines) (few : lines.length ≤ Text.wordBound 32)
    (filled : stretch.Filled) : stretch.batch.selection.endLine + 1 = stretch.stop := by
  have within := of.within
  have some := length_pos_of_filled filled
  have last : stretch.batch.selection.endLine = stretch.start + (stretch.lines.length - 1) := by
    unfold stop at within
    exact placed_of_lt few (by omega)
  unfold stop
  omega

end Stretch

inductive Stretches (lines : List (List Char)) : Nat → List Stretch → Prop
  | last {start : Nat} (within : start ≤ lines.length)
      (unbroken : ∀ number, start ≤ number → separatorAt? lines number = none) :
      Stretches lines start [⟨start, lines.extract start lines.length, none⟩]
  | next {start stop : Nat} {runs : Option Nat} {later : List Stretch} (ordered : start ≤ stop)
      (unbroken : ∀ number, start ≤ number → number < stop → separatorAt? lines number = none)
      (separated : separatorAt? lines stop = some runs) (rest : Stretches lines (stop + 1) later) :
      Stretches lines start (⟨start, lines.extract start stop, runs⟩ :: later)

variable {lines : List (List Char)} {start : Nat} {stretches : List Stretch}

theorem extract_pending {before pending rest : List (List Char)}
    (whole : lines = before ++ (pending.reverse ++ rest)) :
    lines.extract before.length (before.length + pending.length) = pending.reverse := by
  rw [whole, List.extract_eq_take_drop, List.drop_left, Nat.add_sub_cancel_left,
    ← List.length_reverse, List.take_left]

-- The lines in hand are the first ones of a stretch, so no separator among them has counted; that is
-- what makes the stretch whole when the next separator or the end comes.
theorem stretches_cutLines {before pending rest : List (List Char)}
    (whole : lines = before ++ (pending.reverse ++ rest))
    (unbroken : ∀ number, before.length ≤ number → number < before.length + pending.length →
      separatorAt? lines number = none) :
    Stretches lines before.length (cutLines pending before.length
      (commentBefore lines (before.length + pending.length)) rest) := by
  induction rest generalizing before pending with
  | nil =>
    have length : lines.length = before.length + pending.length := by simp [whole]
    rw [cutLines, ← extract_pending whole, ← length]
    refine .last (by omega) ?_
    intro number low
    by_cases high : number < before.length + pending.length
    · exact unbroken number low high
    · exact separatorAt?_of_length_le (by omega)
  | cons line rest ih =>
    have found : lines[before.length + pending.length]? = some line := by
      rw [whole, ← List.append_assoc, List.getElem?_append_right (by simp)]
      simp
    have decided : (if commentBefore lines (before.length + pending.length) then none
        else separator? line) = separatorAt? lines (before.length + pending.length) := by
      rw [separatorAt?, found]
      rfl
    cases separated : separatorAt? lines (before.length + pending.length) with
    | some runs =>
      have length : (before ++ pending.reverse ++ [line]).length =
          before.length + pending.length + 1 := by
        simp only [List.length_append, List.length_reverse, List.length_singleton]
      have behind : lines = before ++ pending.reverse ++ [line] ++ ([].reverse ++ rest) := by
        simp [whole]
      have later := ih behind fun _ low high => absurd high (Nat.not_lt_of_ge low)
      rw [length, List.length_nil, Nat.add_zero, commentBefore_of_separatorAt? separated] at later
      simp only [cutLines, decided, separated]
      rw [← extract_pending whole]
      exact .next (Nat.le_add_right _ _) unbroken separated later
    | none =>
      have grown : lines = before ++ ((line :: pending).reverse ++ rest) := by simp [whole]
      have cut := ih grown (by
        intro number low high
        by_cases last : number = before.length + pending.length
        · exact last ▸ separated
        · rw [List.length_cons] at high
          exact unbroken number low (by omega))
      rw [List.length_cons, ← Nat.add_assoc, commentBefore_succ found] at cut
      simp only [cutLines, decided, separated]
      exact cut

theorem stretches_of_text (text : String) :
    Stretches (Text.lines text.toList) 0 (Splitting.stretches text) :=
  have whole : Text.lines text.toList = [] ++ ([].reverse ++ Text.lines text.toList) := rfl
  stretches_cutLines whole fun _ _ high => absurd high (Nat.not_lt_zero _)

theorem Stretch.stop_extract {stop : Nat} (runs : Option Nat) (ordered : start ≤ stop)
    (within : stop ≤ lines.length) :
    (⟨start, lines.extract start stop, runs⟩ : Stretch).stop = stop := by
  simp only [Stretch.stop, List.extract_eq_take_drop, List.length_take, List.length_drop]
  omega

theorem Stretches.of (cut : Stretches lines start stretches)
    (begins : start = 0 ∨ ∃ before runs, start = before + 1 ∧
      separatorAt? lines before = some runs) :
    ∀ stretch ∈ stretches, stretch.Of lines := by
  induction cut with
  | last within unbroken =>
    intro stretch member
    have stops := Stretch.stop_extract none within (Nat.le_refl lines.length)
    rw [List.mem_singleton.1 member]
    exact ⟨by rw [stops], by rw [stops], begins, fun number covers => unbroken number covers.1,
      .inr ⟨stops, rfl⟩⟩
  | @next start stop runs later ordered unbroken separated rest ih =>
    intro stretch member
    have within := Nat.le_of_lt (lt_length_of_separatorAt? separated)
    have stops := Stretch.stop_extract runs ordered within
    rcases List.mem_cons.1 member with rfl | later
    · exact ⟨by rw [stops], by rwa [stops], begins,
        fun number covers => unbroken number covers.1 (Nat.lt_of_lt_of_eq covers.2 stops),
        .inl (by rwa [stops])⟩
    · exact ih (.inr ⟨_, _, rfl, separated⟩) stretch later

theorem Stretches.start_le (cut : Stretches lines start stretches) :
    ∀ stretch ∈ stretches, start ≤ stretch.start := by
  induction cut with
  | last within unbroken => simp
  | next ordered unbroken separated rest ih =>
    intro stretch member
    rcases List.mem_cons.1 member with rfl | later
    · exact Nat.le_refl _
    · have beyond := ih stretch later
      omega

theorem Stretches.increasing (cut : Stretches lines start stretches) :
    stretches.Pairwise fun first second => first.stop < second.start := by
  induction cut with
  | last within unbroken => exact List.pairwise_singleton _ _
  | @next start stop runs later ordered unbroken separated rest ih =>
    refine List.pairwise_cons.2 ⟨fun stretch member => ?_, ih⟩
    rw [Stretch.stop_extract runs ordered (Nat.le_of_lt (lt_length_of_separatorAt? separated))]
    exact rest.start_le stretch member

theorem Stretches.covered (cut : Stretches lines start stretches) {number : Nat}
    (low : start ≤ number) (high : number < lines.length)
    (plain : separatorAt? lines number = none) : ∃ stretch ∈ stretches, stretch.Covers number := by
  induction cut with
  | last within unbroken =>
    refine ⟨_, List.mem_singleton_self _, low, ?_⟩
    rwa [Stretch.stop_extract none within (Nat.le_refl _)]
  | @next start stop runs later ordered unbroken separated rest ih =>
    by_cases before : number < stop
    · refine ⟨_, List.mem_cons_self, low, ?_⟩
      rwa [Stretch.stop_extract runs ordered (Nat.le_of_lt (lt_length_of_separatorAt? separated))]
    · have other : number ≠ stop := by
        rintro rfl
        rw [plain] at separated
        cases separated
      obtain ⟨stretch, member, covers⟩ := ih (by omega)
      exact ⟨stretch, List.mem_cons_of_mem _ member, covers⟩

/-- The lines between separators lie in stretches, and no separator does. -/
theorem covered_iff {text : String} {number : Nat}
    (within : number < (Text.lines text.toList).length) :
    (∃ stretch ∈ Splitting.stretches text, stretch.Covers number) ↔
      separatorAt? (Text.lines text.toList) number = none := by
  have cut := stretches_of_text text
  constructor
  · rintro ⟨stretch, member, covers⟩
    exact (cut.of (.inl rfl) stretch member).unbroken number covers
  · exact cut.covered (Nat.zero_le _) within

end SqlDesk.Splitting
