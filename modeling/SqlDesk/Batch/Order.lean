import SqlDesk.Batch.Execution
import SqlDesk.Source.Weight

/-! The order in which the phases of a batch follow each other: first the runs left count, then what
the cursor of the run still holds. Every step of a batch that goes on comes to a later phase. -/

set_option autoImplicit false

namespace SqlDesk

def AfterNotices.weight : AfterNotices → Nat
  | .result _ => 13
  | .nextResult => 8
  | .endOfRun => 1
  | .interruption _ => 2

def ReadPhase.weight : ReadPhase → Nat
  | .fetching _ => 11
  | .announcing _ => 10
  | .completing _ => 9

namespace BatchPhase

def runsLeft : BatchPhase → Nat
  | starting left => left + 2
  | repeating left => left + 1
  | opening left _ | advancing left _ | telling left _ _ _ | reading left _ _
  | interrupted left _ => left + 1
  | concluding _ | completing _ => 0

def weight : BatchPhase → Nat
  | starting _ | repeating _ => 0
  | opening _ script => script.weight + 8
  | advancing _ cursor => cursor.weight + 7
  | telling _ cursor notices next => notices.length + cursor.weight + next.weight
  | reading _ cursor phase => cursor.weight + phase.weight
  | interrupted _ _ => 1
  | concluding _ => 2
  | completing _ => 1

/-- The order in which the phases of a batch follow each other, the later one first. -/
def After (next phase : BatchPhase) : Prop :=
  next.runsLeft < phase.runsLeft ∨ next.runsLeft = phase.runsLeft ∧ next.weight < phase.weight

end BatchPhase

namespace BatchRun

open BatchPhase (After)

def Advances (phase : BatchPhase) : Step → Prop
  | .moves next _ => next.phase.After phase
  | _ => True

theorem after_of_tellNotices {left : Nat} {cursor : Cursor} {next : AfterNotices}
    {phase : BatchPhase} (runs : phase.runsLeft = left + 1)
    (less : cursor.weight + next.weight < phase.weight) :
    (tellNotices left cursor next).After phase := by
  have whole := cursor.weight_takeNotices
  refine .inr ⟨by rw [runs]; rfl, ?_⟩
  change cursor.takeNotices.1.length + cursor.takeNotices.2.weight + next.weight < phase.weight
  omega

theorem after_reading {left : Nat} {next cursor : Cursor} {following phase : ReadPhase}
    (less : next.weight + following.weight < cursor.weight + phase.weight) :
    (BatchPhase.reading left next following).After (.reading left cursor phase) :=
  .inr ⟨rfl, less⟩

theorem weight_finish (reading : Reading) (announced : Bool) (outcome : ReadOutcome) :
    (reading.finish announced outcome).cursor = reading.cursor ∧
      (reading.finish announced outcome).phase.weight ≤ 10 := by
  cases announced <;> simp [Reading.finish, ReadPhase.weight]

theorem advances_stepReading (run : BatchRun) (cancelled : Bool) (left : Nat) (cursor : Cursor)
    (phase : ReadPhase) :
    Advances (.reading left cursor phase) (run.stepReading cancelled left cursor phase) := by
  unfold stepReading
  cases run.batch.results.getLast? with
  | none =>
    refine .inr ⟨rfl, ?_⟩
    cases phase <;> simp [BatchPhase.weight, ReadPhase.weight]
  | some result =>
    cases phase with
    | completing outcome =>
      refine after_of_tellNotices rfl ?_
      cases outcome <;> simp [afterReading, AfterNotices.weight, BatchPhase.weight, ReadPhase.weight]
    | announcing outcome => exact after_reading (by simp [ReadPhase.weight])
    | fetching announced =>
      -- Where the reading leaves off, what is left weighs less, however far the cursor has come.
      have closes (next : Cursor) (bound : next.weight ≤ cursor.weight) (result : ResultSet)
          (fetching : ReadPhase) (outcome : ReadOutcome) :
          (BatchPhase.reading left
            ((⟨result, next, fetching⟩ : Reading).finish announced outcome).cursor
            ((⟨result, next, fetching⟩ : Reading).finish announced outcome).phase).After
              (.reading left cursor (.fetching announced)) := by
        have finished := weight_finish ⟨result, next, fetching⟩ announced outcome
        refine after_reading ?_
        rw [finished.1]
        have := finished.2
        simp only [ReadPhase.weight] at this ⊢
        omega
      simp only [Reading.step]
      cases cancelled with
      | true => exact closes cursor (Nat.le_refl _) _ _ _
      | false =>
        have bound := cursor.weight_nextRow false
        revert bound
        rcases cursor.nextRow false with ⟨fetched, next⟩
        intro bound
        cases fetched with
        | waits => trivial
        | ended => exact closes next (by simpa [Cursor.used] using bound) _ _ _
        | failed error => exact closes next (by simpa [Cursor.used] using bound) _ _ _
        | value row =>
          simp only [Cursor.used] at bound
          simp only [Reading.takeRow, Bool.false_eq_true, if_false]
          split
          · exact after_reading (by simp only [ReadPhase.weight]; omega)
          · split
            · exact closes next (by omega) _ _ _
            · exact after_reading (by simp only [ReadPhase.weight]; omega)

theorem weight_of_open {script : Script} {cancelled : Bool} {cursor : Cursor}
    (opened : script.open cancelled = .value cursor) : cursor.weight = script.weight := by
  have same : cursor = Cursor.ofScript script := by
    revert opened
    unfold Script.open
    split
    · rename_i stop _
      cases stop <;> cases cancelled <;> simp [Stop.fetched]
    · intro opened
      exact (Fetched.value.inj opened).symm
  simp [same, Cursor.ofScript, Cursor.weight, Stop.weight]

theorem advances_step {η : Type} [Host η] (now : Instant) (cancelled : Bool) (world : World η)
    (run : BatchRun) : Advances run.phase (run.step now cancelled world).2 := by
  obtain ⟨batch, settings, connection, phase⟩ := run
  cases phase with
  | starting left => exact .inl (by simp [BatchPhase.runsLeft])
  | repeating left =>
    cases left with
    | zero => exact .inl (by simp [BatchPhase.runsLeft])
    | succ left => cases cancelled <;> exact .inl (by simp [BatchPhase.runsLeft])
  | opening left script =>
    simp only [step]
    cases opened : script.open cancelled with
    | waits => trivial
    | ended => exact .inr ⟨rfl, by simp [BatchPhase.weight]⟩
    | failed error => exact .inr ⟨rfl, by simp [BatchPhase.weight]⟩
    | value cursor => exact .inr ⟨rfl, by simp [BatchPhase.weight, weight_of_open opened]⟩
  | advancing left cursor =>
    simp only [step]
    have bound := cursor.weight_nextResult cancelled
    revert bound
    rcases cursor.nextResult cancelled with ⟨fetched, next⟩
    intro bound
    cases fetched <;> simp only [Cursor.used] at bound
    case waits => trivial
    case value | ended | failed =>
      refine after_of_tellNotices rfl ?_
      simp only [afterAdvance, AfterNotices.weight, BatchPhase.weight]
      omega
  | telling left cursor notices next =>
    -- What comes after the notices weighs more than the phase it leads to.
    cases notices with
    | cons notice notices =>
      exact .inr ⟨rfl, by simp only [BatchPhase.weight, List.length_cons]; omega⟩
    | nil =>
      cases next with
      | result header =>
        simp only [step, makeResult]
        split
        · exact .inr ⟨rfl, by simp only [BatchPhase.weight, AfterNotices.weight]; omega⟩
        · exact .inr ⟨rfl, by
            simp only [BatchPhase.weight, AfterNotices.weight, ReadPhase.weight]; omega⟩
      | nextResult | endOfRun | interruption =>
        exact .inr ⟨rfl, by simp only [BatchPhase.weight, AfterNotices.weight]; omega⟩
  | reading left cursor phase => exact advances_stepReading _ cancelled left cursor phase
  | interrupted left reason =>
    cases reason with
    | driver message =>
      simp only [step, sayDriverError]
      cases message.tone <;> exact .inr ⟨rfl, by simp [BatchPhase.weight]⟩
    | cancelled | failed => exact .inl (by simp [BatchPhase.runsLeft])
  | concluding outcome =>
    simp only [step]
    split <;> exact .inr ⟨rfl, by simp [BatchPhase.weight]⟩
  | completing outcome => trivial

end BatchRun

end SqlDesk
