/-! One step of something that runs. A step either goes on, perhaps with an event, or ends with one,
or finds that nothing can happen before cancellation. Between two steps anything else may happen. -/

set_option autoImplicit false

namespace SqlDesk

/-- States `σ`, final results `ρ`, events `ε`. -/
inductive Progress (σ ρ ε : Type) where
  | waits (state : σ)
  | moves (state : σ) (event : Option ε)
  | ends (result : ρ) (event : Option ε)

namespace Progress

variable {σ τ ρ κ ε φ : Type}

def event? : Progress σ ρ ε → Option ε
  | waits _ => none
  | moves _ event | ends _ event => event

def mapEvent (f : ε → φ) : Progress σ ρ ε → Progress σ ρ φ
  | waits state => waits state
  | moves state event => moves state (event.map f)
  | ends result event => ends result (event.map f)

def map (put : σ → τ) (finish : ρ → κ) : Progress σ ρ ε → Progress τ κ ε
  | waits state => waits (put state)
  | moves state event => moves (put state) event
  | ends result event => ends (finish result) event

/-- A step of a part, seen as a step of the whole; its end is where the whole goes on. -/
def within (put : σ → τ) (resume : ρ → τ) : Progress σ ρ ε → Progress τ κ ε
  | waits state => waits (put state)
  | moves state event => moves (put state) event
  | ends result event => moves (resume result) event

theorem moves_of_within {put : σ → τ} {resume : ρ → τ} {progress : Progress σ ρ ε} {next : τ}
    {event : Option ε} (moved : progress.within put resume = (moves next event : Progress τ κ ε)) :
    (∃ state, progress = moves state event ∧ put state = next) ∨
      ∃ result, progress = ends result event ∧ resume result = next := by
  cases progress <;> simp_all [within]

theorem waits_of_within {put : σ → τ} {resume : ρ → τ} {progress : Progress σ ρ ε} {next : τ}
    (waited : progress.within put resume = (waits next : Progress τ κ ε)) :
    ∃ state, progress = waits state ∧ put state = next := by
  cases progress <;> simp_all [within]

theorem waits_of_mapEvent {f : ε → φ} {progress : Progress σ ρ ε} {next : σ}
    (waited : progress.mapEvent f = waits next) : progress = waits next := by
  cases progress <;> simp_all [mapEvent]

/-- What holds after a step: of the state it leaves or of its result, and of the events told. -/
def Ensures (kept : σ → List ε → Prop) (finished : ρ → List ε → Prop) : Progress σ ρ ε → Prop
  | waits state => kept state []
  | moves state event => kept state event.toList
  | ends result event => finished result event.toList

theorem Ensures.imp {kept kept' : σ → List ε → Prop} {finished finished' : ρ → List ε → Prop}
    {progress : Progress σ ρ ε} (ensured : progress.Ensures kept finished)
    (keep : ∀ state events, kept state events → kept' state events)
    (finish : ∀ result events, finished result events → finished' result events) :
    progress.Ensures kept' finished' := by
  cases progress with
  | waits state => exact keep _ _ ensured
  | moves state event => exact keep _ _ ensured
  | ends result event => exact finish _ _ ensured

theorem Ensures.and {kept kept' : σ → List ε → Prop} {finished finished' : ρ → List ε → Prop}
    {progress : Progress σ ρ ε} (first : progress.Ensures kept finished)
    (second : progress.Ensures kept' finished') :
    progress.Ensures (fun state events => kept state events ∧ kept' state events)
      (fun result events => finished result events ∧ finished' result events) := by
  cases progress <;> exact ⟨first, second⟩

/-- The state after a step whose result is a state, and the events told. -/
def outcome : Progress σ σ ε → σ × List ε
  | waits state => (state, [])
  | moves state event | ends state event => (state, event.toList)

theorem Ensures.outcome {kept : σ → List ε → Prop} {progress : Progress σ σ ε}
    (ensured : progress.Ensures kept kept) : kept progress.outcome.1 progress.outcome.2 := by
  cases progress <;> exact ensured

theorem ensures_within {put : σ → τ} {resume : ρ → τ} {kept : τ → List ε → Prop}
    {finished : κ → List ε → Prop} {progress : Progress σ ρ ε}
    (ensured : progress.Ensures (fun state => kept (put state)) fun result => kept (resume result)) :
    (progress.within put resume).Ensures kept finished := by
  cases progress <;> exact ensured

theorem ensures_mapEvent {f : ε → φ} {kept : σ → List φ → Prop} {finished : ρ → List φ → Prop}
    {progress : Progress σ ρ ε}
    (ensured : progress.Ensures (fun state events => kept state (events.map f))
      fun result events => finished result (events.map f)) :
    (progress.mapEvent f).Ensures kept finished := by
  cases progress with
  | waits state => exact ensured
  | moves state event => cases event <;> exact ensured
  | ends result event => cases event <;> exact ensured

end Progress

end SqlDesk
