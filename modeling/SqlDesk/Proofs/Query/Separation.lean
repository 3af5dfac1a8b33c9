import SqlDesk.Proofs.Batch.Alike
import SqlDesk.Proofs.Desk.Office

/-! Queries with databases of their own. Connections are separated when what is run on those of one
group can neither be noticed on them from outside the group, nor notices what is run outside. A query of
the group then takes the same steps in all worlds that are the same for the group, and the steps of any
other query leave a world the same for it. -/

set_option autoImplicit false

namespace SqlDesk

variable {η : Type}

/-- Some connections are separated from all others: hosts that are the same for them answer the same on
them and stay the same, and whatever is run on others leaves a host the same. -/
structure Separates [Host η] (mine : Connection → Prop) (same : η → η → Prop) : Prop where
  equivalence : Equivalence same
  own : ∀ {left right : η} {connection : Connection} (execution : Execution), mine connection →
    same left right →
    (Host.execute left connection execution).1 = (Host.execute right connection execution).1 ∧
      same (Host.execute left connection execution).2 (Host.execute right connection execution).2
  others : ∀ (host : η) {connection : Connection} (execution : Execution), ¬ mine connection →
    same host (Host.execute host connection execution).2

theorem separates_replays (mine : Connection → Prop) :
    Separates mine fun left right : Array Replay =>
      ∀ connection, mine connection → left[connection]? = right[connection]? where
  equivalence :=
    ⟨fun _ _ _ => rfl, fun same connection own => (same connection own).symm,
      fun first second connection own => (first connection own).trans (second connection own)⟩
  own := by
    intro left right connection execution own same
    have here := same connection own
    simp only [Host.execute, here]
    cases there : right[connection]? with
    | none => exact ⟨rfl, same⟩
    | some replay =>
      -- An answer takes the replay on alike on both sides, and no other replay.
      refine ⟨rfl, fun other owned => ?_⟩
      have alike := same other owned
      rw [there] at here
      have insideLeft := (Array.getElem?_eq_some_iff.mp here).1
      have insideRight := (Array.getElem?_eq_some_iff.mp there).1
      simp only [Array.getElem?_setIfInBounds, insideLeft, insideRight, alike]
  others := by
    intro host connection execution foreign other own
    have apart : connection ≠ other := fun same => foreign (same ▸ own)
    simp only [Host.execute]
    cases host[connection]? with
    | none => rfl
    | some replay => exact (Array.getElem?_setIfInBounds_ne apart).symm

/-- Worlds that are the same for a group of connections, with stores that never fail. -/
structure World.Alike (same : η → η → Prop) (left right : World (Recorded η)) : Prop where
  hosts : same left.host.host right.host.host
  inFile : left.maker.inFile = right.maker.inFile
  first : left.maker.Flawless
  second : right.maker.Flawless

theorem World.Alike.symm {same : η → η → Prop} (equivalence : Equivalence same)
    {left right : World (Recorded η)} (alike : World.Alike same left right) :
    World.Alike same right left :=
  ⟨equivalence.symm alike.hosts, alike.inFile.symm, alike.second, alike.first⟩

theorem World.Alike.trans {same : η → η → Prop} (equivalence : Equivalence same)
    {first second third : World (Recorded η)} (left : World.Alike same first second)
    (right : World.Alike same second third) : World.Alike same first third :=
  ⟨equivalence.trans left.hosts right.hosts, left.inFile.trans right.inFile, left.first, right.second⟩

section

variable [Host η] {mine : Connection → Prop} {same : η → η → Prop}

theorem World.Alike.submit {left right : World (Recorded η)} (separates : Separates mine same)
    (alike : World.Alike same left right) {connection : Connection} (execution : Execution)
    (own : mine connection) :
    (Host.execute left.host connection execution).1 = (Host.execute right.host connection execution).1 ∧
      World.Alike same { left with host := (Host.execute left.host connection execution).2 }
        { right with host := (Host.execute right.host connection execution).2 } := by
  obtain ⟨answer, still⟩ := separates.own execution own alike.hosts
  exact ⟨answer, still, alike.inFile, alike.first, alike.second⟩

end

theorem StoreMaker.Flawless.create_eq {maker : StoreMaker} (flawless : maker.Flawless)
    (key : StoreKey) : maker.create key =
      (.ok ⟨key, if maker.inFile then .file #[] #[] 0 else .memory #[], 0, true, none⟩,
        { maker with attempts := maker.attempts + 1 }) := by
  simp [StoreMaker.create, flawless.made, flawless.endless]

theorem StoreMaker.Flawless.after {maker : StoreMaker} (flawless : maker.Flawless) (key : StoreKey) :
    (maker.create key).2.Flawless ∧ (maker.create key).2.inFile = maker.inFile := by
  rw [flawless.create_eq]
  exact ⟨⟨flawless.made, flawless.endless⟩, rfl⟩

theorem World.Alike.create {same : η → η → Prop} {left right : World (Recorded η)}
    (alike : World.Alike same left right) (key : StoreKey) :
    (left.maker.create key).1 = (right.maker.create key).1 ∧
      World.Alike same { left with maker := (left.maker.create key).2 }
        { right with maker := (right.maker.create key).2 } := by
  obtain ⟨first, inFirst⟩ := alike.first.after key
  obtain ⟨second, inSecond⟩ := alike.second.after key
  refine ⟨?_, alike.hosts, inFirst.trans (alike.inFile.trans inSecond.symm), first, second⟩
  rw [alike.first.create_eq, alike.second.create_eq, alike.inFile]

/-- What a step makes of two worlds that are alike: it says the same in both, submits the same to both,
and leaves them alike. -/
structure World.Agree {τ : Type} (same : η → η → Prop) (left right : World (Recorded η))
    (one other : World (Recorded η) × τ) : Prop where
  outcome : one.2 = other.2
  submissions : ∃ new, one.1.host.submissions = left.host.submissions ++ new ∧
    other.1.host.submissions = right.host.submissions ++ new
  alike : World.Alike same one.1 other.1

section

variable [Host η] {mine : Connection → Prop} {same : η → η → Prop}

theorem BatchRun.makeResult_eq (maker : StoreMaker) (run : BatchRun) (left : Nat) (cursor : Cursor)
    (header : Header) : makeResult maker run left cursor header =
      ((maker.create run.batch.nextKey).2, match (maker.create run.batch.nextKey).1 with
        | .error error => { run with
          phase := .interrupted left (.ofResult (.storage error)) }
        | .ok store => run.withResult left cursor store header) := by
  unfold makeResult
  rcases maker.create run.batch.nextKey with ⟨made | made, next⟩ <;> rfl

theorem BatchRun.agree_step (separates : Separates mine same) {left right : World (Recorded η)}
    (alike : World.Alike same left right) (now : Instant) (cancelled : Bool) {run : BatchRun}
    (own : mine run.connection) :
    World.Agree same left right (run.step now cancelled left) (run.step now cancelled right) := by
  obtain ⟨batch, settings, connection, phase⟩ := run
  have quiet (step : BatchRun.Step) : World.Agree same left right (left, step) (right, step) :=
    ⟨rfl, ⟨[], (List.append_nil _).symm, (List.append_nil _).symm⟩, alike⟩
  -- Only a submission asks the host, and only a new result asks the maker of stores.
  cases phase with
  | repeating rest =>
    cases rest with
    | zero => exact quiet _
    | succ rest =>
      cases cancelled with
      | true => exact quiet _
      | false =>
        let run : BatchRun := ⟨batch, settings, connection, .repeating (rest + 1)⟩
        obtain ⟨answer, still⟩ := alike.submit separates run.execution own
        exact ⟨congrArg (fun script => run.goOn (.opening rest script)) answer,
          ⟨[⟨connection, run.execution, (Host.execute right.host connection run.execution).1⟩],
            congrArg (fun script =>
              left.host.submissions ++ [⟨connection, run.execution, script⟩]) answer, rfl⟩, still⟩
  | telling rest cursor notices next =>
    cases notices with
    | cons notice notices => exact quiet _
    | nil =>
      cases next with
      | result header =>
        let run : BatchRun := ⟨batch, settings, connection, .telling rest cursor [] (.result header)⟩
        obtain ⟨store, still⟩ := alike.create run.batch.nextKey
        simp only [step]
        rw [makeResult_eq, makeResult_eq, store]
        exact ⟨rfl, ⟨[], (List.append_nil _).symm, (List.append_nil _).symm⟩, still⟩
      | nextResult | endOfRun | interruption => exact quiet _
  | starting | opening | advancing | reading | completing => exact quiet _
  | concluding outcome =>
    simp only [step]
    split <;> exact quiet _
  | interrupted rest reason => cases reason <;> exact quiet _

theorem BatchRun.apart_step (separates : Separates mine same) {world : World (Recorded η)}
    (flawless : world.maker.Flawless) (now : Instant) (cancelled : Bool) {run : BatchRun}
    (foreign : ¬ mine run.connection) : World.Alike same world (run.step now cancelled world).1 := by
  have turn := run.turn now cancelled world
  revert turn
  generalize (run.step now cancelled world).1 = later
  generalize (run.step now cancelled world).2 = progress
  have still : World.Alike same world world :=
    ⟨separates.equivalence.refl _, rfl, flawless, flawless⟩
  have created (key : StoreKey) :
      World.Alike same world { world with maker := (world.maker.create key).2 } := by
    obtain ⟨flawlessly, inFile⟩ := flawless.after key
    exact ⟨separates.equivalence.refl _, inFile.symm, flawless, flawlessly⟩
  intro turn
  cases turn with
  | submitted => exact ⟨separates.others _ _ foreign, rfl, flawless, flawless⟩
  | uncreated | created => exact created _
  | _ => exact still

namespace Query

theorem Sound.live_of_executing {query : Query} {told : List Happening} (sound : query.Sound told)
    {index : Nat} {phase : BatchPhase} (executes : query.activity = .executing index phase) :
    query.isTerminal = false := by
  cases terminal : query.isTerminal with
  | false => rfl
  | true =>
    rcases sound.idle_of_terminal terminal with rests | announces
    · rw [rests] at executes
      cases executes
    · rw [announces] at executes
      cases executes

theorem agree_advance (separates : Separates mine same) {left right : World (Recorded η)}
    (alike : World.Alike same left right) (now : Instant) {query : Query} {told : List Happening}
    (sound : query.Sound told) (own : query.isTerminal = false → mine query.connection) :
    World.Agree same left right (query.advance now left) (query.advance now right) := by
  have quiet {τ : Type} (outcome : τ) : World.Agree same left right (left, outcome) (right, outcome) :=
    ⟨rfl, ⟨[], (List.append_nil _).symm, (List.append_nil _).symm⟩, alike⟩
  -- Only the batch under way reaches the world, on a connection for which both are the same.
  have steps : World.Agree same left right (query.step now left) (query.step now right) := by
    unfold step
    cases activity : query.activity with
    | executing index phase =>
      simp only
      cases query.batches[index]? with
      | none => exact quiet _
      | some batch =>
        have live : mine (query.runOf batch phase).connection :=
          own (sound.live_of_executing activity)
        have agree := BatchRun.agree_step separates alike now query.cancelRequested live
        have outcome := congrArg (fun progress : BatchRun.Step =>
          (progress.within (query.withRun index) (query.afterBatch index) :
            Progress Query Query Happening)) agree.outcome
        exact ⟨outcome, agree.submissions, agree.alike⟩
    | resting | choosing | closing | announcing => exact quiet _
  unfold advance
  cases query.begin now with
  | ok begun => exact quiet _
  | error error =>
    exact ⟨congrArg Progress.outcome steps.outcome, steps.submissions, steps.alike⟩

theorem apart_advance (separates : Separates mine same) {world : World (Recorded η)}
    (flawless : world.maker.Flawless) (now : Instant) {query : Query} {told : List Happening}
    (sound : query.Sound told) (foreign : query.isTerminal = false → ¬ mine query.connection) :
    World.Alike same world (query.advance now world).1 := by
  have still : World.Alike same world world :=
    ⟨separates.equivalence.refl _, rfl, flawless, flawless⟩
  unfold advance
  cases query.begin now with
  | ok begun => exact still
  | error error =>
    unfold step
    cases activity : query.activity with
    | executing index phase =>
      simp only
      cases query.batches[index]? with
      | none => exact still
      | some batch =>
        have live : ¬ mine (query.runOf batch phase).connection :=
          foreign (sound.live_of_executing activity)
        exact BatchRun.apart_step separates flawless now query.cancelRequested live
    | resting | choosing | closing | announcing => exact still

theorem ensures_connection (now : Instant) (world : World η) (query : Query) :
    (query.step now world).2.Ensures (fun next _ => next.connection = query.connection)
      (fun next _ => next.connection = query.connection) := by
  have turn := query.turn now world
  revert turn
  rcases query.step now world with ⟨later, progress⟩
  intro turn
  cases turn with
  | @executed index phase batch =>
    refine Progress.ensures_within ?_
    cases ((query.runOf batch phase).step now query.cancelRequested world).2 <;> rfl
  | _ => rfl

theorem live_advance {told : List Happening} {query : Query} (sound : query.Sound told) (now : Instant)
    (world : World η) : (query.advance now world).2.1.connection = query.connection ∧
      ((query.advance now world).2.1.isTerminal = false → query.isTerminal = false) := by
  unfold advance
  cases begins : query.begin now with
  | ok begun =>
    obtain ⟨fresh, rfl⟩ := Stage.begin_eq_ok begins
    exact ⟨rfl, fun _ => by rw [isTerminal, fresh]; rfl⟩
  | error error =>
    obtain ⟨endings, stands⟩ := sound.stands
    obtain ⟨-, moves⟩ := (ensures_stands now world sound.numbered stands).outcome
    refine ⟨(ensures_connection now world query).outcome, fun live => ?_⟩
    cases terminal : query.isTerminal with
    | false => rfl
    | true => exact (moves.isTerminal terminal).symm.trans live

end Query

end

end SqlDesk
