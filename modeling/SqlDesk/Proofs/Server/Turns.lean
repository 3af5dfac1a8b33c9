import SqlDesk.Proofs.Desk.Turns
import SqlDesk.Proofs.Server.Order

/-! Letting everything run as far as it gets is one way in which things may happen in the hall: each
accepted query takes its steps in its turn, and the saves are written after that. So whatever the
service does with a message, one thing after the other, happens in the hall too. -/

set_option autoImplicit false

namespace SqlDesk

namespace Hall

variable {η : Type}

theorem say_nil (hall : Hall η) : hall.say [] = hall := by
  unfold say
  rw [List.append_nil]

theorem put_same {hall : Hall η} {id : QueryId} {query : Query}
    (found : hall.state.desk.queries[id]? = some query) (owner : String) :
    hall.put id owner (hall.state.desk.world, query) [] = hall := by
  have same : hall.state.desk.queries.setIfInBounds id query = hall.state.desk.queries := by
    apply Array.ext_getElem?
    intro other
    rw [Array.getElem?_setIfInBounds]
    split
    · rename_i here
      subst here
      rw [found]
      simp [(Array.getElem?_eq_some_iff.mp found).1]
    · rfl
  unfold put Desk.setQuery
  rw [List.map_nil, say_nil, same]
  rfl

theorem put_put (hall : Hall η) (id : QueryId) (owner : String) (first second : World η × Query)
    (told more : List Happening) :
    (hall.put id owner first told).put id owner second more =
      hall.put id owner second (told ++ more) := by
  simp only [put, say, withDesk, Server.State.withDesk, Desk.setQuery,
    Array.setIfInBounds_setIfInBounds, List.map_append, List.append_assoc]

theorem found_put {hall : Hall η} {id : QueryId} {query : Query}
    (found : hall.state.desk.queries[id]? = some query) (owner : String) (reached : World η × Query)
    (told : List Happening) :
    (hall.put id owner reached told).state.desk.queries[id]? = some reached.2 := by
  have inside := (Array.getElem?_eq_some_iff.mp found).1
  exact (Desk.getElem?_setQuery ..).trans (if_pos ⟨rfl, inside⟩)

variable [Host η] {hall : Hall η}

def ran (now : Instant) (hall : Hall η) (id : QueryId) : Hall η :=
  (hall.withDesk (hall.state.desk.runQuery now id).1).say
    ((hall.state.desk.runQuery now id).2.map (.event id))

theorem ran_of_found (now : Instant) {id : QueryId} {query : Query} {told : List Happening}
    (found : hall.state.desk.queries[id]? = some query) (sound : query.Sound told) :
    let run := (query.underWay now).run now hall.state.desk.world
    hall.ran now id = hall.put id query.owner (run.1, run.2.1) run.2.2 := by
  intro run
  obtain ⟨sounds, keeps⟩ := sound.underWay now
  have steps := Query.Sound.steps (Query.steps_run now hall.state.desk.world _) sounds
  have owner : run.2.1.owner = query.owner := steps.2.owner.trans keeps.owner
  have same : hall.state.desk.runQuery now id =
      ({ hall.state.desk with world := run.1 }.setQuery id run.2.1,
        run.2.2.map (Event.mk run.2.1.owner)) := by
    unfold Desk.runQuery
    rw [found]
    rfl
  unfold ran put
  rw [same, owner, List.map_map]
  rfl

def proceed (now : Instant) (id : QueryId) (hall : Hall η) : Hall η :=
  match hall.state.desk.queries[id]? with
  | some query => hall.advance now id query
  | none => hall

variable [Opener η]

theorem course_proceed (now : Instant) {id : QueryId} (accepted : id ∈ hall.state.desk.accepted)
    (count : Nat) : hall.Course ((proceed now id)^[count] hall) := by
  have goes (hall : Hall η) (accepted : id ∈ hall.state.desk.accepted) :
      hall.Course (hall.proceed now id) ∧ id ∈ (hall.proceed now id).state.desk.accepted := by
    unfold proceed
    split
    · rename_i query found
      exact ⟨.single (.runs now accepted found), accepted⟩
    · exact ⟨.refl, accepted⟩
  exact course_iterate goes count accepted

omit [Opener η] in
theorem advance_of_going (now : Instant) (id : QueryId) {owner : String} {query : Query}
    (going : query.Going owner) : hall.advance now id query =
      hall.put id owner ((query.step now hall.state.desk.world).1,
        (query.step now hall.state.desk.world).2.outcome.1)
        (query.step now hall.state.desk.world).2.outcome.2 := by
  unfold advance
  rw [Query.advance_of_begun now _ going.begun, going.owned]

theorem course_underWay (now : Instant) {id : QueryId} {query : Query}
    (accepted : id ∈ hall.state.desk.accepted)
    (found : hall.state.desk.queries[id]? = some query) :
    hall.Course (hall.put id query.owner (hall.state.desk.world, query.underWay now) []) := by
  unfold Query.underWay
  cases begins : query.begin now with
  | error _ =>
    rw [put_same found]
    exact .refl
  | ok begun =>
    have first : hall.Next (hall.advance now id query) := .runs now accepted found
    unfold advance Query.advance at first
    rw [begins] at first
    exact .single first

theorem course_ran (now : Instant) (sound : hall.Sound) {id : QueryId}
    (accepted : id ∈ hall.state.desk.accepted) : hall.Course (hall.ran now id) := by
  obtain ⟨query, found⟩ := sound.office.accepted id accepted
  have its := sound.office.queries id query found
  obtain ⟨sounds, keeps⟩ := its.underWay now
  have steps := (Query.steps_run now hall.state.desk.world (query.underWay now)).lift
    (hall.put id query.owner) (fun world next earlier going => by
      have stands := found_put found query.owner (world, next) earlier
      have step : Next (hall.put id query.owner (world, next) earlier) _ :=
        .runs now accepted stands
      rw [advance_of_going now id going, put_put] at step
      exact step)
    [] ⟨⟨_, sounds⟩, query.begun_underWay now, keeps.owner⟩
  rw [ran_of_found now found its]
  exact (course_underWay now accepted found).trans steps

/-- A course that leaves the loop, the register and the writer alone. -/
structure Beside (before after : Hall η) : Prop where
  course : before.Course after
  duty : after.duty = before.duty
  written : after.written = before.written
  saves : after.state.saves = before.state.saves
  registered : after.state.desk.registered = before.state.desk.registered
  accepted : after.state.desk.accepted = before.state.desk.accepted

theorem Beside.refl (hall : Hall η) : hall.Beside hall := ⟨.refl, rfl, rfl, rfl, rfl, rfl⟩

theorem Beside.trans {first second third : Hall η} (left : first.Beside second)
    (right : second.Beside third) : first.Beside third :=
  ⟨left.course.trans right.course, right.duty.trans left.duty, right.written.trans left.written,
    right.saves.trans left.saves, right.registered.trans left.registered,
    right.accepted.trans left.accepted⟩

theorem beside_ran (now : Instant) (sound : hall.Sound) {id : QueryId}
    (accepted : id ∈ hall.state.desk.accepted) : hall.Beside (hall.ran now id) := by
  obtain ⟨query, found⟩ := sound.office.accepted id accepted
  have course := course_ran now sound accepted
  rw [ran_of_found now found (sound.office.queries id query found)] at course ⊢
  exact ⟨course, rfl, rfl, rfl, rfl, rfl⟩

def settled (now : Instant) (hall : Hall η) (ids : List QueryId) : Hall η := ids.foldl (ran now) hall

theorem beside_settled (now : Instant) (sound : hall.Sound) {ids : List QueryId}
    (accepted : ∀ id ∈ ids, id ∈ hall.state.desk.accepted) :
    hall.Beside (hall.settled now ids) := by
  induction ids generalizing hall with
  | nil => exact .refl hall
  | cons id rest ih =>
    have first := beside_ran now sound (accepted id List.mem_cons_self)
    refine first.trans (ih (first.course.sound sound) fun other member => ?_)
    rw [first.accepted]
    exact accepted other (List.mem_cons_of_mem id member)

omit [Opener η] in
theorem desk_settled (now : Instant) (hall : Hall η) (ids : List QueryId) :
    (hall.settled now ids).state.desk = (hall.office.settled now ids).desk := by
  have turns (ids : List QueryId) (hall : Hall η) (office : Office η)
      (same : hall.state.desk = office.desk) :
      (hall.settled now ids).state.desk = (office.settled now ids).desk := by
    induction ids generalizing hall office with
    | nil => exact same
    | cons id rest ih =>
      exact ih (hall.ran now id) (office.ran now id) (by rw [Office.ran, ← same]; rfl)
  exact turns ids hall hall.office rfl

omit [Opener η] in
theorem over_settled (now : Instant) (sound : hall.Sound) (ids : List QueryId)
    (stopped : ∀ id ∈ ids, id ∈ hall.state.desk.accepted ∧
      ∃ query, hall.state.desk.queries[id]? = some query ∧ query.Stopped) :
    ∀ id ∈ ids, ∃ final, (hall.settled now ids).state.desk.queries[id]? = some final ∧
      final.Over := by
  rw [desk_settled]
  exact Office.over_settled now sound.office ids stopped

end Hall

end SqlDesk
