import SqlDesk.Desk.Service
import SqlDesk.Proofs.Desk.Office

/-!
Queries that take their turns. A query that runs as far as it gets takes one step after the other, and
each of these is something that may happen at the desk, whatever else the desk is part of. One that
has been stopped gets to its end in a single turn.
-/

set_option autoImplicit false

namespace SqlDesk

namespace Query

def underWay (now : Instant) (query : Query) : Query :=
  match query.begin now with
  | .ok begun => begun
  | .error _ => query

theorem begun_underWay (now : Instant) (query : Query) : (query.underWay now).state ≠ .notStarted := by
  unfold underWay begin
  by_cases fresh : query.state = .notStarted
  · rw [if_pos fresh]
    nofun
  · rw [if_neg fresh]
    exact fresh

theorem Sound.underWay {query : Query} {told : List Happening} (now : Instant)
    (sound : query.Sound told) :
    (query.underWay now).Sound told ∧ query.Keeps (query.underWay now) := by
  unfold Query.underWay
  cases begins : query.begin now with
  | ok begun => exact ⟨sound.begin begins, keeps_begin begins⟩
  | error _ => exact ⟨sound, .refl query⟩

variable {η : Type} [Host η]

theorem advance_of_begun {query : Query} (now : Instant) (world : World η)
    (begun : query.state ≠ .notStarted) : query.advance now world =
      ((query.step now world).1, (query.step now world).2.outcome) := by
  unfold advance begin
  rw [if_neg begun]

structure Going (owner : String) (query : Query) : Prop where
  sound : ∃ told, query.Sound told
  begun : query.state ≠ .notStarted
  owned : query.owner = owner

theorem Going.step {owner : String} {query : Query} (now : Instant) (world : World η)
    (going : query.Going owner) : (query.step now world).2.outcome.1.Going owner := by
  obtain ⟨⟨told, sound⟩, begun, owned⟩ := going
  have keeps := sound.keeps_step now world
  exact ⟨⟨_, sound.step now world⟩, keeps.begun begun, keeps.owner.trans owned⟩

/-- The steps of a query are taken in whatever the query stands in, if each one can be. -/
theorem Steps.lift {σ : Type} {happens : σ → σ → Prop} {now : Instant} {owner : String}
    {before after : World η × Query} {told : List Happening} (steps : Steps now before told after)
    (placed : World η × Query → List Happening → σ)
    (goes : ∀ world query earlier, query.Going owner → happens (placed (world, query) earlier)
      (placed ((query.step now world).1, (query.step now world).2.outcome.1)
        (earlier ++ (query.step now world).2.outcome.2)))
    (earlier : List Happening) (going : before.2.Going owner) :
    Relation.ReflTransGen happens (placed before earlier) (placed after (earlier ++ told)) := by
  induction steps generalizing earlier with
  | none => rw [List.append_nil]
  | @more world query rest final _ ih =>
    rw [← List.append_assoc]
    exact .head (goes world query earlier going) (ih _ (going.step now world))

end Query

namespace Office

variable {η : Type}

/-- A query has come to a state in a world, and has told what happened. -/
def put (office : Office η) (id : QueryId) (owner : String) (reached : World η × Query)
    (happenings : List Happening) : Office η :=
  { office with
    desk := { office.desk with world := reached.1 }.setQuery id reached.2
    told := office.told ++ happenings.map fun happening => (id, ⟨owner, happening⟩) }

theorem put_same {office : Office η} {id : QueryId} {query : Query}
    (found : office.desk.queries[id]? = some query) (owner : String) :
    office.put id owner (office.desk.world, query) [] = office := by
  have same : office.desk.queries.setIfInBounds id query = office.desk.queries := by
    apply Array.ext_getElem?
    intro other
    rw [Array.getElem?_setIfInBounds]
    split
    · rename_i here
      subst here
      rw [found]
      simp [(Array.getElem?_eq_some_iff.mp found).1]
    · rfl
  unfold put Desk.setQuery
  rw [List.map_nil, List.append_nil, same]

theorem put_put (office : Office η) (id : QueryId) (owner : String) (first second : World η × Query)
    (told more : List Happening) :
    (office.put id owner first told).put id owner second more =
      office.put id owner second (told ++ more) := by
  simp only [put, Desk.setQuery, Array.setIfInBounds_setIfInBounds, List.map_append,
    List.append_assoc]

theorem found_put {office : Office η} {id : QueryId} {query : Query}
    (found : office.desk.queries[id]? = some query) (owner : String) (reached : World η × Query)
    (told : List Happening) :
    (office.put id owner reached told).desk.queries[id]? = some reached.2 := by
  have inside := (Array.getElem?_eq_some_iff.mp found).1
  exact (Desk.getElem?_setQuery ..).trans (if_pos ⟨rfl, inside⟩)

theorem registered_runSave (desk : Desk η) (tree : FileTree) (task : SaveTask) :
    (desk.runSave tree task).2.1.registered = desk.registered ∧
      (desk.runSave tree task).2.1.accepted = desk.accepted := by
  unfold Desk.runSave
  split <;> exact ⟨rfl, rfl⟩

variable [Host η] {office : Office η}

theorem advance_of_going (now : Instant) (id : QueryId) {owner : String} {query : Query}
    (going : query.Going owner) : office.advance now id query =
      office.put id owner ((query.step now office.desk.world).1,
        (query.step now office.desk.world).2.outcome.1)
        (query.step now office.desk.world).2.outcome.2 := by
  unfold advance
  rw [Query.advance_of_begun now _ going.begun, going.owned]
  rfl

/-- What goes on when nobody asks anything: accepted queries run, saves are written, and others use
the databases and make stores. -/
inductive Beside (office : Office η) : Office η → Prop where
  | runs (now : Instant) {id : QueryId} {query : Query} (accepted : id ∈ office.desk.accepted)
      (found : office.desk.queries[id]? = some query) : Beside office (office.advance now id query)
  | saved (tree : FileTree) (task : SaveTask) :
      Beside office { office with desk := (office.desk.runSave tree task).2.1 }
  | elsewhere (world : World η) : Beside office { office with desk := { office.desk with world } }

theorem Beside.next {next : Office η} (beside : office.Beside next) : office.Next next := by
  cases beside with
  | runs now accepted found => exact .runs now accepted found
  | saved tree task => exact .handles (.saved tree task)
  | elsewhere world => exact .handles (.elsewhere world)

/-- The register stays as it is, and no query may run that might not before. -/
theorem Beside.same {next : Office η} (beside : office.Beside next) :
    next.desk.registered = office.desk.registered ∧ next.desk.accepted = office.desk.accepted := by
  cases beside with
  | runs | elsewhere => exact ⟨rfl, rfl⟩
  | saved tree task => exact registered_runSave office.desk tree task

def ran (now : Instant) (office : Office η) (id : QueryId) : Office η :=
  { office with
    desk := (office.desk.runQuery now id).1
    told := office.told ++ (office.desk.runQuery now id).2.map (Prod.mk id) }

theorem ran_of_found (now : Instant) {id : QueryId} {query : Query} {told : List Happening}
    (found : office.desk.queries[id]? = some query) (sound : query.Sound told) :
    let run := (query.underWay now).run now office.desk.world
    office.ran now id = office.put id query.owner (run.1, run.2.1) run.2.2 := by
  intro run
  obtain ⟨sounds, keeps⟩ := sound.underWay now
  have steps := Query.Sound.steps (Query.steps_run now office.desk.world _) sounds
  have owner : run.2.1.owner = query.owner := steps.2.owner.trans keeps.owner
  have same : office.desk.runQuery now id =
      ({ office.desk with world := run.1 }.setQuery id run.2.1,
        run.2.2.map (Event.mk run.2.1.owner)) := by
    unfold Desk.runQuery
    rw [found]
    rfl
  unfold ran put
  rw [same, owner, List.map_map]
  rfl

theorem over_ran (now : Instant) (sound : office.Sound) {id : QueryId} {query : Query}
    (found : office.desk.queries[id]? = some query) (stopped : query.Stopped) :
    ∃ final, (office.ran now id).desk.queries[id]? = some final ∧ final.Over := by
  have its := sound.queries id query found
  obtain ⟨sounds, keeps⟩ := its.underWay now
  have atEnd := sounds.over_run now office.desk.world (query.begun_underWay now)
    (keeps.stopped stopped)
  rw [ran_of_found now found its]
  exact ⟨_, found_put found _ _ _, atEnd⟩

theorem beside_ran (now : Instant) (sound : office.Sound) {id : QueryId}
    (accepted : id ∈ office.desk.accepted) :
    Relation.ReflTransGen Beside office (office.ran now id) := by
  obtain ⟨query, found⟩ := sound.accepted id accepted
  have its := sound.queries id query found
  obtain ⟨sounds, keeps⟩ := its.underWay now
  -- The first step of a query that has not been begun is its beginning, which tells nothing.
  have begins : Relation.ReflTransGen Beside office
      (office.put id query.owner (office.desk.world, query.underWay now) []) := by
    unfold Query.underWay
    cases begins : query.begin now with
    | error _ => rw [put_same found]
    | ok begun =>
      have first : office.Beside (office.advance now id query) := .runs now accepted found
      unfold advance Query.advance at first
      rw [begins] at first
      exact .single first
  have steps := (Query.steps_run now office.desk.world (query.underWay now)).lift
    (office.put id query.owner) (fun world next earlier going => by
      have stands := found_put found query.owner (world, next) earlier
      have step : Beside (office.put id query.owner (world, next) earlier) _ :=
        .runs now accepted stands
      rw [advance_of_going now id going, put_put] at step
      exact step)
    [] ⟨⟨_, sounds⟩, query.begun_underWay now, keeps.owner⟩
  rw [ran_of_found now found its]
  exact begins.trans steps

def settled (now : Instant) (office : Office η) (ids : List QueryId) : Office η :=
  ids.foldl (ran now) office

theorem same_of_beside {later : Office η} (beside : Relation.ReflTransGen Beside office later) :
    office.Course later ∧ later.desk.registered = office.desk.registered ∧
      later.desk.accepted = office.desk.accepted := by
  induction beside with
  | refl => exact ⟨.refl, rfl, rfl⟩
  | tail _ last ih =>
    obtain ⟨course, registered, accepted⟩ := ih
    exact ⟨course.tail last.next, last.same.1.trans registered, last.same.2.trans accepted⟩

theorem beside_settled (now : Instant) (sound : office.Sound) {ids : List QueryId}
    (accepted : ∀ id ∈ ids, id ∈ office.desk.accepted) :
    Relation.ReflTransGen Beside office (office.settled now ids) := by
  induction ids generalizing office with
  | nil => exact .refl
  | cons id rest ih =>
    have first := beside_ran now sound (accepted id List.mem_cons_self)
    obtain ⟨course, -, same⟩ := same_of_beside first
    exact first.trans (ih (course.sound sound) fun other member =>
      same ▸ accepted other (List.mem_cons_of_mem id member))

theorem over_settled (now : Instant) (sound : office.Sound) (ids : List QueryId)
    (stopped : ∀ id ∈ ids, id ∈ office.desk.accepted ∧
      ∃ query, office.desk.queries[id]? = some query ∧ query.Stopped) :
    ∀ id ∈ ids, ∃ final, (office.settled now ids).desk.queries[id]? = some final ∧ final.Over := by
  induction ids generalizing office with
  | nil => nofun
  | cons first rest ih =>
    obtain ⟨accepted, query, found, halted⟩ := stopped first List.mem_cons_self
    obtain ⟨course, -, same⟩ := same_of_beside (beside_ran now sound accepted)
    have sounds := course.sound sound
    have others : ∀ id ∈ rest, id ∈ (office.ran now first).desk.accepted ∧
        ∃ query, (office.ran now first).desk.queries[id]? = some query ∧ query.Stopped := by
      intro id member
      obtain ⟨mayRun, before, there, halts⟩ := stopped id (List.mem_cons_of_mem first member)
      obtain ⟨after, stands, keeps, -⟩ := course.stays sound there
      exact ⟨same ▸ mayRun, after, stands, keeps.stopped halts⟩
    intro id member
    rcases List.mem_cons.mp member with rfl | later
    -- The first one gets to its end in its own turn and stays there in those of the others.
    · obtain ⟨final, there, atEnd⟩ := over_ran now sound found halted
      obtain ⟨rest, -⟩ := same_of_beside
        (beside_settled now sounds fun other member => (others other member).1)
      obtain ⟨last, stands, -, stays⟩ := rest.stays sounds there
      exact ⟨last, stands, stays atEnd⟩
    · exact ih sounds others id later

theorem settled_eq (now : Instant) (office : Office η) (ids : List QueryId) (told : List Event) :
    let settled := ids.foldl (fun (desk, told) id =>
      let (desk, events) := Desk.runQuery now desk id
      (desk, told ++ events)) (office.desk, told)
    (office.settled now ids).desk = settled.1 ∧ ∃ events, settled.2 = told ++ events ∧
      (office.settled now ids).told.map Prod.snd = office.told.map Prod.snd ++ events := by
  induction ids generalizing office told with
  | nil => exact ⟨rfl, [], (List.append_nil told).symm, (List.append_nil _).symm⟩
  | cons id rest ih =>
    obtain ⟨desk, events, all, heard⟩ :=
      ih (office.ran now id) (told ++ (office.desk.runQuery now id).2)
    have first : (office.ran now id).told.map Prod.snd =
        office.told.map Prod.snd ++ (office.desk.runQuery now id).2 := by
      simp [ran, Function.comp_def]
    rw [first, List.append_assoc] at heard
    rw [List.append_assoc] at all
    exact ⟨desk, _, all, heard⟩

end Office

end SqlDesk
