import SqlDesk.Proofs.Desk.Requests

/-! A desk at which everything goes on at once. Accepted queries run one step at a time, in any order,
and between any two steps somebody asks something: for a connection, for settings, for a query, to
have one cancelled, disposed of or saved. A query that has been made is offered first, and is then
accepted, turned down, or given up. What has been told is kept, with the query that told it. -/

set_option autoImplicit false

namespace SqlDesk

/-- One step of a query that may run: it is begun, or goes on. -/
def Query.advance {η : Type} [Host η] (now : Instant) (world : World η) (query : Query) :
    World η × Query × List Happening :=
  match query.begin now with
  | .ok begun => (world, begun, [])
  | .error _ => ((query.step now world).1, (query.step now world).2.outcome)

theorem Query.Sound.advance {η : Type} [Host η] {query : Query} {told : List Happening}
    (now : Instant) (world : World η) (sound : query.Sound told) :
    (query.advance now world).2.1.Sound (told ++ (query.advance now world).2.2) ∧
      query.Keeps (query.advance now world).2.1 := by
  unfold Query.advance
  cases begins : query.begin now with
  | ok begun =>
    rw [List.append_nil]
    exact ⟨sound.begin begins, keeps_begin begins⟩
  | error error => exact ⟨sound.step now world, sound.keeps_step now world⟩

theorem Query.Over.advance {η : Type} [Host η] {query : Query} (now : Instant) (world : World η)
    (atEnd : query.Over) : query.advance now world = (world, query, []) := by
  have begun : query.state ≠ .notStarted := by
    intro fresh
    have terminal := atEnd.1
    rw [isTerminal, fresh] at terminal
    cases terminal
  unfold Query.advance begin
  rw [if_neg begun, step_of_rests now world atEnd.2]
  rfl

theorem course_iterate {σ : Type} {happens : σ → σ → Prop} {ready : σ → Prop} {go : σ → σ}
    (goes : ∀ state, ready state → Relation.ReflTransGen happens state (go state) ∧ ready (go state))
    (count : Nat) {state : σ} (here : ready state) :
    Relation.ReflTransGen happens state (go^[count] state) := by
  induction count generalizing state with
  | zero => exact .refl
  | succ count ih =>
    obtain ⟨first, still⟩ := goes state here
    rw [Function.iterate_succ_apply]
    exact first.trans (ih still)

structure Office (η : Type) where
  desk : Desk η
  /-- Owners with queries that have been made for a request and wait to be accepted. -/
  offered : List (String × QueryId)
  told : List (QueryId × Event)

namespace Office

variable {η : Type}

def opened (world : World η) (defaults : Settings) : Office η := ⟨.empty world defaults, [], []⟩

def toldBy (office : Office η) (id : QueryId) : List Happening :=
  (office.told.filter (·.1 = id)).map fun entry => entry.2.happening

theorem toldBy_append (office : Office η) (desk : Desk η) (id other : QueryId) (owner : String)
    (happenings : List Happening) :
    toldBy { office with
      desk, told := office.told ++ happenings.map fun happening => (id, ⟨owner, happening⟩) } other =
      office.toldBy other ++ if id = other then happenings else [] := by
  simp only [toldBy, List.filter_append, List.map_append]
  congr 1
  by_cases same : id = other
  · simp [same, List.filter_map, Function.comp_def]
  · simp [same, List.filter_map, Function.comp_def]

def decided (office : Office η) (id : QueryId) (desk : Desk η) : Office η :=
  { office with desk, offered := office.offered.filter (·.2 ≠ id) }

def accept (office : Office η) (id : QueryId) : Office η := office.decided id (office.desk.accept id)

def advance [Host η] (now : Instant) (office : Office η) (id : QueryId) (query : Query) : Office η :=
  let (world, next, happenings) := query.advance now office.desk.world
  { office with
    desk := { office.desk with world }.setQuery id next
    told := office.told ++ happenings.map fun happening => (id, ⟨query.owner, happening⟩) }

theorem told_advance [Host η] (now : Instant) (office : Office η) (id : QueryId) (query : Query) :
    (office.advance now id query).told = office.told ++
      (query.advance now office.desk.world).2.2.map fun happening =>
        (id, ⟨query.owner, happening⟩) := rfl

theorem toldBy_advance [Host η] (now : Instant) (office : Office η) (id : QueryId) (query : Query)
    (other : QueryId) : (office.advance now id query).toldBy other =
      office.toldBy other ++ if id = other then (query.advance now office.desk.world).2.2 else [] :=
  office.toldBy_append _ id other query.owner _

theorem getElem?_advance [Host η] {office : Office η} (now : Instant) {id : QueryId} {query : Query}
    (found : office.desk.queries[id]? = some query) (other : QueryId) :
    (office.advance now id query).desk.queries[other]? =
      if id = other then some (query.advance now office.desk.world).2.1
      else office.desk.queries[other]? := by
  have inside := (Array.getElem?_eq_some_iff.mp found).1
  unfold advance
  rw [Desk.getElem?_setQuery]
  by_cases same : id = other
  · exact (if_pos ⟨same, inside⟩).trans (if_pos same).symm
  · rw [if_neg fun both => same both.1, if_neg same]

inductive Next [Host η] (office : Office η) : Office η → Prop where
  | handles {desk : Desk η} (handles : office.desk.Handles desk) : Next office { office with desk }
  | runs (now : Instant) {id : QueryId} {query : Query} (accepted : id ∈ office.desk.accepted)
      (found : office.desk.queries[id]? = some query) : Next office (office.advance now id query)
  | offers {request : QueryRequest} {id : QueryId} {desk : Desk η}
      (made : office.desk.create request = .ok (id, desk)) :
      Next office { office with desk, offered := office.offered ++ [(request.owner, id)] }
  | accepts {owner : String} {id : QueryId} (offered : (owner, id) ∈ office.offered) :
      Next office (office.accept id)
  | declines {owner : String} {id : QueryId} (offered : (owner, id) ∈ office.offered) :
      Next office (office.decided id (office.desk.decline owner id))
  | abandons {owner : String} {id : QueryId} (offered : (owner, id) ∈ office.offered) :
      Next office (office.decided id (office.desk.abandon owner id))

def Course [Host η] : Office η → Office η → Prop := Relation.ReflTransGen Next

def proceed [Host η] (now : Instant) (id : QueryId) (office : Office η) : Office η :=
  match office.desk.queries[id]? with
  | some query => office.advance now id query
  | none => office

theorem course_proceed [Host η] (now : Instant) {id : QueryId} {office : Office η}
    (accepted : id ∈ office.desk.accepted) (count : Nat) :
    office.Course ((proceed now id)^[count] office) := by
  have goes (office : Office η) (accepted : id ∈ office.desk.accepted) :
      office.Course (office.proceed now id) ∧ id ∈ (office.proceed now id).desk.accepted := by
    unfold proceed
    split
    · rename_i query found
      exact ⟨.single (.runs now accepted found), accepted⟩
    · exact ⟨.refl, accepted⟩
  exact course_iterate goes count accepted

/-- What holds of every office that comes about. -/
structure Sound (office : Office η) : Prop where
  queries : ∀ (id : QueryId) (query : Query), office.desk.queries[id]? = some query →
    query.Sound (office.toldBy id)
  told : ∀ (id : QueryId) (event : Event), (id, event) ∈ office.told →
    ∃ query, office.desk.queries[id]? = some query ∧ event.owner = query.owner
  keys : (office.desk.registered.map Prod.fst).Nodup
  registered : ∀ (owner : String) (id : QueryId), (owner, id) ∈ office.desk.registered →
    ∃ query, office.desk.queries[id]? = some query ∧ query.owner = owner
  /-- No query of an owner is newer than the registered one. -/
  newest : ∀ (owner : String) (id : QueryId), (owner, id) ∈ office.desk.registered →
    ∀ (other : QueryId) (query : Query), office.desk.queries[other]? = some query →
      query.owner = owner → other ≤ id
  offered : ∀ (owner : String) (id : QueryId), (owner, id) ∈ office.offered →
    id ∉ office.desk.accepted ∧ ∃ query, office.desk.queries[id]? = some query ∧ query.owner = owner
  accepted : ∀ id ∈ office.desk.accepted, ∃ query, office.desk.queries[id]? = some query
  /-- A query that has not been accepted has not begun. -/
  idle : ∀ (id : QueryId) (query : Query), office.desk.queries[id]? = some query →
    id ∉ office.desk.accepted → query.state = .notStarted
  /-- A query that may run is registered or has been stopped. -/
  live : ∀ (id : QueryId) (query : Query), office.desk.queries[id]? = some query →
    id ∈ office.desk.accepted ∨ (query.owner, id) ∈ office.offered →
    (query.owner, id) ∈ office.desk.registered ∨ query.Stopped

theorem sound_opened (world : World η) (defaults : Settings) : (opened world defaults).Sound where
  queries id query found := by simp [opened, Desk.empty] at found
  told id event member := by cases member
  keys := List.nodup_nil
  registered owner id member := by cases member
  newest owner id member := by cases member
  offered owner id member := by cases member
  accepted id member := by cases member
  idle id query found := by simp [opened, Desk.empty] at found
  live id query found := by simp [opened, Desk.empty] at found

namespace Sound

variable {office : Office η}

theorem of_kept {desk : Desk η} (sound : office.Sound) (kept : office.desk.Kept desk) :
    Sound { office with desk } where
  queries id next found := by
    obtain ⟨query, there, asked⟩ := kept.query_of_after found
    exact (sound.queries id query there).of_asked asked
  told id event member := by
    obtain ⟨query, there, owner⟩ := sound.told id event member
    obtain ⟨next, found, asked⟩ := kept.queries id query there
    exact ⟨next, found, owner.trans (Query.keeps_of_asked asked).owner.symm⟩
  keys := sound.keys.sublist (kept.registered.map _)
  registered owner id member := by
    obtain ⟨query, there, same⟩ := sound.registered owner id (kept.registered.subset member)
    obtain ⟨next, found, asked⟩ := kept.queries id query there
    exact ⟨next, found, (Query.keeps_of_asked asked).owner.trans same⟩
  newest owner id member other next found owned := by
    obtain ⟨query, there, asked⟩ := kept.query_of_after found
    exact sound.newest owner id (kept.registered.subset member) other query there
      ((Query.keeps_of_asked asked).owner.symm.trans owned)
  offered owner id member := by
    obtain ⟨fresh, query, there, same⟩ := sound.offered owner id member
    obtain ⟨next, found, asked⟩ := kept.queries id query there
    exact ⟨kept.accepted ▸ fresh, next, found, (Query.keeps_of_asked asked).owner.trans same⟩
  accepted id member := by
    obtain ⟨query, there⟩ := sound.accepted id (kept.accepted ▸ member)
    obtain ⟨next, found, -⟩ := kept.queries id query there
    exact ⟨next, found⟩
  idle id next found unaccepted := by
    obtain ⟨query, there, asked⟩ := kept.query_of_after found
    rw [(Query.state_of_asked asked).1]
    exact sound.idle id query there (kept.accepted ▸ unaccepted)
  live id next found may := by
    obtain ⟨query, there, asked⟩ := kept.query_of_after found
    have keeps := Query.keeps_of_asked asked
    rw [keeps.owner] at may ⊢
    change id ∈ desk.accepted ∨ _ at may
    rw [kept.accepted] at may
    rcases sound.live id query there may with member | stopped
    -- A query that has left the register has been let go, and so it is stopped.
    · by_cases still : (query.owner, id) ∈ desk.registered
      · exact .inl still
      · exact .inr (kept.letGo _ id next member still found)
    · exact .inr (keeps.stopped stopped)

theorem nothing_told (sound : office.Sound) {id : QueryId}
    (missing : office.desk.queries[id]? = none) : office.toldBy id = [] := by
  unfold toldBy
  rw [List.map_eq_nil_iff, List.filter_eq_nil_iff]
  rintro ⟨other, event⟩ member same
  obtain ⟨query, there, -⟩ := sound.told other event member
  have here : other = id := of_decide_eq_true same
  rw [here, missing] at there
  cases there

theorem accept {owner : String} {id : QueryId} (sound : office.Sound)
    (offered : (owner, id) ∈ office.offered) : (office.accept id).Sound := by
  obtain ⟨-, query, found, rfl⟩ := sound.offered owner id offered
  constructor
  case queries => exact sound.queries
  case told => exact sound.told
  case keys => exact sound.keys
  case registered => exact sound.registered
  case newest => exact sound.newest
  case offered =>
    intro owner other member
    obtain ⟨before, apart⟩ := List.mem_filter.mp member
    obtain ⟨fresh, same⟩ := sound.offered owner other before
    refine ⟨fun accepted => ?_, same⟩
    rcases List.mem_append.mp accepted with earlier | new
    · exact fresh earlier
    · exact of_decide_eq_true apart (List.mem_singleton.mp new)
  case accepted =>
    intro other member
    rcases List.mem_append.mp member with earlier | new
    · exact sound.accepted other earlier
    · cases List.mem_singleton.mp new
      exact ⟨query, found⟩
  case idle =>
    intro other before there unaccepted
    exact sound.idle other before there fun earlier => unaccepted (List.mem_append_left _ earlier)
  case live =>
    intro other before there may
    -- What is accepted now has been offered before.
    refine sound.live other before there ?_
    rcases may with accepted | waiting
    · rcases List.mem_append.mp accepted with earlier | new
      · exact .inl earlier
      · cases List.mem_singleton.mp new
        change office.desk.queries[id]? = some before at there
        rw [found] at there
        cases there
        exact .inr offered
    · exact .inr (List.mem_filter.mp waiting).1

theorem abandon {owner : String} {id : QueryId} (sound : office.Sound)
    (offered : (owner, id) ∈ office.offered) :
    (office.decided id (office.desk.abandon owner id)).Sound := by
  have unaccepted := (sound.offered owner id offered).1
  have same := office.desk.queries_abandon owner id
  have fewer : (office.desk.abandon owner id).registered.Sublist office.desk.registered := by
    unfold Desk.abandon Desk.unregisterQuery
    split
    · exact List.filter_sublist
    · exact List.Sublist.refl _
  have others {other : String} {number : QueryId} (apart : number ≠ id)
      (member : (other, number) ∈ office.desk.registered) :
      (other, number) ∈ (office.desk.abandon owner id).registered := by
    unfold Desk.abandon Desk.unregisterQuery
    split
    · rename_i registered
      refine Desk.mem_unbind.mpr ⟨member, ?_⟩
      rintro rfl
      have found := (Desk.lookup_eq_some_iff sound.keys).mpr member
      rw [Desk.queryId?, found] at registered
      exact apart (Option.some.inj registered)
    · exact member
  -- A desk with the same queries, of which the same may run.
  generalize office.desk.abandon owner id = desk at same fewer others
  cases desk
  obtain ⟨rfl, rfl⟩ := same
  constructor
  case queries => exact sound.queries
  case told => exact sound.told
  case keys => exact sound.keys.sublist (fewer.map _)
  case registered =>
    exact fun other number member => sound.registered other number (fewer.subset member)
  case newest => exact fun other number member => sound.newest other number (fewer.subset member)
  case offered =>
    exact fun other number member => sound.offered other number (List.mem_filter.mp member).1
  case accepted => exact sound.accepted
  case idle => exact sound.idle
  case live =>
    intro number query found may
    have waiting : number ∈ office.desk.accepted ∨ (query.owner, number) ∈ office.offered :=
      may.imp_right fun member => (List.mem_filter.mp member).1
    have apart : number ≠ id := by
      rintro rfl
      rcases may with accepted | member
      · exact unaccepted accepted
      · simp [decided] at member
    exact (sound.live number query found waiting).imp_left (others apart)

theorem decline {owner : String} {id : QueryId} (sound : office.Sound)
    (offered : (owner, id) ∈ office.offered) :
    (office.decided id (office.desk.decline owner id)).Sound :=
  (sound.abandon offered).of_kept ((office.desk.abandon owner id).kept_disposeQuery id)

theorem enrol {query : Query} (sound : office.Sound) (vacant : office.desk.Vacant query.owner)
    (fresh : query.Sound []) (unbegun : query.state = .notStarted) :
    Sound { office with
      desk := office.desk.enrol query
      offered := office.offered ++ [(query.owner, office.desk.queries.size)] } := by
  -- The new query has the number behind all others, and nothing is known of that number.
  have stands (id : QueryId) : (office.desk.enrol query).queries[id]? =
      if id = office.desk.queries.size then some query else office.desk.queries[id]? :=
    Array.getElem?_push
  have missing : office.desk.queries[office.desk.queries.size]? = none := Array.getElem?_size
  have older {id : QueryId} {other : Query} (found : office.desk.queries[id]? = some other) :
      (office.desk.enrol query).queries[id]? = some other := by
    have bound := (Array.getElem?_eq_some_iff.mp found).1
    rw [stands, if_neg (Nat.ne_of_lt bound), found]
  have own : (office.desk.enrol query).queries[office.desk.queries.size]? = some query := by
    rw [stands, if_pos rfl]
  have unaccepted : office.desk.queries.size ∉ office.desk.accepted := by
    intro member
    obtain ⟨other, found⟩ := sound.accepted _ member
    rw [missing] at found
    cases found
  constructor
  case queries =>
    intro id other found
    rw [stands] at found
    split at found
    · rename_i new
      cases found
      rw [new]
      exact (sound.nothing_told missing).symm ▸ fresh
    · exact sound.queries id other found
  case told =>
    intro id event member
    obtain ⟨other, found, owner⟩ := sound.told id event member
    exact ⟨other, older found, owner⟩
  case keys => exact Desk.keys_bind _ _ sound.keys
  case registered =>
    intro owner id member
    rcases Desk.mem_bind.mp member with ⟨rfl, rfl⟩ | ⟨before, -⟩
    · exact ⟨query, own, rfl⟩
    · obtain ⟨other, found, same⟩ := sound.registered owner id before
      exact ⟨other, older found, same⟩
  case newest =>
    intro owner id member number other found owned
    rw [stands] at found
    split at found
    · rename_i new
      cases found
      rcases Desk.mem_bind.mp member with ⟨-, rfl⟩ | ⟨-, apart⟩
      · exact Nat.le_of_eq new
      · exact absurd owned.symm apart
    · rename_i old
      rcases Desk.mem_bind.mp member with ⟨-, rfl⟩ | ⟨before, -⟩
      · exact Nat.le_of_lt (Array.getElem?_eq_some_iff.mp found).1
      · exact sound.newest owner id before number other found owned
  case offered =>
    intro owner id member
    rcases List.mem_append.mp member with before | new
    · obtain ⟨fresh, other, found, same⟩ := sound.offered owner id before
      exact ⟨fresh, other, older found, same⟩
    · cases List.mem_singleton.mp new
      exact ⟨unaccepted, query, own, rfl⟩
  case accepted =>
    intro id member
    obtain ⟨other, found⟩ := sound.accepted id member
    exact ⟨other, older found⟩
  case idle =>
    intro id other found notAccepted
    rw [stands] at found
    split at found
    · rw [← Option.some.inj found]
      exact unbegun
    · exact sound.idle id other found notAccepted
  case live =>
    intro id other found may
    rw [stands] at found
    split at found
    · rename_i new
      rw [← Option.some.inj found]
      exact .inl (Desk.mem_bind.mpr (.inl ⟨rfl, new⟩))
    · rename_i old
      -- An old query was accepted or offered before, and its owner is not the new one's.
      have before : id ∈ office.desk.accepted ∨ (other.owner, id) ∈ office.offered := by
        rcases may with accepted | offered
        · exact .inl accepted
        · rcases List.mem_append.mp offered with before | new
          · exact .inr before
          · exact absurd (congrArg Prod.snd (List.mem_singleton.mp new)) old
      rcases sound.live id other found before with member | stopped
      · refine .inl (Desk.mem_bind.mpr (.inr ⟨member, ?_⟩))
        intro same
        exact vacant id (same ▸ member)
      · exact .inr stopped

theorem offer {request : QueryRequest} {id : QueryId} {desk : Desk η} (sound : office.Sound)
    (made : office.desk.create request = .ok (id, desk)) :
    Sound { office with desk, offered := office.offered ++ [(request.owner, id)] } := by
  obtain ⟨connection, released, -, freed, rfl, rfl⟩ := Desk.create_eq_ok made
  have vacant : released.Vacant request.owner := by
    refine Desk.vacant_release sound.keys (fun id member => ?_) freed
    obtain ⟨query, found, -⟩ := sound.registered request.owner id member
    exact ⟨query, found⟩
  have kept := sound.of_kept (Desk.kept_release sound.keys freed)
  exact kept.enrol vacant (Query.sound_create _ _ _ _) rfl

variable [Host η]

theorem stays_advance (now : Instant) {id other : QueryId} {query before : Query}
    (sound : office.Sound) (found : office.desk.queries[id]? = some query)
    (there : office.desk.queries[other]? = some before) :
    ∃ after, (office.advance now id query).desk.queries[other]? = some after ∧
      before.Keeps after ∧ (before.Over → after.Over) := by
  have keeps := ((sound.queries id query found).advance now office.desk.world).2
  rw [getElem?_advance now found]
  split
  · rename_i here
    subst here
    cases found.symm.trans there
    exact ⟨_, rfl, keeps, fun atEnd => by rwa [atEnd.advance now office.desk.world]⟩
  · exact ⟨before, there, .refl before, fun atEnd => atEnd⟩

theorem advance (now : Instant) {id : QueryId} {query : Query} (sound : office.Sound)
    (accepted : id ∈ office.desk.accepted) (found : office.desk.queries[id]? = some query) :
    (office.advance now id query).Sound := by
  obtain ⟨sounds, keeps⟩ := (sound.queries id query found).advance now office.desk.world
  have stands := getElem?_advance now found
  have stays {other : QueryId} {before : Query} (there : office.desk.queries[other]? = some before) :=
    sound.stays_advance now found there
  -- One query is another one now, and it has kept its owner.
  constructor
  case queries =>
    intro other after there
    rw [toldBy_advance]
    rw [stands] at there
    split at there
    · rename_i same
      subst same
      cases there
      rwa [if_pos rfl]
    · rename_i apart
      rw [if_neg apart, List.append_nil]
      exact sound.queries other after there
  case told =>
    intro other event member
    rcases List.mem_append.mp member with before | new
    · obtain ⟨asker, there, owner⟩ := sound.told other event before
      obtain ⟨after, isThere, kept, -⟩ := stays there
      exact ⟨after, isThere, owner.trans kept.owner.symm⟩
    · obtain ⟨happening, -, same⟩ := List.mem_map.mp new
      cases same
      exact ⟨_, (stands id).trans (if_pos rfl), keeps.owner.symm⟩
  case keys => exact sound.keys
  case registered =>
    intro owner other member
    obtain ⟨before, there, same⟩ := sound.registered owner other member
    obtain ⟨after, isThere, kept, -⟩ := stays there
    exact ⟨after, isThere, kept.owner.trans same⟩
  case newest =>
    intro owner number member other after there owned
    rw [stands] at there
    split at there
    · rename_i same
      subst same
      cases there
      exact sound.newest owner number member id query found (keeps.owner.symm.trans owned)
    · exact sound.newest owner number member other after there owned
  case offered =>
    intro owner other member
    obtain ⟨fresh, before, there, same⟩ := sound.offered owner other member
    obtain ⟨after, isThere, kept, -⟩ := stays there
    exact ⟨fresh, after, isThere, kept.owner.trans same⟩
  case accepted =>
    intro other member
    obtain ⟨before, there⟩ := sound.accepted other member
    obtain ⟨after, isThere, -⟩ := stays there
    exact ⟨after, isThere⟩
  case idle =>
    intro other after there unaccepted
    rw [stands, if_neg (fun (same : id = other) => unaccepted (same ▸ accepted))] at there
    exact sound.idle other after there unaccepted
  case live =>
    intro other after there may
    rw [stands] at there
    split at there
    · rename_i same
      subst same
      cases there
      rw [keeps.owner] at may ⊢
      exact (sound.live id query found may).imp_right keeps.stopped
    · exact sound.live other after there may

end Sound

variable [Host η]

theorem Next.sound {office next : Office η} (happened : office.Next next) (sound : office.Sound) :
    next.Sound := by
  cases happened with
  | handles handles => exact sound.of_kept (handles.kept sound.keys)
  | runs now accepted found => exact sound.advance now accepted found
  | offers made => exact sound.offer made
  | accepts offered => exact sound.accept offered
  | declines offered => exact sound.decline offered
  | abandons offered => exact sound.abandon offered

theorem Course.sound {office later : Office η} (course : office.Course later)
    (sound : office.Sound) : later.Sound := by
  induction course with
  | refl => exact sound
  | tail _ happened ih => exact happened.sound ih

theorem Next.stays {office next : Office η} (happened : office.Next next) (sound : office.Sound)
    {id : QueryId} {query : Query} (found : office.desk.queries[id]? = some query) :
    ∃ after, next.desk.queries[id]? = some after ∧ query.Keeps after ∧ (query.Over → after.Over) := by
  -- Requests only ask something of a query, and a new one takes no place of another.
  cases happened with
  | handles handles => exact (handles.kept sound.keys).stays found
  | runs now accepted there => exact sound.stays_advance now there found
  | offers made =>
    obtain ⟨connection, released, -, freed, -, rfl⟩ := Desk.create_eq_ok made
    obtain ⟨after, there, stays⟩ := (Desk.kept_release sound.keys freed).stays found
    refine ⟨after, ?_, stays⟩
    have inside := (Array.getElem?_eq_some_iff.mp there).1
    exact (Array.getElem?_push_lt inside).trans (Array.getElem?_eq_getElem inside ▸ there)
  | accepts => exact ⟨query, found, .refl query, fun atEnd => atEnd⟩
  | @declines owner number offered =>
    have same := (office.desk.queries_abandon owner number).1
    exact ((office.desk.abandon owner number).kept_disposeQuery number).stays (same ▸ found)
  | @abandons owner number offered =>
    have same := (office.desk.queries_abandon owner number).1
    exact ⟨query, same ▸ found, .refl query, fun atEnd => atEnd⟩

theorem Course.stays {office later : Office η} (course : office.Course later) (sound : office.Sound)
    {id : QueryId} {query : Query} (found : office.desk.queries[id]? = some query) :
    ∃ after, later.desk.queries[id]? = some after ∧ query.Keeps after ∧
      (query.Over → after.Over) := by
  induction course with
  | refl => exact ⟨query, found, .refl query, fun atEnd => atEnd⟩
  | tail before happened ih =>
    obtain ⟨middle, there, keeps, atEnd⟩ := ih
    obtain ⟨after, stands, again, still⟩ := happened.stays (Course.sound before sound) there
    exact ⟨after, stands, keeps.trans again, still ∘ atEnd⟩

end Office

end SqlDesk
