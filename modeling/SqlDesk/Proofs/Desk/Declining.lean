import SqlDesk.Proofs.Desk.Terms

/-! Queries that are turned down. A query is offered before it may run, and until somebody has
decided on it anything may be asked, by its owner too: it may have left the register by then, and
another query of the owner may be there. Turning it down takes that query away and no other, and it
never does anything. -/

set_option autoImplicit false

namespace SqlDesk

namespace Desk

variable {η : Type} {desk : Desk η}

/-- Taking a query of an owner out of the register takes out nothing else, whoever is there. -/
theorem queryId?_unregisterQuery {owner : String} {id : QueryId}
    (owned : ∀ name, desk.queryId? name = some id → name = owner) {name : String}
    {other : QueryId} :
    (desk.unregisterQuery owner id).queryId? name = some other ↔
      other ≠ id ∧ desk.queryId? name = some other := by
  -- Nobody else has the query, so the entry of its owner is all that can go.
  unfold unregisterQuery
  by_cases registered : desk.queryId? owner = some id
  · rw [if_pos registered]
    have left := lookup_unbind_eq desk.registered owner name
    change (desk.unregister owner).queryId? name = if owner = name then none else desk.queryId? name
      at left
    rw [left]
    split
    · rename_i same
      rw [← same, registered]
      simp only [reduceCtorEq, Option.some.injEq, false_iff, not_and]
      exact fun apart same => apart same.symm
    · rename_i apart
      refine ⟨fun there => ⟨?_, there⟩, And.right⟩
      rintro rfl
      exact apart (owned name there).symm
  · rw [if_neg registered]
    refine ⟨fun there => ⟨?_, there⟩, And.right⟩
    rintro rfl
    exact registered (owned name there ▸ there)

theorem getElem?_disposeQuery (desk : Desk η) {id other : QueryId} (apart : other ≠ id) :
    (desk.disposeQuery id).queries[other]? = desk.queries[other]? := by
  unfold disposeQuery
  rw [Array.getElem?_modify, if_neg (Ne.symm apart)]

end Desk

namespace Office

variable {η : Type} {office later : Office η} {id : QueryId}

/-- A query may not run and is not registered, nor can it be accepted any more. -/
structure Dismissed (office : Office η) (id : QueryId) : Prop where
  made : id < office.desk.queries.size
  unaccepted : id ∉ office.desk.accepted
  unoffered : ∀ owner, (owner, id) ∉ office.offered
  unregistered : ∀ owner, (owner, id) ∉ office.desk.registered

theorem Sound.queryId?_eq_some (sound : office.Sound) {owner : String} :
    office.desk.queryId? owner = some id ↔ (owner, id) ∈ office.desk.registered :=
  Desk.lookup_eq_some_iff sound.keys

theorem Sound.silent (sound : office.Sound) {query : Query}
    (found : office.desk.queries[id]? = some query) (unaccepted : id ∉ office.desk.accepted) :
    office.toldBy id = [] := by
  have fresh := sound.idle id query found unaccepted
  rcases (sound.queries id query found).story with ⟨-, told, -⟩ | ⟨begun, -⟩
  · exact told
  · exact absurd fresh begun

/-- Giving up a query that has been offered takes no other one out of the register. -/
theorem Sound.queryId?_abandon (sound : office.Sound) {owner : String}
    (offered : (owner, id) ∈ office.offered) {name : String} {other : QueryId} :
    (office.desk.abandon owner id).queryId? name = some other ↔
      other ≠ id ∧ office.desk.queryId? name = some other := by
  obtain ⟨-, query, found, owned⟩ := sound.offered owner id offered
  refine Desk.queryId?_unregisterQuery fun name registered => ?_
  obtain ⟨again, there, own⟩ := sound.registered name id (sound.queryId?_eq_some.mp registered)
  cases found.symm.trans there
  exact own.symm.trans owned

namespace Dismissed

theorem of_kept {desk : Desk η} (dismissed : office.Dismissed id) (kept : office.desk.Kept desk) :
    Dismissed { office with desk } id where
  made := kept.size ▸ dismissed.made
  unaccepted := kept.accepted ▸ dismissed.unaccepted
  unoffered := dismissed.unoffered
  unregistered owner member := dismissed.unregistered owner (kept.registered.subset member)

theorem of_abandoned (sound : office.Sound) {owner : String}
    (offered : (owner, id) ∈ office.offered) :
    (office.decided id (office.desk.abandon owner id)).Dismissed id := by
  obtain ⟨unaccepted, query, found, -⟩ := sound.offered owner id offered
  obtain ⟨queries, accepted⟩ := office.desk.queries_abandon owner id
  constructor
  case made => exact queries ▸ (Array.getElem?_eq_some_iff.mp found).1
  case unaccepted => exact accepted ▸ unaccepted
  case unoffered =>
    intro name member
    simp [decided] at member
  case unregistered =>
    intro name member
    have still := (sound.abandon offered).queryId?_eq_some.mpr member
    exact ((sound.queryId?_abandon offered).mp still).1 rfl

theorem of_declined (sound : office.Sound) {owner : String}
    (offered : (owner, id) ∈ office.offered) :
    (office.decided id (office.desk.decline owner id)).Dismissed id :=
  (of_abandoned sound offered).of_kept ((office.desk.abandon owner id).kept_disposeQuery id)

variable {other : QueryId}

theorem accept (dismissed : office.Dismissed id) {owner : String}
    (offered : (owner, other) ∈ office.offered) : (office.accept other).Dismissed id where
  made := dismissed.made
  unaccepted member := by
    rcases List.mem_append.mp member with before | new
    · exact dismissed.unaccepted before
    · exact dismissed.unoffered owner (List.mem_singleton.mp new ▸ offered)
  unoffered owner member := dismissed.unoffered owner (List.mem_filter.mp member).1
  unregistered := dismissed.unregistered

theorem abandon (dismissed : office.Dismissed id) (owner : String) :
    (office.decided other (office.desk.abandon owner other)).Dismissed id := by
  obtain ⟨queries, accepted⟩ := office.desk.queries_abandon owner other
  constructor
  case made => exact queries ▸ dismissed.made
  case unaccepted => exact accepted ▸ dismissed.unaccepted
  case unoffered => exact fun name member => dismissed.unoffered name (List.mem_filter.mp member).1
  case unregistered =>
    intro name member
    refine dismissed.unregistered name ?_
    change (name, id) ∈ (office.desk.abandon owner other).registered at member
    unfold Desk.abandon Desk.unregisterQuery at member
    split at member
    · exact (Desk.mem_unbind.mp member).1
    · exact member

theorem decline (dismissed : office.Dismissed id) (owner : String) :
    (office.decided other (office.desk.decline owner other)).Dismissed id :=
  (dismissed.abandon owner).of_kept ((office.desk.abandon owner other).kept_disposeQuery other)

theorem offer (dismissed : office.Dismissed id) (sound : office.Sound) {request : QueryRequest}
    {desk : Desk η} (made : office.desk.create request = .ok (other, desk)) :
    Dismissed { office with desk, offered := office.offered ++ [(request.owner, other)] } id := by
  obtain ⟨connection, released, -, freed, rfl, rfl⟩ := Desk.create_eq_ok made
  have kept := Desk.kept_release sound.keys freed
  have still := dismissed.of_kept kept
  -- The number of the new query is one that no query has had so far.
  have old : id ≠ released.queries.size := Nat.ne_of_lt still.made
  constructor
  case made =>
    change id < (released.queries.push _).size
    rw [Array.size_push]
    exact Nat.lt_succ_of_lt still.made
  case unaccepted => exact still.unaccepted
  case unoffered =>
    intro owner member
    rcases List.mem_append.mp member with before | new
    · exact dismissed.unoffered owner before
    · exact old (congrArg Prod.snd (List.mem_singleton.mp new))
  case unregistered =>
    intro owner member
    rcases Desk.mem_bind.mp member with ⟨-, new⟩ | ⟨before, -⟩
    · exact old new
    · exact still.unregistered owner before

end Dismissed

variable [Host η]

theorem Next.dismissed (happened : office.Next later) (sound : office.Sound)
    (dismissed : office.Dismissed id) : later.Dismissed id := by
  cases happened with
  | handles handles => exact dismissed.of_kept (handles.kept sound.keys)
  | offers made => exact dismissed.offer sound made
  | accepts offered => exact dismissed.accept offered
  | declines => exact dismissed.decline _
  | abandons => exact dismissed.abandon _
  | runs =>
    refine ⟨?_, dismissed.unaccepted, dismissed.unoffered, dismissed.unregistered⟩
    exact dismissed.made.trans_eq Array.size_setIfInBounds.symm

theorem Course.dismissed (course : office.Course later) (sound : office.Sound)
    (dismissed : office.Dismissed id) : later.Dismissed id := by
  induction course with
  | refl => exact dismissed
  | tail before happened ih => exact happened.dismissed (Course.sound before sound) ih

theorem Course.accepted (course : office.Course later) (sound : office.Sound)
    (accepted : id ∈ office.desk.accepted) : id ∈ later.desk.accepted := by
  induction course with
  | refl => exact accepted
  | @tail middle next before happened ih =>
    cases happened with
    | handles handles =>
      exact (handles.kept (Course.sound before sound).keys).accepted.symm ▸ ih
    | runs => exact ih
    | offers made =>
      obtain ⟨connection, released, -, freed, rfl, rfl⟩ := Desk.create_eq_ok made
      exact (Desk.kept_release (Course.sound before sound).keys freed).accepted.symm ▸ ih
    | accepts => exact List.mem_append_left _ ih
    | declines => exact (middle.desk.queries_abandon _ _).2.symm ▸ ih
    | abandons => exact (middle.desk.queries_abandon _ _).2.symm ▸ ih

end Office

namespace Bureau

variable {η : Type} {bureau : Bureau η} {owner : String} {place : Nat} {id : QueryId}
  {query : Query}

/-- A query that is turned down or given up is dismissed, and all other queries stay where they are,
in the register and as they are. -/
theorem refused (sound : bureau.office.Sound) (offered : (owner, id) ∈ bureau.office.offered)
    {decision : Decision} (refuses : decision ≠ .accept) :
    let next := bureau.decideOn owner id decision
    next.office.Dismissed id ∧
      ∀ name other query, next.desk.query? name = some (other, query) ↔
        other ≠ id ∧ bureau.desk.query? name = some (other, query) := by
  have abandoned (name : String) (other : QueryId) (query : Query) :
      (bureau.desk.abandon owner id).query? name = some (other, query) ↔
        other ≠ id ∧ bureau.desk.query? name = some (other, query) := by
    rw [Desk.query?_eq_some, Desk.query?_eq_some, sound.queryId?_abandon offered,
      (bureau.desk.queries_abandon owner id).1, and_assoc]
  cases decision with
  | accept => exact absurd rfl refuses
  | abandon => exact ⟨.of_abandoned sound offered, abandoned⟩
  | decline =>
    -- Declining is giving up and then closing the query, of which the register knows nothing.
    refine ⟨.of_declined sound offered, fun name other query => ?_⟩
    have disposed : (bureau.desk.decline owner id).query? name = some (other, query) ↔
        (bureau.desk.abandon owner id).query? name = some (other, query) := by
      rw [Desk.query?_eq_some, Desk.query?_eq_some]
      refine and_congr_right fun registered => ?_
      have apart := ((sound.queryId?_abandon offered).mp registered).1
      rw [Desk.decline, Desk.getElem?_disposeQuery _ apart]
    exact disposed.trans (abandoned name other query)

variable [Host η]

theorem submittedBy_of_unaccepted (sound : bureau.office.Sound)
    (found : bureau.nth? owner place = some (id, query)) (unaccepted : id ∉ bureau.desk.accepted)
    (deed : Deed η) : submittedBy owner place [(deed, (bureau.perform deed).1)] = [] := by
  have submits (answer : Answer) : submittedBy owner place [(deed, answer)] =
      if deed.isRunOf owner place then answer.submitted else [] := List.append_nil _
  rw [submits]
  rcases fares sound deed found with ⟨-, -, accepted⟩ | ⟨quiet, -⟩
  · exact absurd accepted unaccepted
  · split
    · rename_i isRun
      rw [quiet isRun]
      rfl
    · rfl

/-- A query that may not run after deeds has submitted nothing in the course of them. -/
theorem submittedBy_play_of_unaccepted (deeds : List (Deed η)) {bureau : Bureau η} {query : Query}
    (sound : bureau.office.Sound) (found : bureau.nth? owner place = some (id, query))
    (unaccepted : id ∉ (play deeds bureau).2.desk.accepted) :
    submittedBy owner place (play deeds bureau).1 = [] := by
  induction deeds generalizing bureau query with
  | nil => rfl
  | cons deed rest ih =>
    have before : id ∉ bureau.desk.accepted := fun accepted =>
      unaccepted ((course_play (deed :: rest) bureau).accepted sound accepted)
    obtain ⟨next, there⟩ := (bureau.stays_perform sound deed).nth? found
    rw [play_cons, submittedBy_cons, submittedBy_of_unaccepted sound found before deed,
      List.nil_append]
    exact ih ((bureau.course_perform deed).sound sound) there unaccepted

/-- A query stays offered unless it is decided on, whatever else is decided. -/
theorem offered_perform (sound : bureau.office.Sound) {deed : Deed η}
    (found : bureau.nth? owner place = some (id, query))
    (offered : (owner, id) ∈ bureau.office.offered)
    (other : ∀ decision, deed ≠ .decides owner place decision) :
    (owner, id) ∈ (bureau.perform deed).2.office.offered := by
  -- Only a decision takes something out, and another place holds another number.
  by_cases decides : ∃ asker number decision, deed = .decides asker number decision
  · obtain ⟨asker, number, decision, rfl⟩ := decides
    simp only [perform]
    split
    · exact offered
    · rename_i decided there
      split
      · rename_i waiting
        obtain ⟨-, asked, stands, -⟩ := sound.offered asker decided waiting
        have apart : id ≠ decided := by
          rintro rfl
          obtain ⟨rfl, rfl⟩ := place_unique found (nth?_eq_some.mpr ⟨there, stands⟩)
          exact other decision rfl
        cases decision <;> exact List.mem_filter.mpr ⟨offered, decide_eq_true apart⟩
      · exact offered
  · have turn := bureau.turn deed
    revert turn
    generalize (bureau.perform deed).2 = next
    intro turn
    cases turn with
    | decides => exact absurd ⟨_, _, _, rfl⟩ decides
    | offers => exact List.mem_append_left _ offered
    | _ => exact offered

theorem offered_play (deeds : List (Deed η)) {bureau : Bureau η} {query : Query}
    (sound : bureau.office.Sound) (found : bureau.nth? owner place = some (id, query))
    (offered : (owner, id) ∈ bureau.office.offered)
    (undecided : ∀ decision, .decides owner place decision ∉ deeds) :
    (owner, id) ∈ (play deeds bureau).2.office.offered ∧
      ∃ next, (play deeds bureau).2.nth? owner place = some (id, next) := by
  induction deeds generalizing bureau query with
  | nil => exact ⟨offered, query, found⟩
  | cons deed rest ih =>
    have other (decision : Decision) : deed ≠ .decides owner place decision := fun same =>
      undecided decision (same ▸ List.mem_cons_self)
    have later (decision : Decision) : .decides owner place decision ∉ rest := fun member =>
      undecided decision (List.mem_cons_of_mem deed member)
    obtain ⟨next, there⟩ := (bureau.stays_perform sound deed).nth? found
    have still := offered_perform sound found offered other
    exact ih ((bureau.course_perform deed).sound sound) there still later

theorem perform_decides (found : bureau.nth? owner place = some (id, query))
    (offered : (owner, id) ∈ bureau.office.offered) (decision : Decision) :
    bureau.perform (.decides owner place decision) =
      (.done, bureau.decideOn owner id decision) := by
  simp only [perform, (nth?_eq_some.mp found).1, if_pos offered]

/-- A query that has been made is registered and offered, and has the next place of its owner. -/
theorem offered_execute (sound : bureau.office.Sound) {text : String} {actual estimated : Bool}
    (done : (bureau.perform (.asks owner (.execute text actual estimated))).1 = .done) :
    let next := (bureau.perform (.asks owner (.execute text actual estimated))).2
    ∃ id query, next.nth? owner (bureau.idsOf owner).length = some (id, query) ∧
      next.desk.query? owner = some (id, query) ∧ (owner, id) ∈ next.office.offered := by
  intro next
  obtain ⟨connection, id, -, found⟩ := nth?_execute sound done
  have stays : bureau.Stays next := bureau.stays_perform sound _
  have sounds : next.office.Sound := (bureau.course_perform _).sound sound
  obtain ⟨number, desk, made, same⟩ := perform_execute done
  have enrolled : (owner, number) ∈ next.office.offered ∧ next.desk.queryId? owner = some number ∧
      number = bureau.desk.queries.size := by
    obtain ⟨_, released, -, freed, rfl, rfl⟩ := Desk.create_eq_ok made
    have size := (Desk.kept_release sound.keys freed).size
    rw [show next = _ from same]
    exact ⟨List.mem_append_right _ List.mem_cons_self, List.lookup_cons_self, size⟩
  obtain ⟨offered, registered, new⟩ := enrolled
  obtain ⟨place, stands⟩ := nth?_eq_some.mp found
  -- The place is behind those of all queries from before, and the registered query is the newest.
  have last : id = number := by
    apply Nat.le_antisymm
    · exact sounds.newest owner number (sounds.queryId?_eq_some.mp registered) id _ stands rfl
    · rw [stays.idsOf owner, List.getElem?_append_right (Nat.le_refl _)] at place
      have behind := (List.mem_filter.mp (List.mem_of_getElem? place)).1
      exact new ▸ (List.mem_range'_1.mp behind).1
  exact ⟨id, _, found, Desk.query?_eq_some.mpr ⟨last ▸ registered, stands⟩, last ▸ offered⟩

/-- A query has been made for a request. Whatever is asked before somebody decides on it, accepting it
changes nothing in the register. When it is turned down or given up, the other queries that were
registered stay so, in the same states; it is never registered again itself, it has told and submitted
nothing, and it never does. -/
theorem declining_removes_only_the_offer (host : η) (maker : StoreMaker) (defaults : Settings)
    (tree : FileTree) (before during after : List (Deed η)) (owner text : String)
    (actual estimated : Bool)
    (made : ((play before (opened host maker defaults tree)).2.perform
      (.asks owner (.execute text actual estimated))).1 = .done)
    (undecided : ∀ decision, .decides owner
      ((play before (opened host maker defaults tree)).2.idsOf owner).length decision ∉ during) :
    let start := (play before (opened host maker defaults tree)).2
    let place := (start.idsOf owner).length
    let offer := (start.perform (.asks owner (.execute text actual estimated))).2
    let asked := (play during offer).2
    ∃ id query, offer.nth? owner place = some (id, query) ∧
      offer.desk.query? owner = some (id, query) ∧
      (∀ name, (asked.perform (.decides owner place .accept)).2.desk.query? name =
        asked.desk.query? name) ∧
      ∀ decision, decision ≠ .accept →
        let settled := (asked.perform (.decides owner place decision)).2
        let run := play (during ++ .decides owner place decision :: after) offer
        (∀ name other query, settled.desk.query? name = some (other, query) ↔
          other ≠ id ∧ asked.desk.query? name = some (other, query)) ∧
        (∀ name, run.2.desk.queryId? name ≠ some id) ∧
        run.2.office.toldBy id = [] ∧ submittedBy owner place run.1 = [] := by
  intro start place offer asked
  have regular : start.Regular := regular_play host maker defaults tree before
  obtain ⟨id, query, found, registered, offered⟩ := offered_execute regular.sound made
  have sound : offer.office.Sound := (regular.perform _).sound
  have stillSound : asked.office.Sound := (course_play during offer).sound sound
  obtain ⟨waiting, later, there⟩ := offered_play during sound found offered undecided
  refine ⟨id, query, found, registered, fun name => ?_, fun decision refuses => ?_⟩
  · rw [perform_decides there waiting]
    rfl
  intro settled run
  -- From the decision on the query is dismissed, which no later deed can undo.
  obtain ⟨dismissed, others⟩ := refused stillSound waiting refuses
  have settles : settled = asked.decideOn owner id decision :=
    congrArg Prod.snd (perform_decides there waiting decision)
  rw [← settles] at dismissed others
  have settledSound : settled.office.Sound := (asked.course_perform _).sound stillSound
  have ended : run.2 = (play after settled).2 := by
    change (play (during ++ _ :: after) offer).2 = _
    rw [play_append, play_cons]
  have course : settled.office.Course run.2.office := ended ▸ course_play after settled
  have stays := course.dismissed settledSound dismissed
  have runSound := course.sound settledSound
  refine ⟨others, fun name listed => ?_, ?_, ?_⟩
  · exact stays.unregistered name (runSound.queryId?_eq_some.mp listed)
  · exact runSound.silent (Array.getElem?_eq_getElem stays.made) stays.unaccepted
  · exact submittedBy_play_of_unaccepted _ sound found stays.unaccepted

/-- While the first request waits, its query is let go, and another one is made and accepted. -/
def insteadAsked : List (Deed (Array Replay)) :=
  [.asks "o" .dispose, .asks "o" (.execute "b" false false), .decides "o" 1 .accept]

def connected : Bureau (Array Replay) :=
  (play [.asks "o" (.connect 0)] (opened #[⟨[], []⟩] .memory .standard ⟨[], [], []⟩)).2

def waiting : Bureau (Array Replay) := (connected.perform (.asks "o" (.execute "a" false false))).2

def replaced : Bureau (Array Replay) := (play insteadAsked waiting).2

theorem declining_removes_only_the_offer_replaced :
    (waiting.desk.query? "o").map Prod.fst = some 0 ∧
      (replaced.desk.query? "o").map Prod.fst = some 1 ∧
      (replaced.perform (.decides "o" 0 .decline)).2.desk.query? "o" = replaced.desk.query? "o" ∧
      submittedBy "o" 0 (play (insteadAsked ++ [.decides "o" 0 .decline, .runs "o" 0 ⟨0, 0⟩])
        waiting).1 = [] := by
  have made : (connected.perform (.asks "o" (.execute "a" false false))).1 = .done := by rfl
  have nobody : (connected.idsOf "o").length = 0 := by decide +kernel
  have undecided (decision : Decision) :
      (.decides "o" (connected.idsOf "o").length decision : Deed (Array Replay)) ∉ insteadAsked := by
    rw [nobody]
    simp [insteadAsked]
  obtain ⟨id, query, -, registered, -, refusals⟩ :=
    declining_removes_only_the_offer #[⟨[], []⟩] .memory .standard ⟨[], [], []⟩
      [.asks "o" (.connect 0)] insteadAsked [.runs "o" 0 ⟨0, 0⟩] "o" "a" false false made undecided
  have refused := refusals .decline nofun
  unfold connected at nobody
  rw [nobody] at refused
  obtain ⟨others, -, -, silent⟩ := refused
  have first : (waiting.desk.query? "o").map Prod.fst = some 0 := by decide +kernel
  have second : (replaced.desk.query? "o").map Prod.fst = some 1 := by decide +kernel
  have same : (waiting.desk.query? "o").map Prod.fst = some id := congrArg _ registered
  obtain rfl : 0 = id := Option.some.inj (first.symm.trans same)
  obtain ⟨⟨number, other⟩, there, rfl⟩ := Option.map_eq_some_iff.mp second
  exact ⟨first, second, ((others "o" 1 other).mpr ⟨nofun, there⟩).trans there.symm, silent⟩

end Bureau

end SqlDesk
