import SqlDesk.Proofs.Desk.Office
import SqlDesk.Proofs.Query.Disposal

/-! Asking for a query, one change after the other: a predecessor that has ended is taken out of the
register and disposed of before the new query is made, and the register is looked at once more before
it is written to. In an office that comes about that last look finds nothing, so a request is refused
before anything has been changed, or not at all. -/

set_option autoImplicit false

namespace SqlDesk

namespace Desk

variable {η : Type}

/-- Makes and registers a query, unless the owner has one in the register by now. -/
def register (desk : Desk η) (request : QueryRequest) (connection : Connection) :
    Except DeskError QueryId × Desk η :=
  let query := Query.create request.owner request.text connection
    (desk.settingsFor request.owner request.actualPlan request.estimatedPlan)
  match desk.queryId? request.owner with
  | some _ => (.error (.inProgress request.owner), desk)
  | none => (.ok desk.queries.size, desk.enrol query)

/-- Asks for a query. The desk that is left may have been changed whatever the answer. -/
def engage (desk : Desk η) (request : QueryRequest) : Except DeskError QueryId × Desk η :=
  match desk.connection? request.owner with
  | none => (.error (.notConnected request.owner), desk)
  | some connection =>
    match desk.query? request.owner with
    | none => desk.register request connection
    | some (id, previous) =>
      if previous.isTerminal then
        ((desk.unregisterQuery request.owner id).disposeQuery id).register request connection
      else (.error (.inProgress request.owner), desk)

def Busy (desk : Desk η) (owner : String) : Prop :=
  ∃ id query, desk.query? owner = some (id, query) ∧ query.isTerminal = false

/-- What an admitted request makes of a desk. -/
structure Admits (request : QueryRequest) (id : QueryId) (before after : Desk η) : Prop where
  /-- The query is new, waits to be begun, and is the one that is registered for its owner. -/
  registered : ∃ connection, before.connection? request.owner = some connection ∧
    before.queries[id]? = none ∧
    after.query? request.owner = some (id, .create request.owner request.text connection
      (before.settingsFor request.owner request.actualPlan request.estimatedPlan))
  others : ∀ owner, owner ≠ request.owner → after.query? owner = before.query? owner
  queries : ∀ (other : QueryId) (query : Query), before.queries[other]? = some query →
    before.query? request.owner ≠ some (other, query) → after.queries[other]? = some query
  /-- The predecessor has ended. Its stores are closed, and no owner's entry leads to it. -/
  replaced : ∀ (other : QueryId) (previous : Query),
    before.query? request.owner = some (other, previous) →
    previous.isTerminal = true ∧ after.queries[other]? = some previous.dispose ∧
      (∀ batchId resultId result, previous.dispose.result batchId resultId = .ok result →
        result.store.isOpen = false) ∧
      ∀ owner, after.queryId? owner ≠ some other
  world : after.world = before.world
  connections : after.connections = before.connections
  defaults : after.defaults = before.defaults
  overrides : after.overrides = before.overrides
  accepted : after.accepted = before.accepted

end Desk

namespace Office

variable {η : Type}

/-- Asks for a query, offers it, and does as the answer to the offer says. While the offer is looked
at, anything may happen in the office. -/
def execute (office : Office η) (request : QueryRequest)
    (accept : QueryId → Office η → Bool × Office η) : Except DeskError Bool × Office η :=
  match office.desk.engage request with
  | (.error error, desk) => (.error error, { office with desk })
  | (.ok id, desk) =>
    let (accepted, office) :=
      accept id { office with desk, offered := office.offered ++ [(request.owner, id)] }
    (.ok accepted,
      if accepted then office.accept id
      else office.decided id (office.desk.decline request.owner id))

namespace Sound

variable {office : Office η} {request : QueryRequest}

theorem vacant (sound : office.Sound) (nothing : office.desk.query? request.owner = none) :
    office.desk.queryId? request.owner = none := by
  cases registered : office.desk.queryId? request.owner with
  | none => rfl
  | some id =>
    have member := (Desk.lookup_eq_some_iff sound.keys).mp registered
    obtain ⟨query, found, -⟩ := sound.registered _ id member
    rw [Desk.query?_eq_some.mpr ⟨registered, found⟩] at nothing
    cases nothing

theorem owner_of_query? (sound : office.Sound) {owner : String} {id : QueryId} {query : Query}
    (found : office.desk.query? owner = some (id, query)) : query.owner = owner := by
  obtain ⟨registered, there⟩ := Desk.query?_eq_some.mp found
  obtain ⟨other, same, owned⟩ :=
    sound.registered owner id ((Desk.lookup_eq_some_iff sound.keys).mp registered)
  rw [there] at same
  cases same
  exact owned

theorem released {released : Desk η} (sound : office.Sound)
    (freed : office.desk.release request.owner = .ok released) :
    released.queries.size = office.desk.queries.size ∧
      (∀ owner, owner ≠ request.owner → released.queryId? owner = office.desk.queryId? owner) ∧
      (∀ (other : QueryId) (query : Query), office.desk.queries[other]? = some query →
        office.desk.query? request.owner ≠ some (other, query) →
        released.queries[other]? = some query) ∧
      ∀ (other : QueryId) (previous : Query),
        office.desk.query? request.owner = some (other, previous) →
        previous.isTerminal = true ∧ released.queries[other]? = some previous.dispose ∧
          ∀ owner, released.queryId? owner ≠ some other := by
  rcases Desk.release_eq_ok freed with ⟨nothing, rfl⟩ | ⟨id, previous, found, terminal, rfl⟩
  · refine ⟨rfl, fun _ _ => rfl, fun _ _ there _ => there, ?_⟩
    intro other previous found
    rw [nothing] at found
    cases found
  · obtain ⟨registered, there⟩ := Desk.query?_eq_some.mp found
    -- The predecessor is the only query that is written to.
    have stands (other : QueryId) :
        ((office.desk.unregister request.owner).disposeQuery id).queries[other]? =
          if id = other then some previous.dispose else office.desk.queries[other]? := by
      have still : (office.desk.unregister request.owner).queries[id]? = some previous := there
      rw [Desk.disposeQuery_of_found still]
      exact Desk.getElem?_setQuery_of_found still previous.dispose other
    refine ⟨Array.size_modify, fun owner apart => Desk.lookup_unbind apart, ?_, ?_⟩
    · intro other query isThere apart
      rw [stands, if_neg, isThere]
      rintro rfl
      rw [there] at isThere
      cases isThere
      exact apart found
    · intro other before same
      rw [found] at same
      cases same
      refine ⟨terminal, by rw [stands, if_pos rfl], ?_⟩
      intro owner entry
      have member := (Desk.lookup_eq_some_iff (Desk.keys_unbind _ sound.keys)).mp entry
      obtain ⟨before, apart⟩ := Desk.mem_unbind.mp member
      obtain ⟨query, isThere, owned⟩ := sound.registered owner id before
      rw [there] at isThere
      cases isThere
      exact apart (owned.symm.trans (sound.owner_of_query? found))

theorem admits {released : Desk η} {connection : Connection} (sound : office.Sound)
    (connected : office.desk.connection? request.owner = some connection)
    (freed : office.desk.release request.owner = .ok released) :
    office.desk.Admits request released.queries.size
      (released.enrol (.create request.owner request.text connection
        (office.desk.settingsFor request.owner request.actualPlan request.estimatedPlan))) := by
  obtain ⟨size, entries, queries, replaced⟩ := sound.released freed
  have same : released.world = office.desk.world ∧ released.connections = office.desk.connections ∧
      released.defaults = office.desk.defaults ∧ released.overrides = office.desk.overrides ∧
      released.accepted = office.desk.accepted := by
    rcases Desk.release_eq_ok freed with ⟨-, rfl⟩ | ⟨_, _, -, -, rfl⟩ <;>
      exact ⟨rfl, rfl, rfl, rfl, rfl⟩
  obtain ⟨world, connections, defaults, overrides, accepted⟩ := same
  generalize asked : Query.create request.owner request.text connection
    (office.desk.settingsFor request.owner request.actualPlan request.estimatedPlan) = query
  have owner : query.owner = request.owner := by rw [← asked]; rfl
  have inside {other : QueryId} {before : Query}
      (there : office.desk.queries[other]? = some before) : other ≠ released.queries.size := by
    rw [size]
    exact Nat.ne_of_lt (Array.getElem?_eq_some_iff.mp there).1
  have stands (other : QueryId) : (released.enrol query).queries[other]? =
      if other = released.queries.size then some query else released.queries[other]? :=
    Array.getElem?_push
  refine ⟨⟨connection, connected, by rw [size]; exact Array.getElem?_size, ?_⟩, ?_, ?_, ?_, world,
    connections, defaults, overrides, accepted⟩
  · rw [asked]
    refine Desk.query?_eq_some.mpr ⟨?_, by rw [stands, if_pos rfl]⟩
    simp [Desk.queryId?, Desk.enrol, Desk.bind, owner]
  · intro other apart
    have entry : (released.enrol query).queryId? other = office.desk.queryId? other := by
      rw [← entries other apart]
      exact Desk.lookup_bind (owner ▸ apart)
    apply Option.ext
    rintro ⟨id, found⟩
    rw [Desk.query?_eq_some, Desk.query?_eq_some, entry, and_congr_right_iff]
    intro registered
    -- The entry of another owner leads to a query of that owner, which has stayed as it was.
    obtain ⟨before, there, owned⟩ :=
      sound.registered other id ((Desk.lookup_eq_some_iff sound.keys).mp registered)
    have still := queries id before there fun same =>
      apart (owned.symm.trans (sound.owner_of_query? same))
    rw [stands, if_neg (inside there), still, there]
  · intro other before there apart
    rw [stands, if_neg (inside there), queries other before there apart]
  · intro other previous found
    obtain ⟨terminal, there, unreachable⟩ := replaced other previous found
    have old := inside (Desk.query?_eq_some.mp found).2
    refine ⟨terminal, by rw [stands, if_neg old, there], ?_, ?_⟩
    · intro batchId resultId result isThere
      exact Query.isOpen_storeAt_dispose (Query.storeAt_of_result isThere)
    · intro name entry
      by_cases own : name = request.owner
      · have new : (released.enrol query).queryId? name = some released.queries.size := by
          simp [Desk.queryId?, Desk.enrol, Desk.bind, owner, own]
        rw [new] at entry
        exact old (Option.some.inj entry).symm
      · rw [show (released.enrol query).queryId? name = released.queryId? name from
          Desk.lookup_bind (owner ▸ own)] at entry
        exact unreachable name entry

theorem engage_cases (sound : office.Sound) (request : QueryRequest) :
    office.desk.connection? request.owner = none ∧
        office.desk.create request = .error (.notConnected request.owner) ∧
        office.desk.engage request = (.error (.notConnected request.owner), office.desk) ∨
      (office.desk.connection? request.owner).isSome = true ∧ office.desk.Busy request.owner ∧
        office.desk.create request = .error (.inProgress request.owner) ∧
        office.desk.engage request = (.error (.inProgress request.owner), office.desk) ∨
      (office.desk.connection? request.owner).isSome = true ∧ ¬ office.desk.Busy request.owner ∧
        ∃ id desk, office.desk.engage request = (.ok id, desk) ∧
          office.desk.create request = .ok (id, desk) ∧ office.desk.Admits request id desk := by
  -- The cases are those of admission: no connection, no query, one under way, one that is over.
  cases connected : office.desk.connection? request.owner with
  | none => exact .inl ⟨rfl, by simp [Desk.create, connected], by simp [Desk.engage, connected]⟩
  | some connection =>
    refine .inr ?_
    cases found : office.desk.query? request.owner with
    | none =>
      refine .inr ⟨rfl, ?_, ?_⟩
      · rintro ⟨id, query, there, -⟩
        rw [found] at there
        cases there
      · have freed : office.desk.release request.owner = .ok office.desk := by
          simp [Desk.release, found]
        refine ⟨_, _, ?_, Desk.create_of_release connected freed, sound.admits connected freed⟩
        simp [Desk.engage, connected, found, Desk.register, sound.vacant found]
    | some registered =>
      obtain ⟨id, previous⟩ := registered
      cases terminal : previous.isTerminal with
      | false =>
        have kept : office.desk.release request.owner = .error (.inProgress request.owner) := by
          simp [Desk.release, found, terminal]
        refine .inl ⟨rfl, ⟨id, previous, found, terminal⟩, ?_, ?_⟩
        · rw [Desk.create, connected, kept]
          rfl
        · simp [Desk.engage, connected, found, terminal]
      | true =>
        refine .inr ⟨rfl, ?_, ?_⟩
        · rintro ⟨other, query, there, unended⟩
          rw [found] at there
          cases there
          rw [terminal] at unended
          cases unended
        · have freed : office.desk.release request.owner =
              .ok ((office.desk.unregister request.owner).disposeQuery id) := by
            simp [Desk.release, found, terminal]
          refine ⟨_, _, ?_, Desk.create_of_release connected freed, sound.admits connected freed⟩
          have taken := Desk.unregisterQuery_of_registered found
          have vacant : ((office.desk.unregister request.owner).disposeQuery id).queryId?
              request.owner = none := Desk.lookup_unbind_self _ _
          simp only [Desk.engage, connected, found, terminal, if_true, taken, Desk.register, vacant,
            Desk.settingsFor_release freed]

end Sound

variable [Host η]

/-- In whatever way an office has come about, a request for a query is refused just if its owner has
no connection or has a registered query that has not ended. A refusal leaves the whole office as it
was. Otherwise a new query is registered in the place of a predecessor that has ended, is offered, and
is let run or let go as the answer says. -/
theorem execute_admits_or_refuses {world : World η} {defaults : Settings} {office : Office η}
    (reached : Course (opened world defaults) office) (request : QueryRequest)
    (accept : QueryId → Office η → Bool × Office η) :
    ((office.execute request accept).1 = .error (.notConnected request.owner) ↔
      office.desk.connection? request.owner = none) ∧
    ((office.execute request accept).1 = .error (.inProgress request.owner) ↔
      (office.desk.connection? request.owner).isSome = true ∧ office.desk.Busy request.owner) ∧
    (∀ error, (office.execute request accept).1 = .error error →
      (office.execute request accept).2 = office ∧ office.desk.create request = .error error ∧
        (error = .notConnected request.owner ∨ error = .inProgress request.owner)) ∧
    ∀ accepted, (office.execute request accept).1 = .ok accepted →
      ∃ id desk, office.desk.create request = .ok (id, desk) ∧ office.desk.Admits request id desk ∧
        ∃ offered : Office η,
          offered = { office with desk, offered := office.offered ++ [(request.owner, id)] } ∧
          accepted = (accept id offered).1 ∧
          (office.execute request accept).2 =
            if accepted then (accept id offered).2.accept id
            else (accept id offered).2.decided id
              ((accept id offered).2.desk.decline request.owner id) := by
  have sound := reached.sound (sound_opened world defaults)
  rcases sound.engage_cases request with
    ⟨connected, fails, refused⟩ | ⟨connected, busy, fails, refused⟩ |
      ⟨connected, free, id, desk, admitted, made, admits⟩
  · simp [execute, refused, connected, fails]
  · have unlike := Option.isSome_iff_ne_none.mp connected
    simp [execute, refused, connected, busy, unlike, fails]
  · have unlike := Option.isSome_iff_ne_none.mp connected
    simp only [execute, admitted, reduceCtorEq, unlike, free, and_false, IsEmpty.forall_iff,
      implies_true, Except.ok.injEq, true_and]
    rintro accepted rfl
    exact ⟨id, desk, made, admits, _, rfl, rfl, rfl⟩

/-- One owner, whose source gives a result of one row. -/
def connected : Office (Array Replay) where
  desk := (Desk.empty ⟨#[⟨[[.result ⟨⟨[], false⟩, [.row [.int64 1]], none⟩]], []⟩], .file⟩
    .standard).connect "o" 0
  offered := []
  told := []

def firstRequest : QueryRequest := ⟨"o", "a", false, false⟩

def firstQuery : Query := .create "o" "a" 0 (connected.desk.settingsFor "o" false false)

def firstOffered : Office (Array Replay) :=
  { connected with desk := connected.desk.enrol firstQuery, offered := [("o", 0)] }

def firstEnded : Office (Array Replay) := (proceed ⟨0, 0⟩ 0)^[30] (firstOffered.accept 0)

theorem connected_reached : Course (opened ⟨#[⟨[[.result ⟨⟨[], false⟩, [.row [.int64 1]], none⟩]],
    []⟩], .file⟩ .standard) connected := .single (.handles (.connects "o" 0))

theorem firstOffered_reached : Course connected firstOffered := by
  have connection : connected.desk.connection? firstRequest.owner = some 0 := by decide +kernel
  have freed : connected.desk.release firstRequest.owner = .ok connected.desk := rfl
  have made : connected.desk.create firstRequest = .ok (0, connected.desk.enrol firstQuery) :=
    Desk.create_of_release connection freed
  exact .single (.offers made)

theorem firstEnded_reached : Course (opened ⟨#[⟨[[.result ⟨⟨[], false⟩, [.row [.int64 1]], none⟩]],
    []⟩], .file⟩ .standard) firstEnded := by
  have waits : ("o", 0) ∈ firstOffered.offered := List.mem_cons_self
  have accepts : Course firstOffered (firstOffered.accept 0) := .single (.accepts waits)
  have runs : Course (firstOffered.accept 0) firstEnded :=
    course_proceed _ (List.mem_append_right _ List.mem_cons_self) 30
  exact (connected_reached.trans firstOffered_reached).trans (accepts.trans runs)

theorem execute_admits_or_refuses_ended :
    (firstEnded.desk.query? "o").map (·.1) = some 0 ∧
      (firstEnded.execute firstRequest fun _ office => (true, office)).1 = .ok true ∧
      ∃ id desk, firstEnded.desk.create firstRequest = .ok (id, desk) ∧
        ∃ previous : Query, desk.queries[0]? = some previous.dispose ∧
          previous.results.map (·.store.isOpen) = [true] ∧
          (∀ batchId resultId result, previous.dispose.result batchId resultId = .ok result →
            result.store.isOpen = false) := by
  obtain ⟨connection, progress, refused, admitted⟩ :=
    execute_admits_or_refuses firstEnded_reached firstRequest fun _ office => (true, office)
  have connects : firstEnded.desk.connection? firstRequest.owner = some 0 := by decide +kernel
  have registered : (firstEnded.desk.query? "o").map
      (fun found => (found.1, found.2.isTerminal, found.2.results.map (·.store.isOpen))) =
        some (0, true, [true]) := by decide +kernel
  obtain ⟨⟨id, previous⟩, found, shown⟩ := Option.map_eq_some_iff.mp registered
  simp only [Prod.mk.injEq] at shown
  obtain ⟨rfl, terminal, opened⟩ := shown
  cases answer : (firstEnded.execute firstRequest fun _ office => (true, office)).1 with
  | error error =>
    rcases (refused error answer).2.2 with rfl | rfl
    · rw [connection.mp answer] at connects
      cases connects
    · obtain ⟨-, id, query, there, unended⟩ := progress.mp answer
      rw [show firstRequest.owner = "o" from rfl, found] at there
      cases there
      rw [terminal] at unended
      cases unended
  | ok accepted =>
    obtain ⟨id, desk, made, admits, offered, -, yes, -⟩ := admitted accepted answer
    obtain ⟨-, disposed, closed, -⟩ := admits.replaced 0 previous found
    subst yes
    exact ⟨by rw [found]; rfl, rfl, id, desk, made, previous, disposed, opened, closed⟩

end Office

end SqlDesk
