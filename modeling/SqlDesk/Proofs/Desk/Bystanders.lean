import SqlDesk.Proofs.Desk.Dealings

/-! What others do leaves an owner as it is: its connection and settings, its queries with their places,
which of them are registered, offered and accepted, and its saves. -/

set_option autoImplicit false

namespace SqlDesk

open Bureau (Deed Decision)

namespace Bureau

variable {η : Type}

structure Leaves (owner : String) (before after : Bureau η) : Prop where
  connection : after.desk.connection? owner = before.desk.connection? owner
  layer : after.desk.overrides.lookup owner = before.desk.overrides.lookup owner
  ids : after.idsOf owner = before.idsOf owner
  queries : ∀ id ∈ before.idsOf owner, after.desk.queries[id]? = before.desk.queries[id]?
  registered : after.desk.queryId? owner = before.desk.queryId? owner
  offered : ∀ id ∈ before.idsOf owner,
    ((owner, id) ∈ after.office.offered ↔ (owner, id) ∈ before.office.offered)
  accepted : ∀ id ∈ before.idsOf owner, (id ∈ after.desk.accepted ↔ id ∈ before.desk.accepted)
  saving : after.savingOf owner = before.savingOf owner

namespace Leaves

variable {owner : String} {first second third : Bureau η}

theorem refl (owner : String) (bureau : Bureau η) : Leaves owner bureau bureau :=
  ⟨rfl, rfl, rfl, fun _ _ => rfl, rfl, fun _ _ => .rfl, fun _ _ => .rfl, rfl⟩

theorem trans (left : Leaves owner first second) (right : Leaves owner second third) :
    Leaves owner first third where
  connection := right.connection.trans left.connection
  layer := right.layer.trans left.layer
  ids := right.ids.trans left.ids
  queries id member := (right.queries id (left.ids ▸ member)).trans (left.queries id member)
  registered := right.registered.trans left.registered
  offered id member := (right.offered id (left.ids ▸ member)).trans (left.offered id member)
  accepted id member := (right.accepted id (left.ids ▸ member)).trans (left.accepted id member)
  saving := right.saving.trans left.saving

theorem counter (leaves : Leaves owner first second) : second.counter owner = first.counter owner := by
  have place := placeOf_of_ids leaves.ids
  have member {place : Nat} {id : QueryId} (number : (first.idsOf owner)[place]? = some id) :
      id ∈ first.idsOf owner := List.mem_of_getElem? number
  -- A counter has places where the desk has numbers, and no place has moved.
  apply Counter.ext
  case connection => exact leaves.connection
  case layer => exact leaves.layer
  case queries =>
    unfold Bureau.counter
    rw [leaves.ids]
    exact List.filterMap_congr leaves.queries
  case registered =>
    unfold Bureau.counter
    rw [leaves.registered, place]
  case offered =>
    funext number
    simp only [Bureau.counter, leaves.ids]
    cases there : (first.idsOf owner)[number]? with
    | none => rfl
    | some id => simp [leaves.offered id (member there)]
  case accepted =>
    funext number
    simp only [Bureau.counter, leaves.ids]
    cases there : (first.idsOf owner)[number]? with
    | none => rfl
    | some id => simp [leaves.accepted id (member there)]
  case saving =>
    unfold Bureau.counter
    rw [leaves.saving, place]

end Leaves

section

variable {bureau : Bureau η} {owner asker : String} {id : QueryId} {query next : Query}

theorem leaves_setQuery (found : bureau.desk.queries[id]? = some query)
    (owned : next.owner = query.owner) (apart : query.owner ≠ owner) :
    Leaves owner bureau (bureau.withDesk (bureau.desk.setQuery id next)) where
  connection := rfl
  layer := rfl
  ids := idsOf_setQuery found owned owner
  queries other member := by
    refine (Desk.getElem?_setQuery_of_found found next other).trans (if_neg ?_)
    rintro rfl
    obtain ⟨before, there, own⟩ := mem_idsOf.mp member
    cases found.symm.trans there
    exact apart own
  registered := rfl
  offered _ _ := .rfl
  accepted _ _ := .rfl
  saving := rfl

theorem leaves_unregisterQuery (apart : asker ≠ owner) (id : QueryId) :
    Leaves owner bureau (bureau.withDesk (bureau.desk.unregisterQuery asker id)) := by
  unfold Desk.unregisterQuery
  split
  · exact ⟨rfl, rfl, rfl, fun _ _ => rfl, Desk.lookup_unbind (Ne.symm apart), fun _ _ => .rfl,
      fun _ _ => .rfl, rfl⟩
  · exact .refl owner bureau

theorem leaves_decided (other : id ∉ bureau.idsOf owner) :
    Leaves owner bureau { bureau with office := bureau.office.decided id bureau.desk } where
  connection := rfl
  layer := rfl
  ids := rfl
  queries _ _ := rfl
  registered := rfl
  offered number member := by
    have apart : number ≠ id := fun same => other (same ▸ member)
    simp [Office.decided, apart]
  accepted _ _ := .rfl
  saving := rfl

theorem leaves_accept (other : id ∉ bureau.idsOf owner) :
    Leaves owner bureau (bureau.withDesk (bureau.desk.accept id)) where
  connection := rfl
  layer := rfl
  ids := rfl
  queries _ _ := rfl
  registered := rfl
  offered _ _ := .rfl
  accepted number member := by
    have apart : number ≠ id := fun same => other (same ▸ member)
    simp [withDesk, Desk.accept, apart]
  saving := rfl

theorem leaves_saving {saving : List (String × SaveTask)}
    (same : saving.filter (·.1 = owner) = bureau.saving.filter (·.1 = owner)) :
    Leaves owner bureau { bureau with saving } :=
  ⟨rfl, rfl, rfl, fun _ _ => rfl, rfl, fun _ _ => .rfl, fun _ _ => .rfl,
    congrArg (List.map Prod.snd) same⟩

theorem leaves_enrol (apart : query.owner ≠ owner) (id : QueryId) :
    Leaves owner bureau { bureau with
      office := { bureau.office with
        desk := bureau.desk.enrol query
        offered := bureau.office.offered ++ [(query.owner, id)] } } where
  connection := rfl
  layer := rfl
  ids := by
    rw [idsOf_enrol, if_neg apart, List.append_nil]
  queries number member := by
    obtain ⟨before, found, -⟩ := mem_idsOf.mp member
    have inside := (Array.getElem?_eq_some_iff.mp found).1
    exact (Array.getElem?_push_lt inside).trans (Array.getElem?_eq_getElem inside).symm
  registered := Desk.lookup_bind (Ne.symm apart)
  offered number member := by simp [Ne.symm apart]
  accepted _ _ := .rfl
  saving := rfl

theorem leaves_letGo (found : bureau.desk.queries[id]? = some query) (owned : query.owner = asker)
    (apart : asker ≠ owner) :
    Leaves owner bureau
      (bureau.withDesk ((bureau.desk.unregisterQuery asker id).disposeQuery id)) := by
  let unregistered := bureau.withDesk (bureau.desk.unregisterQuery asker id)
  have there : unregistered.desk.queries[id]? = some query :=
    (congrArg (·[id]?) (bureau.desk.queries_abandon asker id).1).trans found
  have disposed := leaves_setQuery there (rfl : query.dispose.owner = query.owner)
    (owned.trans_ne apart)
  rw [← Desk.disposeQuery_of_found there] at disposed
  exact (leaves_unregisterQuery apart id).trans disposed

theorem leaves_beginSave (found : bureau.desk.queries[id]? = some query)
    (owned : query.owner = asker) (apart : asker ≠ owner) {batchId resultId : Nat}
    {request : SaveRequest} (accepted : query.beginSave batchId resultId request.path = .ok next) :
    Leaves owner bureau { bureau.withDesk (bureau.desk.setQuery id next) with
      saving := bureau.saving ++ [(asker, ⟨id, batchId, resultId, request⟩)] } := by
  have keeps := Query.keeps_of_asked (.single (.saves accepted))
  refine (leaves_setQuery found keeps.owner (owned.trans_ne apart)).trans (leaves_saving ?_)
  simp [withDesk, List.filter_append, apart]

theorem leaves_decideOn (found : bureau.desk.queries[id]? = some query)
    (owned : query.owner = asker) (apart : asker ≠ owner) (decision : Decision) :
    Leaves owner bureau (bureau.decideOn asker id decision) := by
  have other : id ∉ bureau.idsOf owner := by
    intro member
    obtain ⟨before, there, own⟩ := mem_idsOf.mp member
    cases found.symm.trans there
    exact apart (owned.symm.trans own)
  let next : Bureau η := { bureau with office := bureau.office.decided id bureau.desk }
  have decided : Leaves owner bureau next := leaves_decided other
  have there : next.desk.queries[id]? = some query := found
  cases decision with
  | accept => exact decided.trans (leaves_accept other)
  | decline => exact decided.trans (leaves_letGo there owned apart)
  | abandon => exact decided.trans (leaves_unregisterQuery apart id)

theorem leaves_write (saves : bureau.SavesOwned) {task : SaveTask}
    (member : task ∈ bureau.savingOf asker) (apart : asker ≠ owner) :
    Leaves owner bureau (bureau.write asker task).2 := by
  obtain ⟨query, found, owned⟩ := mem_idsOf.mp (saves.mem_idsOf member)
  have keeps := Query.keeps_of_asked
    (.single (.saved bureau.tree task.batchId task.resultId task.request : query.Asked _))
  have written := leaves_setQuery found keeps.owner (owned.trans_ne apart)
  have erased : Leaves owner bureau
      { bureau with saving := bureau.saving.erase (asker, task) } := by
    refine leaves_saving ?_
    rw [← List.erase_filter]
    exact List.erase_of_not_mem fun entered => apart (of_decide_eq_true (List.mem_filter.mp entered).2)
  simp only [write, Desk.runSave, found]
  exact ⟨written.connection, written.layer, written.ids, written.queries, written.registered,
    written.offered, written.accepted, erased.saving⟩

theorem leaves_offer (sound : bureau.office.Sound) (apart : asker ≠ owner) {text : String}
    {actual estimated : Bool} {desk : Desk (Recorded η)}
    (made : bureau.desk.create ⟨asker, text, actual, estimated⟩ = .ok (id, desk)) :
    Leaves owner bureau { bureau with
      office := { bureau.office with desk, offered := bureau.office.offered ++ [(asker, id)] } } := by
  obtain ⟨connection, released, -, freed, rfl, rfl⟩ := Desk.create_eq_ok made
  have released : Leaves owner bureau (bureau.withDesk released) := by
    rcases Desk.release_eq_ok freed with ⟨-, rfl⟩ | ⟨number, previous, registered, -, rfl⟩
    · exact .refl owner bureau
    · have found := nth?_of_registered sound registered
      have letGo := leaves_letGo (nth?_eq_some.mp found).2 (owner_of_nth? found) apart
      rwa [Desk.unregisterQuery_of_registered registered] at letGo
  let query := Query.create asker text connection (bureau.desk.settingsFor asker actual estimated)
  have owned : query.owner = asker := rfl
  exact released.trans (leaves_enrol (owned.trans_ne apart) _)

theorem leaves_cancel (sound : bureau.office.Sound) (apart : asker ≠ owner) :
    Leaves owner bureau (bureau.withDesk (bureau.desk.cancel asker).2) := by
  unfold Desk.cancel
  cases registered : bureau.desk.query? asker with
  | none => exact .refl owner bureau
  | some entry =>
    obtain ⟨id, query⟩ := entry
    have found := nth?_of_registered sound registered
    cases cancels : query.cancel with
    | error error =>
      simp only [cancels]
      exact .refl owner bureau
    | ok next =>
      have keeps := Query.keeps_of_asked (.single (.cancels cancels))
      simp only [cancels]
      exact leaves_setQuery (nth?_eq_some.mp found).2 keeps.owner
        ((owner_of_nth? found).trans_ne apart)

theorem leaves_dispose (sound : bureau.office.Sound) (apart : asker ≠ owner)
    {desk : Desk (Recorded η)} (disposed : bureau.desk.dispose asker = .ok desk) :
    Leaves owner bureau (bureau.withDesk desk) := by
  unfold Desk.dispose Desk.require at disposed
  cases registered : bureau.desk.query? asker with
  | none =>
    rw [registered] at disposed
    cases disposed
  | some entry =>
    obtain ⟨id, query⟩ := entry
    rw [registered] at disposed
    cases disposed
    have found := nth?_of_registered sound registered
    have letGo := leaves_letGo (nth?_eq_some.mp found).2 (owner_of_nth? found) apart
    rwa [Desk.unregisterQuery_of_registered registered] at letGo

end

variable [Host η]

theorem leaves_run {bureau : Bureau η} {owner asker : String} {place : Nat} {id : QueryId}
    {query : Query} (sound : bureau.office.Sound)
    (found : bureau.nth? asker place = some (id, query)) (apart : asker ≠ owner) (now : Instant) :
    Leaves owner bureau (bureau.run now id query).2 := by
  have stands := (nth?_eq_some.mp found).2
  have keeps := ((sound.queries id query stands).advance now bureau.desk.world).2
  have sets := leaves_setQuery stands keeps.owner ((owner_of_nth? found).trans_ne apart)
  exact ⟨sets.connection, sets.layer, sets.ids, sets.queries, sets.registered, sets.offered,
    sets.accepted, sets.saving⟩

/-- What one owner does leaves all others as they are. -/
theorem leaves_perform {bureau : Bureau η} (sound : bureau.office.Sound) (saves : bureau.SavesOwned)
    {deed : Deed η} {asker owner : String} (own : deed.owner? = some asker) (apart : asker ≠ owner) :
    Leaves owner bureau (bureau.perform deed).2 := by
  have turn := bureau.turn deed
  revert turn
  generalize (bureau.perform deed).2 = after
  intro turn
  -- Whatever is written to belongs to the owner that asks, who is another one.
  cases turn with
  | defaults | elsewhere | cancelsAll | releasesAll => cases own
  | idle => exact .refl owner bureau
  | connects =>
    obtain rfl := Option.some.inj own
    exact ⟨Desk.lookup_bind (Ne.symm apart), rfl, rfl, fun _ _ => rfl, rfl, fun _ _ => .rfl,
      fun _ _ => .rfl, rfl⟩
  | disconnects =>
    obtain rfl := Option.some.inj own
    exact ⟨Desk.lookup_unbind (Ne.symm apart), rfl, rfl, fun _ _ => rfl, rfl, fun _ _ => .rfl,
      fun _ _ => .rfl, rfl⟩
  | overrides _ settings =>
    obtain rfl := Option.some.inj own
    refine ⟨rfl, ?_, rfl, fun _ _ => rfl, rfl, fun _ _ => .rfl, fun _ _ => .rfl, rfl⟩
    cases settings with
    | none => exact Desk.lookup_unbind (Ne.symm apart)
    | some layer => exact Desk.lookup_bind (Ne.symm apart)
  | offers made =>
    obtain rfl := Option.some.inj own
    exact leaves_offer sound apart made
  | cancels =>
    obtain rfl := Option.some.inj own
    exact leaves_cancel sound apart
  | disposes disposed =>
    obtain rfl := Option.some.inj own
    exact leaves_dispose sound apart disposed
  | saves registered accepted =>
    obtain rfl := Option.some.inj own
    have found := nth?_of_registered sound registered
    exact leaves_beginSave (nth?_eq_some.mp found).2 (owner_of_nth? found) apart accepted
  | decides decision offered =>
    obtain rfl := Option.some.inj own
    obtain ⟨-, query, found, owned⟩ := sound.offered _ _ offered
    exact leaves_decideOn found owned apart decision
  | runs now found =>
    obtain rfl := Option.some.inj own
    exact leaves_run sound found apart now
  | wishes found asked =>
    obtain rfl := Option.some.inj own
    have owned := owner_of_nth? found
    rcases asked with accepted | rfl
    · have keeps := Query.keeps_of_asked (.single (.cancels accepted))
      exact leaves_setQuery (nth?_eq_some.mp found).2 keeps.owner (owned.trans_ne apart)
    · exact leaves_setQuery (nth?_eq_some.mp found).2 rfl (owned.trans_ne apart)
  | wishesSave found accepted =>
    obtain rfl := Option.some.inj own
    exact leaves_beginSave (nth?_eq_some.mp found).2 (owner_of_nth? found) apart accepted
  | writes accepted =>
    obtain rfl := Option.some.inj own
    exact leaves_write saves (List.mem_of_getElem? accepted) apart

end Bureau

end SqlDesk
