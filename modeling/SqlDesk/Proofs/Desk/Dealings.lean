import SqlDesk.Proofs.Desk.Counter

/-! What deeds of an owner make of its counter: whatever an owner does at an office, it could do at its
counter alone, given what all owners share. -/

set_option autoImplicit false

namespace SqlDesk

namespace Bureau

variable {η : Type}

section

variable {bureau : Bureau η} {owner : String} {place : Nat} {id : QueryId} {query next : Query}

theorem id_of_place (found : bureau.nth? owner place = some (id, query)) {number : Nat}
    {other : QueryId} (there : (bureau.idsOf owner)[number]? = some other) :
    other = id ↔ number = place := by
  have here := (nth?_eq_some.mp found).1
  constructor
  · rintro rfl
    have inside := (List.getElem?_eq_some_iff.mp there).1
    exact (List.getElem?_inj inside (bureau.nodup_idsOf owner)).mp (there.trans here.symm)
  · rintro rfl
    exact Option.some.inj (there.symm.trans here)

theorem counter_setQuery (found : bureau.nth? owner place = some (id, query))
    (owned : next.owner = query.owner) :
    (bureau.withDesk (bureau.desk.setQuery id next)).counter owner =
      (bureau.counter owner).setQuery place next := by
  have stands := (nth?_eq_some.mp found).2
  have ids := idsOf_setQuery stands owned owner
  have places := placeOf_of_ids ids
  apply Counter.ext
  case connection | layer => rfl
  case registered => exact congrArg (Option.map · _) places
  case offered | accepted =>
    funext number
    simp only [counter, Counter.setQuery, ids]
    rfl
  case saving =>
    simp only [counter, Counter.setQuery, places]
    rfl
  case queries =>
    -- The counter finds a query by its place, the desk by its number, and one of each changes.
    apply List.ext_getElem?
    intro number
    have after := Desk.getElem?_setQuery_of_found stands next
    change _ = ((bureau.counter owner).queries.set place next)[number]?
    rw [getElem?_queries, ids, List.getElem?_set]
    by_cases here : place = number
    · subst here
      have inside := (List.getElem?_eq_some_iff.mp (getElem?_queries_of_nth? found)).1
      rw [if_pos rfl, if_pos inside, (nth?_eq_some.mp found).1]
      exact (after id).trans (if_pos rfl)
    · rw [if_neg here, getElem?_queries]
      cases there : (bureau.idsOf owner)[number]? with
      | none => rfl
      | some other =>
        have apart : id ≠ other := fun same => here ((id_of_place found there).mp same.symm).symm
        exact (after other).trans (if_neg apart)

theorem counter_unregisterQuery (found : bureau.nth? owner place = some (id, query)) :
    (bureau.withDesk (bureau.desk.unregisterQuery owner id)).counter owner =
      (bureau.counter owner).unregister place := by
  -- The place is registered just if the number of the query there is.
  have same : (bureau.counter owner).registered = some place ↔
      bureau.desk.queryId? owner = some id := by
    constructor
    · intro registered
      obtain ⟨other, number, there⟩ := Option.map_eq_some_iff.mp registered
      have inside := (List.getElem?_eq_some_iff.mp (nth?_eq_some.mp found).1).1
      have member : other ∈ bureau.idsOf owner :=
        List.idxOf_lt_length_iff.mp (there.trans_lt inside)
      have stands : (bureau.idsOf owner)[place]? = some other := there ▸ List.getElem?_idxOf member
      rw [number, (id_of_place found stands).mpr rfl]
    · intro registered
      exact (congrArg (Option.map _) registered).trans (congrArg some (placeOf_of_nth? found))
  unfold Desk.unregisterQuery Counter.unregister
  by_cases registered : bureau.desk.queryId? owner = some id
  · rw [if_pos registered, if_pos (same.mpr registered)]
    have gone : (bureau.desk.unregister owner).queryId? owner = none := Desk.lookup_unbind_self _ _
    apply Counter.ext
    case registered => exact congrArg (Option.map _) gone
    case connection | layer | queries | offered | accepted | saving => rfl
  · rw [if_neg registered, if_neg fun here => registered (same.mp here)]
    rfl

/-- What is asked of the numbers of an owner is asked of the places, and changes at one place if it
changes for one number. -/
theorem any_update (found : bureau.nth? owner place = some (id, query)) {before after : QueryId → Bool}
    {value : Bool} (here : after id = value) (others : ∀ other, other ≠ id → after other = before other) :
    (fun number => ((bureau.idsOf owner)[number]?).any after) =
      Function.update (fun number => ((bureau.idsOf owner)[number]?).any before) place value := by
  funext number
  rw [Function.update_apply]
  by_cases same : number = place
  · rw [if_pos same, same, (nth?_eq_some.mp found).1]
    exact here
  · rw [if_neg same]
    cases there : (bureau.idsOf owner)[number]? with
    | none => rfl
    | some other => exact others other (mt (id_of_place found there).mp same)

theorem counter_decided (found : bureau.nth? owner place = some (id, query)) :
    counter { bureau with office := bureau.office.decided id bureau.desk } owner =
      { bureau.counter owner with
        offered := Function.update (bureau.counter owner).offered place false } := by
  apply Counter.ext
  case connection | layer | queries | registered | accepted | saving => rfl
  case offered =>
    apply any_update found
    · simp [Office.decided]
    · intro other apart
      simp [Office.decided, apart]

theorem counter_accept (found : bureau.nth? owner place = some (id, query)) :
    (bureau.withDesk (bureau.desk.accept id)).counter owner =
      { bureau.counter owner with
        accepted := Function.update (bureau.counter owner).accepted place true } := by
  apply Counter.ext
  case connection | layer | queries | registered | offered | saving => rfl
  case accepted =>
    apply any_update found
    · simp [withDesk, Desk.accept]
    · intro other apart
      simp [withDesk, Desk.accept, apart]

theorem counter_saves (found : bureau.nth? owner place = some (id, query)) (batchId resultId : Nat)
    (request : SaveRequest) :
    counter { bureau with saving := bureau.saving ++ [(owner, ⟨id, batchId, resultId, request⟩)] }
        owner =
      { bureau.counter owner with
        saving := (bureau.counter owner).saving ++ [⟨place, batchId, resultId, request⟩] } := by
  apply Counter.ext
  case connection | layer | queries | registered | offered | accepted => rfl
  case saving =>
    have here := placeOf_of_nth? found
    have saving : savingOf { bureau with
          saving := bureau.saving ++ [(owner, ⟨id, batchId, resultId, request⟩)] } owner =
        bureau.savingOf owner ++ [⟨id, batchId, resultId, request⟩] := by
      simp [savingOf, List.filter_append]
    change List.map (fun task : SaveTask => task.inPlace (bureau.placeOf owner task.queryId)) _ = _
    rw [saving, List.map_append, List.map_singleton, here]
    rfl

theorem nth?_of_queries {before after : Bureau η} (same : after.desk.queries = before.desk.queries)
    (owner : String) (place : Nat) : after.nth? owner place = before.nth? owner place := by
  unfold nth? idsOf
  rw [same]

theorem counter_letGo (found : bureau.nth? owner place = some (id, query)) :
    (bureau.withDesk ((bureau.desk.unregisterQuery owner id).disposeQuery id)).counter owner =
      ((bureau.counter owner).unregister place).setQuery place query.dispose := by
  let unregistered := bureau.withDesk (bureau.desk.unregisterQuery owner id)
  have same : unregistered.desk.queries = bureau.desk.queries :=
    (bureau.desk.queries_abandon owner id).1
  have there : unregistered.nth? owner place = some (id, query) :=
    (nth?_of_queries same owner place).trans found
  calc
    _ = (unregistered.withDesk (unregistered.desk.setQuery id query.dispose)).counter owner :=
      congrArg (fun desk => (bureau.withDesk desk).counter owner)
        (Desk.disposeQuery_of_found (nth?_eq_some.mp there).2)
    _ = (unregistered.counter owner).setQuery place query.dispose := counter_setQuery there rfl
    _ = _ := congrArg (·.setQuery place query.dispose) (counter_unregisterQuery found)

theorem counter_release (sound : bureau.office.Sound) (owner : String) :
    (bureau.counter owner).release owner =
      (bureau.desk.release owner).map fun desk => (bureau.withDesk desk).counter owner := by
  unfold Counter.release Desk.release
  cases registered : bureau.desk.query? owner with
  | none =>
    rw [query?_of_unregistered sound registered]
    rfl
  | some entry =>
    obtain ⟨id, query⟩ := entry
    rw [query?_of_registered sound registered]
    have letGo := counter_letGo (nth?_of_registered sound registered)
    rw [Desk.unregisterQuery_of_registered registered] at letGo
    cases terminal : query.isTerminal with
    | false => simp only [terminal, Except.map, Bool.false_eq_true, if_false]
    | true => simp only [terminal, Except.map, if_true, letGo]

theorem length_queries (bureau : Bureau η) (owner : String) :
    (bureau.counter owner).queries.length = (bureau.idsOf owner).length := by
  refine List.filterMap_length_eq_length.mpr fun id member => ?_
  obtain ⟨query, found, -⟩ := mem_idsOf.mp member
  rw [found]
  rfl

/-- Saves are of queries of the owners who have asked for them. -/
def SavesOwned (bureau : Bureau η) : Prop :=
  ∀ (owner : String) (task : SaveTask), (owner, task) ∈ bureau.saving →
    task.queryId ∈ bureau.idsOf owner

theorem SavesOwned.mem_idsOf (owned : bureau.SavesOwned) {task : SaveTask}
    (member : task ∈ bureau.savingOf owner) : task.queryId ∈ bureau.idsOf owner := by
  obtain ⟨⟨asker, task⟩, inside, rfl⟩ := List.mem_map.mp member
  obtain ⟨there, own⟩ := List.mem_filter.mp inside
  obtain rfl : asker = owner := of_decide_eq_true own
  exact owned asker task there

theorem counter_enrol (sound : bureau.office.Sound) (saves : bureau.SavesOwned) (query : Query) :
    counter { bureau with
        office := { bureau.office with
          desk := bureau.desk.enrol query
          offered := bureau.office.offered ++ [(query.owner, bureau.desk.queries.size)] } }
        query.owner =
      (bureau.counter query.owner).enrol query := by
  let owner := query.owner
  let ids := bureau.idsOf owner
  let new := bureau.desk.queries.size
  have numbers := idsOf_enrol bureau query
    (bureau.office.offered ++ [(query.owner, bureau.desk.queries.size)]) query.owner
  rw [if_pos rfl] at numbers
  -- The new query has the next number, of which nothing at the desk knows yet.
  have older {id : QueryId} (member : id ∈ ids) : id ≠ new := by
    obtain ⟨before, found, -⟩ := mem_idsOf.mp member
    exact Nat.ne_of_lt (Array.getElem?_eq_some_iff.mp found).1
  have fresh : new ∉ ids := fun member => older member rfl
  have unaccepted : new ∉ bureau.desk.accepted := by
    intro accepted
    obtain ⟨before, found⟩ := sound.accepted new accepted
    rw [Array.getElem?_size] at found
    cases found
  have length : (bureau.counter owner).queries.length = ids.length := bureau.length_queries owner
  -- Its place is the one behind those of all other queries of the owner.
  have place (number : Nat) : (ids ++ [new])[number]? =
      if number = ids.length then some new else ids[number]? := by
    rw [List.getElem?_append]
    split
    · rename_i inside
      rw [if_neg (Nat.ne_of_lt inside)]
    · by_cases last : number = ids.length
      · simp [last]
      · rw [if_neg last, List.getElem?_eq_none (by simp; omega),
          List.getElem?_eq_none (by omega)]
  apply Counter.ext
  case connection | layer => rfl
  case queries =>
    change List.filterMap ((bureau.desk.queries.push query)[·]?) (idsOf _ owner) = _
    rw [numbers, List.filterMap_append,
      List.filterMap_cons_some (Array.getElem?_push_size : _ = some query)]
    congr 1
    refine List.filterMap_congr fun id member => ?_
    exact Array.getElem?_push.trans (if_neg (older member))
  case registered =>
    change ((Desk.bind bureau.desk.registered owner new).lookup owner).map _ = some _
    rw [Desk.lookup_bind_eq, if_pos rfl, Option.map_some, placeOf, numbers, length,
      List.idxOf_append_of_notMem fresh, List.idxOf_cons_self, Nat.add_zero]
  case offered =>
    funext number
    change ((idsOf _ owner)[number]?).any _ =
      Function.update (bureau.counter owner).offered (bureau.counter owner).queries.length true number
    rw [numbers, place, Function.update_apply, length]
    split
    · simp [new]
    · change _ = (ids[number]?).any _
      cases there : ids[number]? with
      | none => rfl
      | some id => simp [older (List.mem_of_getElem? there), owner, new]
  case accepted =>
    funext number
    change ((idsOf _ owner)[number]?).any _ = (ids[number]?).any _
    rw [numbers, place]
    split
    · rename_i last
      rw [last, List.getElem?_eq_none (Nat.le_refl _)]
      simp [Desk.enrol, unaccepted]
    · rfl
  case saving =>
    refine List.map_congr_left fun task member => ?_
    rw [placeOf, numbers, List.idxOf_append_of_mem (saves.mem_idsOf member)]
    rfl

theorem map_erase_of_apart {α β : Type} [BEq α] [LawfulBEq α] [BEq β] [LawfulBEq β] {f : α → β}
    {item : α} {items : List α} (apart : ∀ other ∈ items, f other = f item → other = item) :
    (items.erase item).map f = (items.map f).erase (f item) := by
  induction items with
  | nil => rfl
  | cons first rest ih =>
    have others := ih fun other member => apart other (List.mem_cons_of_mem _ member)
    by_cases here : first = item
    · subst here
      rw [List.erase_cons_head, List.map_cons, List.erase_cons_head]
    · have kept : f first ≠ f item := fun same => here (apart first List.mem_cons_self same)
      rw [List.erase_cons_tail (by simpa using here), List.map_cons, List.map_cons,
        List.erase_cons_tail (by simpa using kept), others]

theorem savingOf_erase (bureau : Bureau η) (owner : String) (task : SaveTask) :
    savingOf { bureau with saving := bureau.saving.erase (owner, task) } owner =
      (bureau.savingOf owner).erase task := by
  have apart : ∀ entry ∈ bureau.saving.filter (·.1 = owner),
      entry.2 = (owner, task).2 → entry = (owner, task) := by
    intro entry member same
    exact Prod.ext (of_decide_eq_true (List.mem_filter.mp member).2) same
  unfold savingOf
  rw [← map_erase_of_apart apart, List.erase_filter]

theorem counter_erase (saves : bureau.SavesOwned) {task : SaveTask}
    (member : task ∈ bureau.savingOf owner) :
    counter { bureau with saving := bureau.saving.erase (owner, task) } owner =
      { bureau.counter owner with
        saving := (bureau.counter owner).saving.erase
          (task.inPlace (bureau.placeOf owner task.queryId)) } := by
  apply Counter.ext
  case connection | layer | queries | registered | offered | accepted => rfl
  case saving =>
    refine (congrArg (List.map _) (savingOf_erase bureau owner task)).trans ?_
    refine map_erase_of_apart fun other there same => ?_
    have places : bureau.placeOf owner other.queryId = bureau.placeOf owner task.queryId :=
      congrArg SaveTask.queryId same
    have ids : other.queryId = task.queryId :=
      (List.idxOf_inj (saves.mem_idsOf there)).mp places
    cases other
    cases task
    simp_all [SaveTask.inPlace]

theorem counter_write (saves : bureau.SavesOwned) {task : SaveTask}
    (member : task ∈ bureau.savingOf owner) :
    (bureau.counter owner).write bureau.tree (task.inPlace (bureau.placeOf owner task.queryId)) =
      ((bureau.write owner task).1, (bureau.write owner task).2.counter owner,
        (bureau.write owner task).2.tree) := by
  obtain ⟨query, found, owned⟩ := mem_idsOf.mp (saves.mem_idsOf member)
  have here := nth?_placeOf found owned
  have keeps := Query.keeps_of_asked
    (.single (.saved bureau.tree task.batchId task.resultId task.request : query.Asked _))
  let rest : Bureau η := { bureau with saving := bureau.saving.erase (owner, task) }
  have there : rest.nth? owner (bureau.placeOf owner task.queryId) = some (task.queryId, query) := here
  have goes := counter_setQuery there keeps.owner
  rw [counter_erase saves member] at goes
  unfold Counter.write write Desk.runSave
  rw [found]
  simp only [SaveTask.inPlace, getElem?_queries_of_nth? here]
  exact Prod.ext rfl (Prod.ext goes.symm rfl)

theorem counter_cancel (found : bureau.nth? owner place = some (id, query))
    (cancels : query.cancel = .ok next) :
    (bureau.withDesk (bureau.desk.setQuery id next)).counter owner =
      (bureau.counter owner).setQuery place next :=
  counter_setQuery found (Query.keeps_of_asked (.single (.cancels cancels))).owner

theorem counter_beginSave (found : bureau.nth? owner place = some (id, query))
    (batchId resultId : Nat) (request : SaveRequest)
    (accepted : query.beginSave batchId resultId request.path = .ok next) :
    counter { bureau.withDesk (bureau.desk.setQuery id next) with
        saving := bureau.saving ++ [(owner, ⟨id, batchId, resultId, request⟩)] } owner =
      { (bureau.counter owner).setQuery place next with
        saving := (bureau.counter owner).saving ++ [⟨place, batchId, resultId, request⟩] } := by
  have owned := (Query.keeps_of_asked (.single (.saves accepted))).owner
  have sets := counter_setQuery found owned
  have stands := Desk.getElem?_setQuery_of_found (nth?_eq_some.mp found).2 next id
  let set := bureau.withDesk (bureau.desk.setQuery id next)
  have there : set.nth? owner place = some (id, next) :=
    nth?_eq_some.mpr ⟨(idsOf_setQuery (nth?_eq_some.mp found).2 owned owner).symm ▸
      (nth?_eq_some.mp found).1, stands.trans (if_pos rfl)⟩
  exact (counter_saves there batchId resultId request).trans (by rw [sets]; rfl)

theorem counter_ask (sound : bureau.office.Sound) (saves : bureau.SavesOwned) (owner : String)
    (request : Request) :
    (bureau.counter owner).ask owner bureau.desk.defaults request =
      ((bureau.ask owner request).1, (bureau.ask owner request).2.counter owner) := by
  cases request with
  | connect connection =>
    refine Prod.ext rfl (Counter.ext ?_ rfl rfl rfl rfl rfl rfl)
    exact ((Desk.lookup_bind_eq _ owner owner connection).trans (if_pos rfl)).symm
  | disconnect =>
    refine Prod.ext rfl (Counter.ext ?_ rfl rfl rfl rfl rfl rfl)
    exact ((Desk.lookup_unbind_eq _ owner owner).trans (if_pos rfl)).symm
  | override settings =>
    refine Prod.ext rfl (Counter.ext rfl ?_ rfl rfl rfl rfl rfl)
    cases settings with
    | none => exact ((Desk.lookup_unbind_eq _ owner owner).trans (if_pos rfl)).symm
    | some layer => exact ((Desk.lookup_bind_eq _ owner owner layer).trans (if_pos rfl)).symm
  | execute text actual estimated =>
    have connects : (bureau.counter owner).connection = bureau.desk.connection? owner := rfl
    simp only [Counter.ask, ask, connects]
    cases connected : bureau.desk.connection? owner with
    | none =>
      simp only [Desk.create, connected]
    | some connection =>
      simp only [counter_release sound owner]
      cases freed : bureau.desk.release owner with
      | error error =>
        simp only [Desk.create, connected, freed]
        rfl
      | ok desk =>
        have kept := Desk.kept_release sound.keys freed
        have still : (bureau.withDesk desk).SavesOwned := fun asker task member =>
          (idsOf_of_kept kept asker).symm ▸ saves asker task member
        have soundly : (bureau.withDesk desk).office.Sound := sound.of_kept kept
        rw [Desk.create_of_release connected freed, Desk.settingsFor_eq_layered]
        let query := Query.create owner text connection (Settings.layered bureau.desk.defaults
          (bureau.desk.overrides.lookup owner) actual estimated)
        exact Prod.ext rfl (counter_enrol soundly still query).symm
  -- The query that is registered is the one at the place that the counter has for it.
  | window batchId resultId start count =>
    simp only [Counter.ask, ask, Desk.window, Desk.require]
    cases registered : bureau.desk.query? owner with
    | none => rw [query?_of_unregistered sound registered]; rfl
    | some entry =>
      obtain ⟨id, query⟩ := entry
      rw [query?_of_registered sound registered]
      cases shown : query.window batchId resultId start count <;> simp [shown, Bind.bind, Except.bind]
  | cancel =>
    simp only [Counter.ask, ask, Desk.cancel]
    cases registered : bureau.desk.query? owner with
    | none => rw [query?_of_unregistered sound registered]; rfl
    | some entry =>
      obtain ⟨id, query⟩ := entry
      rw [query?_of_registered sound registered]
      cases cancels : query.cancel with
      | error error => simp only [cancels]; rfl
      | ok next =>
        simp only [cancels, counter_cancel (nth?_of_registered sound registered) cancels]
  | dispose =>
    simp only [Counter.ask, ask, Desk.dispose, Desk.require]
    cases registered : bureau.desk.query? owner with
    | none => rw [query?_of_unregistered sound registered]; rfl
    | some entry =>
      obtain ⟨id, query⟩ := entry
      rw [query?_of_registered sound registered]
      have letGo := counter_letGo (nth?_of_registered sound registered)
      rw [Desk.unregisterQuery_of_registered registered] at letGo
      exact Prod.ext rfl letGo.symm
  | save batchId resultId request =>
    simp only [Counter.ask, ask, Desk.beginSave, Desk.require]
    cases registered : bureau.desk.query? owner with
    | none => rw [query?_of_unregistered sound registered]; rfl
    | some entry =>
      obtain ⟨id, query⟩ := entry
      rw [query?_of_registered sound registered]
      have here := nth?_of_registered sound registered
      simp only [Counter.beginSave, Bind.bind, Except.bind]
      cases accepted : query.beginSave batchId resultId request.path with
      | error error => rfl
      | ok next => exact Prod.ext rfl (counter_beginSave here batchId resultId request accepted).symm

theorem counter_decideOn (found : bureau.nth? owner place = some (id, query)) (decision : Decision) :
    (bureau.decideOn owner id decision).counter owner =
      (bureau.counter owner).decide place query decision := by
  have decided := counter_decided found
  let next : Bureau η := { bureau with office := bureau.office.decided id bureau.desk }
  have there : next.nth? owner place = some (id, query) := found
  cases decision with
  | accept => exact (counter_accept there).trans (by rw [decided]; rfl)
  | decline => exact (counter_letGo there).trans (by rw [decided]; rfl)
  | abandon => exact (counter_unregisterQuery there).trans (by rw [decided]; rfl)

theorem counter_wish (found : bureau.nth? owner place = some (id, query)) (wish : Wish) :
    (bureau.counter owner).wish place query wish =
      ((bureau.wish owner id query wish).1, (bureau.wish owner id query wish).2.counter owner) := by
  cases wish with
  | dispose =>
    have goes := counter_setQuery found (rfl : query.dispose.owner = query.owner)
    exact Prod.ext rfl goes.symm
  | cancel =>
    simp only [Counter.wish, Bureau.wish]
    cases cancels : query.cancel with
    | error error => rfl
    | ok next => exact Prod.ext rfl (counter_cancel found cancels).symm
  | save batchId resultId request =>
    simp only [Counter.wish, Bureau.wish, Counter.beginSave]
    cases accepted : query.beginSave batchId resultId request.path with
    | error error => rfl
    | ok next => exact Prod.ext rfl (counter_beginSave found batchId resultId request accepted).symm

theorem commons_ask (bureau : Bureau η) (owner : String) (request : Request) :
    (bureau.ask owner request).2.commons = bureau.commons := by
  cases request with
  | connect | disconnect | override => rfl
  | cancel =>
    simp only [ask, Desk.cancel]
    split
    · rfl
    · split <;> rfl
  | execute text actual estimated =>
    simp only [ask]
    cases made : bureau.desk.create ⟨owner, text, actual, estimated⟩ with
    | error error => rfl
    | ok offer =>
      obtain ⟨connection, released, -, freed, -, same⟩ := Desk.create_eq_ok made
      have kept : (bureau.withDesk released).commons = bureau.commons := by
        rcases Desk.release_eq_ok freed with ⟨-, rfl⟩ | ⟨id, query, -, -, rfl⟩ <;> rfl
      simp only [same]
      exact kept
  | window =>
    simp only [ask]
    split <;> rfl
  | dispose =>
    simp only [ask, Desk.dispose, Desk.require]
    cases bureau.desk.query? owner <;> rfl
  | save batchId resultId request =>
    simp only [ask]
    split
    · rfl
    · rename_i accepted
      obtain ⟨id, query, next, -, -, rfl, -⟩ := Desk.beginSave_eq_ok accepted
      rfl

theorem commons_decideOn (bureau : Bureau η) (owner : String) (id : QueryId) (decision : Decision) :
    (bureau.decideOn owner id decision).commons = bureau.commons := by
  cases decision with
  | accept => rfl
  | decline | abandon =>
    simp only [decideOn, Desk.decline, Desk.abandon, Desk.unregisterQuery]
    split <;> rfl

theorem commons_wish (bureau : Bureau η) (owner : String) (id : QueryId) (query : Query)
    (wish : Wish) : (bureau.wish owner id query wish).2.commons = bureau.commons := by
  cases wish with
  | dispose => rfl
  | cancel | save =>
    simp only [Bureau.wish]
    split <;> rfl

theorem commons_write (bureau : Bureau η) (owner : String) (task : SaveTask) :
    (bureau.write owner task).2.commons =
      { bureau.commons with tree := (bureau.write owner task).2.tree } := by
  simp only [write, Desk.runSave]
  split <;> rfl

end

def Deed.saves? : Deed η → Option SaveRequest
  | asks _ (.save _ _ request) | wishes _ _ (.save _ _ request) => some request
  | _ => none

variable [Host η]

theorem counter_run {bureau : Bureau η} {owner : String} {place : Nat} {id : QueryId} {query : Query}
    (sound : bureau.office.Sound) (found : bureau.nth? owner place = some (id, query))
    (now : Instant) :
    (bureau.run now id query).2.counter owner =
      (bureau.counter owner).setQuery place (query.advance now bureau.desk.world).2.1 := by
  have keeps := ((sound.queries id query (nth?_eq_some.mp found).2).advance now bureau.desk.world).2
  exact counter_setQuery found keeps.owner

/-- What becomes of a deed of an owner is settled by what the owner has and by what all share. -/
theorem counter_perform {bureau : Bureau η} {owner : String} (sound : bureau.office.Sound)
    (saves : bureau.SavesOwned) {deed : Deed η} (own : deed.owner? = some owner) :
    (bureau.counter owner).perform owner bureau.commons deed =
      ((bureau.perform deed).1, (bureau.perform deed).2.counter owner,
        (bureau.perform deed).2.commons) := by
  -- In each case the counter looks up by place what the desk looks up by number.
  cases deed with
  | defaults | elsewhere | cancelsAll | releasesAll => cases own
  | asks asker request =>
    obtain rfl : asker = owner := Option.some.inj own
    have asked := counter_ask sound saves asker request
    simp only [Counter.perform, perform, commons_ask]
    exact congrArg (fun (result : Answer × Counter) => (result.1, result.2, bureau.commons)) asked
  | decides asker place decision =>
    obtain rfl : asker = owner := Option.some.inj own
    simp only [Counter.perform, perform, getElem?_queries]
    cases number : (bureau.idsOf asker)[place]? with
    | none => rfl
    | some id =>
      obtain ⟨query, stands, -⟩ := mem_idsOf.mp (List.mem_of_getElem? number)
      have found : bureau.nth? asker place = some (id, query) := nth?_eq_some.mpr ⟨number, stands⟩
      simp only [Option.bind_some, stands, offered_of_nth? found, decide_eq_true_eq]
      split
      · rw [counter_decideOn found, commons_decideOn]
      · rfl
  | runs asker place now =>
    obtain rfl : asker = owner := Option.some.inj own
    simp only [Counter.perform, perform]
    cases found : bureau.nth? asker place with
    | none =>
      rw [nth?_eq_none.mp found]
    | some entry =>
      obtain ⟨id, query⟩ := entry
      simp only [getElem?_queries_of_nth? found, accepted_of_nth? found, decide_eq_true_eq]
      split
      · have told := bureau.office.told_advance now id query
        rw [counter_run sound found now]
        simp only [run, told, List.drop_left, List.map_map]
        rfl
      · rfl
  | wishes asker place wish =>
    obtain rfl : asker = owner := Option.some.inj own
    simp only [Counter.perform, perform]
    cases found : bureau.nth? asker place with
    | none =>
      rw [nth?_eq_none.mp found]
    | some entry =>
      obtain ⟨id, query⟩ := entry
      simp only [getElem?_queries_of_nth? found, counter_wish found, commons_wish]
  | writes asker place =>
    obtain rfl : asker = owner := Option.some.inj own
    have saving : (bureau.counter asker).saving[place]? = ((bureau.savingOf asker)[place]?).map
        fun task : SaveTask => task.inPlace (bureau.placeOf asker task.queryId) := List.getElem?_map
    simp only [Counter.perform, perform, saving]
    cases number : (bureau.savingOf asker)[place]? with
    | none => rfl
    | some task =>
      have written := counter_write saves (List.mem_of_getElem? number)
      simp only [Option.map_some, commons_write]
      simp only [commons, written]

theorem mem_saving_perform {bureau : Bureau η} (sound : bureau.office.Sound) {deed : Deed η}
    {owner : String} {task : SaveTask} (member : (owner, task) ∈ (bureau.perform deed).2.saving) :
    (owner, task) ∈ bureau.saving ∨ deed.owner? = some owner ∧ deed.saves? = some task.request ∧
      task.queryId ∈ bureau.idsOf owner := by
  have turn := bureau.turn deed
  revert turn member
  generalize (bureau.perform deed).2 = next
  intro member turn
  -- However it is asked for, a save that was not waiting before is this one.
  have asks {asker : String} {place batchId resultId : Nat} {id : QueryId} {query : Query}
      {request : SaveRequest} (found : bureau.nth? asker place = some (id, query))
      (entered : (owner, task) ∈ bureau.saving ++ [(asker, ⟨id, batchId, resultId, request⟩)]) :
      (owner, task) ∈ bureau.saving ∨ some asker = some owner ∧ some request = some task.request ∧
        task.queryId ∈ bureau.idsOf owner := by
    rcases List.mem_append.mp entered with inside | new
    · exact .inl inside
    · obtain ⟨rfl, rfl⟩ := Prod.mk.inj (List.mem_singleton.mp new)
      exact .inr ⟨rfl, rfl, List.mem_of_getElem? (nth?_eq_some.mp found).1⟩
  cases turn with
  | saves registered => exact asks (nth?_of_registered sound registered) member
  | wishesSave found => exact asks found member
  | writes =>
    simp only [write] at member
    exact .inl (List.mem_of_mem_erase member)
  | _ => exact .inl member

theorem SavesOwned.perform {bureau : Bureau η} (sound : bureau.office.Sound)
    (saves : bureau.SavesOwned) (deed : Deed η) : (bureau.perform deed).2.SavesOwned := by
  intro owner task member
  have before : task.queryId ∈ bureau.idsOf owner := by
    rcases mem_saving_perform sound member with waiting | ⟨-, -, owned⟩
    · exact saves owner task waiting
    · exact owned
  obtain ⟨query, found, owned⟩ := Bureau.mem_idsOf.mp before
  obtain ⟨next, there, same⟩ := bureau.stays_perform sound deed _ query found
  exact Bureau.mem_idsOf.mpr ⟨next, there, same.trans owned⟩

theorem savesOwned_play (host : η) (maker : StoreMaker) (defaults : Settings) (tree : FileTree)
    (deeds : List (Deed η)) : (play deeds (opened host maker defaults tree)).2.SavesOwned := by
  have both : (play deeds (opened host maker defaults tree)).2.Regular ∧
      (play deeds (opened host maker defaults tree)).2.SavesOwned := by
    refine play_preserves (fun bureau => bureau.Regular ∧ bureau.SavesOwned) ?_ deeds
      ⟨regular_opened host maker defaults tree, fun _ _ member => nomatch member⟩
    intro bureau deed held
    exact ⟨held.1.perform deed, held.2.perform held.1.sound deed⟩
  exact both.2

end Bureau

end SqlDesk
