import SqlDesk.Desk.Service
import SqlDesk.Proofs.Query.Life

/-! Requests at the desk that neither make a query nor let one run. Whatever is asked, and however
often, queries stay in their places and go on from where they were, the register loses entries at
most, and a query that leaves it has been stopped. -/

set_option autoImplicit false

namespace SqlDesk

namespace Desk

variable {η : Type}

/-- Requests that neither make a query nor let one run. -/
inductive Handles (desk : Desk η) : Desk η → Prop where
  | elsewhere (world : World η) : Handles desk { desk with world }
  | connects (owner : String) (connection : Connection) : Handles desk (desk.connect owner connection)
  | disconnects (owner : String) : Handles desk (desk.disconnect owner)
  | defaults (settings : Settings) : Handles desk (desk.setDefaults settings)
  | overrides (owner : String) (settings : Option Settings) :
      Handles desk (desk.setOverride owner settings)
  | cancels (owner : String) : Handles desk (desk.cancel owner).2
  | disposes {owner : String} {next : Desk η} (disposed : desk.dispose owner = .ok next) :
      Handles desk next
  | saves {owner : String} {batchId resultId : Nat} {request : SaveRequest} {task : SaveTask}
      {next : Desk η} (accepted : desk.beginSave owner batchId resultId request = .ok (task, next)) :
      Handles desk next
  | saved (tree : FileTree) (task : SaveTask) : Handles desk (desk.runSave tree task).2.1
  /-- Somebody holds a query and asks it directly, whether or not it is registered. -/
  | asks {id : QueryId} {query next : Query} (found : desk.queries[id]? = some query)
      (asked : query.Asked next) : Handles desk (desk.setQuery id next)
  | cancelsAll : Handles desk desk.cancelAll
  | releases : Handles desk desk.releaseAll

/-- What requests leave of a desk: its queries are asked something at most, and those that are
registered no more have been stopped. -/
structure Kept (before after : Desk η) : Prop where
  size : after.queries.size = before.queries.size
  accepted : after.accepted = before.accepted
  queries : ∀ (id : QueryId) (query : Query), before.queries[id]? = some query →
    ∃ next, after.queries[id]? = some next ∧ Relation.ReflTransGen Query.Asked query next
  registered : after.registered.Sublist before.registered
  letGo : ∀ (owner : String) (id : QueryId) (query : Query), (owner, id) ∈ before.registered →
    (owner, id) ∉ after.registered → after.queries[id]? = some query → query.Stopped

end Desk

theorem Query.keeps_of_asked {query next : Query}
    (asked : Relation.ReflTransGen Query.Asked query next) : query.Keeps next := by
  induction asked with
  | refl => exact .refl query
  | tail _ asked ih => exact ih.trans asked.keeps

theorem Query.state_of_asked {query next : Query}
    (asked : Relation.ReflTransGen Query.Asked query next) :
    next.state = query.state ∧ (next.Over ↔ query.Over) := by
  induction asked with
  | refl => exact ⟨rfl, Iff.rfl⟩
  | tail _ asked ih => exact ⟨asked.same.2.1.trans ih.1, asked.over_iff.trans ih.2⟩

theorem Query.Sound.of_asked {query next : Query} {told : List Happening}
    (asked : Relation.ReflTransGen Query.Asked query next) (sound : query.Sound told) :
    next.Sound told := by
  induction asked with
  | refl => exact sound
  | tail _ asked ih => exact ih.asked asked

namespace Desk

variable {η : Type}

namespace Kept

variable {first second third : Desk η}

theorem of_same (queries : second.queries = first.queries)
    (registered : second.registered = first.registered) (accepted : second.accepted = first.accepted) :
    first.Kept second where
  size := by rw [queries]
  accepted := accepted
  queries id query found := ⟨query, queries ▸ found, .refl⟩
  registered := registered ▸ List.Sublist.refl _
  letGo owner id query member gone := absurd (registered ▸ member) gone

theorem query_of_after (kept : first.Kept second) {id : QueryId} {next : Query}
    (found : second.queries[id]? = some next) :
    ∃ query, first.queries[id]? = some query ∧ Relation.ReflTransGen Query.Asked query next := by
  have inside : id < first.queries.size := by
    rw [← kept.size]
    exact (Array.getElem?_eq_some_iff.mp found).1
  obtain ⟨other, same, asked⟩ := kept.queries id _ (Array.getElem?_eq_getElem inside)
  rw [found] at same
  cases same
  exact ⟨_, Array.getElem?_eq_getElem inside, asked⟩

theorem stays (kept : first.Kept second) {id : QueryId} {query : Query}
    (found : first.queries[id]? = some query) :
    ∃ after, second.queries[id]? = some after ∧ query.Keeps after ∧ (query.Over → after.Over) := by
  obtain ⟨after, there, asked⟩ := kept.queries id query found
  exact ⟨after, there, Query.keeps_of_asked asked, (Query.state_of_asked asked).2.mpr⟩

theorem trans (left : first.Kept second) (right : second.Kept third) : first.Kept third where
  size := right.size.trans left.size
  accepted := right.accepted.trans left.accepted
  queries id query found := by
    obtain ⟨middle, there, asked⟩ := left.queries id query found
    obtain ⟨next, stands, again⟩ := right.queries id middle there
    exact ⟨next, stands, asked.trans again⟩
  registered := right.registered.trans left.registered
  letGo owner id query member gone found := by
    by_cases between : (owner, id) ∈ second.registered
    · exact right.letGo owner id query between gone found
    · obtain ⟨middle, there, asked⟩ := right.query_of_after found
      exact (Query.keeps_of_asked asked).stopped (left.letGo owner id middle member between there)

end Kept

/-! Single requests. -/

theorem getElem?_setQuery (desk : Desk η) (id other : QueryId) (query : Query) :
    (desk.setQuery id query).queries[other]? =
      if id = other ∧ id < desk.queries.size then some query else desk.queries[other]? := by
  simp only [setQuery, Array.getElem?_setIfInBounds]
  by_cases same : id = other
  · subst same
    by_cases inside : id < desk.queries.size <;> simp [inside]
  · simp [same]

theorem getElem?_setQuery_of_found {desk : Desk η} {id : QueryId} {query : Query}
    (found : desk.queries[id]? = some query) (next : Query) (other : QueryId) :
    (desk.setQuery id next).queries[other]? =
      if id = other then some next else desk.queries[other]? := by
  have inside := (Array.getElem?_eq_some_iff.mp found).1
  rw [getElem?_setQuery]
  simp only [inside, and_true]

theorem kept_setQuery {desk : Desk η} {id : QueryId} {query next : Query}
    (found : desk.queries[id]? = some query) (asked : query.Asked next) :
    desk.Kept (desk.setQuery id next) where
  size := Array.size_setIfInBounds
  accepted := rfl
  queries other before there := by
    rw [getElem?_setQuery]
    split
    · rename_i here
      obtain ⟨rfl, -⟩ := here
      rw [found] at there
      cases there
      exact ⟨next, rfl, .single asked⟩
    · exact ⟨before, there, .refl⟩
  registered := List.Sublist.refl _
  letGo owner id query member gone := absurd member gone

theorem lookup_eq_some_iff {α : Type} {table : List (String × α)} {owner : String} {value : α}
    (keys : (table.map Prod.fst).Nodup) :
    table.lookup owner = some value ↔ (owner, value) ∈ table := by
  constructor
  · intro found
    obtain ⟨front, back, rfl, -⟩ := List.lookup_eq_some_iff.mp found
    simp
  · intro member
    obtain ⟨front, back, rfl⟩ := List.append_of_mem member
    refine List.lookup_eq_some_iff.mpr ⟨front, back, rfl, ?_⟩
    intro entry earlier
    rw [List.map_append, List.map_cons, List.nodup_append] at keys
    have apart := keys.2.2 entry.1 (List.mem_map_of_mem earlier) owner List.mem_cons_self
    simpa using Ne.symm apart

theorem mem_unbind {α : Type} {table : List (String × α)} {owner other : String} {value : α} :
    (other, value) ∈ unbind table owner ↔ (other, value) ∈ table ∧ other ≠ owner := by
  simp [unbind]

theorem mem_bind {α : Type} {table : List (String × α)} {owner other : String} {value given : α} :
    (other, value) ∈ bind table owner given ↔
      other = owner ∧ value = given ∨ (other, value) ∈ table ∧ other ≠ owner := by
  simp [bind]

theorem keys_unbind {α : Type} {table : List (String × α)} (owner : String)
    (keys : (table.map Prod.fst).Nodup) : ((unbind table owner).map Prod.fst).Nodup :=
  keys.sublist (List.filter_sublist.map _)

theorem keys_bind {α : Type} {table : List (String × α)} (owner : String) (value : α)
    (keys : (table.map Prod.fst).Nodup) : ((bind table owner value).map Prod.fst).Nodup := by
  refine List.nodup_cons.mpr ⟨?_, keys_unbind owner keys⟩
  intro member
  obtain ⟨⟨other, found⟩, inside, same⟩ := List.mem_map.mp member
  exact (mem_unbind.mp inside).2 same

theorem lookup_unbind {α : Type} {table : List (String × α)} {owner other : String}
    (apart : other ≠ owner) : (unbind table owner).lookup other = table.lookup other := by
  unfold unbind
  induction table with
  | nil => rfl
  | cons entry rest ih =>
    obtain ⟨name, value⟩ := entry
    by_cases same : name = owner
    · have passed : (other == name) = false := by simp [same, apart]
      rw [List.filter_cons_of_neg (by simp [same]), ih, List.lookup_cons, passed]
    · rw [List.filter_cons_of_pos (by simp [same]), List.lookup_cons, List.lookup_cons, ih]

theorem lookup_unbind_self {α : Type} (table : List (String × α)) (owner : String) :
    (unbind table owner).lookup owner = none := by
  rw [List.lookup_eq_none_iff]
  rintro ⟨other, value⟩ member
  have apart := (mem_unbind.mp member).2
  simpa using Ne.symm apart

theorem lookup_bind {α : Type} {table : List (String × α)} {owner other : String} {value : α}
    (apart : other ≠ owner) : (bind table owner value).lookup other = table.lookup other := by
  have passed : (other == owner) = false := by simp [apart]
  have skipped : (bind table owner value).lookup other = (unbind table owner).lookup other := by
    rw [bind, List.lookup_cons, passed]
    rfl
  rw [skipped, lookup_unbind apart]

theorem lookup_bind_eq {α : Type} (table : List (String × α)) (owner other : String) (value : α) :
    (bind table owner value).lookup other = if owner = other then some value else table.lookup other := by
  split
  · rename_i same
    subst same
    exact List.lookup_cons_self
  · rename_i apart
    exact lookup_bind (Ne.symm apart)

theorem lookup_unbind_eq {α : Type} (table : List (String × α)) (owner other : String) :
    (unbind table owner).lookup other = if owner = other then none else table.lookup other := by
  split
  · rename_i same
    subst same
    exact lookup_unbind_self _ _
  · rename_i apart
    exact lookup_unbind (Ne.symm apart)

theorem query?_eq_some {desk : Desk η} {owner : String} {id : QueryId} {query : Query} :
    desk.query? owner = some (id, query) ↔
      desk.queryId? owner = some id ∧ desk.queries[id]? = some query := by
  unfold query?
  cases desk.queryId? owner with
  | none => simp
  | some registered =>
    simp only [Option.bind_eq_bind, Option.bind_some, Option.bind_eq_some_iff, Option.pure_def,
      Option.some.injEq, Prod.mk.injEq]
    constructor
    · rintro ⟨there, found, rfl, rfl⟩
      exact ⟨rfl, found⟩
    · rintro ⟨rfl, found⟩
      exact ⟨query, found, rfl, rfl⟩

theorem unregisterQuery_of_registered {desk : Desk η} {owner : String} {id : QueryId} {query : Query}
    (registered : desk.query? owner = some (id, query)) :
    desk.unregisterQuery owner id = desk.unregister owner :=
  if_pos (query?_eq_some.mp registered).1

theorem queries_abandon (desk : Desk η) (owner : String) (id : QueryId) :
    (desk.abandon owner id).queries = desk.queries ∧
      (desk.abandon owner id).accepted = desk.accepted := by
  unfold abandon unregisterQuery
  split <;> exact ⟨rfl, rfl⟩

theorem disposeQuery_of_found {desk : Desk η} {id : QueryId} {query : Query}
    (found : desk.queries[id]? = some query) :
    desk.disposeQuery id = desk.setQuery id query.dispose := by
  have inside := (Array.getElem?_eq_some_iff.mp found).1
  unfold disposeQuery setQuery
  congr 1
  apply Array.ext_getElem?
  intro other
  rw [Array.getElem?_modify, Array.getElem?_setIfInBounds]
  by_cases here : id = other
  · subst here
    rw [if_pos rfl, if_pos rfl, if_pos inside, found]
    rfl
  · rw [if_neg here, if_neg here]

theorem disposeQuery_of_missing {desk : Desk η} {id : QueryId} (missing : desk.queries[id]? = none) :
    desk.disposeQuery id = desk := by
  have same : desk.queries.modify id Query.dispose = desk.queries := by
    apply Array.ext_getElem?
    intro other
    rw [Array.getElem?_modify]
    split
    · rename_i here
      rw [← here, missing]
      rfl
    · rfl
  rw [disposeQuery, same]

theorem kept_disposeQuery (desk : Desk η) (id : QueryId) : desk.Kept (desk.disposeQuery id) := by
  cases found : desk.queries[id]? with
  | none =>
    rw [disposeQuery_of_missing found]
    exact .of_same rfl rfl rfl
  | some query =>
    rw [disposeQuery_of_found found]
    exact kept_setQuery found .disposes

theorem stopped_disposeQuery {desk : Desk η} {id : QueryId} {query : Query}
    (found : (desk.disposeQuery id).queries[id]? = some query) : query.Stopped := by
  rw [disposeQuery, Array.getElem?_modify, if_pos rfl] at found
  obtain ⟨before, -, rfl⟩ := Option.map_eq_some_iff.mp found
  exact before.stopped_dispose

theorem kept_unregister {desk : Desk η} {owner : String}
    (stopped : ∀ id query, (owner, id) ∈ desk.registered → desk.queries[id]? = some query →
      query.Stopped) : desk.Kept (desk.unregister owner) where
  size := rfl
  accepted := rfl
  queries id query found := ⟨query, found, .refl⟩
  registered := List.filter_sublist
  letGo other id query member gone found := by
    by_cases same : other = owner
    · exact stopped id query (same ▸ member) found
    · exact absurd (mem_unbind.mpr ⟨member, same⟩) gone

theorem kept_letGo {desk : Desk η} (keys : (desk.registered.map Prod.fst).Nodup) {owner : String}
    {id : QueryId} (registered : desk.queryId? owner = some id) :
    desk.Kept ((desk.unregister owner).disposeQuery id) := by
  have leaves : (desk.disposeQuery id).Kept ((desk.disposeQuery id).unregister owner) := by
    refine kept_unregister fun other query member found => ?_
    have same : desk.queryId? owner = some other := (lookup_eq_some_iff keys).mpr member
    rw [registered] at same
    cases same
    exact stopped_disposeQuery found
  exact (desk.kept_disposeQuery id).trans leaves

theorem kept_cancel (desk : Desk η) (owner : String) : desk.Kept (desk.cancel owner).2 := by
  unfold cancel
  split
  · exact .of_same rfl rfl rfl
  · rename_i id query found
    split
    · rename_i next accepted
      exact kept_setQuery (query?_eq_some.mp found).2 (.cancels accepted)
    · exact .of_same rfl rfl rfl

theorem registered_cancel (desk : Desk η) (owner : String) :
    (desk.cancel owner).2.registered = desk.registered := by
  unfold cancel
  split
  · rfl
  · split <;> rfl

theorem stopped_cancel {desk : Desk η} {owner : String} {id : QueryId} {query : Query}
    (registered : desk.queryId? owner = some id)
    (found : (desk.cancel owner).2.queries[id]? = some query) : query.Stopped := by
  obtain ⟨before, there, -⟩ := (desk.kept_cancel owner).query_of_after found
  have stands := query?_eq_some.mpr ⟨registered, there⟩
  unfold cancel at found
  rw [stands] at found
  unfold Query.cancel at found
  by_cases terminal : before.isTerminal = true
  · simp only [terminal, if_true, there, Option.some.injEq] at found
    exact .inr (found ▸ terminal)
  · simp only [terminal, Bool.false_eq_true, if_false, getElem?_setQuery] at found
    have inside := (Array.getElem?_eq_some_iff.mp there).1
    rw [if_pos ⟨trivial, inside⟩] at found
    cases found
    exact .inl rfl

theorem kept_cancels (desk : Desk η) (entries : List (String × QueryId)) :
    desk.Kept (entries.foldl (fun desk (owner, _) => (desk.cancel owner).2) desk) ∧
      (entries.foldl (fun desk (owner, _) => (desk.cancel owner).2) desk).registered =
        desk.registered ∧
      ∀ entry ∈ entries, ∀ id query, desk.queryId? entry.1 = some id →
        (entries.foldl (fun desk (owner, _) => (desk.cancel owner).2) desk).queries[id]? =
          some query → query.Stopped := by
  induction entries generalizing desk with
  | nil => exact ⟨.of_same rfl rfl rfl, rfl, by simp⟩
  | cons entry rest ih =>
    obtain ⟨kept, registered, stopped⟩ := ih (desk.cancel entry.1).2
    have same := desk.registered_cancel entry.1
    refine ⟨(desk.kept_cancel entry.1).trans kept, registered.trans same, ?_⟩
    intro other member id query isRegistered found
    rcases List.mem_cons.mp member with rfl | later
    · obtain ⟨middle, there, asked⟩ := kept.query_of_after found
      exact (Query.keeps_of_asked asked).stopped (stopped_cancel isRegistered there)
    · refine stopped other later id query ?_ found
      rw [queryId?, same]
      exact isRegistered

theorem kept_disposes (desk : Desk η) (entries : List (String × QueryId)) :
    desk.Kept (entries.foldl (fun desk (_, id) => desk.disposeQuery id) desk) ∧
      ∀ entry ∈ entries, ∀ query,
        (entries.foldl (fun desk (_, id) => desk.disposeQuery id) desk).queries[entry.2]? =
          some query → query.Stopped := by
  induction entries generalizing desk with
  | nil => exact ⟨.of_same rfl rfl rfl, by simp⟩
  | cons entry rest ih =>
    obtain ⟨kept, stopped⟩ := ih (desk.disposeQuery entry.2)
    refine ⟨(desk.kept_disposeQuery entry.2).trans kept, ?_⟩
    intro other member query found
    rcases List.mem_cons.mp member with rfl | later
    · obtain ⟨middle, there, asked⟩ := kept.query_of_after found
      exact (Query.keeps_of_asked asked).stopped (stopped_disposeQuery there)
    · exact stopped other later query found

theorem kept_releaseAll (desk : Desk η) : desk.Kept desk.releaseAll := by
  obtain ⟨⟨size, accepted, queries, -, -⟩, stopped⟩ := desk.kept_disposes desk.registered
  exact ⟨size, accepted, queries, List.nil_sublist _,
    fun owner id query member _ found => stopped (owner, id) member query found⟩

theorem beginSave_eq_ok {desk next : Desk η} {owner : String} {batchId resultId : Nat}
    {request : SaveRequest} {task : SaveTask}
    (accepted : desk.beginSave owner batchId resultId request = .ok (task, next)) :
    ∃ id query saving, desk.query? owner = some (id, query) ∧
      query.beginSave batchId resultId request.path = .ok saving ∧
      next = desk.setQuery id saving ∧ task = ⟨id, batchId, resultId, request⟩ := by
  unfold beginSave require at accepted
  cases found : desk.query? owner with
  | none =>
    rw [found] at accepted
    cases accepted
  | some registered =>
    obtain ⟨id, query⟩ := registered
    rw [found] at accepted
    simp only [Bind.bind, Except.bind] at accepted
    split at accepted
    · cases accepted
    · rename_i saving begins
      cases accepted
      exact ⟨id, query, saving, rfl, begins, rfl, rfl⟩

theorem kept_runSave (desk : Desk η) (tree : FileTree) (task : SaveTask) :
    desk.Kept (desk.runSave tree task).2.1 := by
  unfold runSave
  split
  · exact .of_same rfl rfl rfl
  · rename_i query found
    exact kept_setQuery found (.saved tree task.batchId task.resultId task.request)

theorem Handles.kept {desk next : Desk η} (keys : (desk.registered.map Prod.fst).Nodup)
    (handles : desk.Handles next) : desk.Kept next := by
  cases handles with
  | elsewhere | connects | disconnects | defaults | overrides => exact .of_same rfl rfl rfl
  | cancels owner => exact desk.kept_cancel owner
  | cancelsAll => exact (desk.kept_cancels desk.registered).1
  | releases => exact desk.kept_releaseAll
  | asks found asked => exact kept_setQuery found asked
  | @disposes owner _ disposed =>
    unfold dispose require at disposed
    split at disposed
    · rename_i id query found
      cases disposed
      exact kept_letGo keys (query?_eq_some.mp found).1
    · cases disposed
  | saves accepted =>
    obtain ⟨id, query, saving, found, begins, rfl, -⟩ := beginSave_eq_ok accepted
    exact kept_setQuery (query?_eq_some.mp found).2 (.saves begins)
  | saved tree task => exact desk.kept_runSave tree task

theorem kept_of_handles {desk next : Desk η} (keys : (desk.registered.map Prod.fst).Nodup)
    (handles : Relation.ReflTransGen Handles desk next) : desk.Kept next := by
  induction handles with
  | refl => exact .of_same rfl rfl rfl
  | tail _ last ih => exact ih.trans (last.kept (keys.sublist (ih.registered.map _)))

/-! Making a query. -/

def Vacant (desk : Desk η) (owner : String) : Prop := ∀ id, (owner, id) ∉ desk.registered

def enrol (desk : Desk η) (query : Query) : Desk η :=
  { desk with
    queries := desk.queries.push query
    registered := bind desk.registered query.owner desk.queries.size }

theorem release_eq_ok {desk released : Desk η} {owner : String}
    (freed : desk.release owner = .ok released) :
    desk.query? owner = none ∧ released = desk ∨
      ∃ id previous, desk.query? owner = some (id, previous) ∧ previous.isTerminal = true ∧
        released = (desk.unregister owner).disposeQuery id := by
  unfold release at freed
  split at freed
  · rename_i nothing
    cases freed
    exact .inl ⟨nothing, rfl⟩
  · rename_i id previous found
    split at freed
    · rename_i terminal
      cases freed
      exact .inr ⟨id, previous, found, terminal, rfl⟩
    · cases freed

theorem kept_release {desk released : Desk η} {owner : String}
    (keys : (desk.registered.map Prod.fst).Nodup) (freed : desk.release owner = .ok released) :
    desk.Kept released := by
  rcases release_eq_ok freed with ⟨-, rfl⟩ | ⟨id, previous, found, -, rfl⟩
  · exact .of_same rfl rfl rfl
  · exact kept_letGo keys (query?_eq_some.mp found).1

theorem vacant_release {desk released : Desk η} {owner : String}
    (keys : (desk.registered.map Prod.fst).Nodup)
    (registered : ∀ id, (owner, id) ∈ desk.registered → ∃ query, desk.queries[id]? = some query)
    (freed : desk.release owner = .ok released) : released.Vacant owner := by
  rcases release_eq_ok freed with ⟨nothing, rfl⟩ | ⟨id, previous, found, -, rfl⟩
  · intro id member
    obtain ⟨query, there⟩ := registered id member
    have found := query?_eq_some.mpr ⟨(lookup_eq_some_iff keys).mpr member, there⟩
    rw [nothing] at found
    cases found
  · intro other member
    exact (mem_unbind.mp member).2 rfl

theorem settingsFor_release {desk released : Desk η} {owner : String}
    (freed : desk.release owner = .ok released) : released.settingsFor = desk.settingsFor := by
  rcases release_eq_ok freed with ⟨-, rfl⟩ | ⟨_, _, -, -, rfl⟩ <;> rfl

theorem create_of_release {desk released : Desk η} {request : QueryRequest} {connection : Connection}
    (connected : desk.connection? request.owner = some connection)
    (freed : desk.release request.owner = .ok released) :
    desk.create request = .ok (released.queries.size,
      released.enrol (.create request.owner request.text connection
        (desk.settingsFor request.owner request.actualPlan request.estimatedPlan))) := by
  unfold create
  rw [connected, freed, ← settingsFor_release freed]
  rfl

theorem create_eq_ok {desk next : Desk η} {request : QueryRequest} {id : QueryId}
    (made : desk.create request = .ok (id, next)) :
    ∃ connection released, desk.connection? request.owner = some connection ∧
      desk.release request.owner = .ok released ∧ id = released.queries.size ∧
      next = released.enrol (.create request.owner request.text connection
        (desk.settingsFor request.owner request.actualPlan request.estimatedPlan)) := by
  cases connected : desk.connection? request.owner with
  | none =>
    unfold create at made
    rw [connected] at made
    cases made
  | some connection =>
    cases freed : desk.release request.owner with
    | error error =>
      unfold create at made
      rw [connected, freed] at made
      cases made
    | ok released =>
      rw [create_of_release connected freed] at made
      cases made
      exact ⟨connection, released, rfl, rfl, rfl, rfl⟩

end Desk

end SqlDesk
