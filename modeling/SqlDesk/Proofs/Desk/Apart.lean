import SqlDesk.Proofs.Desk.Bystanders
import SqlDesk.Proofs.Query.Separation
import SqlDesk.Proofs.ResultSet.Trees

/-! Owners that have nothing in common but the office. Two parties of owners use connections of their
own, which are separated, and save to files of their own. Whatever one party asks then leaves the other
with the same connections, settings and queries, and with the same answers to everything that it asks
itself. A deed of the one party leaves everything as it is for the other; a deed of the other comes to
the same wherever everything is the same for it. -/

set_option autoImplicit false

namespace SqlDesk

open Bureau (Deed Answer Request)

section

variable {foreign : Location → Prop}

/-- A save of an own file comes to the same in trees that agree, and they agree afterwards. -/
theorem Query.runSave_own {left right : FileTree} (agrees : left.Agrees foreign right)
    (query : Query) (batchId resultId : Nat) {request : SaveRequest}
    (own : ∀ location ∈ left.way request.path, ¬ foreign location) :
    (query.runSave left batchId resultId request).2 = (query.runSave right batchId resultId request).2 ∧
      (query.runSave left batchId resultId request).1.Agrees foreign
        (query.runSave right batchId resultId request).1 := by
  unfold runSave
  cases query.result batchId resultId with
  | error error => exact ⟨rfl, agrees⟩
  | ok result =>
    obtain ⟨outcome, still⟩ := Export.write_own agrees result own
    exact ⟨congrArg (query.setResult (result.endSave request.path), ·) outcome, still⟩

theorem Query.runSave_foreign (tree : FileTree) (query : Query) (batchId resultId : Nat)
    {request : SaveRequest}
    (elsewhere : ∀ location, tree.resolve request.path = .ok location → foreign location) :
    tree.Agrees foreign (query.runSave tree batchId resultId request).1 := by
  unfold runSave
  cases query.result batchId resultId with
  | error error => exact .refl foreign tree
  | ok result => exact Export.write_foreign tree result elsewhere

/-- What all share is the same but for foreign files, and for what cannot be noticed. -/
structure Commons.Alike {η : Type} (same : η → η → Prop) (foreign : Location → Prop)
    (left right : Commons η) : Prop where
  world : World.Alike same left.world right.world
  defaults : left.defaults = right.defaults
  tree : left.tree.Agrees foreign right.tree

/-- A counter with sound queries, of which those that have not ended are on certain connections, and
with saves to certain paths. -/
structure Counter.UsesOnly (connections : Connection → Prop) (paths : String → Prop)
    (counter : Counter) : Prop where
  sound : ∀ query ∈ counter.queries, ∃ told, query.Sound told
  connections : ∀ query ∈ counter.queries, query.isTerminal = false → connections query.connection
  paths : ∀ task ∈ counter.saving, paths task.request.path

variable {η : Type} [Host η] {mine : Connection → Prop} {same : η → η → Prop}

/-- An owner with own connections and files is answered the same wherever what all share is the same
for it, and has the same afterwards. -/
theorem Counter.perform_own (separates : Separates mine same) {counter : Counter}
    {left right : Commons η} (alike : Commons.Alike same foreign left right)
    (uses : counter.UsesOnly mine fun path => ∀ location ∈ left.tree.way path, ¬ foreign location)
    (owner : String) (deed : Deed η) :
    (counter.perform owner left deed).1 = (counter.perform owner right deed).1 ∧
      (counter.perform owner left deed).2.1 = (counter.perform owner right deed).2.1 ∧
      Commons.Alike same foreign (counter.perform owner left deed).2.2
        (counter.perform owner right deed).2.2 := by
  -- Only the step of a query and a save read what is shared; the rest stays at the counter.
  cases deed with
  | defaults | elsewhere | cancelsAll | releasesAll => exact ⟨rfl, rfl, alike⟩
  | asks _ request =>
    simp only [perform, alike.defaults]
    exact ⟨trivial, trivial, alike⟩
  | decides _ place decision =>
    simp only [perform]
    split
    · exact ⟨rfl, rfl, alike⟩
    · split <;> exact ⟨rfl, rfl, alike⟩
  | wishes _ place wish =>
    simp only [perform]
    split <;> exact ⟨rfl, rfl, alike⟩
  | runs _ place now =>
    simp only [perform]
    cases there : counter.queries[place]? with
    | none => exact ⟨rfl, rfl, alike⟩
    | some query =>
      have member := List.mem_of_getElem? there
      obtain ⟨told, sound⟩ := uses.sound query member
      have agree :=
        Query.agree_advance separates alike.world now sound (uses.connections query member)
      obtain ⟨new, first, second⟩ := agree.submissions
      simp only
      split
      · refine ⟨?_, ?_, agree.alike, alike.defaults, alike.tree⟩
        · simp only [agree.outcome, first, second, List.drop_left]
        · simp only [agree.outcome]
      · exact ⟨rfl, rfl, alike⟩
  | writes _ place =>
    simp only [perform]
    cases there : counter.saving[place]? with
    | none => exact ⟨rfl, rfl, alike⟩
    | some task =>
      have own := uses.paths task (List.mem_of_getElem? there)
      simp only [write]
      cases counter.queries[task.queryId]? with
      | none => exact ⟨rfl, rfl, alike⟩
      | some query =>
        obtain ⟨outcome, tree⟩ :=
          query.runSave_own alike.tree task.batchId task.resultId own
        refine ⟨?_, ?_, alike.world, alike.defaults, tree⟩
        · simp only [outcome]
        · simp only [outcome]

theorem Counter.perform_foreign (separates : Separates mine same) {counter : Counter}
    {commons : Commons η} (flawless : commons.world.maker.Flawless)
    (uses : counter.UsesOnly (¬ mine ·) fun path =>
      ∀ location, commons.tree.resolve path = .ok location → foreign location)
    (owner : String) (deed : Deed η) :
    Commons.Alike same foreign commons (counter.perform owner commons deed).2.2 := by
  have still : World.Alike same commons.world commons.world :=
    ⟨separates.equivalence.refl _, rfl, flawless, flawless⟩
  have idle : Commons.Alike same foreign commons commons := ⟨still, rfl, .refl foreign _⟩
  -- Only the step of a query and a save write to what is shared.
  cases deed with
  | defaults | elsewhere | cancelsAll | releasesAll | asks => exact idle
  | decides _ place decision =>
    simp only [perform]
    split
    · exact idle
    · split <;> exact idle
  | wishes _ place wish =>
    simp only [perform]
    split <;> exact idle
  | runs _ place now =>
    simp only [perform]
    cases there : counter.queries[place]? with
    | none => exact idle
    | some query =>
      have member := List.mem_of_getElem? there
      obtain ⟨told, sound⟩ := uses.sound query member
      simp only
      split
      · exact ⟨Query.apart_advance separates flawless now sound (uses.connections query member), rfl,
          .refl foreign _⟩
      · exact idle
  | writes _ place =>
    simp only [perform]
    cases there : counter.saving[place]? with
    | none => exact idle
    | some task =>
      have elsewhere := uses.paths task (List.mem_of_getElem? there)
      simp only [write]
      cases counter.queries[task.queryId]? with
      | none => exact idle
      | some query =>
        exact ⟨still, rfl, query.runSave_foreign commons.tree task.batchId task.resultId elsewhere⟩

end

/-- Owners with the connections they use and the paths they save to. -/
structure Party where
  members : String → Prop
  connections : Connection → Prop
  paths : String → Prop

def Party.places (party : Party) (tree : FileTree) (location : Location) : Prop :=
  ∃ path, party.paths path ∧ tree.resolve path = .ok location

namespace Bureau

variable {η : Type}

def Deed.isOf (members : String → Prop) [DecidablePred members] (deed : Deed η) : Bool :=
  deed.owner?.any (members ·)

/-- A deed that brings in no connection and no path from outside a party. -/
def Deed.Within (party : Party) : Deed η → Prop
  | .asks _ (.connect connection) => party.connections connection
  | .asks _ (.save _ _ request) | .wishes _ _ (.save _ _ request) => party.paths request.path
  | _ => True

def Deed.Of (party : Party) (deed : Deed η) : Prop :=
  (∃ owner, deed.owner? = some owner ∧ party.members owner) ∧ deed.Within party

theorem Deed.owner?_of_setsConnection {deed : Deed η} {owner : String}
    {given : Option Connection} (sets : deed.setsConnection owner = some given) :
    deed.owner? = some owner := by
  cases deed with
  | asks asker request =>
    have own : asker = owner := by
      cases request with
      | connect | disconnect => exact (Option.ite_none_right_eq_some.mp sets).1
      | _ => cases sets
    exact congrArg some own
  | _ => cases sets

theorem Deed.Within.connection {party : Party} {deed : Deed η} (within : deed.Within party)
    {owner : String} {connection : Connection}
    (sets : deed.setsConnection owner = some (some connection)) : party.connections connection := by
  cases deed with
  | asks asker request =>
    cases request with
    | connect given =>
      simp only [setsConnection, Option.ite_none_right_eq_some, Option.some.injEq] at sets
      exact sets.2 ▸ within
    | disconnect => simp [setsConnection] at sets
    | _ => cases sets
  | _ => cases sets

theorem Deed.Within.path {party : Party} {deed : Deed η} (within : deed.Within party)
    {request : SaveRequest} (saves : deed.saves? = some request) : party.paths request.path := by
  cases deed with
  | asks asker asked =>
    cases asked with
    | save => cases saves; exact within
    | _ => cases saves
  | wishes asker place wish =>
    cases wish with
    | save => cases saves; exact within
    | _ => cases saves
  | _ => cases saves

structure KeepsTo (party : Party) (owner : String) (bureau : Bureau η) : Prop where
  connection : ∀ connection, bureau.desk.connection? owner = some connection →
    party.connections connection
  queries : ∀ (id : QueryId) (query : Query), bureau.desk.queries[id]? = some query →
    query.owner = owner → query.isTerminal = false → party.connections query.connection
  saving : ∀ task ∈ bureau.savingOf owner, party.paths task.request.path

theorem KeepsTo.usesOnly {party : Party} {owner : String} {bureau : Bureau η}
    (sound : bureau.office.Sound) (keeps : bureau.KeepsTo party owner) :
    (bureau.counter owner).UsesOnly party.connections party.paths := by
  -- The queries at a counter are those of the desk that its owner has.
  have found {query : Query} (member : query ∈ (bureau.counter owner).queries) :
      ∃ id : QueryId, bureau.desk.queries[id]? = some query ∧ query.owner = owner := by
    obtain ⟨id, inside, there⟩ := List.mem_filterMap.mp member
    obtain ⟨other, stands, owned⟩ := mem_idsOf.mp inside
    cases there.symm.trans stands
    exact ⟨id, stands, owned⟩
  constructor
  case sound =>
    intro query member
    obtain ⟨id, stands, -⟩ := found member
    exact ⟨_, sound.queries id query stands⟩
  case connections =>
    intro query member
    obtain ⟨id, stands, owned⟩ := found member
    exact keeps.queries id query stands owned
  case paths =>
    intro task member
    obtain ⟨saved, inside, rfl⟩ := List.mem_map.mp member
    exact keeps.saving saved inside

def Deed.Fits (near far : Party) (deed : Deed η) : Prop :=
  deed.Of near ∨ deed.Of far ∨ ∃ settings, deed = .defaults settings

structure Alike (near : Party) (same : η → η → Prop) (foreign : Location → Prop)
    (left right : Bureau η) : Prop where
  counters : ∀ owner, near.members owner → left.counter owner = right.counter owner
  commons : Commons.Alike same foreign left.commons right.commons

section

variable {near : Party} {same : η → η → Prop} {foreign : Location → Prop}
  {first second third : Bureau η}

theorem Alike.trans (equivalence : Equivalence same) (one : Alike near same foreign first second)
    (other : Alike near same foreign second third) : Alike near same foreign first third where
  counters owner member := (one.counters owner member).trans (other.counters owner member)
  commons := ⟨one.commons.world.trans equivalence other.commons.world,
    one.commons.defaults.trans other.commons.defaults, one.commons.tree.trans other.commons.tree⟩

theorem Alike.symm (equivalence : Equivalence same) (alike : Alike near same foreign first second) :
    Alike near same foreign second first where
  counters owner member := (alike.counters owner member).symm
  commons := ⟨alike.commons.world.symm equivalence, alike.commons.defaults.symm,
    alike.commons.tree.symm⟩

theorem Alike.refl (equivalence : Equivalence same) (foreign : Location → Prop)
    (flawless : first.desk.world.maker.Flawless) : Alike near same foreign first first where
  counters _ _ := rfl
  commons := ⟨⟨equivalence.refl _, rfl, flawless, flawless⟩, rfl, .refl foreign _⟩

end

theorem query?_of_counter {bureau : Bureau η} (sound : bureau.office.Sound) (owner : String) :
    (bureau.desk.query? owner).map Prod.snd = (bureau.counter owner).query?.map Prod.snd := by
  cases registered : bureau.desk.query? owner with
  | none => rw [query?_of_unregistered sound registered]
  | some entry => rw [query?_of_registered sound registered]; rfl

variable [Host η]

theorem KeepsTo.perform {party : Party} {bureau : Bureau η} {owner : String}
    (regular : bureau.Regular) (keeps : bureau.KeepsTo party owner) {deed : Deed η}
    (within : deed.owner? = some owner → deed.Within party) :
    (bureau.perform deed).2.KeepsTo party owner where
  connection connection connected := by
    rw [connection?_perform] at connected
    cases sets : deed.setsConnection owner with
    | none =>
      rw [sets] at connected
      exact keeps.connection connection connected
    | some given =>
      rw [sets] at connected
      obtain rfl : given = some connection := connected
      refine (within (Deed.owner?_of_setsConnection sets)).connection sets
  queries id next found owned live := by
    -- A query keeps the connection it was made with, so the party is asked only when it is made.
    cases bureau.becomes regular.sound deed found with
    | @asked query there asked =>
      have numbered := (regular.sound.queries id query there).numbered
      obtain ⟨bare, -⟩ := Query.bare_of_asked numbered asked
      have connection := congrArg Query.connection bare
      change next.connection = query.connection at connection
      have state := (Query.state_of_asked asked).1
      rw [connection]
      refine keeps.queries id query there ((Query.keeps_of_asked asked).owner.symm.trans owned) ?_
      rwa [Query.isTerminal, ← state]
    | @advanced asker place now query runs there accepted same =>
      have stands := (nth?_eq_some.mp there).2
      have sound := regular.sound.queries id query stands
      obtain ⟨connection, earlier⟩ := Query.live_advance sound now bureau.desk.world
      have keeping := (sound.advance now bureau.desk.world).2
      subst same
      rw [connection]
      exact keeps.queries id query stands (keeping.owner.symm.trans owned) (earlier live)
    | made executes connected new same =>
      subst same
      obtain rfl : _ = owner := owned
      exact keeps.connection _ connected
  saving task member := by
    obtain ⟨⟨asker, saved⟩, inside, rfl⟩ := List.mem_map.mp member
    obtain ⟨there, own⟩ := List.mem_filter.mp inside
    obtain rfl : asker = owner := of_decide_eq_true own
    rcases mem_saving_perform regular.sound there with waiting | ⟨asked, saves, -⟩
    · exact keeps.saving saved
        (List.mem_map.mpr ⟨(asker, saved), List.mem_filter.mpr ⟨waiting, own⟩, rfl⟩)
    · exact (within asked).path saves

/-- Two parties that have nothing in common: no owner and no connection, and none saves anything where
a path of the other leads or leads past. -/
structure Apart (near far : Party) (same : η → η → Prop) (tree : FileTree) : Prop where
  members : ∀ owner, near.members owner → ¬ far.members owner
  connections : ∀ connection, far.connections connection → ¬ near.connections connection
  databases : Separates near.connections same
  files : ∀ path, near.paths path → ∀ location ∈ tree.way path, ¬ far.places tree location

/-- What holds while two parties do nothing but their own deeds. -/
structure Standing (near far : Party) (tree : FileTree) (bureau : Bureau η) : Prop where
  regular : bureau.Regular
  saves : bureau.SavesOwned
  near : ∀ owner, near.members owner → bureau.KeepsTo near owner
  far : ∀ owner, far.members owner → bureau.KeepsTo far owner
  tree : tree.Agrees (fun _ => True) bureau.tree

theorem agrees_perform {near far : Party} (bureau : Bureau η) {deed : Deed η}
    (fits : deed.Fits near far) : bureau.tree.Agrees (fun _ => True) (bureau.perform deed).2.tree := by
  have turn := bureau.turn deed
  revert turn
  generalize (bureau.perform deed).2 = next
  intro turn
  -- Of all deeds saving and those from elsewhere alone reach the files.
  cases turn with
  | @writes owner place task =>
    simp only [write, Desk.runSave]
    cases bureau.desk.queries[task.queryId]? with
    | none => exact .refl _ bureau.tree
    | some query =>
      exact query.runSave_foreign bureau.tree task.batchId task.resultId fun _ _ => trivial
  | elsewhere =>
    obtain ⟨⟨_, own, -⟩, -⟩ | ⟨⟨_, own, -⟩, -⟩ | ⟨_, same⟩ := fits
    · cases own
    · cases own
    · cases same
  | _ => exact .refl _ bureau.tree

section

variable {near far : Party} {same : η → η → Prop} {tree : FileTree} {bureau left right : Bureau η}
  {deed : Deed η}

theorem Standing.perform (apart : Apart near far same tree) (standing : bureau.Standing near far tree)
    (fits : deed.Fits near far) : (bureau.perform deed).2.Standing near far tree where
  regular := standing.regular.perform deed
  saves := standing.saves.perform standing.regular.sound deed
  near owner member := by
    refine (standing.near owner member).perform standing.regular fun own => ?_
    -- A deed that fits is one of this party, one of the other or nobody's, and nobody is in both.
    obtain ⟨-, within⟩ | ⟨⟨other, owned, foreign⟩, -⟩ | ⟨settings, rfl⟩ := fits
    · exact within
    · obtain rfl : owner = other := Option.some.inj (own.symm.trans owned)
      exact absurd foreign (apart.members owner member)
    · cases own
  far owner member := by
    refine (standing.far owner member).perform standing.regular fun own => ?_
    obtain ⟨⟨other, owned, foreign⟩, -⟩ | ⟨-, within⟩ | ⟨settings, rfl⟩ := fits
    · obtain rfl : owner = other := Option.some.inj (own.symm.trans owned)
      exact absurd member (apart.members owner foreign)
    · exact within
    · cases own
  tree := standing.tree.trans (bureau.agrees_perform fits)

theorem Standing.alike_far (apart : Apart near far same tree)
    (standing : bureau.Standing near far tree) (flawless : bureau.desk.world.maker.Flawless)
    (foreign : deed.Of far) : Alike near same (far.places tree) bureau (bureau.perform deed).2 := by
  obtain ⟨⟨asker, own, member⟩, -⟩ := foreign
  have sound := standing.regular.sound
  have uses := (standing.far asker member).usesOnly sound
  have goes := counter_perform sound standing.saves own
  constructor
  case counters =>
    intro owner close
    have others : asker ≠ owner := by
      rintro rfl
      exact apart.members asker close member
    exact (leaves_perform sound standing.saves own others).counter.symm
  case commons =>
    have elsewhere := Counter.perform_foreign apart.databases flawless
      (⟨uses.sound, fun query there live => apart.connections _ (uses.connections query there live),
        fun task there location leads =>
          ⟨_, uses.paths task there, standing.tree.resolve_eq_ok_iff.mpr leads⟩⟩ :
        (bureau.counter asker).UsesOnly _ fun path =>
          ∀ location, bureau.commons.tree.resolve path = .ok location → far.places tree location)
      asker deed
    rwa [goes] at elsewhere

/-- A deed of the near party comes to the same wherever everything is the same for it. -/
theorem Alike.perform (apart : Apart near far same tree) (first : left.Standing near far tree)
    (second : right.Standing near far tree) (alike : Alike near same (far.places tree) left right)
    (own : deed.Of near) : (left.perform deed).1 = (right.perform deed).1 ∧
      Alike near same (far.places tree) (left.perform deed).2 (right.perform deed).2 := by
  obtain ⟨⟨asker, asks, member⟩, -⟩ := own
  have uses := (first.near asker member).usesOnly first.regular.sound
  have one := counter_perform first.regular.sound first.saves asks
  have other := counter_perform second.regular.sound second.saves asks
  have agree := Counter.perform_own apart.databases alike.commons
    (⟨uses.sound, uses.connections, fun task there location leads =>
      apart.files _ (uses.paths task there) location (first.tree.way _ ▸ leads)⟩ :
      (left.counter asker).UsesOnly _ _)
    asker deed
  rw [one, alike.counters asker member, other] at agree
  obtain ⟨answer, counter, commons⟩ := agree
  refine ⟨answer, fun owner close => ?_, commons⟩
  -- At the own counter both runs do the same; at the others neither does anything.
  by_cases here : asker = owner
  · exact here ▸ counter
  · rw [(leaves_perform first.regular.sound first.saves asks here).counter,
      (leaves_perform second.regular.sound second.saves asks here).counter,
      alike.counters owner close]

theorem Alike.defaults (alike : Alike near same (far.places tree) left right) (settings : Settings) :
    Alike near same (far.places tree) (left.perform (.defaults settings)).2
      (right.perform (.defaults settings)).2 where
  counters := alike.counters
  commons := ⟨alike.commons.world, rfl, alike.commons.tree⟩

/-- Leaving out what the far party does changes nothing for the near one. -/
theorem play_near (apart : Apart near far same tree) [DecidablePred far.members]
    (deeds : List (Deed η)) (fits : ∀ deed ∈ deeds, deed.Fits near far)
    (first : left.Standing near far tree) (second : right.Standing near far tree)
    (alike : Alike near same (far.places tree) left right) :
    (play deeds left).1.filter (fun entry => !entry.1.isOf far.members) =
        (play (deeds.filter fun deed => !deed.isOf far.members) right).1 ∧
      Alike near same (far.places tree) (play deeds left).2
        (play (deeds.filter fun deed => !deed.isOf far.members) right).2 := by
  induction deeds generalizing left right with
  | nil => exact ⟨rfl, alike⟩
  | cons deed rest ih =>
    have here := fits deed List.mem_cons_self
    have later := fun deed member => fits deed (List.mem_cons_of_mem _ member)
    have next := first.perform apart here
    -- Deeds of the far party are left out on the right, all others are done on both sides.
    have goesOn (kept : deed.isOf far.members = false)
        (agree : (left.perform deed).1 = (right.perform deed).1 ∧
          Alike near same (far.places tree) (left.perform deed).2 (right.perform deed).2) :
        (play (deed :: rest) left).1.filter (fun entry => !entry.1.isOf far.members) =
            (play ((deed :: rest).filter fun deed => !deed.isOf far.members) right).1 ∧
          Alike near same (far.places tree) (play (deed :: rest) left).2
            (play ((deed :: rest).filter fun deed => !deed.isOf far.members) right).2 := by
      obtain ⟨answers, still⟩ := ih later next (second.perform apart here) agree.2
      rw [List.filter_cons_of_pos (by simp [kept]), play_cons, play_cons,
        List.filter_cons_of_pos (by simp [kept]), answers, agree.1]
      exact ⟨rfl, still⟩
    rcases here with own | foreign | ⟨settings, rfl⟩
    · obtain ⟨⟨asker, asks, member⟩, -⟩ := id own
      refine goesOn ?_ (alike.perform apart first second own)
      simp [Deed.isOf, asks, apart.members asker member]
    · obtain ⟨⟨asker, asks, member⟩, -⟩ := id foreign
      have gone : deed.isOf far.members = true := by simp [Deed.isOf, asks, member]
      have equivalence := apart.databases.equivalence
      have unnoticed := first.alike_far apart alike.commons.world.first foreign
      have stays := (unnoticed.symm equivalence).trans equivalence alike
      obtain ⟨answers, still⟩ := ih later next second stays
      rw [List.filter_cons_of_neg (by simp [gone]), play_cons,
        List.filter_cons_of_neg (by simp [gone])]
      exact ⟨answers, still⟩
    · exact goesOn rfl ⟨rfl, alike.defaults settings⟩

end

def Reached (bureau : Bureau η) : Prop :=
  ∃ host maker defaults tree deeds, bureau = (play deeds (opened host maker defaults tree)).2

structure SameFor (owner : String) (left right : Bureau η) : Prop where
  connection : left.desk.connection? owner = right.desk.connection? owner
  layer : left.desk.overrides.lookup owner = right.desk.overrides.lookup owner
  query : (left.desk.query? owner).map Prod.snd = (right.desk.query? owner).map Prod.snd
  counter : left.counter owner = right.counter owner

omit [Host η] in
theorem sameFor_of_counter {owner : String} {left right : Bureau η} (first : left.office.Sound)
    (second : right.office.Sound) (same : left.counter owner = right.counter owner) :
    SameFor owner left right where
  connection := congrArg Counter.connection same
  layer := congrArg Counter.layer same
  query := by rw [query?_of_counter first, query?_of_counter second, same]
  counter := same

/-- Whatever the owners of a party ask, and whatever their queries and saves come to, others that use no
connection, no database and no file of theirs are answered the same, with the same events, and have the
same connections, settings, queries and files: two runs in which these others do the same do not differ
for them. -/
theorem owners_do_not_interfere {near far : Party} [DecidablePred far.members]
    {same : η → η → Prop} {bureau : Bureau η} (reached : bureau.Reached)
    (flawless : bureau.desk.world.maker.Flawless) (apart : Apart near far same bureau.tree)
    (nearby : ∀ owner, near.members owner → bureau.KeepsTo near owner)
    (remote : ∀ owner, far.members owner → bureau.KeepsTo far owner) (left right : List (Deed η))
    (leftFits : ∀ deed ∈ left, deed.Fits near far) (rightFits : ∀ deed ∈ right, deed.Fits near far)
    (others : left.filter (fun deed => !deed.isOf far.members) =
      right.filter fun deed => !deed.isOf far.members) :
    (play left bureau).1.filter (fun entry => !entry.1.isOf far.members) =
        (play right bureau).1.filter (fun entry => !entry.1.isOf far.members) ∧
      (∀ owner, near.members owner → SameFor owner (play left bureau).2 (play right bureau).2) ∧
      ∀ path, near.paths path → ∀ location ∈ bureau.tree.way path,
        (play left bureau).2.tree.contentAt? location =
          (play right bureau).2.tree.contentAt? location := by
  obtain ⟨host, maker, defaults, tree, deeds, rfl⟩ := reached
  have standing : Standing near far (play deeds (opened host maker defaults tree)).2.tree
      (play deeds (opened host maker defaults tree)).2 :=
    ⟨regular_play host maker defaults tree deeds, savesOwned_play host maker defaults tree deeds,
      nearby, remote, .refl _ _⟩
  generalize (play deeds (opened host maker defaults tree)).2 = start at *
  have equivalence := apart.databases.equivalence
  have still : Alike near same (far.places start.tree) start start :=
    .refl equivalence (far.places start.tree) flawless
  -- Each run comes to the same as that of the deeds left without those of the far party.
  obtain ⟨first, one⟩ := play_near apart left leftFits standing standing still
  obtain ⟨second, other⟩ := play_near apart right rightFits standing standing still
  rw [← others] at second other
  have alike := one.trans equivalence (other.symm equivalence)
  have regular (deeds : List (Deed η)) : (play deeds start).2.Regular :=
    play_preserves Regular (fun deed regular => regular.perform deed) deeds standing.regular
  refine ⟨first.trans second.symm, fun owner member => ?_, fun path own location there => ?_⟩
  · exact sameFor_of_counter (regular left).sound (regular right).sound (alike.counters owner member)
  · exact alike.commons.tree.files location (apart.files path own location there)

/-- An owner with the first of two databases and a path that leads nowhere. -/
abbrev partyA : Party := ⟨(· = "a"), (· = 0), (· = "")⟩

abbrev partyB : Party := ⟨(· = "b"), (· = 1), (· = "b.csv")⟩

def ownSources : Array Replay :=
  let answer (number : Int64) : Script :=
    [.result ⟨⟨[⟨0, "v", "int", false⟩], false⟩, [.row [.int64 number]], none⟩]
  #[⟨[answer 1], []⟩, ⟨[answer 2], []⟩]

def bothConnected : Bureau (Array Replay) :=
  (play [.asks "a" (.connect 0), .asks "b" (.connect 1)]
    (opened ownSources .memory .standard ⟨[], [], []⟩)).2

/-- Both owners run a query in turns, and save its result. -/
def inTurns : List (Deed (Array Replay)) :=
  let csv (path : String) : SaveRequest := ⟨path, .csv, none, none, none, none, true⟩
  [.asks "a" (.override (some ⟨2, true, false, 2, 1⟩)), .asks "a" (.execute "x" false false),
    .asks "b" (.execute "y" false false), .decides "a" 0 .accept, .decides "b" 0 .accept] ++
  (List.replicate 20 [.runs "a" 0 ⟨0, 0⟩, .runs "b" 0 ⟨0, 0⟩]).flatten ++
  [.asks "a" (.save 0 0 (csv "")), .asks "b" (.save 0 0 (csv "b.csv")), .writes "a" 0,
    .writes "b" 0, .asks "a" .dispose, .asks "a" .disconnect]

theorem apart_parties : Apart partyB partyA
    (fun left right : Array Replay => ∀ connection, partyB.connections connection →
      left[connection]? = right[connection]?) bothConnected.tree where
  members := by
    rintro owner rfl
    decide
  connections := by
    rintro connection rfl
    decide
  databases := separates_replays partyB.connections
  files := by
    rintro path rfl location leads ⟨other, rfl, there⟩
    have nowhere : bothConnected.tree.resolve "" = .error .notFound := by rfl
    cases nowhere.symm.trans there

theorem fits_inTurns : ∀ deed ∈ inTurns, deed.Fits partyB partyA := by
  have a {deed : Deed (Array Replay)} (own : deed.owner? = some "a") (within : deed.Within partyA) :
      deed.Fits partyB partyA := .inr (.inl ⟨⟨"a", own, rfl⟩, within⟩)
  have b {deed : Deed (Array Replay)} (own : deed.owner? = some "b") (within : deed.Within partyB) :
      deed.Fits partyB partyA := .inl ⟨⟨"b", own, rfl⟩, within⟩
  intro deed member
  simp only [inTurns, List.mem_append, List.mem_flatten, List.mem_replicate, List.mem_cons,
    List.not_mem_nil, or_false] at member
  rcases member with ((rfl | rfl | rfl | rfl | rfl) | ⟨turn, ⟨-, rfl⟩, inside⟩) |
    rfl | rfl | rfl | rfl | rfl | rfl
  case inl.inr =>
    simp only [List.mem_cons, List.not_mem_nil, or_false] at inside
    rcases inside with rfl | rfl
    · exact a rfl trivial
    · exact b rfl trivial
  all_goals first | exact a rfl trivial | exact b rfl trivial | exact a rfl rfl | exact b rfl rfl

theorem keepsTo_bothConnected : bothConnected.KeepsTo partyA "a" ∧ bothConnected.KeepsTo partyB "b" := by
  have first : bothConnected.desk.connection? "a" = some 0 := by rfl
  have second : bothConnected.desk.connection? "b" = some 1 := by rfl
  have none : bothConnected.desk.queries = #[] := by rfl
  constructor
  · refine ⟨fun connection connected => ?_, fun id query found => ?_, fun task member => ?_⟩
    · exact Option.some.inj (connected.symm.trans first)
    · simp [none] at found
    · cases member
  · refine ⟨fun connection connected => ?_, fun id query found => ?_, fun task member => ?_⟩
    · exact Option.some.inj (connected.symm.trans second)
    · simp [none] at found
    · cases member

theorem owners_do_not_interfere_in_turns :
    let alone := inTurns.filter fun deed => !deed.isOf partyA.members
    (play inTurns bothConnected).1.filter (fun entry => !entry.1.isOf partyA.members) =
        (play alone bothConnected).1.filter (fun entry => !entry.1.isOf partyA.members) ∧
      SameFor "b" (play inTurns bothConnected).2 (play alone bothConnected).2 ∧
      (∀ location ∈ bothConnected.tree.way "b.csv",
        (play inTurns bothConnected).2.tree.contentAt? location =
          (play alone bothConnected).2.tree.contentAt? location) ∧
      ((play inTurns bothConnected).2.desk.query? "b").map (·.2.state) = some .completed := by
  intro alone
  obtain ⟨keepsA, keepsB⟩ := keepsTo_bothConnected
  have reached : bothConnected.Reached := ⟨_, _, _, _, _, rfl⟩
  obtain ⟨answers, same, files⟩ := owners_do_not_interfere reached
    ⟨fun _ => rfl, fun _ => rfl⟩ apart_parties
    (by rintro owner rfl; exact keepsB) (by rintro owner rfl; exact keepsA) inTurns alone
    fits_inTurns (fun deed member => fits_inTurns deed (List.mem_filter.mp member).1)
    (by simp [alone])
  exact ⟨answers, same "b" rfl, files "b.csv" rfl, by decide +kernel⟩

end Bureau

end SqlDesk
