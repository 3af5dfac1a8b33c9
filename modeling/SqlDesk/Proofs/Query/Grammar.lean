import SqlDesk.Proofs.Batch.Story
import SqlDesk.Proofs.Query.Course

/-! What a query tells while it runs: the stories of its first batches in their order, then what the
batch under way has told so far, and at the end the completion of the query. Requests change nothing
of what has been told, nor of what the invariant says about batches and results. -/

set_option autoImplicit false

namespace SqlDesk

/-! The invariant. -/

/-- The first batches have told their stories, and those that have not begun have no results. -/
structure StoriesTold (batches : List Batch) (stories : List BatchStory) (begun : Nat) : Prop where
  regular : ∀ (place : Nat) (story : BatchStory), stories[place]? = some story →
    ∃ batch, batches[place]? = some batch ∧ story.Regular place batch.results.length
  fresh : ∀ (place : Nat) (batch : Batch), begun ≤ place → batches[place]? = some batch →
    batch.results = []

namespace Query

/-- What has been told since the last story ended, by what the query is about to do. -/
def LatelyTold (query : Query) (stories : List BatchStory) (told : List Happening) : Prop :=
  match query.activity with
  | .choosing index => stories.length = index ∧ told = [] ∧ StoriesTold query.batches stories index
  | .executing index phase => stories.length = index ∧ StoriesTold query.batches stories (index + 1) ∧
      ∃ batch, query.batches[index]? = some batch ∧ StoryTold batch phase told
  | .closing _ | .announcing => told = [] ∧ StoriesTold query.batches stories stories.length
  | .resting => (∃ summaries, told = [.queryCompleted summaries]) ∧
      StoriesTold query.batches stories stories.length

/-- What a query has told since it began. -/
def Told (query : Query) (told : List Happening) : Prop :=
  ∃ stories lately, told = stories.flatMap BatchStory.happenings ++ lately ∧
    query.LatelyTold stories lately

end Query

/-! Requests keep the invariant. -/

theorem StoryTold.of_bare {left right : Batch} {phase : BatchPhase} {told : List Happening}
    (same : left.bare = right.bare) (before : StoryTold left phase told) :
    StoryTold right phase told := by
  have results : left.results.map ResultSet.bare = right.results.map ResultSet.bare :=
    congrArg Batch.results same
  have id : left.bare.id = right.bare.id := by rw [same]
  have length := Batch.length_of_same same
  change left.id = right.id at id
  cases phase with
  | starting left =>
    refine ⟨before.1, List.eq_nil_of_length_eq_zero ?_⟩
    rw [← length, before.2]
    rfl
  | reading runs cursor readPhase =>
    -- The result that is read is the last one on either side, and its summary is the same.
    obtain ⟨parted, block, earlier, result, whole, parts, told, reading⟩ := before
    rw [parts, List.map_append, List.map_singleton] at results
    obtain ⟨others, last, split, others_eq, last_eq⟩ := List.map_eq_append_iff.mp results.symm
    obtain ⟨found, rfl, bare⟩ := List.map_eq_singleton_iff.mp last_eq
    have summary : found.bare.summary = result.bare.summary := by rw [bare]
    change found.summary = result.summary at summary
    have count : others.length = earlier.length := by
      simpa using congrArg List.length others_eq
    exact ⟨parted, block, others, found, whole, split, by rwa [← id, count], by rwa [summary]⟩
  | _ =>
    change PartsTold right.id right.results.length told
    rw [← id, ← length]
    exact before

theorem StoriesTold.of_bare {left right : Query} {stories : List BatchStory} {begun : Nat}
    (same : left.bare = right.bare) (before : StoriesTold left.batches stories begun) :
    StoriesTold right.batches stories begun where
  regular place story there := by
    obtain ⟨batch, found, regular⟩ := before.regular place story there
    obtain ⟨next, isThere, alike⟩ := Query.batch_of_bare same.symm found
    exact ⟨next, isThere, by rwa [Batch.length_of_same alike]⟩
  fresh place batch later found := by
    obtain ⟨previous, there, alike⟩ := Query.batch_of_bare same found
    refine List.eq_nil_of_length_eq_zero ?_
    rw [← Batch.length_of_same alike, before.fresh place previous later there]
    rfl

theorem Query.Told.of_bare {left right : Query} {told : List Happening} (same : left.bare = right.bare)
    (before : left.Told told) : right.Told told := by
  obtain ⟨stories, lately, whole, invariant⟩ := before
  refine ⟨stories, lately, whole, ?_⟩
  have activity : left.bare.activity = right.bare.activity := by rw [same]
  change left.activity = right.activity at activity
  unfold LatelyTold at invariant ⊢
  rw [← activity]
  cases doing : left.activity with
  | choosing index =>
    simp only [doing] at invariant ⊢
    exact ⟨invariant.1, invariant.2.1, invariant.2.2.of_bare same⟩
  | executing index phase =>
    simp only [doing] at invariant ⊢
    obtain ⟨count, earlier, batch, found, story⟩ := invariant
    obtain ⟨next, isThere, alike⟩ := batch_of_bare same.symm found
    exact ⟨count, earlier.of_bare same, next, isThere, story.of_bare alike.symm⟩
  | resting | closing state | announcing =>
    simp only [doing] at invariant ⊢
    exact ⟨invariant.1, invariant.2.of_bare same⟩

/-! Steps keep it. -/

theorem StoriesTold.set {batches : List Batch} {stories : List BatchStory} {begun : Nat}
    (later : stories.length < begun) (before : StoriesTold batches stories begun) (next : Batch) :
    StoriesTold (batches.set stories.length next) stories begun where
  regular place story there := by
    have other : stories.length ≠ place :=
      fun same => Nat.lt_irrefl _ (same ▸ (List.getElem?_eq_some_iff.mp there).1)
    rw [List.getElem?_set_ne other]
    exact before.regular place story there
  fresh place other beyond there := by
    rw [List.getElem?_set_ne (Nat.ne_of_lt (Nat.lt_of_lt_of_le later beyond))] at there
    exact before.fresh place other beyond there

theorem StoriesTold.close {batches : List Batch} {stories : List BatchStory} {batch : Batch}
    {story : BatchStory} (found : batches[stories.length]? = some batch)
    (regular : story.Regular stories.length batch.results.length)
    (before : StoriesTold batches stories (stories.length + 1)) :
    StoriesTold batches (stories ++ [story]) (stories.length + 1) where
  regular place told there := by
    by_cases inside : place < stories.length
    · rw [List.getElem?_append_left inside] at there
      exact before.regular place told there
    · rw [List.getElem?_append_right (Nat.le_of_not_lt inside), List.getElem?_singleton] at there
      split at there
      · cases there
        have last : place = stories.length := by omega
        exact ⟨batch, last ▸ found, last ▸ regular⟩
      · cases there
  fresh := before.fresh

namespace Query

section

variable {query : Query} {stories : List BatchStory} {batch : Batch}

theorem lately_begun (now : Instant) (numbered : query.Numbered)
    (earlier : StoriesTold query.batches stories stories.length)
    (found : query.batches[stories.length]? = some batch) (left : Nat) :
    (query.withRun stories.length
      (query.runOf { batch with started := some now } (.starting left))).LatelyTold stories [] := by
  have inside := (List.getElem?_eq_some_iff.mp found).1
  have batches : (query.setBatch { batch with started := some now }).batches =
    query.batches.set stories.length _ := batches_setBatch numbered found rfl
  have rest : StoriesTold query.batches stories (stories.length + 1) :=
    ⟨earlier.regular, fun place other beyond => earlier.fresh place other (Nat.le_of_lt beyond)⟩
  have unread := earlier.fresh _ _ (Nat.le_refl _) found
  refine ⟨rfl, ?_, { batch with started := some now }, ?_, rfl, unread⟩
  · exact batches ▸ rest.set (Nat.lt_succ_self _) _
  · exact batches ▸ List.getElem?_set_self inside

theorem lately_afterBatch {done : BatchEnd} {whole : BatchStory}
    (earlier : StoriesTold query.batches stories (stories.length + 1))
    (found : query.batches[stories.length]? = some batch)
    (batches : (query.afterBatch stories.length done).batches =
      query.batches.set stories.length done.batch)
    (own : whole.Regular stories.length done.batch.results.length) :
    (query.afterBatch stories.length done).LatelyTold (stories ++ [whole]) [] := by
  have inside := (List.getElem?_eq_some_iff.mp found).1
  have closed := (earlier.set (Nat.lt_succ_self _) done.batch).close
    (List.getElem?_set_self inside) own
  rw [← batches] at closed
  have count : (stories ++ [whole]).length = stories.length + 1 := by simp
  cases outcome : done.outcome with
  | completed | cancelled | failed =>
    simpa only [LatelyTold, afterBatch, outcome, count, true_and] using closed

end

/-- A step of a query goes on with what it tells, and its end is the completion. -/
theorem ensures_told {η : Type} [Host η] (now : Instant) (world : World η) {query : Query}
    {told : List Happening} (numbered : query.Numbered) (before : query.Told told) :
    (query.step now world).2.Ensures (fun next events => next.Told (told ++ events))
      (fun next events => next.Told (told ++ events)) := by
  obtain ⟨stories, lately, rfl, invariant⟩ := before
  have turn := query.turn now world
  revert turn
  rcases query.step now world with ⟨later, progress⟩
  intro turn
  -- A story is whole when its batch ends; the batch under way has told the beginning of one.
  cases turn with
  | rested => exact ⟨stories, lately, List.append_nil _, invariant⟩
  | exhausted chooses | halted chooses | refused chooses =>
    simp only [LatelyTold, chooses] at invariant
    obtain ⟨rfl, rfl, earlier⟩ := invariant
    exact ⟨stories, [], List.append_nil _, rfl, earlier.regular, earlier.fresh⟩
  | closed closes =>
    simp only [LatelyTold, closes] at invariant
    obtain ⟨rfl, earlier⟩ := invariant
    exact ⟨stories, [], List.append_nil _, rfl, earlier.regular, earlier.fresh⟩
  | announced announces =>
    simp only [LatelyTold, announces] at invariant
    obtain ⟨rfl, earlier⟩ := invariant
    refine ⟨stories, [.queryCompleted query.summaries], by simp, ⟨_, rfl⟩, ?_⟩
    exact ⟨earlier.regular, earlier.fresh⟩
  | lost executes missing =>
    simp only [LatelyTold, executes] at invariant
    obtain ⟨-, -, batch, found, -⟩ := invariant
    rw [missing] at found
    cases found
  | begun chooses found =>
    simp only [LatelyTold, chooses] at invariant
    obtain ⟨rfl, rfl, earlier⟩ := invariant
    exact ⟨stories, [], List.append_nil _, lately_begun now numbered earlier found _⟩
  | executed executes found =>
    simp only [LatelyTold, executes] at invariant
    obtain ⟨rfl, earlier, running, same, story⟩ := invariant
    rw [found] at same
    cases same
    obtain ⟨ownId, -, inner⟩ := numbered _ _ found
    refine Progress.ensures_within ?_
    refine ((BatchRun.ensures_numbered now query.cancelRequested world inner).and
      (BatchRun.ensures_story now query.cancelRequested world inner story)).imp ?_ ?_
    · rintro next events ⟨⟨id, -, -⟩, going⟩
      have batches : (query.withRun stories.length next).batches =
        query.batches.set stories.length next.batch := batches_setBatch numbered found id
      refine ⟨stories, lately ++ events, List.append_assoc _ _ _, rfl, ?_, next.batch, ?_, going⟩
      · exact batches ▸ earlier.set (Nat.lt_succ_self _) _
      · exact batches ▸ List.getElem?_set_self (List.getElem?_eq_some_iff.mp found).1
    · rintro done events ⟨⟨id, -, -⟩, whole, closes, regular⟩
      have own : whole.Regular stories.length done.batch.results.length := by
        rw [← ownId]
        exact regular
      refine ⟨stories ++ [whole], [], by simp [closes], ?_⟩
      exact lately_afterBatch earlier found (batches_setBatch numbered found id) own

end Query

/-! Courses keep it, and every subscriber hears all of it. -/

/-- What holds of a query and of all that it has told outlives requests and steps. -/
structure Query.Lasts (η : Type) [Host η] (kept : Query → List Happening → Prop) : Prop where
  bare : ∀ {left right : Query} {told : List Happening}, left.bare = right.bare → kept left told →
    kept right told
  step : ∀ (now : Instant) (world : World η) {query : Query} {told : List Happening},
    query.Numbered → kept query told →
    kept (query.step now world).2.outcome.1 (told ++ (query.step now world).2.outcome.2)

namespace Scene

variable {α : Type}

/-- The query has told a list of happenings, and the first subscribers have heard just that. -/
structure Heard (owner : String) (first : Nat) (told : List Happening) (scene : Scene α) :
    Prop where
  numbered : scene.query.Numbered
  same : scene.subscribers.owner = owner
  present : first ≤ scene.subscribers.members.length
  heard : ∀ place, place < first → scene.heard place = told.map (Event.mk owner)

theorem heard_tell {scene : Scene α} {place : Nat} (inside : place < scene.subscribers.members.length)
    (happenings : List Happening) :
    (scene.tell happenings).heard place =
      scene.heard place ++ happenings.map (Event.mk scene.subscribers.owner) := by
  unfold tell heard
  rw [List.filterMap_append]
  congr 1
  induction happenings with
  | nil => rfl
  | cons happening rest ih =>
    have delivered : ((scene.subscribers.deliveries happening)[place]?).map Prod.snd =
        some ⟨scene.subscribers.owner, happening⟩ := by
      simp [Subscribers.deliveries, inside]
    simp only [List.map_cons, List.filterMap_cons, delivered, ih]

theorem next_told {η : Type} [Host η] {kept : Query → List Happening → Prop}
    (lasts : Query.Lasts η kept) {owner : String} {first : Nat} {scene next : Scene α}
    {told : List Happening} (before : scene.Heard owner first told) (query : kept scene.query told)
    (happened : Next η scene next) :
    ∃ more, next.Heard owner first (told ++ more) ∧ kept next.query (told ++ more) := by
  rcases Next.cases before.numbered happened with
    ⟨now, world, rfl⟩ | ⟨bare, rounds, same, more, members⟩
  · have numbers := (Query.ensures_numbered now world before.numbered).outcome
    have tells := lasts.step now world before.numbered query
    refine ⟨_, ⟨numbers.1, before.same, before.present, ?_⟩, tells⟩
    intro place inside
    rw [List.map_append, ← before.heard place inside, ← before.same]
    exact heard_tell (Nat.lt_of_lt_of_le inside before.present) _
  · rw [← List.append_nil told] at query
    refine ⟨[], ⟨Query.numbered_of_bare bare.symm before.numbered, same.trans before.same, ?_, ?_⟩,
      lasts.bare bare.symm query⟩
    · rw [members, List.length_append]
      exact Nat.le_trans before.present (Nat.le_add_right _ _)
    · intro place inside
      rw [List.append_nil, ← before.heard place inside]
      unfold heard
      rw [rounds]

instance : ∀ activity : Activity, Decidable (activity = .resting)
  | .resting => isTrue rfl
  | .choosing _ | .executing _ _ | .closing _ | .announcing => isFalse nofun

end Scene

end SqlDesk
