import SqlDesk.Proofs.Desk.Office

/-! Whose events come under the name of an owner once a query of that owner has been accepted. Events
come from queries that are under way, and a query under way was so before or is a new one. Disposing of
a query takes it out of the register and not out of what is under way, so an earlier query whose end
has not been told goes on telling beside the one that has followed it, up to its end. -/

set_option autoImplicit false

namespace SqlDesk.Office

variable {η : Type}

/-- A query of an owner that has been accepted, or may still be, and whose end has not been told. -/
def UnderWay (office : Office η) (owner : String) (id : QueryId) : Prop :=
  (id ∈ office.desk.accepted ∨ (owner, id) ∈ office.offered) ∧
    ∃ query, office.desk.queries[id]? = some query ∧ query.owner = owner ∧ ¬ query.Over

/-- An earlier query of an owner that is under way has been cancelled, or its final state is set. -/
theorem Sound.stopped_of_earlier {office : Office η} (sound : office.Sound) {owner : String}
    {id earlier : QueryId} {query : Query} (offered : (owner, id) ∈ office.offered) (before : earlier < id)
    (running : earlier ∈ office.desk.accepted ∨ (owner, earlier) ∈ office.offered)
    (found : office.desk.queries[earlier]? = some query) (owned : query.owner = owner) :
    query.Stopped := by
  subst owned
  refine (sound.live earlier query found running).resolve_left fun registered => ?_
  obtain ⟨-, newer, there, same⟩ := sound.offered _ id offered
  exact Nat.not_le_of_lt before (sound.newest _ earlier registered id newer there same)

/-- What has become of an office, as far as the events of an owner are concerned. -/
structure Goes (owner : String) (before after : Office η) : Prop where
  size : before.desk.queries.size ≤ after.desk.queries.size
  told : ∃ more, after.told = before.told ++ more ∧ ∀ id event, (id, event) ∈ more →
    event.owner = owner → before.UnderWay owner id ∨ before.desk.queries.size ≤ id
  underWay : ∀ id, after.UnderWay owner id →
    before.UnderWay owner id ∨ before.desk.queries.size ≤ id

namespace Goes

variable {owner : String} {first second third : Office η}

theorem refl (office : Office η) : Goes owner office office where
  size := Nat.le_refl _
  told := ⟨[], (List.append_nil _).symm, by simp⟩
  underWay _ underWay := .inl underWay

theorem trans (left : Goes owner first second) (right : Goes owner second third) :
    Goes owner first third where
  size := Nat.le_trans left.size right.size
  told := by
    obtain ⟨earlier, before, own⟩ := left.told
    obtain ⟨later, after, others⟩ := right.told
    refine ⟨earlier ++ later, by rw [after, before, List.append_assoc], ?_⟩
    intro id event member same
    rcases List.mem_append.mp member with inFirst | inSecond
    · exact own id event inFirst same
    · rcases others id event inSecond same with underWay | new
      · exact left.underWay id underWay
      · exact .inr (Nat.le_trans left.size new)
  underWay id underWay := by
    rcases right.underWay id underWay with between | new
    · exact left.underWay id between
    · exact .inr (Nat.le_trans left.size new)

theorem underWay_of
    (may : ∀ id, id ∈ second.desk.accepted ∨ (owner, id) ∈ second.offered →
      first.desk.queries.size ≤ id ∨ id ∈ first.desk.accepted ∨ (owner, id) ∈ first.offered)
    (queries : ∀ id next, second.desk.queries[id]? = some next → first.desk.queries.size ≤ id ∨
      ∃ query, first.desk.queries[id]? = some query ∧ next.owner = query.owner ∧
        (query.Over → next.Over)) (id : QueryId) (underWay : second.UnderWay owner id) :
    first.UnderWay owner id ∨ first.desk.queries.size ≤ id := by
  obtain ⟨running, next, found, owned, unended⟩ := underWay
  rcases may id running with new | was
  · exact .inr new
  · rcases queries id next found with new | ⟨query, there, same, atEnd⟩
    · exact .inr new
    · exact .inl ⟨was, query, there, same.symm.trans owned, unended ∘ atEnd⟩

theorem silent (told : second.told = first.told) :
    ∃ more, second.told = first.told ++ more ∧ ∀ id event, (id, event) ∈ more →
      event.owner = owner → first.UnderWay owner id ∨ first.desk.queries.size ≤ id :=
  ⟨[], by rw [told, List.append_nil], by simp⟩

theorem of_kept {office : Office η} {desk : Desk η} (kept : office.desk.Kept desk) :
    Goes owner office { office with desk } := by
  refine ⟨Nat.le_of_eq kept.size.symm, silent rfl, underWay_of (fun id running => .inr ?_) ?_⟩
  · rw [← kept.accepted]
    exact running
  · intro id next found
    obtain ⟨query, there, asked⟩ := kept.query_of_after found
    exact .inr ⟨query, there, (Query.keeps_of_asked asked).owner, (Query.state_of_asked asked).2.mpr⟩

theorem of_decided {office : Office η} {desk : Desk η} {name : String} {id : QueryId}
    (sound : office.Sound) (offered : (name, id) ∈ office.offered)
    (kept : desk.queries = office.desk.queries)
    (accepted : ∀ other ∈ desk.accepted, other ∈ office.desk.accepted ∨ other = id) :
    Goes owner office (office.decided id desk) := by
  unfold decided
  refine ⟨Nat.le_of_eq (by rw [kept]), silent rfl, ?_⟩
  rintro other ⟨running, query, found, owned, unended⟩
  simp only [kept] at found
  refine .inl ⟨?_, query, found, owned, unended⟩
  rcases running with member | waiting
  · rcases accepted other member with before | rfl
    · exact .inl before
    · obtain ⟨-, same, there, named⟩ := sound.offered name other offered
      rw [found] at there
      cases there
      exact .inr (owned ▸ named ▸ offered)
  · exact .inr (List.mem_filter.mp waiting).1

theorem of_abandoned {office : Office η} {name : String} {id : QueryId} (sound : office.Sound)
    (offered : (name, id) ∈ office.offered) :
    Goes owner office (office.decided id (office.desk.abandon name id)) := by
  obtain ⟨queries, accepted⟩ := office.desk.queries_abandon name id
  exact of_decided sound offered queries fun other member => .inl (accepted ▸ member)

theorem of_offered {office : Office η} {desk : Desk η} {request : QueryRequest} {id : QueryId}
    (sound : office.Sound) (made : office.desk.create request = .ok (id, desk)) :
    Goes owner office { office with desk, offered := office.offered ++ [(request.owner, id)] } := by
  obtain ⟨connection, released, -, freed, rfl, rfl⟩ := Desk.create_eq_ok made
  have kept := Desk.kept_release sound.keys freed
  have grown : (released.enrol (.create request.owner request.text connection
      (office.desk.settingsFor request.owner request.actualPlan request.estimatedPlan))).queries.size =
        office.desk.queries.size + 1 := by
    rw [← kept.size]
    exact Array.size_push _
  refine ⟨by simp only [grown]; omega, silent rfl, underWay_of ?_ ?_⟩
  -- A query that is under way now is the new one, or was so before.
  · rintro other (member | waiting)
    · exact .inr (.inl (kept.accepted ▸ member))
    · rcases List.mem_append.mp waiting with before | new
      · exact .inr (.inr before)
      · have same := congrArg Prod.snd (List.mem_singleton.mp new)
        exact .inl (Nat.le_of_eq (kept.size.symm.trans same.symm))
  · intro other next found
    change (released.queries.push _)[other]? = some next at found
    rw [Array.getElem?_push] at found
    split at found
    · rename_i new
      exact .inl (Nat.le_of_eq (kept.size.symm.trans new.symm))
    · obtain ⟨query, there, asked⟩ := kept.query_of_after found
      exact .inr ⟨query, there, (Query.keeps_of_asked asked).owner,
        (Query.state_of_asked asked).2.mpr⟩

variable [Host η]

/-- A step is taken by a query under way, and one that is over tells nothing. -/
theorem of_advance {office : Office η} (now : Instant) {id : QueryId} {query : Query}
    (sound : office.Sound) (accepted : id ∈ office.desk.accepted)
    (found : office.desk.queries[id]? = some query) :
    Goes owner office (office.advance now id query) := by
  have keeps := ((sound.queries id query found).advance now office.desk.world).2
  -- If the query is over, its step is none at all, so whoever tells something is under way.
  refine ⟨Nat.le_of_eq Array.size_setIfInBounds.symm, ⟨_, told_advance .., ?_⟩,
    underWay_of (fun _ => .inr) ?_⟩
  · intro other event member same
    obtain ⟨happening, told, here⟩ := List.mem_map.mp member
    cases here
    refine .inl ⟨.inl accepted, query, found, same, fun atEnd => ?_⟩
    rw [atEnd.advance] at told
    cases told
  · intro other after there
    rw [getElem?_advance now found] at there
    split at there
    · rename_i here
      subst here
      cases there
      exact .inr ⟨query, found, keeps.owner, fun atEnd => by rwa [atEnd.advance]⟩
    · exact .inr ⟨after, there, rfl, fun atEnd => atEnd⟩

end Goes

variable [Host η] {office later : Office η}

theorem Next.goes (happened : office.Next later) (sound : office.Sound) (owner : String) :
    Goes owner office later := by
  cases happened with
  | handles handles => exact .of_kept (handles.kept sound.keys)
  | runs now accepted found => exact .of_advance now sound accepted found
  | offers made => exact .of_offered sound made
  | accepts offered =>
    refine .of_decided sound offered rfl fun other member => ?_
    exact (List.mem_append.mp member).imp_right List.mem_singleton.mp
  | @declines name id offered =>
    have given : Goes owner office (office.decided id (office.desk.abandon name id)) :=
      .of_abandoned sound offered
    exact given.trans (.of_kept ((office.desk.abandon name id).kept_disposeQuery id))
  | abandons offered => exact .of_abandoned sound offered

theorem Course.goes (course : office.Course later) (sound : office.Sound) (owner : String) :
    Goes owner office later := by
  induction course with
  | refl => exact .refl office
  | tail before happened ih => exact ih.trans (happened.goes (Course.sound before sound) owner)

theorem Course.completion_told (course : office.Course later) (sound : office.Sound)
    {owner : String} {id : QueryId} {query final : Query} {more : List (QueryId × Event)}
    (told : later.told = office.told ++ more)
    (found : office.desk.queries[id]? = some query) (unended : ¬ query.Over)
    (ended : later.desk.queries[id]? = some final) (atEnd : final.Over) (owned : final.owner = owner) :
    ∃ summaries, (id, ⟨owner, .queryCompleted summaries⟩) ∈ more := by
  have sounds := course.sound sound
  obtain ⟨stories, summaries, story, -⟩ := (sounds.queries id final ended).told_of_over atEnd
  have endless := (sound.queries id query found).endless unended
  have member : Happening.queryCompleted summaries ∈ later.toldBy id := by simp [story]
  obtain ⟨⟨other, event⟩, entry, same⟩ := List.mem_map.mp member
  obtain ⟨inside, here⟩ := List.mem_filter.mp entry
  have itself : id = other := (of_decide_eq_true here).symm
  subst itself
  obtain ⟨asker, there, owner⟩ := sounds.told id event inside
  rw [ended] at there
  cases there
  refine ⟨summaries, ?_⟩
  rw [told] at inside
  -- Before, its end had not been told, so the completion is among what has been told since.
  rcases List.mem_append.mp inside with before | after
  · have earlier : event.happening ∈ office.toldBy id :=
      List.mem_map.mpr ⟨(id, event), List.mem_filter.mpr ⟨before, here⟩, rfl⟩
    have not := endless _ earlier
    rw [same] at not
    cases not
  · rwa [← same, ← owned, ← owner]

/-- Once a query has been accepted, the events that come under the name of its owner are its own,
those of later queries, and those of earlier ones that have been cancelled or disposed of and whose
end has not been told. Each of the earlier ones that comes to its end tells it under that name. -/
theorem events_after_acceptance {world : World η} {defaults : Settings} {owner : String}
    {id : QueryId} (reached : Course (opened world defaults) office)
    (offered : (owner, id) ∈ office.offered) (course : Course (office.accept id) later) :
    ∃ more, later.told = office.told ++ more ∧
      (∀ other event, (other, event) ∈ more → event.owner = owner →
        id ≤ other ∨ office.UnderWay owner other) ∧
      ∀ earlier < id, office.UnderWay owner earlier →
        (∃ query, office.desk.queries[earlier]? = some query ∧ query.Stopped) ∧
        ∀ final, later.desk.queries[earlier]? = some final → final.Over → final.owner = owner →
          ∃ summaries, (earlier, ⟨owner, .queryCompleted summaries⟩) ∈ more := by
  have sound := reached.sound (sound_opened world defaults)
  have accepts : office.Course (office.accept id) := .single (.accepts offered)
  have whole : office.Course later := accepts.trans course
  obtain ⟨more, told, own⟩ := (whole.goes sound owner).told
  refine ⟨more, told, ?_, ?_⟩
  · intro other event member same
    rcases own other event member same with underWay | new
    · exact .inr underWay
    · obtain ⟨-, query, found, -⟩ := sound.offered owner id offered
      have inside := (Array.getElem?_eq_some_iff.mp found).1
      exact .inl (Nat.le_of_lt (Nat.lt_of_lt_of_le inside new))
  · rintro earlier before ⟨running, query, found, owned, unended⟩
    refine ⟨⟨query, found, sound.stopped_of_earlier offered before running found owned⟩, ?_⟩
    intro final ended atEnd same
    exact whole.completion_told sound told found unended ended atEnd same

/-- An owner whose source gives one row and then waits, and answers the next text in full. -/
def stuckSource : Array Replay :=
  #[⟨[[.result ⟨⟨[], false⟩, [.row [.int64 1]], some .hangs⟩],
    [.result ⟨⟨[], false⟩, [.row [.int64 1]], none⟩]], []⟩]

def stuckConnected : Office (Array Replay) :=
  { opened ⟨stuckSource, .file⟩ .standard with
    desk := (opened ⟨stuckSource, .file⟩ .standard).desk.connect "o" 0 }

def stuckRequest : QueryRequest := ⟨"o", "a", false, false⟩

def stuckOffered : Office (Array Replay) :=
  { stuckConnected with
    desk := stuckConnected.desk.enrol
      (.create "o" "a" 0 (stuckConnected.desk.settingsFor "o" false false))
    offered := [("o", 0)] }

def stuckWaiting : Office (Array Replay) := (proceed ⟨0, 0⟩ 0)^[12] (stuckOffered.accept 0)

def stuckDisposed : Office (Array Replay) :=
  { stuckWaiting with desk := (stuckWaiting.desk.unregister "o").disposeQuery 0 }

def followerOffered : Office (Array Replay) :=
  { stuckDisposed with
    desk := stuckDisposed.desk.enrol
      (.create "o" "a" 0 (stuckDisposed.desk.settingsFor "o" false false))
    offered := [("o", 1)] }

/-- The first query has gone on to its end after the second one was accepted. -/
def bothTold : Office (Array Replay) := (proceed ⟨0, 0⟩ 0)^[12] (followerOffered.accept 1)

theorem followerOffered_reached : Course (opened ⟨stuckSource, .file⟩ .standard) followerOffered := by
  have connects : Course (opened ⟨stuckSource, .file⟩ .standard) stuckConnected :=
    .single (.handles (.connects "o" 0))
  have connection : stuckConnected.desk.connection? stuckRequest.owner = some 0 := by decide +kernel
  have freed : stuckConnected.desk.release stuckRequest.owner = .ok stuckConnected.desk := rfl
  have first : stuckConnected.desk.create stuckRequest = .ok (0, stuckOffered.desk) :=
    Desk.create_of_release connection freed
  have offers : Course stuckConnected stuckOffered := .single (.offers first)
  have waits : ("o", 0) ∈ stuckOffered.offered := List.mem_cons_self
  have accepts : Course stuckOffered (stuckOffered.accept 0) := .single (.accepts waits)
  have runs : Course (stuckOffered.accept 0) stuckWaiting :=
    course_proceed _ (List.mem_append_right _ List.mem_cons_self) 12
  have disposed : stuckWaiting.desk.dispose "o" = .ok stuckDisposed.desk := by
    have registered : (stuckWaiting.desk.query? "o").map (·.1) = some 0 := by decide +kernel
    obtain ⟨⟨id, query⟩, found, rfl⟩ := Option.map_eq_some_iff.mp registered
    simp only [Desk.dispose, Desk.require, found]
    rfl
  have disposes : Course stuckWaiting stuckDisposed := .single (.handles (.disposes disposed))
  have second : stuckDisposed.desk.create stuckRequest = .ok (1, followerOffered.desk) := by
    have connection : stuckDisposed.desk.connection? stuckRequest.owner = some 0 := by decide +kernel
    have nothing : (stuckDisposed.desk.query? stuckRequest.owner).isNone = true := by decide +kernel
    have freed : stuckDisposed.desk.release stuckRequest.owner = .ok stuckDisposed.desk := by
      rw [Desk.release, Option.isNone_iff_eq_none.mp nothing]
    exact Desk.create_of_release connection freed
  have follows : Course stuckDisposed followerOffered := .single (.offers second)
  exact (((connects.trans offers).trans accepts).trans runs).trans (disposes.trans follows)

theorem bothTold_follows : Course (followerOffered.accept 1) bothTold :=
  course_proceed _ (List.mem_append_left _ (by decide +kernel)) 12

theorem events_after_acceptance_stuck :
    ∃ more, bothTold.told = followerOffered.told ++ more ∧
      ∃ summaries, (0, ⟨"o", .queryCompleted summaries⟩) ∈ more := by
  have offered : ("o", 1) ∈ followerOffered.offered := List.mem_cons_self
  obtain ⟨more, told, -, ends⟩ :=
    events_after_acceptance followerOffered_reached offered bothTold_follows
  have running : 0 ∈ followerOffered.desk.accepted := by decide +kernel
  have waits : (followerOffered.desk.queries[0]?).map (fun query => (query.owner, query.isTerminal)) =
      some ("o", false) := by decide +kernel
  obtain ⟨query, found, shown⟩ := Option.map_eq_some_iff.mp waits
  simp only [Prod.mk.injEq] at shown
  obtain ⟨owned, unended⟩ := shown
  have underWay : followerOffered.UnderWay "o" 0 := by
    refine ⟨.inl running, query, found, owned, fun atEnd => ?_⟩
    rw [atEnd.1] at unended
    cases unended
  have rests : (bothTold.desk.queries[0]?).map (fun query =>
      (query.owner, query.isTerminal, query.batchesLeft)) = some ("o", true, 0) := by decide +kernel
  obtain ⟨final, there, shown⟩ := Option.map_eq_some_iff.mp rests
  simp only [Prod.mk.injEq] at shown
  obtain ⟨same, terminal, nothing⟩ := shown
  obtain ⟨-, tells⟩ := ends 0 Nat.one_pos underWay
  exact ⟨more, told, tells final there ⟨terminal, Query.resting_of_batchesLeft nothing⟩ same⟩

/-- Events of a query that was disposed of come after the next one has been accepted. -/
theorem disposed_query_tells_on :
    ∃ office later : Office (Array Replay),
      Course (opened ⟨stuckSource, .file⟩ .standard) office ∧ ("o", 1) ∈ office.offered ∧
      office.desk.queryId? "o" = some 1 ∧ Course (office.accept 1) later ∧
      ∃ event, (0, event) ∈ later.told.drop office.told.length ∧ event.owner = "o" := by
  refine ⟨followerOffered, bothTold, followerOffered_reached, List.mem_cons_self, by decide +kernel,
    bothTold_follows, ?_⟩
  have tells : (0, "o") ∈ (bothTold.told.drop followerOffered.told.length).map
      fun entry => (entry.1, entry.2.owner) := by decide +kernel
  obtain ⟨⟨id, event⟩, member, same⟩ := List.mem_map.mp tells
  obtain ⟨rfl, owned⟩ := Prod.mk.inj same
  exact ⟨event, member, owned⟩

end SqlDesk.Office
