import SqlDesk.Proofs.Server.Hall

/-! In what order things are said. A query is announced by the answer to its request, once, before it
is accepted; only accepted queries tell anything. While the server shuts down, ever fewer queries are
left that may still wait, and at the end everything is over and written. -/

set_option autoImplicit false

namespace SqlDesk

def Utterance.started (said : List Utterance) : List QueryId := said.filterMap Utterance.starts?

theorem Utterance.started_append (front back : List Utterance) :
    started (front ++ back) = started front ++ started back := List.filterMap_append

theorem Utterance.started_events (id : QueryId) (owner : String) (happenings : List Happening) :
    started (happenings.map fun happening => .event id ⟨owner, happening⟩) = [] := by
  simp [started, starts?, List.filterMap_eq_nil_iff]

/-- No query tells anything before the answer to its request. -/
def Heralded (said : List Utterance) : Prop :=
  ∀ front id told back, said = front ++ .event id told :: back → id ∈ Utterance.started front

theorem Heralded.of_append {front back : List Utterance} (heralded : Heralded (front ++ back)) :
    Heralded front := by
  rintro before id told after rfl
  exact heralded before id told (after ++ back) (by simp)

theorem Heralded.append {said more : List Utterance} (heralded : Heralded said)
    (known : ∀ id told, .event id told ∈ more → id ∈ Utterance.started said) :
    Heralded (said ++ more) := by
  intro front id told back whole
  -- The event stands in the old part or in the new one, perhaps as the first there.
  rcases List.append_eq_append_iff.mp whole with ⟨between, rfl, rest⟩ | ⟨between, rfl, rest⟩
  · have member : .event id told ∈ more := rest ▸ List.mem_append_right _ List.mem_cons_self
    rw [Utterance.started_append]
    exact List.mem_append_left _ (known id told member)
  · cases between with
    | nil =>
      have member : .event id told ∈ more := by
        rw [List.nil_append] at rest
        exact rest ▸ List.mem_cons_self
      rw [← List.append_nil front]
      exact known id told member
    | cons first others =>
      obtain ⟨rfl, rfl⟩ := List.cons.inj (show _ = first :: (others ++ more) from rest)
      exact heralded front id told others rfl

namespace Hall

variable {η : Type}

structure Shut (hall : Hall η) : Prop where
  /-- What is registered for an owner has been stopped, unless the owner is among those left. -/
  stopping : ∀ asked owners, hall.duty = .stopping asked owners →
    ∀ owner id query, (owner, id) ∈ hall.state.desk.registered → owner ∉ owners →
      hall.state.desk.queries[id]? = some query → query.Stopped
  atEnd : hall.duty = .closing ∨ hall.duty = .closed →
    ∀ id ∈ hall.state.desk.accepted, ∀ query, hall.state.desk.queries[id]? = some query → query.Over
  drained : hall.duty = .closed → hall.queue = []

/-- What holds of every hall that comes about. -/
structure Sound (hall : Hall η) : Prop where
  office : hall.office.Sound
  started : Utterance.started hall.said = hall.state.desk.accepted ++ hall.duty.announced
  once : hall.state.desk.accepted.Nodup
  heralded : Heralded hall.said
  shut : hall.Shut

theorem sound_opened (world : World η) (tree : FileTree) (defaults : Settings) :
    (opened world tree defaults).Sound where
  office := Office.sound_opened world defaults
  started := rfl
  once := List.nodup_nil
  heralded front id told back whole := by simp [opened, said] at whole
  shut := ⟨nofun, nofun, nofun⟩

theorem shut_stop (hall : Hall η) (asked : Option Rpc.MessageId) : (hall.stop asked).Shut where
  stopping asked owners duty owner id query member left := by
    cases duty
    exact absurd (List.mem_map_of_mem member) left
  atEnd := nofun
  drained := nofun

theorem Taken.shut {hall next : Hall η} {request : Rpc.Request} (taken : hall.Taken request next) :
    next.Shut := by
  cases taken with
  | answered | offered => exact ⟨nofun, nofun, nofun⟩
  | stopped => exact hall.shut_stop _

variable [Host η] {hall next : Hall η}

theorem Sound.over_of_course (sound : hall.Sound) (course : hall.office.Course next.office)
    (accepted : next.state.desk.accepted = hall.state.desk.accepted)
    (atEnd : ∀ id ∈ hall.state.desk.accepted, ∀ query,
      hall.state.desk.queries[id]? = some query → query.Over) :
    ∀ id ∈ next.state.desk.accepted, ∀ query, next.state.desk.queries[id]? = some query →
      query.Over := by
  intro id member query found
  rw [accepted] at member
  obtain ⟨before, there⟩ := sound.office.accepted id member
  obtain ⟨after, stands, -, stays⟩ := course.stays sound.office there
  cases found.symm.trans stands
  exact stays (atEnd id member before there)

theorem Sound.shut_of_course (sound : hall.Sound) (course : hall.office.Course next.office)
    (duty : next.duty = hall.duty)
    (fewer : next.state.desk.registered ⊆ hall.state.desk.registered)
    (accepted : next.state.desk.accepted = hall.state.desk.accepted)
    (drained : hall.duty = .closed → next.queue = []) : next.Shut where
  stopping asked owners stopping owner id query member left found := by
    obtain ⟨before, there, -⟩ := sound.office.registered owner id (fewer member)
    obtain ⟨after, stands, keeps, -⟩ := course.stays sound.office there
    cases found.symm.trans stands
    exact keeps.stopped
      (sound.shut.stopping asked owners (duty ▸ stopping) owner id before (fewer member) left there)
  atEnd ending := sound.over_of_course course accepted (sound.shut.atEnd (duty ▸ ending))
  drained closed := drained (duty ▸ closed)

variable [Opener η]

/-- A step of the loop or beside it, as far as the register, the queries that may run and the answers
are concerned. -/
theorem Next.started (happened : hall.Next next) (sound : hall.Sound) :
    Utterance.started next.said = next.state.desk.accepted ++ next.duty.announced ∧
      next.state.desk.accepted.Nodup := by
  have started := sound.started
  -- A new duty with nothing announced, at a desk with the same queries accepted.
  have silent {desk : Desk η} {duty : Duty} (accepted : desk.accepted = hall.state.desk.accepted)
      (before : hall.duty.announced = []) (after : duty.announced = []) :
      Utterance.started hall.said = desk.accepted ++ duty.announced ∧ desk.accepted.Nodup := by
    rw [accepted, after, ← before]
    exact ⟨started, sound.once⟩
  have keys := sound.office.keys
  cases happened with
  | @runs now id query accepted found =>
    refine ⟨?_, sound.once⟩
    have told := hall.said_say ((query.advance now hall.state.desk.world).2.2.map fun happening =>
      .event id ⟨query.owner, happening⟩)
    refine (congrArg Utterance.started told).trans ?_
    rw [Utterance.started_append, Utterance.started_events, List.append_nil]
    exact started
  | @saves before after owner task pending unclosed =>
    have accepted := (hall.state.desk.kept_runSave hall.state.tree task).accepted
    have told := hall.said_say [.saved owner task.request.path
      (hall.state.desk.runSave hall.state.tree task).2.2]
    refine ⟨?_, accepted.symm ▸ sound.once⟩
    refine (congrArg Utterance.started told).trans ?_
    rw [Utterance.started_append]
    exact (List.append_nil _).trans (started.trans (accepted ▸ rfl))
  | elsewhere world tree => exact ⟨started, sound.once⟩
  | @writes first rest queued =>
    refine ⟨?_, sound.once⟩
    rw [← started]
    simp [said, queued]
  | takes now request free =>
    have nothing : hall.duty.announced = [] := congrArg Duty.announced free
    have taken := hall.taken now request
    rw [taken.said, taken.accepted keys, taken.announced, List.append_nil, started, nothing,
      List.append_nil]
    exact ⟨rfl, sound.once⟩
  | @responds request owner id duty =>
    refine ⟨?_, sound.once⟩
    have nothing : hall.duty.announced = [] := congrArg Duty.announced duty
    rw [nothing, List.append_nil] at started
    simp [Utterance.started_append, started]
    rfl
  | @accepts owner id duty =>
    have announced : hall.duty.announced = [id] := congrArg Duty.announced duty
    have offered : hall.office.offered = [(owner, id)] := congrArg Duty.offered duty
    -- The answer has announced it already, so nothing but the register of what may run changes.
    have fresh := (sound.office.offered owner id (by simp [offered])).1
    rw [announced] at started
    refine ⟨started.trans (List.append_nil _).symm, ?_⟩
    have once := sound.once
    exact List.nodup_append.mpr ⟨once, by simp, fun other member _ new same =>
      fresh (List.mem_singleton.mp new ▸ same ▸ member)⟩
  | @answers response duty =>
    refine ⟨?_, sound.once⟩
    have nothing : hall.duty.announced = [] := congrArg Duty.announced duty
    rw [nothing, List.append_nil] at started
    simp [Utterance.started_append, started]
    rfl
  | ends free => exact silent rfl (congrArg Duty.announced free) rfl
  | @cancels _ owner _ duty =>
    exact silent (hall.state.desk.kept_cancel owner).accepted (congrArg Duty.announced duty) rfl
  | @releases asked duty atEnd =>
    have nothing : (Duty.stopped asked).announced = [] := by cases asked <;> rfl
    exact silent hall.state.desk.kept_releaseAll.accepted (congrArg Duty.announced duty) nothing
  | closes duty drained => exact silent rfl (congrArg Duty.announced duty) rfl

theorem Next.heralded (happened : hall.Next next) (sound : hall.Sound) : Heralded next.said := by
  have silent {more : List Utterance} (silent : ∀ id told, .event id told ∉ more) :
      Heralded (hall.said ++ more) :=
    sound.heralded.append fun id told member => absurd member (silent id told)
  -- Only a query that has been accepted tells something, and its start has been said by then.
  cases happened with
  | @runs now id query accepted found =>
    unfold advance put
    rw [said_say, said_withDesk]
    refine sound.heralded.append fun other told member => ?_
    obtain ⟨happening, -, same⟩ := List.mem_map.mp member
    cases same
    rw [sound.started]
    exact List.mem_append_left _ accepted
  | saves pending unclosed => exact (hall.said_say _).symm ▸ silent (by simp)
  | @writes first rest queued =>
    have same : ({ hall with queue := rest, written := hall.written ++ [first] } : Hall η).said =
        hall.said := by simp [said, queued]
    exact same ▸ sound.heralded
  | takes now request free =>
    rw [(hall.taken now request).said]
    exact sound.heralded
  | responds duty | answers duty =>
    rw [said_withDuty, said_say]
    exact silent (by simp)
  | elsewhere | accepts | ends | cancels | releases | closes => exact sound.heralded

theorem Next.shut (happened : hall.Next next) (sound : hall.Sound) : next.Shut := by
  have course := happened.course
  cases happened with
  | @runs now id query accepted found =>
    refine sound.shut_of_course course rfl (List.Subset.refl _) rfl fun closed => ?_
    have atEnd := sound.shut.atEnd (.inr closed) id accepted query found
    unfold advance
    rw [atEnd.advance]
    exact (List.append_nil _).trans (sound.shut.drained closed)
  | @saves before after owner task pending unclosed =>
    have kept := hall.state.desk.kept_runSave hall.state.tree task
    exact sound.shut_of_course course rfl kept.registered.subset kept.accepted
      fun closed => absurd closed unclosed
  | elsewhere world tree =>
    exact sound.shut_of_course course rfl (List.Subset.refl _) rfl sound.shut.drained
  | writes queued =>
    refine sound.shut_of_course course rfl (List.Subset.refl _) rfl fun closed => ?_
    rw [sound.shut.drained closed] at queued
    cases queued
  | takes now request free => exact (hall.taken now request).shut
  | responds | accepts | answers => exact ⟨nofun, nofun, nofun⟩
  | ends => exact hall.shut_stop none
  | @cancels asked owner owners duty =>
    refine ⟨?_, nofun, nofun⟩
    intro _ left same other id query member apart found
    cases same
    rw [show ((hall.withDesk (hall.state.desk.cancel owner).2).withDuty _).state.desk.registered =
      hall.state.desk.registered from hall.state.desk.registered_cancel owner] at member
    -- The owner whose turn it was, and those that had theirs before.
    by_cases own : other = owner
    · subst own
      have registered := (Desk.lookup_eq_some_iff sound.office.keys).mpr member
      exact Desk.stopped_cancel registered found
    · obtain ⟨before, there, -⟩ := sound.office.registered other id member
      obtain ⟨after, stands, keeps, -⟩ := course.stays sound.office there
      cases found.symm.trans stands
      refine keeps.stopped (sound.shut.stopping asked _ duty other id before member ?_ there)
      exact List.not_mem_cons_of_ne_of_not_mem own apart
  | @releases asked duty atEnd =>
    have accepted := hall.state.desk.kept_releaseAll.accepted
    cases asked with
    | some request => exact ⟨nofun, nofun, nofun⟩
    | none => exact ⟨nofun, fun _ => sound.over_of_course course accepted atEnd, nofun⟩
  | closes duty drained => exact ⟨nofun, fun _ => sound.shut.atEnd (.inl duty), fun _ => drained⟩

theorem Next.sound (happened : hall.Next next) (sound : hall.Sound) : next.Sound := by
  obtain ⟨started, once⟩ := happened.started sound
  exact ⟨happened.course.sound sound.office, started, once, happened.heralded sound,
    happened.shut sound⟩

theorem Course.sound {later : Hall η} (course : hall.Course later) (sound : hall.Sound) :
    later.Sound := by
  induction course with
  | refl => exact sound
  | tail _ happened ih => exact happened.sound ih

end Hall

end SqlDesk
