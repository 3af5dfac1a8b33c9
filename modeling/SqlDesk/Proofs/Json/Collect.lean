import Mathlib
import SqlDesk.Json.Basic
import SqlDesk.Json.Record

/-!
Members that are collected by name. Each name keeps its first place (`names_collect`) and its last
value (`lookup_collect`), so members stay as they are if no name is repeated, and only then
(`collect_eq_self_iff`). A value stays as it is if none of its objects repeats a name
(`settle_of_distinct`).
-/

set_option autoImplicit false

namespace SqlDesk.Json

variable {α : Type}

theorem names_put (members : List (String × α)) (name : String) (value : α) :
    (put members name value).map Prod.fst =
      if name ∈ members.map Prod.fst then members.map Prod.fst
      else members.map Prod.fst ++ [name] := by
  induction members with
  | nil => rfl
  | cons member rest ih =>
    by_cases same : member.1 = name
    · simp [put, same]
    · simp only [put, if_neg same, List.map_cons, ih, List.mem_cons, Ne.symm same, false_or]
      split <;> rfl

theorem put_of_new {members : List (String × α)} {name : String}
    (new : name ∉ members.map Prod.fst) (value : α) :
    put members name value = members ++ [(name, value)] := by
  induction members with
  | nil => rfl
  | cons member rest ih =>
    simp only [List.map_cons, List.mem_cons, not_or] at new
    simp [put, Ne.symm new.1, ih new.2]

theorem lookup_member (member : String × α) (rest : List (String × α)) (asked : String) :
    (member :: rest).lookup asked = if asked = member.1 then some member.2 else rest.lookup asked := by
  rw [List.lookup_cons]
  by_cases same : asked = member.1
  · simp [same]
  · simp [same, beq_eq_false_iff_ne.mpr same]

theorem lookup_put (members : List (String × α)) (name asked : String) (value : α) :
    (put members name value).lookup asked =
      if asked = name then some value else members.lookup asked := by
  induction members with
  | nil => rw [put, lookup_member]
  | cons member rest ih =>
    by_cases same : member.1 = name
    · rw [put, if_pos same, lookup_member, lookup_member, same]
      split <;> rfl
    · rw [put, if_neg same, lookup_member, lookup_member, ih]
      by_cases own : asked = member.1
      · rw [if_pos own, if_neg (own ▸ same), if_pos own]
      · rw [if_neg own, if_neg own]

theorem collect_concat (members : List (String × α)) (name : String) (value : α) :
    collect (members ++ [(name, value)]) = put (collect members) name value := by
  simp [collect, List.foldl_append]

theorem names_collect (members : List (String × α)) :
    (collect members).map Prod.fst = (members.map Prod.fst).eraseDups := by
  induction members using List.reverseRecOn with
  | nil => rfl
  | append_singleton front member ih =>
    have known : member.1 ∈ (collect front).map Prod.fst ↔ member.1 ∈ front.map Prod.fst := by
      rw [ih, List.mem_eraseDups]
    rw [collect_concat, names_put, List.map_append, List.eraseDups_append, ← ih]
    by_cases again : member.1 ∈ front.map Prod.fst
    · simp [known.mpr again, List.removeAll, again]
    · simp [known.not.mpr again, List.removeAll, again, List.eraseDups_cons]

theorem lookup_collect (members : List (String × α)) (name : String) :
    (collect members).lookup name = members.reverse.lookup name := by
  induction members using List.reverseRecOn with
  | nil => rfl
  | append_singleton front member ih =>
    rw [collect_concat, lookup_put, List.reverse_append, List.reverse_singleton,
      List.singleton_append, lookup_member, ih]

theorem nodup_names_collect (members : List (String × α)) :
    ((collect members).map Prod.fst).Nodup := by
  induction members using List.reverseRecOn with
  | nil => exact List.nodup_nil
  | append_singleton front member ih =>
    rw [collect_concat, names_put]
    split
    · exact ih
    · rename_i new
      simpa using ih.concat new

theorem mem_of_mem_put {members : List (String × α)} {name : String} {value : α}
    {member : String × α} (inside : member ∈ put members name value) :
    member ∈ members ∨ member = (name, value) := by
  induction members with
  | nil => exact .inr (List.mem_singleton.mp inside)
  | cons first rest ih =>
    by_cases same : first.1 = name
    · rw [put, if_pos same, List.mem_cons] at inside
      rcases inside with rfl | behind
      · exact .inr (by rw [same])
      · exact .inl (List.mem_cons_of_mem _ behind)
    · rw [put, if_neg same, List.mem_cons] at inside
      rcases inside with rfl | behind
      · exact .inl List.mem_cons_self
      · exact (ih behind).imp_left (List.mem_cons_of_mem _)

theorem mem_of_mem_collect {members : List (String × α)} {member : String × α}
    (inside : member ∈ collect members) : member ∈ members := by
  induction members using List.reverseRecOn with
  | nil => cases inside
  | append_singleton front last ih =>
    rw [collect_concat] at inside
    rw [List.mem_append, List.mem_singleton]
    exact (mem_of_mem_put inside).imp_left ih

theorem collect_of_nodup {members : List (String × α)} (distinct : (members.map Prod.fst).Nodup) :
    collect members = members := by
  induction members using List.reverseRecOn with
  | nil => rfl
  | append_singleton front member ih =>
    rw [List.map_append, List.nodup_append] at distinct
    obtain ⟨others, -, apart⟩ := distinct
    have new : member.1 ∉ (collect front).map Prod.fst := by
      rw [ih others]
      intro known
      exact apart member.1 known member.1 (by simp) rfl
    rw [collect_concat, put_of_new new, ih others]

theorem collect_eq_self_iff (members : List (String × α)) :
    collect members = members ↔ (members.map Prod.fst).Nodup := by
  constructor
  · intro same
    have distinct := nodup_names_collect members
    rwa [same] at distinct
  · exact collect_of_nodup

/-- What is left of members of which only the last one of each name counts. -/
structure LastOfEach (members left : List (String × α)) : Prop where
  names : left.map Prod.fst = (members.map Prod.fst).eraseDups
  values : ∀ name, left.lookup name = members.reverse.lookup name
  whole : left = members ↔ (members.map Prod.fst).Nodup

theorem lastOfEach_collect (members : List (String × α)) : LastOfEach members (collect members) :=
  ⟨names_collect members, lookup_collect members, collect_eq_self_iff members⟩

/-! ## Whole values -/

mutual

def isDistinct : Json → Bool
  | array items => itemsDistinct items
  | object members => (members.map Prod.fst).Nodup && membersDistinct members
  | _ => true

def itemsDistinct : List Json → Bool
  | [] => true
  | item :: rest => isDistinct item && itemsDistinct rest

def membersDistinct : List (String × Json) → Bool
  | [] => true
  | (_, value) :: rest => isDistinct value && membersDistinct rest

end

mutual

theorem settle_of_distinct : ∀ {json : Json}, json.isDistinct = true → json.settle = json
  | null, _ | bool _, _ | integer _, _ | float _, _ | string _, _ => rfl
  | array items, distinct => by
    rw [isDistinct] at distinct
    rw [settle, settleItems_of_distinct distinct]
  | object members, distinct => by
    simp only [isDistinct, Bool.and_eq_true, decide_eq_true_eq] at distinct
    rw [settle, settleMembers_of_distinct distinct.2, collect_of_nodup distinct.1]

theorem settleItems_of_distinct : ∀ {items : List Json}, itemsDistinct items = true →
    settleItems items = items
  | [], _ => rfl
  | item :: rest, distinct => by
    simp only [itemsDistinct, Bool.and_eq_true] at distinct
    rw [settleItems, settle_of_distinct distinct.1, settleItems_of_distinct distinct.2]

theorem settleMembers_of_distinct : ∀ {members : List (String × Json)},
    membersDistinct members = true → settleMembers members = members
  | [], _ => rfl
  | (name, value) :: rest, distinct => by
    simp only [membersDistinct, Bool.and_eq_true] at distinct
    rw [settleMembers, settle_of_distinct distinct.1, settleMembers_of_distinct distinct.2]

end

/-! Fields of a record that is an object. A field can be read if its name stands among the members once or
not at all (`objectFields?_eq_some_iff`); where it stands, and what stands around it, is of no account. -/

section Fields

variable {members : List (String × Json)}

def field? (members : List (String × Json)) (name : String) : Option (Option Json) :=
  match valuesOf members name with
  | [] => some none
  | [value] => some (some value)
  | _ => none

theorem field?_eq_some_iff {name : String} {field : Option Json} :
    field? members name = some field ↔ valuesOf members name = field.toList := by
  rw [field?]
  -- A list stands for a field if it has one value at most.
  rcases valuesOf members name with _ | ⟨value, _ | ⟨second, rest⟩⟩
  · cases field <;> simp
  · cases field <;> simp
  · cases field <;> simp

theorem objectFields?_eq_some_iff {names : List String} {fields : List (Option Json)} :
    objectFields? names members = some fields ↔
      List.Forall₂ (fun name field => valuesOf members name = field.toList) names fields := by
  have each : objectFields? names members = names.mapM (field? members) := rfl
  rw [each]
  clear each
  induction names generalizing fields with
  | nil =>
    rw [List.mapM_nil, List.forall₂_nil_left_iff]
    exact ⟨fun same => (Option.some.inj same).symm, fun none => by rw [none]; rfl⟩
  | cons name rest ih =>
    rw [List.mapM_cons, List.forall₂_cons_left_iff]
    constructor
    · intro read
      obtain ⟨field, found, read⟩ := Option.bind_eq_some_iff.mp read
      obtain ⟨others, later, same⟩ := Option.bind_eq_some_iff.mp read
      exact ⟨field, others, field?_eq_some_iff.mp found, ih.mp later, (Option.some.inj same).symm⟩
    · rintro ⟨field, others, found, later, rfl⟩
      rw [field?_eq_some_iff.mpr found, ih.mpr later]
      rfl

/-! Readers of single fields. -/

theorem asString?_eq_some_iff {json : Json} {text : String} :
    asString? json = some text ↔ json = .string text := by
  cases json <;> simp [asString?]

theorem required?_eq_some_iff {read : Json → Option α} {field : Option Json} {value : α} :
    required? read field = some value ↔ ∃ json, field = some json ∧ read json = some value :=
  Option.bind_eq_some_iff

theorem asSigned?_eq_some_iff {json : Json} {bits : Nat} {value : Int} :
    asSigned? bits json = some value ↔
      json = .integer value ∧ -(Text.wordBound (bits - 1) : Int) ≤ value ∧
        value < Text.wordBound (bits - 1) := by
  cases json with
  | integer number =>
    rw [asSigned?, asInteger?]
    constructor
    · intro read
      obtain ⟨range, same⟩ := Option.ite_none_right_eq_some.mp read
      obtain rfl := Option.some.inj same
      exact ⟨rfl, range⟩
    · rintro ⟨same, range⟩
      obtain rfl := Json.integer.inj same
      exact if_pos range
  | _ => simp [asSigned?, asInteger?]

end Fields

end SqlDesk.Json
