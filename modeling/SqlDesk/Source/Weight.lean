import SqlDesk.Source.Script

/-! How much a cursor still holds. A notice weighs more before it has been read than after, so every
answer of a source makes its cursor lighter or tells that it has nothing more to give. -/

set_option autoImplicit false

namespace SqlDesk

def Stop.weight : Option Stop → Nat
  | none => 0
  | some _ => 2

/-- A notice weighs less once it has been read, and nothing once it has been told. -/
def ScriptStep.weight : ScriptStep → Nat
  | .notice _ => 2
  | .result part => 2 * part.items.length + Stop.weight part.stop + 10
  | .stop _ => 2

def Script.weight (script : Script) : Nat :=
  script.foldr (fun step total => step.weight + total) 0

@[simp] theorem Script.weight_nil : Script.weight [] = 0 := rfl

@[simp] theorem Script.weight_cons (step : ScriptStep) (script : Script) :
    Script.weight (step :: script) = step.weight + Script.weight script := by
  simp [Script.weight]

namespace Cursor

def weight (cursor : Cursor) : Nat :=
  2 * cursor.items.length + Stop.weight cursor.stop + Script.weight cursor.script
    + cursor.notices.length

theorem weight_takeNotices (cursor : Cursor) :
    cursor.takeNotices.1.length + cursor.takeNotices.2.weight = cursor.weight := by
  simp [takeNotices, weight]
  omega

/-- How much of a cursor has been used up at least once it has been asked. -/
def used {α : Type} (perValue : Nat) : Fetched α → Nat
  | .value _ => perValue
  | _ => 0

theorem weight_nextRow (cancelled : Bool) (cursor : Cursor) :
    (cursor.nextRow cancelled).2.weight + used 2 (cursor.nextRow cancelled).1 ≤ cursor.weight := by
  -- The notices that have come in weigh as well, so they are generalized.
  suffices go : ∀ (items : List Item) (notices : List Notice),
      (nextRow.go cancelled cursor items notices).2.weight
          + used 2 (nextRow.go cancelled cursor items notices).1
        ≤ 2 * items.length + Stop.weight cursor.stop + Script.weight cursor.script + notices.length by
    exact go cursor.items cursor.notices
  intro items
  induction items with
  | nil =>
    intro notices
    obtain ⟨_, stop, _, _⟩ := cursor
    cases stop with
    | none => simp [nextRow.go, weight, used]
    | some stop =>
      cases stop <;> cases cancelled <;>
        simp [nextRow.go, Stop.fetched, weight, used, Stop.weight]
  | cons item items ih =>
    intro notices
    cases item with
    | row found =>
      simp only [nextRow.go, weight, used, List.length_cons]
      omega
    | notice notice =>
      have less := ih (notices ++ [notice])
      simp only [nextRow.go, List.length_append, List.length_cons, List.length_nil] at less ⊢
      omega

theorem weight_nextResult (cancelled : Bool) (cursor : Cursor) :
    (cursor.nextResult cancelled).2.weight + used 10 (cursor.nextResult cancelled).1
      ≤ cursor.weight := by
  suffices go : ∀ (script : Script) (notices : List Notice),
      (nextResult.go cancelled script notices).2.weight
          + used 10 (nextResult.go cancelled script notices).1
        ≤ Script.weight script + notices.length by
    have bound := go cursor.script cursor.notices
    simp only [nextResult, weight] at bound ⊢
    omega
  intro script
  induction script with
  | nil => intro notices; simp [nextResult.go, weight, used, Stop.weight]
  | cons step script ih =>
    intro notices
    cases step with
    | notice notice =>
      have less := ih (notices ++ [notice])
      simp only [nextResult.go, Script.weight_cons, ScriptStep.weight, List.length_append,
        List.length_cons, List.length_nil] at less ⊢
      omega
    | result result =>
      simp only [nextResult.go, weight, used, Script.weight_cons, ScriptStep.weight]
      omega
    | stop stop =>
      cases stop <;> cases cancelled <;>
        simp [nextResult.go, Stop.fetched, weight, used, Stop.weight, ScriptStep.weight]

end Cursor

end SqlDesk
