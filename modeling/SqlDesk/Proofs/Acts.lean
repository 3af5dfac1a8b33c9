import Mathlib.Logic.Function.Iterate
import Mathlib.Logic.Relation
import SqlDesk.Source.Host

/-! What can happen to something that runs, and a host that writes down what it is asked. The record
is kept beside the host and changes none of its answers, so a run with it is the run without it. -/

set_option autoImplicit false

namespace SqlDesk

/-- A step of what runs, a request from outside, or something that others do to the databases and to
the making of stores. -/
inductive Act where
  | begins
  | steps
  | cancels
  | disposes
  | saves
  | subscribes
  | elsewhere

def Along {σ : Type} (does : Act → σ → σ → Prop) (allowed : Act → Prop) : σ → σ → Prop :=
  Relation.ReflTransGen fun before after => ∃ act, allowed act ∧ does act before after

namespace Along

variable {σ : Type} {does : Act → σ → σ → Prop} {allowed : Act → Prop} {before after : σ}

theorem single (act : Act) (permitted : allowed act) (done : does act before after) :
    Along does allowed before after := Relation.ReflTransGen.single ⟨act, permitted, done⟩

theorem iterate {act : Act} {next : σ → σ} (permitted : allowed act)
    (done : ∀ state, does act state (next state)) (count : Nat) (state : σ) :
    Along does allowed state (next^[count] state) := by
  induction count generalizing state with
  | zero => exact .refl
  | succ count ih => exact .head ⟨act, permitted, done state⟩ (ih (next state))

theorem preserves (course : Along does allowed before after) (kept : σ → Prop)
    (preserved : ∀ {act first second}, allowed act → does act first second → kept first → kept second)
    (held : kept before) : kept after := by
  induction course with
  | refl => exact held
  | tail _ happened ih =>
    obtain ⟨act, permitted, done⟩ := happened
    exact preserved permitted done ih

end Along

structure Submission where
  connection : Connection
  execution : Execution
  script : Script
  deriving DecidableEq

/-- A host, and what it has been asked to run, oldest first. -/
structure Recorded (η : Type) where
  host : η
  submissions : List Submission

instance {η : Type} [Host η] : Host (Recorded η) where
  execute recorded connection execution :=
    let answer := Host.execute recorded.host connection execution
    (answer.1, ⟨answer.2, recorded.submissions ++ [⟨connection, execution, answer.1⟩]⟩)

end SqlDesk
