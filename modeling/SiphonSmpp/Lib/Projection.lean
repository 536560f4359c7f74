/-
This file is a small library for systems shared by several parties. A system
takes events one after the other and each may produce outputs. A projection
relates it to a smaller system that knows one party only: the party's own events
move both alike and give the same outputs, and the events of others neither move
the small system nor give the party an output. The outputs of the party are then
those of the run of its own events alone.
-/

import Mathlib.Data.List.Basic

namespace Projection

variable {System Own Event Output Seen : Type}

/-- The outputs of a run. -/
def outputs (step : System → Event → System × List Output) : System → List Event → List Output
  | _, [] => []
  | system, event :: later =>
      (step system event).2 ++ outputs step (step system event).1 later

/-- A system as one party sees it: which events are the party's own, what it sees of an output,
and the smaller system that stands for it. -/
structure View (step : System → Event → System × List Output)
    (own : Own → Event → Own × List Seen) (mine : Event → Bool) (sees : Output → Option Seen) where
  Mirrors : System → Own → Prop
  onOwn : ∀ system view event, Mirrors system view → mine event = true →
    Mirrors (step system event).1 (own view event).1 ∧
      (step system event).2.filterMap sees = (own view event).2
  onOther : ∀ system view event, Mirrors system view → mine event = false →
    Mirrors (step system event).1 view ∧ (step system event).2.filterMap sees = []

variable {step : System → Event → System × List Output} {own : Own → Event → Own × List Seen}
  {mine : Event → Bool} {sees : Output → Option Seen} (view : View step own mine sees)

include view

/-- A party sees the outputs of the smaller system on its own events. -/
theorem View.outputs_eq (system : System) (small : Own) (mirrors : view.Mirrors system small)
    (events : List Event) :
    (outputs step system events).filterMap sees = outputs own small (events.filter mine) := by
  induction events generalizing system small with
  | nil => rfl
  | cons event later inductionHypothesis =>
    rw [outputs, List.filterMap_append]
    cases whose : mine event with
    | true =>
      obtain ⟨mirrored, same⟩ := view.onOwn system small event mirrors whose
      rw [List.filter_cons_of_pos whose, outputs, same, inductionHypothesis _ _ mirrored]
    | false =>
      obtain ⟨mirrored, none⟩ := view.onOther system small event mirrors whose
      rw [List.filter_cons_of_neg (Bool.not_eq_true _ ▸ whose), none, List.nil_append,
        inductionHypothesis _ _ mirrored]

/-- A party sees in a run what it would see if nobody else had acted. -/
theorem View.isolated (system : System) (small : Own) (mirrors : view.Mirrors system small)
    (events : List Event) :
    (outputs step system events).filterMap sees =
      (outputs step system (events.filter mine)).filterMap sees := by
  rw [view.outputs_eq system small mirrors, view.outputs_eq system small mirrors,
    List.filter_filter]
  simp only [Bool.and_self]

end Projection
