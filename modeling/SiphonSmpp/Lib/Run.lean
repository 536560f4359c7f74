/-
This file is a small library for systems that take one event at a time. A step
function says what an event does in a state, or that it is not possible there;
a run is any sequence of possible steps, so a statement about runs is one about
every interleaving of the events. What every step keeps, every run keeps.
-/

import Mathlib.Logic.Relation

namespace Run

variable {State Event : Type*}

/-- The states a run from a first state can lead to. -/
def Reaches (step : State → Event → Option State) (first last : State) : Prop :=
  Relation.ReflTransGen (fun before after => ∃ event, step before event = some after) first last

variable {step : State → Event → Option State} {first last : State}

theorem Reaches.refl : Reaches step first first := Relation.ReflTransGen.refl

theorem Reaches.tail {next : State} (reaches : Reaches step first last) (event : Event)
    (stepped : step last event = some next) : Reaches step first next :=
  Relation.ReflTransGen.tail reaches ⟨event, stepped⟩

/-- A list of events that are possible one after the other is a run. -/
theorem Reaches.of_foldlM (events : List Event) (ran : events.foldlM step first = some last) :
    Reaches step first last := by
  induction events generalizing first with
  | nil =>
    cases ran
    exact Reaches.refl
  | cons event rest inductionHypothesis =>
    obtain ⟨next, stepped, later⟩ := Option.bind_eq_some_iff.mp ran
    exact Relation.ReflTransGen.head ⟨event, stepped⟩ (inductionHypothesis later)

/-- What holds at the start and is kept by every step holds at the end of every run. -/
theorem Reaches.invariant {Invariant : State → Prop} (reaches : Reaches step first last)
    (initially : Invariant first)
    (kept : ∀ before event after, Invariant before → step before event = some after →
      Invariant after) : Invariant last := by
  induction reaches with
  | refl => exact initially
  | tail _ stepped inductionHypothesis =>
    obtain ⟨event, taken⟩ := stepped
    exact kept _ event _ inductionHypothesis taken

end Run
