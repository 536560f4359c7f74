/-
This file is a small library for programs that check their input before they act
on the world. A program runs to an outcome, a value or a fault, and logs what it
does on the way; a fault does not undo the log. A contract says which faults are
refusals and which are crashes, which effects the world can see, and which
effects are proper.

A program that prepares does nothing the world can see, and a program that
commits refuses nothing any more. Preparing first and committing then makes the
whole all or nothing: when it refuses, the world has seen nothing of it.
-/

import Mathlib.Data.List.Basic

/-! ### Programs -/

/-- The outcome of a program and what it did. -/
structure Logged (Effect Fault Value : Type) where
  outcome : Except Fault Value
  effects : List Effect

namespace Logged

variable {Effect Fault Value Next : Type}

def bind (first : Logged Effect Fault Value) (next : Value → Logged Effect Fault Next) :
    Logged Effect Fault Next :=
  match first.outcome with
  | .error fault => ⟨.error fault, first.effects⟩
  | .ok value => ⟨(next value).outcome, first.effects ++ (next value).effects⟩

instance : Monad (Logged Effect Fault) where
  pure value := ⟨.ok value, []⟩
  bind := bind

/-- Do one thing. -/
def log (effect : Effect) : Logged Effect Fault Unit := ⟨.ok (), [effect]⟩

def fail (fault : Fault) : Logged Effect Fault Value := ⟨.error fault, []⟩

/-- A check, with its error as a fault. -/
def check {Error : Type} (fault : Error → Fault) (checked : Except Error Value) :
    Logged Effect Fault Value :=
  ⟨checked.mapError fault, []⟩

theorem bind_of_error {first : Logged Effect Fault Value} {fault : Fault}
    (failed : first.outcome = .error fault) (next : Value → Logged Effect Fault Next) :
    first >>= next = ⟨.error fault, first.effects⟩ := by
  show bind first next = _
  rw [bind, failed]

theorem bind_of_ok {first : Logged Effect Fault Value} {value : Value}
    (done : first.outcome = .ok value) (next : Value → Logged Effect Fault Next) :
    first >>= next = ⟨(next value).outcome, first.effects ++ (next value).effects⟩ := by
  show bind first next = _
  rw [bind, done]

theorem bind_bind {Last : Type} (first : Logged Effect Fault Value)
    (next : Value → Logged Effect Fault Next) (last : Next → Logged Effect Fault Last) :
    bind (bind first next) last = bind first fun value => bind (next value) last := by
  cases reached : first.outcome with
  | error fault => simp only [bind, reached]
  | ok value =>
    cases later : (next value).outcome with
    | error fault => simp only [bind, reached, later]
    | ok found => simp only [bind, reached, later, List.append_assoc]

theorem bind_pure (first : Logged Effect Fault Value) :
    bind first (fun value => ⟨.ok value, []⟩) = first := by
  obtain ⟨fault | value, effects⟩ := first
  · rfl
  · exact congrArg (Logged.mk _) (List.append_nil effects)

instance : LawfulMonad (Logged Effect Fault) :=
  LawfulMonad.mk' _ bind_pure (fun _ _ => rfl) bind_bind

theorem check_error {Error : Type} {fault : Error → Fault} {checked : Except Error Value}
    {raised : Fault}
    (failed : (check fault checked : Logged Effect Fault Value).outcome = .error raised) :
    ∃ error, checked = .error error ∧ raised = fault error := by
  cases checked with
  | ok value => cases failed
  | error error => exact ⟨error, rfl, (Except.error.inj failed).symm⟩

theorem check_ok {Error : Type} {fault : Error → Fault} {checked : Except Error Value}
    {value : Value}
    (passed : (check fault checked : Logged Effect Fault Value).outcome = .ok value) :
    checked = .ok value := by
  cases checked with
  | ok found => exact congrArg Except.ok (Except.ok.inj passed)
  | error error => cases passed

/-- A program that comes to a value comes to this one. -/
def Returns (program : Logged Effect Fault Value) (expected : Value) : Prop :=
  ∀ value, program.outcome = .ok value → value = expected

theorem Returns.andThen {first : Logged Effect Fault Value}
    {next : Value → Logged Effect Fault Next} {expected : Next}
    (rest : ∀ value, (next value).Returns expected) : (first >>= next).Returns expected := by
  intro last done
  cases reached : first.outcome with
  | error fault =>
    rw [bind_of_error reached] at done
    cases done
  | ok value =>
    rw [bind_of_ok reached] at done
    exact rest value last done

theorem returns_pure (value : Value) : (pure value : Logged Effect Fault Value).Returns value :=
  fun _ done => (Except.ok.inj done).symm

/-! ### Contracts -/

/-- What is promised of a program. -/
structure Contract (Effect Fault : Type) where
  refuses : Fault → Prop
  crashes : Fault → Prop
  visible : Effect → Prop
  proper : Effect → Prop

namespace Contract

variable (contract : Contract Effect Fault)

/-- The program does nothing the world can see. -/
structure Prepares (program : Logged Effect Fault Value) : Prop where
  unseen : ∀ effect ∈ program.effects, ¬ contract.visible effect
  proper : ∀ effect ∈ program.effects, contract.proper effect
  safe : ∀ fault, program.outcome = .error fault → ¬ contract.crashes fault

/-- The program does not refuse. -/
structure Commits (program : Logged Effect Fault Value) : Prop where
  accepts : ∀ fault, program.outcome = .error fault → ¬ contract.refuses fault
  proper : ∀ effect ∈ program.effects, contract.proper effect
  safe : ∀ fault, program.outcome = .error fault → ¬ contract.crashes fault

/-- When the program refuses, the world has seen nothing of it. -/
structure AllOrNothing (program : Logged Effect Fault Value) : Prop where
  unseen : ∀ fault, program.outcome = .error fault → contract.refuses fault →
    ∀ effect ∈ program.effects, ¬ contract.visible effect
  proper : ∀ effect ∈ program.effects, contract.proper effect
  safe : ∀ fault, program.outcome = .error fault → ¬ contract.crashes fault

variable {contract} {first : Logged Effect Fault Value} {next : Value → Logged Effect Fault Next}

theorem commits_pure (value : Value) :
    contract.Commits (pure value : Logged Effect Fault Value) :=
  ⟨nofun, fun _ member => absurd member List.not_mem_nil, nofun⟩

theorem commits_fail {fault : Fault} (accepts : ¬ contract.refuses fault)
    (safe : ¬ contract.crashes fault) :
    contract.Commits (fail fault : Logged Effect Fault Value) := by
  refine ⟨fun other failed => ?_, fun _ member => absurd member List.not_mem_nil,
    fun other failed => ?_⟩
  · exact Except.error.inj failed ▸ accepts
  · exact Except.error.inj failed ▸ safe

theorem commits_log {effect : Effect} (proper : contract.proper effect) :
    contract.Commits (log effect) :=
  ⟨nofun, List.forall_mem_singleton.mpr proper, nofun⟩

theorem prepares_log {effect : Effect} (unseen : ¬ contract.visible effect)
    (proper : contract.proper effect) : contract.Prepares (log effect) :=
  ⟨List.forall_mem_singleton.mpr unseen, List.forall_mem_singleton.mpr proper, nofun⟩

theorem prepares_check {Error : Type} {fault : Error → Fault} {checked : Except Error Value}
    (safe : ∀ error, ¬ contract.crashes (fault error)) :
    contract.Prepares (check fault checked) := by
  refine ⟨nofun, nofun, fun raised failed => ?_⟩
  obtain ⟨error, _, same⟩ := check_error failed
  exact same ▸ safe error

theorem commits_check {Error : Type} {fault : Error → Fault} {checked : Except Error Value}
    (accepts : ∀ error, ¬ contract.refuses (fault error))
    (safe : ∀ error, ¬ contract.crashes (fault error)) :
    contract.Commits (check fault checked) := by
  refine ⟨fun raised failed => ?_, nofun, fun raised failed => ?_⟩
  · obtain ⟨error, _, same⟩ := check_error failed
    exact same ▸ accepts error
  · obtain ⟨error, _, same⟩ := check_error failed
    exact same ▸ safe error

theorem prepares_pure (value : Value) :
    contract.Prepares (pure value : Logged Effect Fault Value) :=
  ⟨fun _ member => absurd member List.not_mem_nil, fun _ member => absurd member List.not_mem_nil,
    nofun⟩

theorem Prepares.andThen (prepares : contract.Prepares first)
    (rest : ∀ value, first.outcome = .ok value → contract.Prepares (next value)) :
    contract.Prepares (first >>= next) := by
  cases reached : first.outcome with
  | error fault =>
    rw [bind_of_error reached]
    refine ⟨prepares.unseen, prepares.proper, fun other same => ?_⟩
    exact Except.error.inj same ▸ prepares.safe fault reached
  | ok value =>
    rw [bind_of_ok reached]
    have later := rest value reached
    exact ⟨List.forall_mem_append.mpr ⟨prepares.unseen, later.unseen⟩,
      List.forall_mem_append.mpr ⟨prepares.proper, later.proper⟩, later.safe⟩

theorem Commits.bind (commits : contract.Commits first)
    (rest : ∀ value, first.outcome = .ok value → contract.Commits (next value)) :
    contract.Commits (first >>= next) := by
  cases reached : first.outcome with
  | error fault =>
    rw [bind_of_error reached]
    refine ⟨fun other same => ?_, commits.proper, fun other same => ?_⟩
    · exact Except.error.inj same ▸ commits.accepts fault reached
    · exact Except.error.inj same ▸ commits.safe fault reached
  | ok value =>
    rw [bind_of_ok reached]
    have later := rest value reached
    exact ⟨later.accepts, List.forall_mem_append.mpr ⟨commits.proper, later.proper⟩, later.safe⟩

/-- A program that commits is all or nothing. -/
theorem Commits.allOrNothing (commits : contract.Commits first) : contract.AllOrNothing first :=
  ⟨fun fault failed refused => absurd refused (commits.accepts fault failed), commits.proper,
    commits.safe⟩

/-- Prepare before anything that is all or nothing. -/
theorem Prepares.bind (prepares : contract.Prepares first)
    (rest : ∀ value, first.outcome = .ok value → contract.AllOrNothing (next value)) :
    contract.AllOrNothing (first >>= next) := by
  cases reached : first.outcome with
  | error fault =>
    rw [bind_of_error reached]
    refine ⟨fun _ _ _ => prepares.unseen, prepares.proper, fun other same => ?_⟩
    exact Except.error.inj same ▸ prepares.safe fault reached
  | ok value =>
    rw [bind_of_ok reached]
    have later := rest value reached
    exact ⟨fun fault failed refused =>
        List.forall_mem_append.mpr ⟨prepares.unseen, later.unseen fault failed refused⟩,
      List.forall_mem_append.mpr ⟨prepares.proper, later.proper⟩, later.safe⟩

end Contract

end Logged
