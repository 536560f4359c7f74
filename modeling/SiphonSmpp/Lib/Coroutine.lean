/-
This file is a small library for handlers that give up control at every
`await`. A coroutine is what a handler still has to do: it is over, or it awaits
an effect and goes on with the answer. The loop that runs them may start a call
at any time and resume any call that awaits, with any answer, so a run is any
interleaving of the calls at their awaits. Every effect that was performed is
kept in a trace, with the call it was performed for and what it answered; what
is known of the answers is a law of the trace.

A rule of pre- and postconditions goes with it. What a call may rely on between
two awaits is the invariant of the trace, and that the trace grew by effects of
other calls alone; `Ensures` says that under this interference each effect of a
call keeps the invariant and that the call ends in its postcondition. Calls that
do so one by one do so together.
-/

import SiphonSmpp.Lib.Run

/-- What is left of a call. -/
inductive Coroutine (Effect : Type) (Answer : Effect → Type) (Result : Type) where
  | done (result : Result)
  | await (effect : Effect) (next : Answer effect → Coroutine Effect Answer Result)

namespace Coroutine

variable {Effect : Type} {Answer : Effect → Type} {Result Other : Type}

protected def bind (program : Coroutine Effect Answer Result)
    (rest : Result → Coroutine Effect Answer Other) : Coroutine Effect Answer Other :=
  match program with
  | .done result => rest result
  | .await effect next => .await effect fun answer => (next answer).bind rest

instance : Monad (Coroutine Effect Answer) where
  pure := .done
  bind := Coroutine.bind

/-- Await one effect. -/
def perform (effect : Effect) : Coroutine Effect Answer (Answer effect) := .await effect .done

/-! ### The loop -/

/-- An effect that was performed for a call, and what it answered. -/
structure Entry (Effect : Type) (Answer : Effect → Type) (Request : Type) where
  task : Nat
  request : Request
  effect : Effect
  answer : Answer effect

/-- What was performed, latest first, and the calls with what is left of each. -/
structure Loop (Effect : Type) (Answer : Effect → Type) (Request Result : Type) where
  trace : List (Entry Effect Answer Request)
  tasks : List (Request × Coroutine Effect Answer Result)

/-- What the loop may do next: start a call, or resume one with what its effect answers. -/
inductive Move (Effect : Type) (Answer : Effect → Type) (Request : Type) where
  | start (request : Request)
  | resume (task : Nat) (answers : (effect : Effect) → Answer effect)

section Running

variable {Request : Type} (program : Request → Coroutine Effect Answer Result)

def Loop.step (loop : Loop Effect Answer Request Result) :
    Move Effect Answer Request → Option (Loop Effect Answer Request Result)
  | .start request => some { loop with tasks := loop.tasks ++ [(request, program request)] }
  | .resume task answers =>
    match loop.tasks[task]? with
    | some (request, .await effect next) =>
      some
        { trace := ⟨task, request, effect, answers effect⟩ :: loop.trace
          tasks := loop.tasks.set task (request, next (answers effect)) }
    | _ => none

/-- What a step of the loop can do. -/
theorem Loop.step_cases {loop after : Loop Effect Answer Request Result}
    {move : Move Effect Answer Request} (stepped : loop.step program move = some after) :
    (∃ request, after = { loop with tasks := loop.tasks ++ [(request, program request)] }) ∨
    ∃ task request effect answer next, loop.tasks[task]? = some (request, .await effect next) ∧
      after = ⟨⟨task, request, effect, answer⟩ :: loop.trace,
        loop.tasks.set task (request, next answer)⟩ := by
  cases move with
  | start request => exact Or.inl ⟨request, (Option.some.inj stepped).symm⟩
  | resume task answers =>
    rw [Loop.step] at stepped
    split at stepped
    · rename_i request effect next found
      exact Or.inr ⟨task, request, effect, answers effect, next, found,
        (Option.some.inj stepped).symm⟩
    · exact absurd stepped nofun

/-! ### Interference -/

/-- What was performed for one call. -/
def performed (task : Nat) (trace : List (Entry Effect Answer Request)) :
    List (Entry Effect Answer Request) :=
  trace.filter fun entry => entry.task == task

/-- A later point of the trace, between which and an earlier one a call did nothing. -/
structure Later (task : Nat) (since trace : List (Entry Effect Answer Request)) : Prop where
  suffix : since <:+ trace
  own : performed task trace = performed task since

theorem Later.refl (task : Nat) (trace : List (Entry Effect Answer Request)) :
    Later task trace trace := ⟨List.suffix_refl trace, rfl⟩

theorem Later.trans {task : Nat} {first second third : List (Entry Effect Answer Request)}
    (before : Later task first second) (after : Later task second third) :
    Later task first third :=
  ⟨before.suffix.trans after.suffix, after.own.trans before.own⟩

theorem Later.of_other {task : Nat} {entry : Entry Effect Answer Request}
    (trace : List (Entry Effect Answer Request)) (other : entry.task ≠ task) :
    Later task trace (entry :: trace) := by
  refine ⟨List.suffix_cons _ _, ?_⟩
  rw [performed, List.filter_cons_of_neg (by simpa using other)]
  rfl

theorem performed_cons_self (task : Nat) (request : Request) (effect : Effect)
    (answer : Answer effect) (trace : List (Entry Effect Answer Request)) :
    performed task (⟨task, request, effect, answer⟩ :: trace) =
      ⟨task, request, effect, answer⟩ :: performed task trace := by
  rw [performed, List.filter_cons_of_pos (by simp)]
  rfl

/-- What a call has performed stands in the trace. -/
theorem suffix_of_performed {task : Nat} {entry : Entry Effect Answer Request}
    {trace own : List (Entry Effect Answer Request)} (performs : performed task trace = own)
    (member : entry ∈ own) : ∃ earlier, entry :: earlier <:+ trace := by
  have inside : entry ∈ trace := (List.mem_filter.mp (performs ▸ member)).1
  obtain ⟨later, earlier, split⟩ := List.append_of_mem inside
  exact ⟨earlier, later, split.symm⟩

/-- Each effect of a trace is as it should be, given those before it. -/
def Throughout
    (Right : Entry Effect Answer Request → List (Entry Effect Answer Request) → Prop)
    (trace : List (Entry Effect Answer Request)) : Prop :=
  ∀ entry earlier, entry :: earlier <:+ trace → Right entry earlier

section Throughout

variable {Right : Entry Effect Answer Request → List (Entry Effect Answer Request) → Prop}
  {trace : List (Entry Effect Answer Request)}

theorem Throughout.nil : Throughout Right [] := by
  intro entry earlier among
  exact absurd (List.suffix_nil.mp among) nofun

theorem Throughout.cons {entry : Entry Effect Answer Request} (right : Right entry trace)
    (before : Throughout Right trace) : Throughout Right (entry :: trace) := by
  intro other earlier among
  rcases List.suffix_cons_iff.mp among with same | inside
  · cases same
    exact right
  · exact before other earlier inside

theorem Throughout.of_suffix {earlier : List (Entry Effect Answer Request)}
    (throughout : Throughout Right trace) (suffix : earlier <:+ trace) :
    Throughout Right earlier :=
  fun entry rest among => throughout entry rest (among.trans suffix)

end Throughout

/-! ### Pre- and postconditions under interference -/

variable (Invariant : List (Entry Effect Answer Request) → Prop)

/-- From a point of the trace on, whatever the other calls do in between, every effect of a call
keeps the invariant, and the call ends in its postcondition. -/
def Ensures (task : Nat) (request : Request)
    (post : Result → List (Entry Effect Answer Request) → Prop) :
    Coroutine Effect Answer Result → List (Entry Effect Answer Request) → Prop
  | .done result, since => post result since
  | .await effect next, since =>
    ∀ trace, Later task since trace → Invariant trace → ∀ answer,
      Invariant (⟨task, request, effect, answer⟩ :: trace) ∧
        (next answer).Ensures task request post (⟨task, request, effect, answer⟩ :: trace)

variable {Invariant} {task : Nat} {request : Request}

/-- A postcondition that the other calls cannot undo. -/
def Stable (task : Nat) (post : Result → List (Entry Effect Answer Request) → Prop) : Prop :=
  ∀ result since trace, Later task since trace → post result since → post result trace

/-- What a call ensures from a point on it ensures from any later point on. -/
theorem Ensures.mono {post : Result → List (Entry Effect Answer Request) → Prop}
    (stable : Stable task post) {left : Coroutine Effect Answer Result}
    {since trace : List (Entry Effect Answer Request)}
    (ensures : left.Ensures Invariant task request post since)
    (later : Later task since trace) :
    left.Ensures Invariant task request post trace := by
  cases left with
  | done result => exact stable result since trace later ensures
  | await effect next => exact fun after grown => ensures after (later.trans grown)

/-- One call after another: the second starts where the first has ended. -/
theorem Ensures.bind {post : Other → List (Entry Effect Answer Request) → Prop}
    {first : Coroutine Effect Answer Result} {rest : Result → Coroutine Effect Answer Other}
    {since : List (Entry Effect Answer Request)}
    (ensures : first.Ensures Invariant task request
      (fun result trace => (rest result).Ensures Invariant task request post trace) since) :
    (first >>= rest).Ensures Invariant task request post since := by
  induction first generalizing since with
  | done result => exact ensures
  | await effect next inductionHypothesis =>
    intro trace later holds answer
    obtain ⟨kept, left⟩ := ensures trace later holds answer
    exact ⟨kept, inductionHypothesis answer left⟩

variable (Invariant)

/-- What the calls keep together: the invariant, that only calls that were started performed
anything, and what each call ensures. -/
structure Loop.Kept (post : Nat → Request → Result → List (Entry Effect Answer Request) → Prop)
    (loop : Loop Effect Answer Request Result) : Prop where
  holds : Invariant loop.trace
  started : ∀ entry ∈ loop.trace, entry.task < loop.tasks.length
  ensures : ∀ task request (left : Coroutine Effect Answer Result),
    loop.tasks[task]? = some (request, left) →
      left.Ensures Invariant task request (post task request) loop.trace

variable {Invariant}

/-- Calls that keep the invariant one by one keep it together: in every interleaving of them the
invariant holds, and each call ensures from there on what it ensured when it started. -/
theorem Loop.kept_of_reaches {first last : Loop Effect Answer Request Result}
    (reaches : Run.Reaches (Loop.step program) first last) (idle : first.tasks = [])
    (untraced : first.trace = []) (initially : Invariant [])
    (post : Nat → Request → Result → List (Entry Effect Answer Request) → Prop)
    (stable : ∀ task request, Stable task (post task request))
    (starts : ∀ task request since, performed task since = [] →
      (program request).Ensures Invariant task request (post task request) since) :
    last.Kept Invariant post := by
  refine Run.Reaches.invariant reaches ?_ ?_
  · refine ⟨untraced ▸ initially, untraced ▸ List.forall_mem_nil _, ?_⟩
    intro task request left found
    rw [idle] at found
    exact absurd found nofun
  · rintro loop move after ⟨holds, known, tasks⟩ stepped
    rcases Loop.step_cases program stepped with ⟨started, rfl⟩ | ⟨resumed, caller, effect,
      answer, next, awaiting, rfl⟩
    · refine ⟨holds, fun entry member => ?_, fun task request left found => ?_⟩
      · exact Nat.lt_of_lt_of_le (known entry member) (by simp)
      · rw [List.getElem?_append] at found
        split at found
        · exact tasks task request left found
        · rename_i new
          rw [List.getElem?_singleton] at found
          split at found
          · cases found
            -- no effect was performed for a call before it started
            refine starts task started loop.trace (List.filter_eq_nil_iff.mpr ?_)
            intro entry member
            have below := known entry member
            simp only [beq_iff_eq]
            omega
          · exact absurd found nofun
    · obtain ⟨kept, rest⟩ := tasks resumed caller _ awaiting loop.trace
        (Later.refl _ _) holds answer
      have bound : resumed < loop.tasks.length := (List.getElem?_eq_some_iff.mp awaiting).1
      refine ⟨kept, fun entry member => ?_, fun task request left found => ?_⟩
      · rw [List.length_set]
        rcases List.mem_cons.mp member with rfl | before
        · exact bound
        · exact known entry before
      · rw [List.getElem?_set] at found
        split at found
        · rename_i same
          cases found
          exact same ▸ rest
        · rename_i other
          exact (tasks task request left found).mono (stable task request)
            (Later.of_other loop.trace other)

end Running

end Coroutine
