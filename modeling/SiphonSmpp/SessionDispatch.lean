/-
This file models the dispatch of a session event (`session` in
`src/dispatch.rs`), which runs every `@smpp.on_session` handler of the event. The
loop over the handlers is cut at each coroutine: the executor job stops there and
hands the handlers it has not reached to the next job.

`plainLoop` is what the dispatch is for: one handler after the other, each to its
end. `runHandlers_rest` says that a job and what is left after it make up the
plain loop, and the loop over the jobs follows by induction on the handlers left. How
Python and the executor behave is an input, for each handler and each job.
-/

import SiphonSmpp.Dispatch

namespace SiphonSmpp

/-! ### Jobs and handlers -/

/-- What a session dispatch does: call a handler, see its turn end, log an error. Handlers are
numbered from one in the order they are reached. -/
inductive SessionEffect where
  | called (number : Nat) (handler : RegisteredHandler) (session : Session)
  | ended (number : Nat)
  | logged (event : String) (error : DispatchError)
  deriving DecidableEq, Repr

/-- What became of a job handed to the executor. A job that panics has done some of what it was
to do, from the start. -/
inductive ExecutorJob where
  | ran
  | shed (error : DispatchError)
  | panicked (done : Nat) (error : DispatchError)
  deriving DecidableEq, Repr

/-- How the executor and Python behave during one session event: what became of each job, and
how each handler that is reached behaves. -/
structure SessionScript where
  job : Nat → ExecutorJob
  handler : Nat → Script

/-- Run a job on the executor. -/
def onExecutor {Result : Type} (job : ExecutorJob) (work : List SessionEffect × Result) :
    List SessionEffect × Except DispatchError Result :=
  match job with
  | .ran => (work.1, .ok work.2)
  | .shed error => ([], .error error)
  | .panicked done error => (work.1.take done, .error error)

/-- The handlers still to run for one event, and how many were reached before. -/
structure SessionRun where
  event : String
  session : Session
  remaining : List RegisteredHandler
  reached : Nat

/-- Where a run of session handlers stopped. -/
inductive SessionStep where
  | finished
  | awaiting (pending : Started Unit) (run : SessionRun)

def logSessionError (event : String) (error : DispatchError) : SessionEffect := .logged event error

/-- Build the arguments of a handler and call it. -/
def startHandler (script : Script) (session : Session) (number : Nat)
    (handler : RegisteredHandler) : List SessionEffect × Started Unit :=
  match script.arguments (.session session) with
  | .ok _ =>
    ([.called number handler session], invoke script handler (.session session) fun _ => ())
  | .error error => ([], .done (.error (.fromPython error)))

section Session

variable (script : SessionScript) (event : String) (session : Session)

/-- The loop of `run_session`: run handlers in order until one is a coroutine that has to
wait. -/
def runHandlers (reached : Nat) : List RegisteredHandler → List SessionEffect × SessionStep
  | [] => ([], .finished)
  | handler :: rest =>
    let number := reached + 1
    let started := startHandler (script.handler number) session number handler
    match started.2 with
    | .done (.ok ()) =>
      let next := runHandlers number rest
      (started.1 ++ .ended number :: next.1, next.2)
    | .done (.error error) =>
      let next := runHandlers number rest
      (started.1 ++ .ended number :: logSessionError event error :: next.1, next.2)
    | pending => (started.1, .awaiting pending ⟨event, session, rest, number⟩)

omit event session in
def runSession (run : SessionRun) : List SessionEffect × SessionStep :=
  runHandlers script run.event run.session run.reached run.remaining

/-- How many handlers a step leaves, the one it waits for included. -/
def SessionStep.left : Except DispatchError SessionStep → Nat
  | .ok (.awaiting _ run) => run.remaining.length + 1
  | _ => 0

theorem runHandlers_left (reached : Nat) (handlers : List RegisteredHandler) :
    SessionStep.left (.ok (runHandlers script event session reached handlers).2) ≤
      handlers.length := by
  induction handlers generalizing reached with
  | nil => exact le_rfl
  | cons handler rest inductionHypothesis =>
    rw [runHandlers]
    dsimp only
    split
    · exact (inductionHypothesis _).trans (Nat.le_succ _)
    · exact (inductionHypothesis _).trans (Nat.le_succ _)
    · exact le_rfl

omit event session in
theorem onExecutor_left (job : ExecutorJob) (run : SessionRun) :
    SessionStep.left (onExecutor job (runSession script run)).2 ≤ run.remaining.length := by
  cases job with
  | ran => exact runHandlers_left script run.event run.session run.reached run.remaining
  | shed error => exact Nat.zero_le _
  | panicked done error => exact Nat.zero_le _

/-- What settling a coroutine does: its turn ends, and a failure is logged. -/
def settled (number : Nat) (result : Except DispatchError Unit) : List SessionEffect :=
  match result with
  | .ok _ => [.ended number]
  | .error error => [.ended number, logSessionError event error]

omit session in
/-- The loop of `session`: wait for the coroutine a job stopped at, then run the rest as another
job. -/
def sessionLoop (job : Nat) (step : Except DispatchError SessionStep) : List SessionEffect :=
  match step with
  | .error error => [logSessionError event error]
  | .ok .finished => []
  | .ok (.awaiting pending run) =>
    let next := onExecutor (script.job job) (runSession script run)
    settled event run.reached pending.settle ++ next.1 ++ sessionLoop (job + 1) next.2
termination_by SessionStep.left step
decreasing_by exact Nat.lt_succ_of_le (onExecutor_left script (script.job job) run)

end Session

/-- The handlers registered for a session event. -/
def registeredFor (source : HandlerSource) (event : String) : List RegisteredHandler :=
  (source .onSession).filter fun handler => handler.key == some event

/-- Run every `@smpp.on_session(event)` handler. -/
def Dispatch.session (script : SessionScript) (source : HandlerSource) (event : String)
    (session : Session) : List SessionEffect :=
  let first := onExecutor (script.job 0)
    (runSession script ⟨event, session, registeredFor source event, 0⟩)
  first.1 ++ sessionLoop script event 1 first.2

/-! ### The plain loop -/

section PlainLoop

variable (script : SessionScript) (event : String) (session : Session)

/-- Run one handler to its end. -/
def visit (number : Nat) (handler : RegisteredHandler) : List SessionEffect :=
  let started := startHandler (script.handler number) session number handler
  started.1 ++ settled event number started.2.settle

/-- One handler after the other. -/
def plainLoop (reached : Nat) : List RegisteredHandler → List SessionEffect
  | [] => []
  | handler :: rest =>
    visit script event session (reached + 1) handler ++ plainLoop (reached + 1) rest

/-- What a step of an event leaves to do. -/
def SessionStep.rest : SessionStep → List SessionEffect
  | .finished => []
  | .awaiting pending run =>
    settled event run.reached pending.settle ++
      plainLoop script event session run.reached run.remaining

/-- A step waits for a handler of this event and session. -/
def SessionStep.Of : SessionStep → Prop
  | .finished => True
  | .awaiting _ run => run.event = event ∧ run.session = session

/-- What a job does and what it leaves make up the plain loop. -/
theorem runHandlers_rest (reached : Nat) (handlers : List RegisteredHandler) :
    SessionStep.Of event session (runHandlers script event session reached handlers).2 ∧
      (runHandlers script event session reached handlers).1 ++
        SessionStep.rest script event session
          (runHandlers script event session reached handlers).2 =
      plainLoop script event session reached handlers := by
  induction handlers generalizing reached with
  | nil => exact ⟨trivial, rfl⟩
  | cons handler rest inductionHypothesis =>
    obtain ⟨ofRest, same⟩ := inductionHypothesis (reached + 1)
    rw [runHandlers, plainLoop, visit]
    dsimp only
    split
    · rename_i done
      refine ⟨ofRest, ?_⟩
      rw [done, ← same, List.append_assoc, List.append_assoc]
      rfl
    · rename_i error done
      refine ⟨ofRest, ?_⟩
      rw [done, ← same, List.append_assoc, List.append_assoc]
      rfl
    · refine ⟨⟨rfl, rfl⟩, ?_⟩
      rw [List.append_assoc]
      rfl

end PlainLoop

/-! ### The loop over the jobs -/

/-- A log is the whole of what was to do, or it breaks off with the error of a job. -/
def CutShort (event : String) (log whole : List SessionEffect) : Prop :=
  log = whole ∨ ∃ done error, done <+: whole ∧ log = done ++ [logSessionError event error]

theorem CutShort.append {event : String} {log whole : List SessionEffect}
    (short : CutShort event log whole) (front : List SessionEffect) :
    CutShort event (front ++ log) (front ++ whole) := by
  rcases short with rfl | ⟨done, error, starts, rfl⟩
  · exact Or.inl rfl
  · refine Or.inr ⟨front ++ done, error, (List.prefix_append_right_inj front).mpr starts, ?_⟩
    rw [List.append_assoc]

section Jobs

variable (script : SessionScript)

/-- Run the handlers that are left as a job, and go on from there. -/
def resume (job : Nat) (run : SessionRun) : List SessionEffect :=
  let next := onExecutor (script.job job) (runSession script run)
  next.1 ++ sessionLoop script run.event (job + 1) next.2

theorem resume_of_shed (job : Nat) (run : SessionRun) (error : DispatchError)
    (shed : script.job job = .shed error) :
    resume script job run = [logSessionError run.event error] := by
  rw [resume, shed]
  dsimp only [onExecutor]
  rw [sessionLoop]
  rfl

theorem resume_of_panicked (job done : Nat) (run : SessionRun) (error : DispatchError)
    (panicked : script.job job = .panicked done error) :
    resume script job run =
      (runSession script run).1.take done ++ [logSessionError run.event error] := by
  rw [resume, panicked]
  dsimp only [onExecutor]
  rw [sessionLoop]

/-- A job that runs leaves nothing or hands what is left to the next job. -/
theorem resume_of_ran (job : Nat) (run : SessionRun) (ran : script.job job = .ran) :
    resume script job run = plainLoop script run.event run.session run.reached run.remaining ∨
      ∃ front next, next.remaining.length < run.remaining.length ∧
        resume script job run = front ++ resume script (job + 1) next ∧
        next.event = run.event ∧
        plainLoop script run.event run.session run.reached run.remaining =
          front ++ plainLoop script next.event next.session next.reached next.remaining := by
  have left := runHandlers_left script run.event run.session run.reached run.remaining
  obtain ⟨ofEvent, same⟩ := runHandlers_rest script run.event run.session run.reached run.remaining
  have unfolded : resume script job run = (runSession script run).1 ++
      sessionLoop script run.event (job + 1) (.ok (runSession script run).2) := by
    rw [resume, ran]
    rfl
  rw [unfolded, runSession]
  set work := runHandlers script run.event run.session run.reached run.remaining
  cases stopped : work.2 with
  | finished =>
    rw [stopped] at same
    refine Or.inl ?_
    rw [sessionLoop]
    exact same
  | awaiting pending next =>
    rw [stopped] at same ofEvent left
    obtain ⟨sameEvent, sameSession⟩ := ofEvent
    refine Or.inr ⟨work.1 ++ settled run.event next.reached pending.settle, next, left, ?_,
      sameEvent, ?_⟩
    · rw [sessionLoop, List.append_assoc, List.append_assoc, resume, sameEvent]
    · rw [← same, SessionStep.rest, List.append_assoc, sameEvent, sameSession]

/-- Jobs that run one after the other do what the plain loop does; a job that does not ends it
there. -/
theorem resume_cutShort (job : Nat) (run : SessionRun) :
    CutShort run.event (resume script job run)
        (plainLoop script run.event run.session run.reached run.remaining) ∧
      ((∀ number, script.job number = .ran) → resume script job run =
        plainLoop script run.event run.session run.reached run.remaining) := by
  induction size : run.remaining.length using Nat.strong_induction_on generalizing job run with
  | _ count inductionHypothesis =>
    cases became : script.job job with
    | ran =>
      rcases resume_of_ran script job run became with whole | ⟨front, next, fewer, resumed,
        sameEvent, rest⟩
      · exact ⟨Or.inl whole, fun _ => whole⟩
      · obtain ⟨short, complete⟩ := inductionHypothesis _ (size ▸ fewer) (job + 1) next rfl
        rw [sameEvent] at short
        rw [resumed, rest, ← sameEvent]
        refine ⟨?_, fun ran => congrArg (front ++ ·) (complete ran)⟩
        rw [sameEvent]
        exact short.append front
    | shed error =>
      refine ⟨Or.inr ⟨[], error, List.nil_prefix, resume_of_shed script job run error became⟩, ?_⟩
      intro ran
      rw [ran job] at became
      cases became
    | panicked done error =>
      refine ⟨Or.inr ⟨_, error, ?_, resume_of_panicked script job done run error became⟩, ?_⟩
      · have same := (runHandlers_rest script run.event run.session run.reached run.remaining).2
        rw [← same]
        exact (List.take_prefix _ _).trans (List.prefix_append _ _)
      · intro ran
        rw [ran job] at became
        cases became

end Jobs

/-! ### Calls and turns -/

/-- The handlers a log calls, with what they are called with. -/
def calls (log : List SessionEffect) : List (RegisteredHandler × Session) :=
  log.filterMap fun effect =>
    match effect with
    | .called _ handler session => some (handler, session)
    | _ => none

/-- No handler is called before the turn of the one before it has ended. -/
def TurnsInOrder (log : List SessionEffect) : Prop :=
  ∀ before number handler session,
    before ++ [.called (number + 2) handler session] <+: log → .ended (number + 1) ∈ before

theorem calls_settled (event : String) (number : Nat) (result : Except DispatchError Unit) :
    calls (settled event number result) = [] := by
  cases result <;> rfl

theorem CutShort.calls_prefix {event : String} {log whole : List SessionEffect}
    (short : CutShort event log whole) : calls log <+: calls whole := by
  rcases short with rfl | ⟨done, error, starts, rfl⟩
  · exact List.prefix_rfl
  · have failed : calls (done ++ [logSessionError event error]) = calls done := by
      rw [calls, List.filterMap_append]
      exact List.append_nil _
    rw [failed]
    exact starts.filterMap _

theorem CutShort.turnsInOrder {event : String} {log whole : List SessionEffect}
    (short : CutShort event log whole) (ordered : TurnsInOrder whole) : TurnsInOrder log := by
  rcases short with rfl | ⟨done, error, starts, rfl⟩
  · exact ordered
  · intro before number handler session reached
    rcases List.prefix_concat_iff.mp reached with same | inside
    · have last := (List.append_inj' same rfl).2
      cases last
    · exact ordered before number handler session (inside.trans starts)

section Turns

variable (script : SessionScript) (event : String) (session : Session)

theorem ended_mem_settled (number : Nat) (result : Except DispatchError Unit) :
    SessionEffect.ended number ∈ settled event number result := by
  cases result <;> exact List.mem_cons_self

theorem ended_mem_visit (number : Nat) (handler : RegisteredHandler) :
    SessionEffect.ended number ∈ visit script event session number handler :=
  List.mem_append_right _ (ended_mem_settled event number _)

/-- Every call of a visit is that of its own handler. -/
theorem called_of_mem_visit (number other : Nat) (handler called : RegisteredHandler)
    (given : Session)
    (member : SessionEffect.called other called given ∈
      visit script event session number handler) : other = number := by
  rw [visit, startHandler] at member
  rcases List.mem_append.mp member with started | later
  · split at started
    · rw [List.mem_singleton, SessionEffect.called.injEq] at started
      exact started.1
    · cases started
  · revert later
    cases Started.settle _ <;> simp [settled, logSessionError]

theorem calls_visit (number : Nat) (handler : RegisteredHandler)
    (built : (script.handler number).arguments (.session session) = .ok ()) :
    calls (visit script event session number handler) = [(handler, session)] := by
  have split : ∀ front rest, calls (front ++ rest) = calls front ++ calls rest :=
    fun _ _ => List.filterMap_append
  rw [visit, startHandler, built, split, calls_settled]
  rfl

/-- The plain loop calls a handler when the turn of the one before it has ended. -/
theorem plainLoop_turns (reached : Nat) (handlers : List RegisteredHandler)
    (before : List SessionEffect) (number : Nat) (handler : RegisteredHandler) (given : Session)
    (starts : before ++ [.called (number + 2) handler given] <+:
      plainLoop script event session reached handlers) :
    number + 1 ≤ reached ∨ .ended (number + 1) ∈ before := by
  induction handlers generalizing reached before with
  | nil =>
    have empty := List.prefix_nil.mp starts
    exact absurd empty (List.append_ne_nil_of_right_ne_nil _ (List.cons_ne_nil _ _))
  | cons first rest inductionHypothesis =>
    have beyond : ∀ later, before = visit script event session (reached + 1) first ++ later →
        later ++ [.called (number + 2) handler given] <+:
          plainLoop script event session (reached + 1) rest →
        number + 1 ≤ reached ∨ .ended (number + 1) ∈ before := by
      rintro later rfl startsRest
      rcases inductionHypothesis (reached + 1) later startsRest with early | ended
      · rcases Nat.le_succ_iff.mp early with earlier | same
        · exact Or.inl earlier
        · rw [same]
          exact Or.inr (List.mem_append_left _ (ended_mem_visit script event session _ first))
      · exact Or.inr (List.mem_append_right _ ended)
    obtain ⟨after, same⟩ := starts
    rw [plainLoop, List.append_assoc] at same
    rcases List.append_eq_append_iff.mp same with ⟨inside, visited, rest⟩ | ⟨later, split, rest⟩
    · cases inside with
      | nil =>
        rw [List.append_nil] at visited
        exact beyond [] (by rw [visited, List.append_nil]) ⟨after, rest⟩
      | cons effect others =>
        obtain ⟨rfl, _⟩ := List.cons.inj rest
        have own := called_of_mem_visit script event session (reached + 1) (number + 2) first
          handler given (visited ▸ List.mem_append_right _ List.mem_cons_self)
        exact Or.inl (Nat.le_of_eq (Nat.succ.inj own))
    · exact beyond later split ⟨after, by rw [rest, List.append_assoc]⟩

theorem calls_plainLoop (reached : Nat) (handlers : List RegisteredHandler)
    (built : ∀ number, (script.handler number).arguments (.session session) = .ok ()) :
    calls (plainLoop script event session reached handlers) =
      handlers.map fun handler => (handler, session) := by
  induction handlers generalizing reached with
  | nil => rfl
  | cons handler rest inductionHypothesis =>
    have own := calls_visit script event session (reached + 1) handler (built _)
    have split : calls (visit script event session (reached + 1) handler ++
        plainLoop script event session (reached + 1) rest) =
      calls (visit script event session (reached + 1) handler) ++
        calls (plainLoop script event session (reached + 1) rest) := List.filterMap_append
    rw [plainLoop, split, own, inductionHypothesis]
    rfl

end Turns

/-- A session dispatch runs the handlers of its event one after the other. When every job runs it
does what the plain loop does, which calls each registered handler once, with the session and in
order; whatever becomes of the jobs, it calls a first part of them, each after the turn of the
one before. -/
theorem session_refines_plain_loop (script : SessionScript) (source : HandlerSource)
    (event : String) (session : Session) :
    ((∀ job, script.job job = .ran) → Dispatch.session script source event session =
      plainLoop script event session 0 (registeredFor source event)) ∧
    TurnsInOrder (Dispatch.session script source event session) ∧
    ((∀ number, (script.handler number).arguments (.session session) = .ok ()) →
      ((∀ job, script.job job = .ran) →
        calls (Dispatch.session script source event session) =
          (registeredFor source event).map fun handler => (handler, session)) ∧
      calls (Dispatch.session script source event session) <+:
        (registeredFor source event).map fun handler => (handler, session)) := by
  obtain ⟨short, complete⟩ := resume_cutShort script 0
    ⟨event, session, registeredFor source event, 0⟩
  refine ⟨complete, short.turnsInOrder ?_, fun built => ?_⟩
  · intro before number handler given starts
    exact (plainLoop_turns script event session 0 _ before number handler given starts).resolve_left
      (Nat.not_succ_le_zero number)
  · have whole := calls_plainLoop script event session 0 (registeredFor source event) built
    rw [← whole]
    exact ⟨fun ran => congrArg calls (complete ran), short.calls_prefix⟩

/-- A raising handler, a coroutine function, one for another event, and a last one. -/
def mixedSource : HandlerSource
  | .onSession => [⟨1, false, some "bound"⟩, ⟨2, true, some "bound"⟩, ⟨3, false, some "unbound"⟩,
      ⟨4, false, some "bound"⟩]
  | _ => []

/-- The first handler raises, and the coroutine never settles. -/
def mixedHandlers : Script where
  tryRun := .ok ()
  arguments _ := .ok ()
  call handler _ :=
    if handler.callable = 1 then .error ⟨.runtimeError, "logged, not fatal"⟩
    else if handler.isAsync then .ok (.coroutine handler.callable)
    else .ok .none
  submit := .ok ()
  awaited _ := .stalled
  coroutineTimeout := 30

theorem session_refines_plain_loop_mixed :
    let session : Session := ⟨.bind, "s-6", "upstream", ""⟩
    calls (Dispatch.session ⟨fun _ => .ran, fun _ => mixedHandlers⟩ mixedSource "bound" session) =
        [(⟨1, false, some "bound"⟩, session), (⟨2, true, some "bound"⟩, session),
          (⟨4, false, some "bound"⟩, session)] ∧
      calls (Dispatch.session ⟨fun job => if job = 1 then .shed ⟨"shed"⟩ else .ran,
          fun _ => mixedHandlers⟩ mixedSource "bound" session) <+:
        [(⟨1, false, some "bound"⟩, session), (⟨2, true, some "bound"⟩, session),
          (⟨4, false, some "bound"⟩, session)] :=
  ⟨((session_refines_plain_loop ⟨fun _ => .ran, fun _ => mixedHandlers⟩ mixedSource "bound"
      ⟨.bind, "s-6", "upstream", ""⟩).2.2 fun _ => rfl).1 fun _ => rfl,
    ((session_refines_plain_loop ⟨fun job => if job = 1 then .shed ⟨"shed"⟩ else .ran,
      fun _ => mixedHandlers⟩ mixedSource "bound" ⟨.bind, "s-6", "upstream", ""⟩).2.2
        fun _ => rfl).2⟩

end SiphonSmpp
