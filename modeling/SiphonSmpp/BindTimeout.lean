/-
This file asks what becomes of an `@smpp.on_bind` handler that overruns its
timeout. The wrapper (`await_handler` in `src/dispatch.rs`) bounds the coroutine
by `asyncio.timeout`, which cancels it at expiry and turns a cancellation that
leaves the scope into a `TimeoutError`. A coroutine that swallows the
cancellation, or that never gave the loop a chance to deliver it, leaves the
scope with a value, and the wrapper passes the value on like any other. The
waiting side takes it as long as its own backstop has not passed.

So a bind can be accepted by a value that came after the timeout. Such values
apart, authorisation is closed by default: a bind is accepted only by a value
that the first handler completed with in time.
-/

import SiphonSmpp.AwaitHandler

namespace SiphonSmpp

/-! ### How and when a scope is left -/

/-- How a timeout scope was left: when it was entered and left, and whether the task still
waited. -/
structure ScopeLeft where
  how : ScopeExit
  entered : Instant
  left : Instant
  waiting : Bool

section Leaving

variable {Result : Type} (convert : PyValue → Result) (name : String) (timeout : Nat)

/-- How an event leaves the scope, if it does. -/
def HandlerRun.leaves (run : HandlerRun Result) : HandlerEvent → Option ScopeLeft
  | .exit how =>
    match run.wrapper with
    | .awaiting entered _ => some ⟨how, entered, run.clock, run.settled.isNone⟩
    | _ => none
  | _ => none

/-- How the timeout scope of a coroutine is left in the course of some events, if it is. -/
def HandlerRun.scopeLeft (run : HandlerRun Result) : List HandlerEvent → Option ScopeLeft
  | [] => none
  | event :: rest =>
    (run.leaves event).or
      ((run.step convert name timeout event).bind fun after => after.scopeLeft rest)

/-- The wrapper has still to leave its scope. -/
def WrapperState.IsUnderWay (wrapper : WrapperState) : Prop :=
  wrapper = .submitted ∨ ∃ entered expired, wrapper = .awaiting entered expired

/-- The wrapper has nothing more to do. -/
def WrapperState.IsOver (wrapper : WrapperState) : Prop :=
  (∃ raised, wrapper = .ended raised) ∨ wrapper = .discarded

theorem WrapperState.IsOver.not_isUnderWay {wrapper : WrapperState} (isOver : wrapper.IsOver) :
    ¬ wrapper.IsUnderWay := by
  rcases isOver with ⟨raised, rfl⟩ | rfl
  · rintro (same | ⟨_, _, same⟩) <;> cases same
  · rintro (same | ⟨_, _, same⟩) <;> cases same

variable {convert name timeout} {run after : HandlerRun Result}

/-- A wrapper that is at its end stays there, and says nothing more. -/
theorem HandlerRun.step_of_over {event : HandlerEvent} (isOver : run.wrapper.IsOver)
    (stepped : run.step convert name timeout event = some after) :
    after.wrapper = run.wrapper ∧ after.calls = run.calls ∧ after.channel = run.channel := by
  rcases step_cases stepped with ⟨entered, _, begun, _⟩ | ⟨entered, expired, _, inside, _⟩ |
    ⟨submitted, _⟩ | ⟨_, _, rfl⟩ | ⟨_, rfl⟩
  · exact absurd (begun.imp_right fun ⟨since, same⟩ => ⟨since, false, same⟩) isOver.not_isUnderWay
  · exact absurd (Or.inr ⟨entered, expired, inside⟩) isOver.not_isUnderWay
  · exact absurd (Or.inl submitted) isOver.not_isUnderWay
  · exact ⟨rfl, rfl, rfl⟩
  · exact ⟨rfl, rfl, rfl⟩

theorem HandlerRun.foldlM_of_over (events : List HandlerEvent) (isOver : run.wrapper.IsOver)
    (ran : events.foldlM (HandlerRun.step convert name timeout) run = some after) :
    after.calls = run.calls ∧ after.channel = run.channel ∧
      run.scopeLeft convert name timeout events = none := by
  induction events generalizing run with
  | nil =>
    cases ran
    exact ⟨rfl, rfl, rfl⟩
  | cons event rest inductionHypothesis =>
    obtain ⟨next, stepped, later⟩ := Option.bind_eq_some_iff.mp ran
    obtain ⟨wrapper, calls, channel⟩ := step_of_over isOver stepped
    obtain ⟨sameCalls, sameChannel, nowhere⟩ := inductionHypothesis (wrapper ▸ isOver) later
    have inside : run.leaves event = none := by
      cases event with
      | exit how =>
        rcases isOver with ⟨_, same⟩ | same
        · rw [leaves, same]
        · rw [leaves, same]
      | _ => rfl
    refine ⟨sameCalls.trans calls, sameChannel.trans channel, ?_⟩
    rw [scopeLeft, inside, stepped]
    exact nowhere

/-- A wrapper that has not ended yet, and has told nothing. -/
structure HandlerRun.Working (run : HandlerRun Result) : Prop where
  wrapper : run.wrapper.IsUnderWay
  finish : run.hasFinish = true
  calls : run.calls = []
  channel : run.channel = .empty

/-- A wrapper at work goes on working, is discarded, or leaves its scope. -/
theorem HandlerRun.Working.step (working : run.Working) {event : HandlerEvent}
    (stepped : run.step convert name timeout event = some after) :
    (run.leaves event = none ∧ after.Working) ∨
    (run.leaves event = none ∧ after.wrapper = .discarded ∧ after.calls = []) ∨
    ∃ how entered expired, event = .exit how ∧ run.wrapper = .awaiting entered expired ∧
      after = run.leave convert name timeout expired how := by
  obtain ⟨wrapper, finish, calls, channel⟩ := working
  cases event with
  | start =>
    rw [HandlerRun.step] at stepped
    split at stepped
    · cases stepped
      exact Or.inl ⟨rfl, Or.inr ⟨_, _, rfl⟩, finish, calls, channel⟩
    · cases stepped
  | expire =>
    rw [HandlerRun.step] at stepped
    split at stepped
    · split at stepped
      · cases stepped
        exact Or.inl ⟨rfl, Or.inr ⟨_, _, rfl⟩, finish, calls, channel⟩
      · cases stepped
    · cases stepped
  | exit how =>
    rw [HandlerRun.step] at stepped
    split at stepped
    · rename_i entered expired inside
      cases stepped
      exact Or.inr (Or.inr ⟨how, entered, expired, rfl, inside, rfl⟩)
    · cases stepped
  | discard =>
    rw [HandlerRun.step] at stepped
    split at stepped
    · cases stepped
      exact Or.inr (Or.inl ⟨rfl, rfl, calls⟩)
    · cases stepped
  | tick now =>
    rw [HandlerRun.step] at stepped
    split at stepped
    · cases stepped
      exact Or.inl ⟨rfl, wrapper, finish, calls, channel⟩
    · cases stepped
  | poll =>
    rw [HandlerRun.step] at stepped
    split at stepped
    · cases stepped
    · cases stepped
      exact Or.inl ⟨rfl, wrapper, finish, calls, channel⟩

/-- A wrapper that leaves its scope tells a value if the coroutine returned one, and a task that
waits hears of it. -/
theorem HandlerRun.Working.leave (working : run.Working) (expired : Bool) (how : ScopeExit)
    (value : PyValue) :
    ((run.leave convert name timeout expired how).channel ≠ .empty ∧
        ∃ more, (run.leave convert name timeout expired how).calls = .ok value :: more) ↔
      how = .returned value ∧ run.settled.isNone = true := by
  obtain ⟨_, finish, calls, channel⟩ := working
  have told : ∀ outcome, (run.complete convert outcome).calls = [outcome] := by
    intro outcome
    show run.calls ++ [outcome] = [outcome]
    rw [calls, List.nil_append]
  have heard : ∀ outcome, (run.complete convert outcome).channel ≠ .empty ↔
      run.settled.isNone = true := by
    intro outcome
    show (if run.hasFinish = true ∧ run.settled.isNone = true then _ else run.channel) ≠ _ ↔ _
    by_cases waiting : run.settled.isNone = true
    · rw [if_pos ⟨finish, waiting⟩]
      exact ⟨fun _ => waiting, fun _ => nofun⟩
    · rw [if_neg fun both => waiting both.2, channel]
      exact ⟨fun filled => absurd rfl filled, fun waits => absurd waits waiting⟩
  cases how with
  | returned given =>
    show ((run.complete convert (.ok given)).channel ≠ .empty ∧
      ∃ more, (run.complete convert (.ok given)).calls = .ok value :: more) ↔ _
    rw [heard, told]
    simp only [List.cons.injEq, Except.ok.injEq, ScopeExit.returned.injEq, exists_and_left,
      exists_eq', and_true]
    exact And.comm
  | raised error isException =>
    refine ⟨?_, nofun⟩
    rintro ⟨_, more, failed⟩
    exact absurd ((told _).symm.trans failed) nofun

/-- What the waiting side was told is what the scope was left with while it waited. -/
theorem HandlerRun.told_iff_scopeLeft (events : List HandlerEvent) (working : run.Working)
    (ran : events.foldlM (HandlerRun.step convert name timeout) run = some after)
    (value : PyValue) :
    (after.channel ≠ .empty ∧ ∃ more, after.calls = .ok value :: more) ↔
      ∃ entered left, run.scopeLeft convert name timeout events =
        some ⟨.returned value, entered, left, true⟩ := by
  induction events generalizing run with
  | nil =>
    cases ran
    rw [working.channel]
    exact ⟨fun told => absurd rfl told.1, nofun⟩
  | cons event rest inductionHypothesis =>
    obtain ⟨next, stepped, later⟩ := Option.bind_eq_some_iff.mp ran
    rcases working.step stepped with ⟨inside, still⟩ | ⟨inside, discarded, silent⟩ |
      ⟨how, entered, expired, rfl, inside, rfl⟩
    · rw [scopeLeft, inside, stepped]
      exact inductionHypothesis still later
    · obtain ⟨calls, _, nowhere⟩ := foldlM_of_over rest (Or.inr discarded) later
      rw [scopeLeft, inside, stepped, calls, silent]
      refine ⟨fun told => absurd told.2.choose_spec nofun, ?_⟩
      rintro ⟨_, _, found⟩
      exact absurd (nowhere.symm.trans found) nofun
    · have isOver : ∃ raised,
          (run.leave convert name timeout expired how).wrapper = .ended raised := by
        cases how with
        | returned value => exact ⟨_, rfl⟩
        | raised error isException => exact ⟨_, rfl⟩
      obtain ⟨calls, channel, _⟩ := foldlM_of_over rest (Or.inl isOver) later
      have here : run.leaves (.exit how) = some ⟨how, entered, run.clock, run.settled.isNone⟩ := by
        rw [leaves, inside]
      rw [calls, channel, working.leave expired how value, scopeLeft, here, Option.some_or]
      constructor
      · rintro ⟨rfl, waiting⟩
        exact ⟨entered, run.clock, by rw [waiting]⟩
      · rintro ⟨_, _, same⟩
        obtain ⟨returned, _, _, waiting⟩ := ScopeLeft.mk.inj (Option.some.inj same)
        exact ⟨returned, waiting⟩

/-- What the waiting side sees of a channel when it is polled, or gives up. -/
def Oneshot.received : Oneshot Result → Received Result
  | .empty => .elapsed
  | .sent result => .delivered result
  | .closed => .closed

/-- What is in the channel, and how an event was settled by it. Once the event is settled the
channel stays as it was. -/
structure HandlerRun.Shown (convert : PyValue → Result) (timeout : Nat) (run : HandlerRun Result) :
    Prop where
  shown : run.Working ∨ run.wrapper.IsOver ∧
    (run.channel = .empty ∧ run.settled.isSome = true ∨
      (∃ outcome, run.calls = [outcome] ∧ run.channel = .sent (resultOf convert outcome)) ∨
      run.calls = [] ∧ run.channel = .closed)
  settled : ∀ result, run.settled = some result →
    result = (Started.pending run.channel.received timeout).settle

theorem HandlerRun.shown_new (begun : Instant) :
    (HandlerRun.new Result begun).Shown convert timeout :=
  ⟨Or.inl ⟨Or.inl rfl, rfl, rfl, rfl⟩, nofun⟩

theorem HandlerRun.Shown.working (shown : run.Shown convert timeout)
    (begun : run.wrapper.IsUnderWay) : run.Working := by
  refine shown.shown.resolve_right ?_
  rintro ⟨isOver, _⟩
  exact isOver.not_isUnderWay begun

/-- A call on the completion object is in the channel, or the event was settled before. -/
theorem HandlerRun.Shown.complete (shown : run.Shown convert timeout) (working : run.Working)
    (outcome : Except PyErr PyValue) (raised : Bool) :
    HandlerRun.Shown convert timeout
      { run.complete convert outcome with wrapper := .ended raised } := by
  have made : (run.complete convert outcome).calls = [outcome] := by
    show run.calls ++ [outcome] = [outcome]
    rw [working.calls, List.nil_append]
  cases settled : run.settled with
  | none =>
    have sent : (run.complete convert outcome).channel = .sent (resultOf convert outcome) :=
      if_pos ⟨working.finish, by rw [settled]; rfl⟩
    refine ⟨Or.inr ⟨Or.inl ⟨raised, rfl⟩, Or.inr (Or.inl ⟨outcome, made, sent⟩)⟩,
      fun result same => ?_⟩
    exact absurd (settled.symm.trans same) nofun
  | some given =>
    have unsent : (run.complete convert outcome).channel = run.channel :=
      if_neg fun both => by simp [settled] at both
    refine ⟨Or.inr ⟨Or.inl ⟨raised, rfl⟩, Or.inl ⟨unsent.trans working.channel, ?_⟩⟩,
      fun result same => ?_⟩
    · show run.settled.isSome = true
      rw [settled]
      rfl
    · show result = (Started.pending (run.complete convert outcome).channel.received timeout).settle
      rw [unsent]
      exact shown.settled result same

theorem HandlerRun.Shown.poll (shown : run.Shown convert timeout) (unsettled : run.settled = none) :
    HandlerRun.Shown convert timeout { run with settled := run.poll timeout } := by
  refine ⟨?_, fun result same => ?_⟩
  · rcases shown.shown with ⟨wrapper, finish, calls, channel⟩ | ⟨isOver, ⟨_, given⟩ | filled⟩
    · exact Or.inl ⟨wrapper, finish, calls, channel⟩
    · rw [unsettled] at given
      cases given
    · exact Or.inr ⟨isOver, Or.inr filled⟩
  · have same : run.poll timeout = some result := same
    show result = (Started.pending run.channel.received timeout).settle
    rw [HandlerRun.poll] at same
    cases held : run.channel with
    | sent given =>
      rw [held] at same
      exact (Option.some.inj same).symm
    | closed =>
      rw [held] at same
      exact (Option.some.inj same).symm
    | empty =>
      rw [held] at same
      dsimp only at same
      split at same
      · exact (Option.some.inj same).symm
      · cases same

/-- Every step keeps the channel and the result in agreement. -/
theorem HandlerRun.Shown.step (shown : run.Shown convert timeout) (event : HandlerEvent)
    (stepped : run.step convert name timeout event = some after) :
    after.Shown convert timeout := by
  rcases step_cases stepped with ⟨entered, expired, begun, rfl⟩ | ⟨entered, expired, how, inside,
    rfl⟩ | ⟨submitted, rfl⟩ | ⟨now, ordered, rfl⟩ | ⟨unsettled, rfl⟩
  · obtain ⟨_, finish, calls, channel⟩ :=
      shown.working (begun.imp_right fun ⟨since, same⟩ => ⟨since, false, same⟩)
    exact ⟨Or.inl ⟨Or.inr ⟨_, _, rfl⟩, finish, calls, channel⟩, shown.settled⟩
  · have working := shown.working (Or.inr ⟨entered, expired, inside⟩)
    cases how with
    | returned value => exact shown.complete working _ _
    | raised error isException => exact shown.complete working _ _
  · have working := shown.working (Or.inl submitted)
    cases settled : run.settled with
    | none =>
      refine ⟨Or.inr ⟨Or.inr rfl, Or.inr (Or.inr ⟨working.calls, rfl⟩)⟩, fun result same => ?_⟩
      exact absurd same nofun
    | some given =>
      refine ⟨Or.inr ⟨Or.inr rfl, Or.inl ⟨working.channel, rfl⟩⟩, fun result same => ?_⟩
      exact shown.settled result (settled.trans same)
  · rcases shown.shown with ⟨wrapper, finish, calls, channel⟩ | isOver
    · exact ⟨Or.inl ⟨wrapper, finish, calls, channel⟩, shown.settled⟩
    · exact ⟨Or.inr isOver, shown.settled⟩
  · exact shown.poll unsettled

end Leaving

/-! ### The pool during one bind -/

/-- A run of the loop and the waiting task over a coroutine of `@smpp.on_bind`, from the moment
the pool took it until the task has its result. -/
structure PoolRun (timeout : Nat) where
  name : String
  begun : Instant
  events : List HandlerEvent
  final : HandlerRun BindOutcome
  ran : events.foldlM (HandlerRun.step bindOutcome name timeout) (.new BindOutcome begun) =
    some final
  settled : final.settled.isSome = true

/-- The asyncio pool during one bind: the steps before a coroutine is on it, and the run of each
coroutine. -/
structure AsyncioPool (timeout : Nat) where
  installed : Bool
  awaitHandler : Except PyErr Unit
  wrapped : Except PyErr Unit
  submitted : Except PyErr Unit
  run : PyValue → PoolRun timeout

/-- How the timeout scope was left in a run. -/
def PoolRun.scopeLeft {timeout : Nat} (run : PoolRun timeout) : Option ScopeLeft :=
  (HandlerRun.new BindOutcome run.begun).scopeLeft bindOutcome run.name timeout run.events

/-- What the waiting task saw of a run: the calls on the completion object, unless it gave up
before anything was in the channel. -/
def PoolRun.loopRun {timeout : Nat} (run : PoolRun timeout) : LoopRun where
  reports := run.final.calls
  inTime :=
    match run.final.channel with
    | .empty => false
    | _ => true

/-- The pool with each run in one piece. -/
def AsyncioPool.asyncio {timeout : Nat} (pool : AsyncioPool timeout) : AsyncioRun where
  installed := pool.installed
  awaitHandler := pool.awaitHandler
  wrapped := pool.wrapped
  submitted := pool.submitted
  loop coroutine := (pool.run coroutine).loopRun

section Pool

variable {timeout : Nat} (run : PoolRun timeout)

theorem PoolRun.working : (HandlerRun.new BindOutcome run.begun).Working :=
  ⟨Or.inl rfl, rfl, rfl, rfl⟩

theorem PoolRun.inTime_iff : run.loopRun.inTime = true ↔ run.final.channel ≠ .empty := by
  unfold PoolRun.loopRun
  cases run.final.channel with
  | empty => simp
  | sent result => simp
  | closed => simp

/-- The waiting task is handed a value exactly when the coroutine returned it while the task
waited. -/
theorem PoolRun.reported_iff (value : PyValue) :
    (run.loopRun.inTime = true ∧ ∃ more, run.loopRun.reports = .ok value :: more) ↔
      ∃ entered left, run.scopeLeft = some ⟨.returned value, entered, left, true⟩ := by
  rw [run.inTime_iff]
  exact HandlerRun.told_iff_scopeLeft run.events run.working run.ran value

/-- A run in one piece settles the event as the two threads did. -/
theorem PoolRun.settled_eq :
    run.final.settled = some (run.loopRun.settles bindOutcome timeout) := by
  have shown : run.final.Shown bindOutcome timeout :=
    (Run.Reaches.of_foldlM run.events run.ran).invariant (HandlerRun.shown_new run.begun)
      fun _ event _ shown stepped => shown.step event stepped
  obtain ⟨result, settled⟩ := Option.isSome_iff_exists.mp run.settled
  rw [settled, shown.settled result settled]
  unfold LoopRun.settles LoopRun.awaited PoolRun.loopRun
  have elapsed : run.final.channel = .empty →
      some (Started.pending run.final.channel.received timeout).settle =
        some (run.loopRun.settles bindOutcome timeout) := by
    intro empty
    unfold LoopRun.settles LoopRun.awaited PoolRun.loopRun
    rw [empty]
    rfl
  rcases shown.shown with ⟨_, _, _, empty⟩ | ⟨_, ⟨empty, _⟩ | ⟨outcome, calls, sent⟩ |
    ⟨calls, closed⟩⟩
  · exact elapsed empty
  · exact elapsed empty
  · rw [sent, calls]
    cases outcome with
    | ok value => rfl
    | error error => rfl
  · rw [closed, calls]
    rfl

/-- A coroutine on the pool settles in a dispatch as it did on the two threads. -/
theorem AsyncioPool.settles_submitted (pool : AsyncioPool timeout) (script : Script)
    (coroutine : PyValue) (bounded : script.coroutineTimeout = timeout)
    (taken : pool.asyncio.submit = .ok ()) :
    ∃ started, submitCoroutine (script.onPool pool.asyncio) coroutine bindOutcome = .ok started ∧
      (pool.run coroutine).final.settled = some started.settle := by
  have settles := (pool.run coroutine).loopRun.settles_submitted bindOutcome timeout
    (script.onPool pool.asyncio) coroutine taken rfl bounded
  rw [(pool.run coroutine).settled_eq]
  cases submitted : submitCoroutine (script.onPool pool.asyncio) coroutine bindOutcome with
  | error error =>
    rw [submitted] at settles
    cases settles
  | ok started =>
    rw [submitted] at settles
    exact ⟨started, rfl, congrArg some (Except.ok.inj settles).symm⟩

/-- Every run of the two threads goes on to one in which the task has its result. -/
theorem PoolRun.exists_of_foldlM (name : String) (begun : Instant) (events : List HandlerEvent)
    (state : HandlerRun BindOutcome)
    (ran : events.foldlM (HandlerRun.step bindOutcome name timeout) (.new BindOutcome begun) =
      some state) :
    ∃ run : PoolRun timeout, run.name = name ∧ run.begun = begun ∧ events <+: run.events := by
  cases settled : state.settled with
  | some result =>
    exact ⟨⟨name, begun, events, state, ran, by rw [settled]; rfl⟩, rfl, rfl, List.prefix_refl _⟩
  | none =>
    -- the task gives up when nothing else has settled the event
    let late : Instant := max state.clock (state.begun + (timeout + settleBackstop : Nat))
    let waited := { state with clock := late }
    have ticked : state.step bindOutcome name timeout (.tick late) = some waited :=
      if_pos (le_max_left _ _)
    have polled : waited.step bindOutcome name timeout .poll =
        some { waited with settled := waited.poll timeout } := by
      have waiting : waited.settled = none := settled
      rw [HandlerRun.step, waiting]
    have due : (waited.poll timeout).isSome = true := by
      rw [HandlerRun.poll]
      split
      · rfl
      · rfl
      · rw [if_pos (le_max_right _ _)]
        rfl
    refine ⟨⟨name, begun, events ++ [.tick late, .poll],
      { waited with settled := waited.poll timeout }, ?_, due⟩, rfl, rfl, List.prefix_append _ _⟩
    rw [List.foldlM_append, ran]
    show (state.step bindOutcome name timeout (.tick late)).bind _ = _
    rw [ticked]
    show (waited.step bindOutcome name timeout .poll).bind _ = _
    rw [polled]
    rfl

end Pool

/-! ### Who accepts a bind -/

section Bind

variable (script : Script) (pool : AsyncioPool script.coroutineTimeout) (source : HandlerSource)
  (bind : Bind)

/-- What `dispatch::bind` returns in a run. -/
def Dispatch.boundOn : BindOutcome := Dispatch.bind (script.onPool pool.asyncio) source bind

/-- The coroutine of an async handler is on the pool. -/
structure OnPool (handler : RegisteredHandler) (coroutine : PyValue) : Prop where
  isAsync : handler.isAsync = true
  built : script.arguments (.bind bind) = .ok ()
  called : script.call handler (.bind bind) = .ok coroutine
  submitted : pool.asyncio.submit = .ok ()

/-- A handler completed with a value: a sync one returned it; the coroutine of an async one
returned it within its timeout, and the waiting task was told. -/
inductive CompletesInTime (handler : RegisteredHandler) (value : PyValue) : Prop
  | sync (isSync : handler.isAsync = false) (built : script.arguments (.bind bind) = .ok ())
    (called : script.call handler (.bind bind) = .ok value)
  | async (coroutine : PyValue) (taken : OnPool script pool bind handler coroutine)
    (entered left : Instant)
    (returned : (pool.run coroutine).scopeLeft = some ⟨.returned value, entered, left, true⟩)
    (inTime : left ≤ entered + script.coroutineTimeout)

/-- A handler chose the status itself: what it returned and the waiting side was told is a
`BindResult` with that status. -/
inductive ChoseStatus (handler : RegisteredHandler) (status : SmppError) : Prop
  | sync (result : ScriptBindResult) (isSync : handler.isAsync = false)
    (called : script.call handler (.bind bind) = .ok (.bindResult result))
    (chosen : status = result.1.status)
  | async (result : ScriptBindResult) (coroutine : PyValue)
    (taken : OnPool script pool bind handler coroutine) (entered left : Instant)
    (returned : (pool.run coroutine).scopeLeft =
      some ⟨.returned (.bindResult result), entered, left, true⟩)
    (chosen : status = result.1.status)

/-- Authorisation is closed by default: a bind is accepted exactly when the executor ran the job,
a handler is registered, and the first one completed in time with a value that accepts; any other
run rejects with a status other than `ESME_ROK`, unless the handler chose the status. -/
structure ClosedByDefault : Prop where
  accepts : (Dispatch.boundOn script pool source bind).accept = true ↔
    script.tryRun = .ok () ∧ ∃ handler rest, source .onBind = handler :: rest ∧
      ∃ value, CompletesInTime script pool bind handler value ∧ value.Authorises
  rejects : (Dispatch.boundOn script pool source bind).accept = false →
    (Dispatch.boundOn script pool source bind).status ≠ .esmeRok ∨
      ∃ handler rest, source .onBind = handler :: rest ∧ ChoseStatus script pool bind handler
        (Dispatch.boundOn script pool source bind).status

/-- The first handler overruns its timeout and still accepts: its coroutine returns a value that
accepts when the timeout has passed and the waiting task has not given up. -/
def OverrunsAccepting : Prop :=
  script.tryRun = .ok () ∧ ∃ handler rest, source .onBind = handler :: rest ∧
    ∃ coroutine value entered left, OnPool script pool bind handler coroutine ∧
      (pool.run coroutine).scopeLeft = some ⟨.returned value, entered, left, true⟩ ∧
      entered + script.coroutineTimeout < left ∧ value.Authorises

variable {script pool source bind}

/-- A handler completes, in time or not, as the run of its coroutine says. -/
theorem completes_iff {handler : RegisteredHandler} {value : PyValue} :
    Completes script pool.asyncio handler (.bind bind) value ↔
      (handler.isAsync = false ∧ script.arguments (.bind bind) = .ok () ∧
        script.call handler (.bind bind) = .ok value) ∨
      ∃ coroutine entered left, OnPool script pool bind handler coroutine ∧
        (pool.run coroutine).scopeLeft = some ⟨.returned value, entered, left, true⟩ := by
  constructor
  · rintro ⟨built, returned, called, ⟨isSync, rfl⟩ | ⟨isAsync, submitted, inTime, reported⟩⟩
    · exact Or.inl ⟨isSync, built, called⟩
    · obtain ⟨entered, left, same⟩ :=
        ((pool.run returned).reported_iff value).mp ⟨inTime, reported⟩
      exact Or.inr ⟨returned, entered, left, ⟨isAsync, built, called, submitted⟩, same⟩
  · rintro (⟨isSync, built, called⟩ | ⟨coroutine, entered, left, taken, same⟩)
    · exact ⟨built, value, called, Or.inl ⟨isSync, rfl⟩⟩
    · obtain ⟨inTime, reported⟩ :=
        ((pool.run coroutine).reported_iff value).mpr ⟨entered, left, same⟩
      exact ⟨taken.built, coroutine, taken.called,
        Or.inr ⟨taken.isAsync, taken.submitted, inTime, reported⟩⟩

theorem CompletesInTime.completes {handler : RegisteredHandler} {value : PyValue}
    (inTime : CompletesInTime script pool bind handler value) :
    Completes script pool.asyncio handler (.bind bind) value := by
  cases inTime with
  | sync isSync built called => exact completes_iff.mpr (Or.inl ⟨isSync, built, called⟩)
  | async coroutine taken entered left returned =>
    exact completes_iff.mpr (Or.inr ⟨coroutine, entered, left, taken, returned⟩)

/-- A handler that did not complete in time returned when its timeout had passed. -/
theorem Completes.inTime_or_late {handler : RegisteredHandler} {value : PyValue}
    (completes : Completes script pool.asyncio handler (.bind bind) value) :
    CompletesInTime script pool bind handler value ∨
      ∃ coroutine entered left, OnPool script pool bind handler coroutine ∧
        (pool.run coroutine).scopeLeft = some ⟨.returned value, entered, left, true⟩ ∧
        entered + script.coroutineTimeout < left := by
  rcases completes_iff.mp completes with ⟨isSync, built, called⟩ | ⟨coroutine, entered, left, taken,
    returned⟩
  · exact Or.inl (.sync isSync built called)
  · rcases le_or_gt left (entered + script.coroutineTimeout) with early | late
    · exact Or.inl (.async coroutine taken entered left returned early)
    · exact Or.inr ⟨coroutine, entered, left, taken, returned, late⟩

/-- A coroutine leaves its scope once, so it cannot have returned both in time and late. -/
theorem CompletesInTime.not_late {handler : RegisteredHandler} {coroutine value other : PyValue}
    {entered left : Instant} (inTime : CompletesInTime script pool bind handler value)
    (taken : OnPool script pool bind handler coroutine)
    (returned : (pool.run coroutine).scopeLeft = some ⟨.returned other, entered, left, true⟩) :
    left ≤ entered + script.coroutineTimeout := by
  cases inTime with
  | sync isSync => exact absurd (taken.isAsync.symm.trans isSync) nofun
  | async same takenToo since leftToo returnedToo early =>
    cases taken.called.symm.trans takenToo.called
    cases returned.symm.trans returnedToo
    exact early

theorem Completes.choseStatus {handler : RegisteredHandler} {result : ScriptBindResult}
    {status : SmppError}
    (completes : Completes script pool.asyncio handler (.bind bind) (.bindResult result))
    (chosen : status = result.1.status) : ChoseStatus script pool bind handler status := by
  rcases completes_iff.mp completes with ⟨isSync, _, called⟩ | ⟨coroutine, entered, left, taken,
    returned⟩
  · exact .sync result isSync called chosen
  · exact .async result coroutine taken entered left returned chosen

variable (script pool source bind)

/-- Authorisation is closed by default exactly when the first handler does not overrun its timeout
and accept the bind afterwards, while the waiting task is still there to be told. -/
theorem bind_closed_by_default_iff :
    ClosedByDefault script pool source bind ↔ ¬ OverrunsAccepting script pool source bind := by
  obtain ⟨accepted, rejected⟩ := bind_accepted_iff script pool.asyncio source bind
  constructor
  · rintro ⟨accepts, _⟩ ⟨ran, handler, rest, registered, coroutine, value, entered, left, taken,
      returned, late, authorises⟩
    have completes := completes_iff.mpr (Or.inr ⟨coroutine, entered, left, taken, returned⟩)
    obtain ⟨_, other, others, same, given, inTime, _⟩ :=
      accepts.mp (accepted.mpr ⟨ran, handler, rest, registered, value, completes, authorises⟩)
    cases registered.symm.trans same
    exact absurd late (not_lt.mpr (inTime.not_late taken returned))
  · intro never
    refine ⟨accepted.trans ⟨?_, ?_⟩, fun refused => ?_⟩
    · rintro ⟨ran, handler, rest, registered, value, completes, authorises⟩
      refine ⟨ran, handler, rest, registered, value, ?_, authorises⟩
      refine completes.inTime_or_late.resolve_right ?_
      rintro ⟨coroutine, entered, left, taken, returned, late⟩
      exact never ⟨ran, handler, rest, registered, coroutine, value, entered, left, taken, returned,
        late, authorises⟩
    · rintro ⟨ran, handler, rest, registered, value, inTime, authorises⟩
      exact ⟨ran, handler, rest, registered, value, inTime.completes, authorises⟩
    · refine (rejected refused).imp_right ?_
      rintro ⟨handler, rest, result, registered, completes, chosen⟩
      exact ⟨handler, rest, registered, completes.choseStatus chosen⟩

end Bind

/-- A coroutine that catches its cancellation at the timeout of one second, and returns `True` a
second later. -/
def overrunEvents : List HandlerEvent :=
  [.start, .tick 1, .expire, .tick 2, .exit (.returned (.object (.ok true))), .poll]

/-- The wrapper in its scope, entered at zero, with the clock and whether the scope has expired. -/
def overrunAwaiting (clock : Instant) (expired : Bool) : HandlerRun BindOutcome :=
  ⟨.awaiting 0 expired, true, [], .empty, none, 0, clock⟩

def overrunFinal : HandlerRun BindOutcome :=
  ⟨.ended false, false, [.ok (.object (.ok true))], .sent (.ok ⟨true, .esmeRok, ""⟩),
    some (.ok ⟨true, .esmeRok, ""⟩), 0, 2⟩

/-- One step after the other of the overrun. -/
theorem overrun_steps :
    (HandlerRun.new BindOutcome 0).step bindOutcome "authorise" 1 .start =
      some (overrunAwaiting 0 false) ∧
    (overrunAwaiting 0 false).step bindOutcome "authorise" 1 (.tick 1) =
      some (overrunAwaiting 1 false) ∧
    (overrunAwaiting 1 false).step bindOutcome "authorise" 1 .expire =
      some (overrunAwaiting 1 true) ∧
    (overrunAwaiting 1 true).step bindOutcome "authorise" 1 (.tick 2) =
      some (overrunAwaiting 2 true) := by
  refine ⟨rfl, ?_, ?_, ?_⟩
  · rw [HandlerRun.step, if_pos (by decide +kernel)]
    rfl
  · rw [HandlerRun.step]
    exact if_pos (by decide +kernel)
  · rw [HandlerRun.step, if_pos (by decide +kernel)]
    rfl

def overrunRun : PoolRun 1 where
  name := "authorise"
  begun := 0
  events := overrunEvents
  final := overrunFinal
  ran := by
    obtain ⟨start, first, expired, second⟩ := overrun_steps
    simp only [overrunEvents, List.foldlM_cons, start, first, expired, second,
      Option.bind_eq_bind, Option.bind_some]
    rfl
  settled := rfl

theorem overrunRun_scopeLeft :
    overrunRun.scopeLeft = some ⟨.returned (.object (.ok true)), 0, 2, true⟩ := by
  obtain ⟨start, first, expired, second⟩ := overrun_steps
  simp only [PoolRun.scopeLeft, overrunRun, overrunEvents, HandlerRun.scopeLeft, HandlerRun.leaves,
    start, first, expired, second, Option.bind_some, Option.none_or]
  rfl

def overrunPool : AsyncioPool 1 := ⟨true, .ok (), .ok (), .ok (), fun _ => overrunRun⟩

def overrunScript : Script where
  tryRun := .ok ()
  arguments _ := .ok ()
  call _ _ := .ok (.coroutine 1)
  submit := .ok ()
  awaited _ := .dropped
  coroutineTimeout := 1

def overrunSource : HandlerSource
  | .onBind => [⟨0, true, none⟩]
  | _ => []

/-- The bind of a handler that overran its timeout is accepted. -/
theorem bind_accepted_after_timeout :
    let bind : Bind := ⟨"peer", "secret", "192.0.2.9:40000"⟩
    (overrunPool.run (.coroutine 1)).scopeLeft =
      some ⟨.returned (.object (.ok true)), 0, 2, true⟩ ∧
    (Dispatch.boundOn overrunScript overrunPool overrunSource bind).accept = true ∧
    ¬ ClosedByDefault overrunScript overrunPool overrunSource bind := by
  intro bind
  have left : (overrunPool.run (.coroutine 1)).scopeLeft =
      some ⟨.returned (.object (.ok true)), 0, 2, true⟩ := overrunRun_scopeLeft
  have accepted : (Dispatch.boundOn overrunScript overrunPool overrunSource bind).accept = true :=
    rfl
  refine ⟨left, accepted, fun closed => ?_⟩
  obtain ⟨_, handler, rest, registered, value, inTime, _⟩ := closed.accepts.mp accepted
  cases registered
  have taken : OnPool overrunScript overrunPool bind ⟨0, true, none⟩ (.coroutine 1) :=
    ⟨rfl, rfl, rfl, rfl⟩
  exact absurd (inTime.not_late taken left) (by decide +kernel)

end SiphonSmpp
