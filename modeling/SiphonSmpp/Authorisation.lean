/-
This file proves who decides a bind, and whose value an event is answered with.

The first section spells out the asyncio side of a dispatch: the steps that can
fail before a coroutine is on the pool, and the completion object through which
the loop reports it. A bind is accepted only by a value that the first
`@smpp.on_bind` handler completed with; every other run is a rejection. What the
timeout of a coroutine adds to this is in `BindTimeout.lean`. The second section
adds how a callable was registered. Whether a result is awaited
was decided there, by `asyncio.iscoroutinefunction`, so a callable that returns a
coroutine without being a coroutine function is answered for unheard.
-/

import SiphonSmpp.Dispatch

namespace SiphonSmpp

/-! ### The asyncio side -/

/-- What the loop does with a wrapped coroutine, in one piece: the calls it makes on the completion
object, in order, and whether the first one reaches the waiting side before it gives up. Nothing is
said here of the coroutine's own timeout, which is the wrapper's business. -/
structure LoopRun where
  reports : List (Except PyErr PyValue)
  inTime : Bool

/-- A completion object passes on the first report it is given; with none, its channel closes
when the loop drops it. -/
def LoopRun.awaited (run : LoopRun) : Awaited :=
  if run.inTime then
    match run.reports with
    | [] => .dropped
    | .ok value :: _ => .done value
    | .error error :: _ => .failed error
  else .stalled

/-- The asyncio pool during one event: whether one is installed, whether the helper
`await_handler` loads, whether it wraps the coroutine and the pool takes the wrapper, and what
becomes of each coroutine on the loop. -/
structure AsyncioRun where
  installed : Bool
  awaitHandler : Except PyErr Unit
  wrapped : Except PyErr Unit
  submitted : Except PyErr Unit
  loop : PyValue → LoopRun

/-- The steps of `submit_coroutine` that can fail, in their order. -/
def AsyncioRun.submit (run : AsyncioRun) : Except PyErr Unit := do
  if !run.installed then
    throw ⟨.runtimeError,
      "async handler with no asyncio pool installed; siphon installs one at startup"⟩
  run.awaitHandler
  run.wrapped
  run.submitted

/-- A script whose coroutines run on a given pool. -/
def Script.onPool (script : Script) (asyncio : AsyncioRun) : Script :=
  { script with
    submit := asyncio.submit
    awaited := fun value => (asyncio.loop value).awaited }

theorem LoopRun.awaited_eq_done_iff (run : LoopRun) (value : PyValue) :
    run.awaited = .done value ↔ run.inTime = true ∧ ∃ more, run.reports = .ok value :: more := by
  obtain ⟨reports, inTime⟩ := run
  cases inTime with
  | false => exact ⟨nofun, nofun⟩
  | true =>
    rcases reports with _ | ⟨error | given, more⟩
    · exact ⟨nofun, nofun⟩
    · exact ⟨nofun, nofun⟩
    · simp [LoopRun.awaited]

/-! ### What a handler completes with -/

/-- A handler is called and completes with a value: a sync one returns it; the coroutine of an
async one is taken by the pool, and the first report on it is that value, delivered before the
waiting side gave up. -/
structure Completes (script : Script) (asyncio : AsyncioRun) (handler : RegisteredHandler)
    (args : HandlerArgs) (value : PyValue) : Prop where
  built : script.arguments args = .ok ()
  called : ∃ returned, script.call handler args = .ok returned ∧
    ((handler.isAsync = false ∧ returned = value) ∨
      (handler.isAsync = true ∧ asyncio.submit = .ok () ∧ (asyncio.loop returned).inTime = true ∧
        ∃ more, (asyncio.loop returned).reports = .ok value :: more))

theorem Script.valueOf_eq_returned_iff (script : Script) (handler : RegisteredHandler)
    (args : HandlerArgs) (value : PyValue) :
    script.valueOf handler args = .returned value ↔
      ∃ returned, script.call handler args = .ok returned ∧
        ((handler.isAsync = false ∧ returned = value) ∨
          (handler.isAsync = true ∧ script.submit = .ok () ∧
            script.awaited returned = .done value)) := by
  unfold Script.valueOf
  cases script.call handler args with
  | error error => simp
  | ok returned =>
    cases handler.isAsync with
    | false => simp
    | true =>
      cases script.submit with
      | error error => simp
      | ok taken =>
        cases awaited : script.awaited returned with
        | done given => simp [awaited]
        | failed error => simp [awaited]
        | dropped => simp [awaited]
        | stalled => simp [awaited]

/-- The event of a bind question came to a value exactly when the executor ran its job and the
first registered handler completed with that value. -/
theorem handled_onBind_iff (script : Script) (asyncio : AsyncioRun) (source : HandlerSource)
    (bind : Bind) (value : PyValue) :
    handled (script.onPool asyncio) source .onBind none (.bind bind) = .returned value ↔
      script.tryRun = .ok () ∧ ∃ handler rest, source .onBind = handler :: rest ∧
        Completes script asyncio handler (.bind bind) value := by
  have first : firstMatching source .onBind none = (source .onBind).head? := by
    unfold firstMatching
    cases source .onBind with
    | nil => rfl
    | cons handler rest => rfl
  have completes : ∀ handler,
      Completes script asyncio handler (.bind bind) value ↔
        script.arguments (.bind bind) = .ok () ∧
          (script.onPool asyncio).valueOf handler (.bind bind) = .returned value := by
    intro handler
    rw [Script.valueOf_eq_returned_iff]
    simp only [Script.onPool, LoopRun.awaited_eq_done_iff]
    exact ⟨fun done => ⟨done.built, done.called⟩, fun done => ⟨done.1, done.2⟩⟩
  have pooled : (script.onPool asyncio).tryRun = script.tryRun := rfl
  have arguments : (script.onPool asyncio).arguments (.bind bind) =
      script.arguments (.bind bind) := rfl
  simp only [completes]
  unfold handled
  rw [first, pooled, arguments]
  cases script.tryRun with
  | error error => simp
  | ok ran =>
    cases source .onBind with
    | nil => simp
    | cons handler rest =>
      cases script.arguments (.bind bind) with
      | error error => simp
      | ok built => simp

/-! ### Bind authorisation is closed by default -/

/-- A value that accepts a bind: a `BindResult` that does, or a value that is neither `None` nor
a `BindResult` and whose truth test succeeds with true. -/
def PyValue.Authorises (value : PyValue) : Prop :=
  (∃ result, value = .bindResult result ∧ result.1.accept = true) ∨
    (value ≠ .none ∧ (∀ result, value ≠ .bindResult result) ∧ value.isTruthy = .ok true)

theorem bindOutcome_accept_iff (value : PyValue) :
    (bindOutcome value).accept = true ↔ value.Authorises := by
  unfold PyValue.Authorises
  cases value with
  | none => simp [bindOutcome, BindOutcome.reject]
  | bindResult result => simp [bindOutcome]
  | pduReply reply => simp [bindOutcome, PyValue.isTruthy]
  | coroutine identity => simp [bindOutcome, PyValue.isTruthy]
  | object truth =>
    rcases truth with error | (_ | _)
    · simp [bindOutcome, PyValue.isTruthy, BindOutcome.reject]
    · simp [bindOutcome, PyValue.isTruthy, BindOutcome.reject]
    · simp [bindOutcome, PyValue.isTruthy]

/-- A value that does not accept rejects with `ESME_RBINDFAIL`, or with the status a
`BindResult` chose. -/
theorem bindOutcome_rejected (value : PyValue) (rejected : (bindOutcome value).accept = false) :
    (bindOutcome value).status ≠ .esmeRok ∨
      ∃ result, value = .bindResult result ∧ (bindOutcome value).status = result.1.status := by
  cases value with
  | none => exact Or.inl (by decide)
  | bindResult result => exact Or.inr ⟨result, rfl, rfl⟩
  | pduReply reply => cases rejected
  | coroutine identity => cases rejected
  | object truth =>
    rcases truth with error | (_ | _)
    · exact Or.inl nofun
    · exact Or.inl nofun
    · cases rejected

/-- A bind is accepted exactly when the executor ran the job, a handler is registered, and the
first one completed with a value that accepts; every other run is a rejection, with a status
other than `ESME_ROK` unless the handler itself chose the status. -/
theorem bind_accepted_iff (script : Script) (asyncio : AsyncioRun) (source : HandlerSource)
    (bind : Bind) :
    let outcome := Dispatch.bind (script.onPool asyncio) source bind
    (outcome.accept = true ↔
      script.tryRun = .ok () ∧ ∃ handler rest, source .onBind = handler :: rest ∧
        ∃ value, Completes script asyncio handler (.bind bind) value ∧ value.Authorises) ∧
    (outcome.accept = false → outcome.status ≠ .esmeRok ∨
      ∃ handler rest result, source .onBind = handler :: rest ∧
        Completes script asyncio handler (.bind bind) (.bindResult result) ∧
        outcome.status = result.1.status) := by
  intro outcome
  have completed := handled_onBind_iff script asyncio source bind
  by_cases answered : ∃ value,
      handled (script.onPool asyncio) source .onBind none (.bind bind) = .returned value
  · obtain ⟨value, returned⟩ := answered
    have decided : outcome = bindOutcome value :=
      Dispatch.bind_of_returned _ source bind value returned
    obtain ⟨ran, handler, rest, registered, completes⟩ := (completed value).mp returned
    rw [decided]
    refine ⟨?_, fun rejected => ?_⟩
    · rw [bindOutcome_accept_iff]
      refine ⟨fun authorises => ⟨ran, handler, rest, registered, value, completes, authorises⟩, ?_⟩
      rintro ⟨_, other, others, same, given, completesOther, authorises⟩
      have again := (completed given).mpr ⟨ran, other, others, same, completesOther⟩
      rw [returned] at again
      rwa [Handled.returned.inj again]
    · refine (bindOutcome_rejected value rejected).imp id ?_
      rintro ⟨result, rfl, status⟩
      exact ⟨handler, rest, result, registered, completes, status⟩
  · obtain ⟨reason, rejected⟩ := Dispatch.bind_of_not_returned (script.onPool asyncio) source bind
      fun value returned => answered ⟨value, returned⟩
    have decided : outcome = .reject reason := rejected
    rw [decided]
    refine ⟨⟨nofun, ?_⟩, fun _ => Or.inl (by simp [BindOutcome.reject])⟩
    rintro ⟨ran, handler, rest, registered, value, completes, _⟩
    exact absurd ⟨value, (completed value).mpr ⟨ran, handler, rest, registered, completes⟩⟩ answered

/-! ### How a callable was registered -/

/-- The callables a script can decorate. -/
inductive CallableKind where
  | function
  | asyncFunction
  | asyncCallObject
  | syncWrapper
  deriving DecidableEq, Repr

/-- `asyncio.iscoroutinefunction`: true of an `async def` function, not of an object whose
`__call__` is one, nor of a function that returns the coroutine of another. -/
def CallableKind.isCoroutineFunction : CallableKind → Bool
  | .asyncFunction => true
  | _ => false

structure PyCallable where
  identity : Nat
  kind : CallableKind
  deriving DecidableEq, Repr

/-- `_register`: the handler stored for a callable, with whether it is a coroutine function
worked out once. -/
def register (callable : PyCallable) (key : Option String) : RegisteredHandler :=
  ⟨callable.identity, callable.kind.isCoroutineFunction, key⟩

/-- The callables decorated with `@smpp.on_bind`, `@smpp.on_pdu(command)` and
`@smpp.on_session(event)`, in order. -/
structure Registrations where
  onBind : List PyCallable
  onPdu : List (String × PyCallable)
  onSession : List (String × PyCallable)

def Registrations.source (registrations : Registrations) : HandlerSource
  | .onBind => registrations.onBind.map fun callable => register callable none
  | .onPdu => registrations.onPdu.map fun entry => register entry.2 (some entry.1)
  | .onSession => registrations.onSession.map fun entry => register entry.2 (some entry.1)

/-- The callable an event of a kind and key is for. -/
def Registrations.callable (registrations : Registrations) : HandlerKind → Option String →
    Option PyCallable
  | .onBind, _ => registrations.onBind.head?
  | .onPdu, key => (registrations.onPdu.find? fun entry => some entry.1 == key).map Prod.snd
  | .onSession, key => (registrations.onSession.find? fun entry => some entry.1 == key).map Prod.snd

theorem Registrations.firstMatching_onBind (registrations : Registrations) :
    firstMatching registrations.source .onBind none =
      (registrations.callable .onBind none).map fun callable => register callable none := by
  unfold firstMatching
  show (registrations.onBind.map fun callable => register callable none).find? (fun _ => true) = _
  rw [Registrations.callable]
  cases registrations.onBind with
  | nil => rfl
  | cons callable rest => rfl

theorem Registrations.firstMatching_onPdu (registrations : Registrations) (command : String) :
    firstMatching registrations.source .onPdu (some command) =
      (registrations.callable .onPdu (some command)).map fun callable =>
        register callable (some command) := by
  unfold firstMatching
  show (registrations.onPdu.map fun entry => register entry.2 (some entry.1)).find?
    (fun handler => handler.key == some command) = _
  rw [Registrations.callable, List.find?_map]
  show (registrations.onPdu.find? fun entry => some entry.1 == some command).map _ = _
  cases found : registrations.onPdu.find? fun entry => some entry.1 == some command with
  | none => rfl
  | some entry =>
    have named : entry.1 = command := by simpa using List.find?_some found
    rw [← named]
    rfl

/-! ### Whose value an event is answered with -/

/-- The job of an event handed the coroutine to the asyncio pool, and awaiting it gave a
value. -/
def AwaitedTo (script : Script) (source : HandlerSource) (kind : HandlerKind)
    (key : Option String) (args : HandlerArgs) (coroutine : Nat) (value : PyValue) : Prop :=
  script.awaited (.coroutine coroutine) = .done value ∧
    ∃ timeout, startEvent script source kind key args id =
      .ok (some (.pending (.delivered (.ok value)) timeout))

/-- An event is put to a callable, and calling it yields a coroutine. -/
structure YieldsCoroutine (script : Script) (registrations : Registrations) (kind : HandlerKind)
    (key : Option String) (args : HandlerArgs) (callable : PyCallable) (coroutine : Nat) :
    Prop where
  ran : script.tryRun = .ok ()
  first : registrations.callable kind key = some callable
  built : script.arguments args = .ok ()
  called : script.call (register callable key) args = .ok (.coroutine coroutine)

section Coroutines

variable {Result : Type} (script : Script) (source : HandlerSource) (kind : HandlerKind)
  (key : Option String) (args : HandlerArgs) (handler : RegisteredHandler) (coroutine : Nat)
  (convert : PyValue → Result)

/-- The coroutine of a coroutine function goes to the pool, any other one is taken for the
result. -/
theorem invoke_coroutine (called : script.call handler args = .ok (.coroutine coroutine)) :
    invoke script handler args convert =
      if handler.isAsync then
        match submitCoroutine script (.coroutine coroutine) convert with
        | .ok started => started
        | .error error => .done (.error (.fromPython error))
      else .done (.ok (convert (.coroutine coroutine))) := by
  unfold invoke
  rw [called]
  cases handler.isAsync <;> rfl

theorem startEvent_eq_invoke (ran : script.tryRun = .ok ())
    (first : firstMatching source kind key = some handler)
    (built : script.arguments args = .ok ()) :
    startEvent script source kind key args convert =
      .ok (some (invoke script handler args convert)) := by
  unfold startEvent
  rw [ran, first, built]
  rfl

/-- A result that comes from a coroutine on the pool is the converted value it was awaited
to. -/
theorem submitCoroutine_settled (started : Started Result) (result : Result)
    (submitted : submitCoroutine script (.coroutine coroutine) convert = .ok started)
    (settled : started.settle = .ok result) :
    ∃ value, script.awaited (.coroutine coroutine) = .done value ∧ result = convert value ∧
      submitCoroutine script (.coroutine coroutine) id =
        .ok (.pending (.delivered (.ok value)) script.coroutineTimeout) := by
  unfold submitCoroutine at submitted ⊢
  cases taken : script.submit with
  | error error =>
    rw [taken] at submitted
    cases submitted
  | ok done =>
    rw [taken] at submitted
    cases awaited : script.awaited (.coroutine coroutine) with
    | done value =>
      rw [awaited] at submitted
      cases submitted
      cases settled
      exact ⟨value, rfl, rfl, rfl⟩
    | failed error =>
      rw [awaited] at submitted
      cases submitted
      cases settled
    | dropped =>
      rw [awaited] at submitted
      cases submitted
      cases settled
    | stalled =>
      rw [awaited] at submitted
      cases submitted
      cases settled

/-- With a coroutine function, a result comes from the awaited value only. -/
theorem awaitedTo_of_settled (ran : script.tryRun = .ok ())
    (first : firstMatching source kind key = some handler)
    (built : script.arguments args = .ok ())
    (called : script.call handler args = .ok (.coroutine coroutine))
    (isAsync : handler.isAsync = true) (result : Result)
    (settled : (invoke script handler args convert).settle = .ok result) :
    ∃ value, AwaitedTo script source kind key args coroutine value ∧ result = convert value := by
  have begun := startEvent_eq_invoke script source kind key args handler id ran first built
  rw [invoke_coroutine script args handler coroutine id called, if_pos isAsync] at begun
  rw [invoke_coroutine script args handler coroutine convert called, if_pos isAsync] at settled
  cases submitted : submitCoroutine script (.coroutine coroutine) convert with
  | error error =>
    rw [submitted] at settled
    cases settled
  | ok started =>
    rw [submitted] at settled
    obtain ⟨value, awaited, same, again⟩ :=
      submitCoroutine_settled script coroutine convert started result submitted settled
    rw [again] at begun
    exact ⟨value, ⟨awaited, _, begun⟩, same⟩

/-- Any other callable has its coroutine taken for the result, and nothing is awaited. -/
theorem not_awaitedTo_of_sync (ran : script.tryRun = .ok ())
    (first : firstMatching source kind key = some handler)
    (built : script.arguments args = .ok ())
    (called : script.call handler args = .ok (.coroutine coroutine))
    (isSync : handler.isAsync = false) (value : PyValue) :
    ¬ AwaitedTo script source kind key args coroutine value := by
  rintro ⟨_, timeout, begun⟩
  rw [startEvent_eq_invoke script source kind key args handler id ran first built,
    invoke_coroutine script args handler coroutine id called, isSync,
    if_neg Bool.false_ne_true] at begun
  cases begun

end Coroutines

section Answers

variable (script : Script) (registrations : Registrations) (callable : PyCallable)
  (coroutine : Nat)

variable {script registrations callable coroutine}

theorem accepted_from_awaited_iff {bind : Bind}
    (yields : YieldsCoroutine script registrations .onBind none (.bind bind) callable coroutine) :
    ((Dispatch.bind script registrations.source bind).accept = true → ∃ value,
        AwaitedTo script registrations.source .onBind none (.bind bind) coroutine value ∧
        Dispatch.bind script registrations.source bind = bindOutcome value) ↔
      callable.kind.isCoroutineFunction = true := by
  obtain ⟨ran, first, built, called⟩ := yields
  have found : firstMatching registrations.source .onBind none =
      some (register callable none) := by
    rw [registrations.firstMatching_onBind, first]
    rfl
  have begun := startEvent_eq_invoke script registrations.source .onBind none (.bind bind)
    (register callable none) bindOutcome ran found built
  constructor
  · intro fromAwaited
    by_contra notCoroutine
    have isSync : (register callable none).isAsync = false := Bool.eq_false_iff.mpr notCoroutine
    have accepted : (Dispatch.bind script registrations.source bind).accept = true := by
      unfold Dispatch.bind
      rw [begun, invoke_coroutine script _ _ coroutine bindOutcome called, isSync,
        if_neg Bool.false_ne_true]
      rfl
    obtain ⟨value, awaited, _⟩ := fromAwaited accepted
    exact not_awaitedTo_of_sync script _ _ _ _ _ coroutine ran found built called isSync value
      awaited
  · intro isCoroutine accepted
    unfold Dispatch.bind at accepted ⊢
    rw [begun] at accepted ⊢
    dsimp only at accepted ⊢
    cases settled : (invoke script (register callable none) (.bind bind) bindOutcome).settle with
    | error error =>
      rw [settled] at accepted
      cases accepted
    | ok outcome =>
      exact awaitedTo_of_settled script _ _ _ _ _ coroutine bindOutcome ran found built called
        isCoroutine outcome settled

theorem replied_from_awaited_iff {command : String} {pdu : Pdu} {session : Session}
    (yields : YieldsCoroutine script registrations .onPdu (some command) (.pdu pdu session)
      callable coroutine) :
    (∀ reply, Dispatch.pdu script registrations.source command pdu session = some (.ok reply) →
        reply.commandStatus = .esmeRok → ∃ value,
        AwaitedTo script registrations.source .onPdu (some command) (.pdu pdu session) coroutine
          value ∧ reply = pduReply value) ↔
      callable.kind.isCoroutineFunction = true := by
  obtain ⟨ran, first, built, called⟩ := yields
  have found : firstMatching registrations.source .onPdu (some command) =
      some (register callable (some command)) := by
    rw [registrations.firstMatching_onPdu, first]
    rfl
  have begun := startEvent_eq_invoke script registrations.source .onPdu (some command)
    (.pdu pdu session) (register callable (some command)) pduReply ran found built
  have answered : Dispatch.pdu script registrations.source command pdu session =
      some (invoke script (register callable (some command)) (.pdu pdu session)
        pduReply).settle := by
    unfold Dispatch.pdu
    rw [begun]
  rw [answered]
  constructor
  · intro fromAwaited
    by_contra notCoroutine
    have isSync : (register callable (some command)).isAsync = false :=
      Bool.eq_false_iff.mpr notCoroutine
    rw [invoke_coroutine script _ _ coroutine pduReply called, isSync,
      if_neg Bool.false_ne_true] at fromAwaited
    obtain ⟨value, awaited, _⟩ := fromAwaited _ rfl rfl
    exact not_awaitedTo_of_sync script _ _ _ _ _ coroutine ran found built called isSync value
      awaited
  · intro isCoroutine reply settled _
    exact awaitedTo_of_settled script _ _ _ _ _ coroutine pduReply ran found built called
      isCoroutine reply (Option.some.inj settled)

variable (script registrations callable coroutine)

/-- When calling a registered callable yields a coroutine, a bind is accepted, and a PDU answered
with `ESME_ROK`, only from the value that the coroutine was awaited to, exactly if the callable
is a coroutine function. -/
theorem answered_from_awaited_iff :
    (∀ bind, YieldsCoroutine script registrations .onBind none (.bind bind) callable coroutine →
      (((Dispatch.bind script registrations.source bind).accept = true → ∃ value,
          AwaitedTo script registrations.source .onBind none (.bind bind) coroutine value ∧
          Dispatch.bind script registrations.source bind = bindOutcome value) ↔
        callable.kind.isCoroutineFunction = true)) ∧
    (∀ command pdu session,
      YieldsCoroutine script registrations .onPdu (some command) (.pdu pdu session) callable
        coroutine →
      ((∀ reply, Dispatch.pdu script registrations.source command pdu session = some (.ok reply) →
          reply.commandStatus = .esmeRok → ∃ value,
          AwaitedTo script registrations.source .onPdu (some command) (.pdu pdu session) coroutine
            value ∧ reply = pduReply value) ↔
        callable.kind.isCoroutineFunction = true)) := by
  constructor
  · intro bind yields
    exact accepted_from_awaited_iff yields
  · intro command pdu session yields
    exact replied_from_awaited_iff yields

end Answers

/-- A script whose callables all yield one coroutine, which the pool awaits to a value. -/
def yieldingScript (value : PyValue) : Script where
  tryRun := .ok ()
  arguments _ := .ok ()
  call _ _ := .ok (.coroutine 1)
  submit := .ok ()
  awaited _ := .done value
  coroutineTimeout := 30

/-- An `async def` handler that returns `None` is heard, and its bind refused. -/
theorem answered_from_awaited_async :
    let script := yieldingScript .none
    let registrations : Registrations := ⟨[⟨0, .asyncFunction⟩], [], []⟩
    let bind : Bind := ⟨"peer", "secret", "192.0.2.9:40000"⟩
    YieldsCoroutine script registrations .onBind none (.bind bind) ⟨0, .asyncFunction⟩ 1 ∧
    ((Dispatch.bind script registrations.source bind).accept = true → ∃ value,
      AwaitedTo script registrations.source .onBind none (.bind bind) 1 value ∧
      Dispatch.bind script registrations.source bind = bindOutcome value) :=
  have yields : YieldsCoroutine (yieldingScript .none) ⟨[⟨0, .asyncFunction⟩], [], []⟩ .onBind none
      (.bind ⟨"peer", "secret", "192.0.2.9:40000"⟩) ⟨0, .asyncFunction⟩ 1 := ⟨rfl, rfl, rfl, rfl⟩
  ⟨yields, ((answered_from_awaited_iff _ _ _ _).1 _ yields).mpr rfl⟩

/-- An object with an async `__call__` is asked about a bind and would return `None`, which
refuses it: the bind is accepted, and nothing was awaited. -/
theorem answered_from_unawaited :
    let script := yieldingScript .none
    let registrations : Registrations := ⟨[⟨0, .asyncCallObject⟩], [], []⟩
    let bind : Bind := ⟨"peer", "secret", "192.0.2.9:40000"⟩
    YieldsCoroutine script registrations .onBind none (.bind bind) ⟨0, .asyncCallObject⟩ 1 ∧
    (Dispatch.bind script registrations.source bind).accept = true ∧
    (bindOutcome .none).accept = false ∧
    ¬ ∃ value, AwaitedTo script registrations.source .onBind none (.bind bind) 1 value := by
  refine ⟨⟨rfl, rfl, rfl, rfl⟩, rfl, rfl, ?_⟩
  rintro ⟨value, awaited⟩
  exact not_awaitedTo_of_sync _ _ _ _ _ (register ⟨0, .asyncCallObject⟩ none) 1 rfl rfl rfl rfl rfl
    value awaited

end SiphonSmpp
