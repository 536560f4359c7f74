/-
This file models the dispatch of an event to the script (`src/dispatch.rs`):
one executor job looks the handler up, builds its arguments and calls it; a
coroutine is handed to the asyncio pool and its result awaited.

How Python behaves during one event is an input, `Script`: whether the executor
ran the job, what calling a handler gives, whether the pool took a coroutine and
what awaiting it came to. `handled` says what became of the event's handler
without the plumbing between the threads, and `startEvent_settled` connects the
two: the value a caller ends up with is the converted value of the handler that
was found first, or an error on every path on which there is no such value.
-/

import SiphonSmpp.Pdu

namespace SiphonSmpp

/-! ### Handlers and the script -/

/-- What calling or awaiting a handler can give. An object of any other class has a truth
test, which may raise. -/
inductive PyValue where
  | none
  | pduReply (reply : PduReply)
  | bindResult (result : ScriptBindResult)
  | coroutine (identity : Nat)
  | object (truth : Except PyErr Bool)

/-- `PyAny::is_truthy`. Python tests a `BindResult` with its own `__bool__`. -/
def PyValue.isTruthy : PyValue → Except PyErr Bool
  | .none => .ok false
  | .pduReply _ => .ok true
  | .bindResult result => .ok result.1.accept
  | .coroutine _ => .ok true
  | .object truth => truth

/-- A handler as the decorators registered it. -/
structure RegisteredHandler where
  callable : Nat
  isAsync : Bool
  key : Option String
  deriving DecidableEq, Repr

/-- The registry kinds of the three decorators. -/
inductive HandlerKind where
  | onPdu
  | onBind
  | onSession
  deriving DecidableEq, Repr

/-- The handlers registered under a kind, in registration order. -/
abbrev HandlerSource := HandlerKind → List RegisteredHandler

/-- Why a handler produced no result, already rendered to text. -/
structure DispatchError where
  message : String
  deriving DecidableEq, Repr

/-- What awaiting a value on the asyncio pool came to: the wrapper reported its result, it
reported an exception or its own timeout, the loop dropped it, or the loop was not turning
when the waiting side gave up. -/
inductive Awaited where
  | done (value : PyValue)
  | failed (error : PyErr)
  | dropped
  | stalled

/-- The arguments a handler is called with. -/
inductive HandlerArgs where
  | pdu (pdu : Pdu) (session : Session)
  | bind (bind : Bind)
  | session (session : Session)
  deriving DecidableEq, Repr

/-- How Python behaves during one event: whether the executor ran the job or shed it or it
panicked, whether the argument objects could be built, what calling a handler gives, whether
the asyncio pool took a coroutine and what awaiting it came to. -/
structure Script where
  tryRun : Except DispatchError Unit
  arguments : HandlerArgs → Except PyErr Unit
  call : RegisteredHandler → HandlerArgs → Except PyErr PyValue
  submit : Except PyErr Unit
  awaited : PyValue → Awaited
  coroutineTimeout : Nat

def PyErrKind.name : PyErrKind → String
  | .valueError => "ValueError"
  | .typeError => "TypeError"
  | .keyError => "KeyError"
  | .runtimeError => "RuntimeError"
  | .overflowError => "OverflowError"
  | .unicodeEncodeError => "UnicodeEncodeError"
  | .exception name => name

def DispatchError.fromPython (error : PyErr) : DispatchError :=
  ⟨error.kind.name ++ ": " ++ error.message⟩

/-! ### The executor job -/

/-- What the receiver of a coroutine's result sees. -/
inductive Received (Result : Type) where
  | delivered (result : Except DispatchError Result)
  | closed
  | elapsed

/-- A handler that was called, with its result or the means to wait for it. -/
inductive Started (Result : Type) where
  | done (result : Except DispatchError Result)
  | pending (receiver : Received Result) (timeout : Nat)

/-- Seconds the waiting side gives a coroutine past the pool's own timeout. -/
def settleBackstop : Nat := 5

def Started.settle {Result : Type} : Started Result → Except DispatchError Result
  | .done result => result
  | .pending (.delivered result) _ => result
  | .pending .closed _ =>
    .error ⟨"the asyncio loop dropped the handler before it settled"⟩
  | .pending .elapsed timeout =>
    .error ⟨"async handler did not settle within " ++ toString (timeout + settleBackstop) ++
      "s; its asyncio loop is not turning"⟩

/-- Hand a coroutine to the asyncio pool; its converted result arrives at the receiver. -/
def submitCoroutine {Result : Type} (script : Script) (coroutine : PyValue)
    (convert : PyValue → Result) : Except PyErr (Started Result) := do
  script.submit
  let receiver := match script.awaited coroutine with
    | .done value => .delivered (.ok (convert value))
    | .failed error => .delivered (.error (.fromPython error))
    | .dropped => .closed
    | .stalled => .elapsed
  return .pending receiver script.coroutineTimeout

/-- Call a handler. The result of a sync one is converted at once. -/
def invoke {Result : Type} (script : Script) (handler : RegisteredHandler) (args : HandlerArgs)
    (convert : PyValue → Result) : Started Result :=
  match script.call handler args with
  | .error error => .done (.error (.fromPython error))
  | .ok returned =>
    if !handler.isAsync then .done (.ok (convert returned))
    else match submitCoroutine script returned convert with
      | .ok started => started
      | .error error => .done (.error (.fromPython error))

def firstMatching (source : HandlerSource) (kind : HandlerKind) (key : Option String) :
    Option RegisteredHandler :=
  (source kind).find? fun handler => key.isNone || handler.key == key

/-- The executor job `pdu` and `bind` share: look the handler up, build the arguments, call
it. -/
def startEvent {Result : Type} (script : Script) (source : HandlerSource) (kind : HandlerKind)
    (key : Option String) (args : HandlerArgs) (convert : PyValue → Result) :
    Except DispatchError (Option (Started Result)) := do
  script.tryRun
  match firstMatching source kind key with
  | none => return none
  | some handler =>
    match script.arguments args with
    | .ok _ => return some (invoke script handler args convert)
    | .error error => return some (.done (.error (.fromPython error)))

/-! ### What became of the handler -/

/-- What became of an event's handler: none was registered, it gave a value (a coroutine
function: its coroutine did), or there is no value of it. -/
inductive Handled (Value : Type) where
  | noHandler
  | returned (value : Value)
  | failed

def Handled.map {Value Result : Type} (convert : Value → Result) : Handled Value → Handled Result
  | .noHandler => .noHandler
  | .returned value => .returned (convert value)
  | .failed => .failed

/-- The value of a handler that was called: what it returned, awaited if it is a coroutine
function. -/
def Script.valueOf (script : Script) (handler : RegisteredHandler) (args : HandlerArgs) :
    Handled PyValue :=
  match script.call handler args with
  | .error _ => .failed
  | .ok returned =>
    if !handler.isAsync then .returned returned
    else match script.submit with
      | .error _ => .failed
      | .ok _ =>
        match script.awaited returned with
        | .done value => .returned value
        | _ => .failed

/-- What became of the handler an event of a kind and key is for. -/
def handled (script : Script) (source : HandlerSource) (kind : HandlerKind)
    (key : Option String) (args : HandlerArgs) : Handled PyValue :=
  match script.tryRun with
  | .error _ => .failed
  | .ok _ =>
    match firstMatching source kind key with
    | none => .noHandler
    | some handler =>
      match script.arguments args with
      | .error _ => .failed
      | .ok _ => script.valueOf handler args

/-- What a settled result says of the handler, its error text aside. -/
def Handled.ofResult {Result : Type} : Except DispatchError Result → Handled Result
  | .ok result => .returned result
  | .error _ => .failed

/-- What a started event says of the handler once it has settled. -/
def Handled.ofStarted {Result : Type} :
    Except DispatchError (Option (Started Result)) → Handled Result
  | .error _ => .failed
  | .ok none => .noHandler
  | .ok (some started) => .ofResult started.settle

/-- A called handler settles to its converted value. -/
theorem invoke_settled {Result : Type} (script : Script) (handler : RegisteredHandler)
    (args : HandlerArgs) (convert : PyValue → Result) :
    Handled.ofResult (invoke script handler args convert).settle =
      (script.valueOf handler args).map convert := by
  unfold Script.valueOf invoke submitCoroutine
  cases script.call handler args with
  | error error => rfl
  | ok returned =>
    cases handler.isAsync with
    | false => rfl
    | true =>
      cases script.submit with
      | error error => rfl
      | ok taken =>
        dsimp only [bind, Except.bind]
        cases script.awaited returned with
        | done value => rfl
        | failed error => rfl
        | dropped => rfl
        | stalled => rfl

/-- A started event settles to what became of its handler. -/
theorem startEvent_settled {Result : Type} (script : Script) (source : HandlerSource)
    (kind : HandlerKind) (key : Option String) (args : HandlerArgs) (convert : PyValue → Result) :
    Handled.ofStarted (startEvent script source kind key args convert) =
      (handled script source kind key args).map convert := by
  unfold handled startEvent
  cases script.tryRun with
  | error error => rfl
  | ok ran =>
    cases firstMatching source kind key with
    | none => rfl
    | some handler =>
      cases script.arguments args with
      | error error => rfl
      | ok built => exact invoke_settled script handler args convert

/-! ### PDU events -/

/-- What the return value of an `@smpp.on_pdu` handler means as a reply. -/
def pduReply : PyValue → PduReply
  | .pduReply reply => reply
  | _ => PduReply.defaultOk

/-- Call the `@smpp.on_pdu(command)` handler; `none` when none is registered. -/
def Dispatch.pdu (script : Script) (source : HandlerSource) (command : String) (pdu : Pdu)
    (session : Session) : Option (Except DispatchError PduReply) :=
  match startEvent script source .onPdu (some command) (.pdu pdu session) pduReply with
  | .error error => some (.error error)
  | .ok none => none
  | .ok (some started) => some started.settle

/-- What a dispatch that may find no handler says of it. -/
def Handled.ofDispatch {Result : Type} :
    Option (Except DispatchError Result) → Handled Result
  | none => .noHandler
  | some result => .ofResult result

/-- A PDU dispatch comes to what became of the first handler of its command. -/
theorem Dispatch.pdu_handled (script : Script) (source : HandlerSource) (command : String)
    (pdu : Pdu) (session : Session) :
    Handled.ofDispatch (Dispatch.pdu script source command pdu session) =
      (handled script source .onPdu (some command) (.pdu pdu session)).map pduReply := by
  rw [← startEvent_settled, Dispatch.pdu]
  rcases startEvent script source .onPdu (some command) (.pdu pdu session) pduReply with
    error | (_ | started)
  · rfl
  · rfl
  · rfl

/-! ### Bind requests -/

structure BindOutcome where
  accept : Bool
  status : SmppError
  reason : String
  deriving DecidableEq, Repr

def BindOutcome.reject (reason : String) : BindOutcome := ⟨false, .esmeRbindfail, reason⟩

/-- What the return value of an `@smpp.on_bind` handler means. -/
def bindOutcome : PyValue → BindOutcome
  | .none => .reject "handler returned None"
  | .bindResult result => ⟨result.1.accept, result.1.status, result.1.reason⟩
  | value =>
    match value.isTruthy with
    | .ok true => ⟨true, .esmeRok, ""⟩
    | _ => .reject "handler returned a non-truthy value"

/-- Ask the `@smpp.on_bind` handler about a bind. -/
def Dispatch.bind (script : Script) (source : HandlerSource) (bind : Bind) : BindOutcome :=
  match startEvent script source .onBind none (.bind bind) bindOutcome with
  | .error error => .reject ("@smpp.on_bind did not run: " ++ error.message)
  | .ok none => .reject "no @smpp.on_bind handler registered"
  | .ok (some started) =>
    match started.settle with
    | .ok outcome => outcome
    | .error error => .reject ("@smpp.on_bind raised: " ++ error.message)

/-- A started bind question that settled with an outcome is answered with it, and any other
one with a rejection. -/
theorem Dispatch.bind_started (script : Script) (source : HandlerSource) (bind : Bind) :
    match Handled.ofStarted (startEvent script source .onBind none (.bind bind) bindOutcome) with
    | .returned outcome => Dispatch.bind script source bind = outcome
    | _ => ∃ reason, Dispatch.bind script source bind = .reject reason := by
  unfold Dispatch.bind
  rcases startEvent script source .onBind none (.bind bind) bindOutcome with error | (_ | started)
  · exact ⟨_, rfl⟩
  · exact ⟨_, rfl⟩
  · simp only [Handled.ofStarted]
    cases started.settle with
    | error error => exact ⟨_, rfl⟩
    | ok outcome => rfl

/-- A bind is decided by the value of the first `@smpp.on_bind` handler. -/
theorem Dispatch.bind_of_returned (script : Script) (source : HandlerSource) (bind : Bind)
    (value : PyValue)
    (returned : handled script source .onBind none (.bind bind) = .returned value) :
    Dispatch.bind script source bind = bindOutcome value := by
  have started := Dispatch.bind_started script source bind
  rwa [startEvent_settled, returned] at started

/-- Without such a value the outcome is a rejection with `ESME_RBINDFAIL`. -/
theorem Dispatch.bind_of_not_returned (script : Script) (source : HandlerSource) (bind : Bind)
    (silent : ∀ value, handled script source .onBind none (.bind bind) ≠ .returned value) :
    ∃ reason, Dispatch.bind script source bind = .reject reason := by
  have started := Dispatch.bind_started script source bind
  rw [startEvent_settled] at started
  cases outcome : handled script source .onBind none (.bind bind) with
  | returned value => exact absurd outcome (silent value)
  | noHandler => rwa [outcome] at started
  | failed => rwa [outcome] at started

end SiphonSmpp
