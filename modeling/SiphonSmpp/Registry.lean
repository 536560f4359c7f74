/-
This file models the session registry of the runtime (`State` in
`src/runtime.rs`): the two vectors of bound sessions, the callbacks that extend
and filter them, and the readers that search them by bind name, by session id
and by the identity of a handle.

A handle is an `Arc`. Its pointer identity is a number that is never given out
twice, which is what comparing it needs: the code only compares a handle it
still holds, and a held allocation is not reused. The bucket behind a limiter
handle is state of its own; the registry holds the handle.
-/

import Mathlib.Data.List.Basic
import SiphonSmpp.Pdu
import SiphonSmpp.RateLimiter

namespace SiphonSmpp

/-! ### Sessions -/

/-- A shared value with the identity that `Arc::ptr_eq` compares. -/
structure Arc (Value : Type) where
  ptr : Nat
  value : Value
  deriving DecidableEq, Repr

def Arc.ptrEq {Value : Type} (first second : Arc Value) : Bool := first.ptr == second.ptr

/-- The handle of an outbound session. -/
structure Smsc where
  sessionId : String
  systemId : String
  serverAddress : String
  deriving DecidableEq, Repr

/-- The handle of an inbound session. -/
structure Esme where
  sessionId : String
  systemId : String
  clientAddress : String
  canReceive : Bool
  deriving DecidableEq, Repr

/-- The handle of a rate limiter, with the rate it was created with. -/
structure LimiterHandle where
  ptr : Nat
  rate : Nat
  deriving DecidableEq, Repr

structure BindSession where
  name : String
  smsc : Arc Smsc
  throttle : Option LimiterHandle
  responseTimer : Duration
  deriving DecidableEq, Repr

structure EsmeSession where
  esme : Arc Esme
  throttle : Option LimiterHandle
  responseTimer : Duration
  deriving DecidableEq, Repr

/-- What happens to an inbound message over the cap. -/
inductive ThrottleAction where
  | pace
  | reject
  deriving DecidableEq, Repr

structure State where
  binds : List BindSession
  esmes : List EsmeSession
  inboundMaxMps : Nat
  inboundThrottleAction : ThrottleAction
  inboundResponseTimer : Duration
  nextPtr : Nat
  deriving DecidableEq, Repr

/-- The listener of one configured bind. -/
structure BindListener where
  bindName : String
  maxMsgPerSec : Nat
  responseTimer : Duration
  deriving DecidableEq, Repr

/-! ### Lifecycle callbacks -/

/-- The event of an `@smpp.on_session` dispatch. -/
inductive SessionEvent where
  | bound
  | unbound
  deriving DecidableEq, Repr

/-- A limiter for a rate, and none for the rate zero. -/
def newThrottle (rate ptr : Nat) : Option LimiterHandle :=
  if 0 < rate then some ⟨ptr, rate⟩ else none

/-- Register an inbound session; the second component is the event dispatched to the
script. -/
def State.onEsmeBound (state : State) (esme : Esme) (sessionId : String) :
    State × SessionEvent × Session :=
  let session := ⟨.esmeServer, sessionId, esme.systemId, esme.clientAddress⟩
  let throttle := newThrottle state.inboundMaxMps (state.nextPtr + 1)
  ({ state with
      esmes := state.esmes ++ [⟨⟨state.nextPtr, esme⟩, throttle, state.inboundResponseTimer⟩]
      nextPtr := state.nextPtr + 2 },
    .bound, session)

def State.onEsmeUnbound (state : State) (sessionId : String) : State × SessionEvent × Session :=
  let found := (state.esmes.find? fun entry => entry.esme.value.sessionId == sessionId).map
    fun entry => (entry.esme.value.systemId, entry.esme.value.clientAddress)
  let removed := found.getD ("", "")
  ({ state with
      esmes := state.esmes.filter fun entry => entry.esme.value.sessionId != sessionId },
    .unbound, ⟨.esmeServer, sessionId, removed.1, removed.2⟩)

/-- Register an outbound session. -/
def State.onSmscBound (state : State) (listener : BindListener) (smsc : Smsc)
    (sessionId : String) : State × SessionEvent × Session :=
  let throttle := newThrottle listener.maxMsgPerSec (state.nextPtr + 1)
  let session := ⟨.bind, sessionId, listener.bindName, smsc.serverAddress⟩
  ({ state with
      binds := state.binds ++ [⟨listener.bindName, ⟨state.nextPtr, smsc⟩, throttle,
        listener.responseTimer⟩]
      nextPtr := state.nextPtr + 2 },
    .bound, session)

/-- Remove an outbound session; an event is dispatched only when one was removed. -/
def State.onSmscUnbound (state : State) (listener : BindListener) (sessionId : String) :
    State × Option (SessionEvent × Session) :=
  let binds := state.binds.filter fun entry => entry.smsc.value.sessionId != sessionId
  let removed := binds.length < state.binds.length
  ({ state with binds := binds },
    if removed then some (.unbound, ⟨.bind, sessionId, listener.bindName, ""⟩) else none)

/-! ### Readers -/

/-- True when a handle is no longer a registered outbound session. -/
def bindGone (binds : List BindSession) (smsc : Arc Smsc) : Bool :=
  !binds.any fun entry => entry.smsc.ptrEq smsc

/-- The inbound mirror of `bindGone`. -/
def esmeGone (esmes : List EsmeSession) (esme : Arc Esme) : Bool :=
  !esmes.any fun entry => entry.esme.ptrEq esme

/-- What a send helper needs from a bound outbound session. -/
structure BindTarget where
  smsc : Arc Smsc
  throttle : Option LimiterHandle
  responseTimer : Duration
  deriving DecidableEq, Repr

def bindHandle (state : State) (bind : String) : Except PyErr BindTarget :=
  match state.binds.find? fun entry => entry.name == bind with
  | some entry => .ok ⟨entry.smsc, entry.throttle, entry.responseTimer⟩
  | none => .error ⟨.keyError, "bind " ++ debugText bind ++ " not bound"⟩

def esmeHandle (state : State) (sessionId : String) : Except PyErr (Arc Esme × Duration) :=
  match state.esmes.find? fun entry => entry.esme.value.sessionId == sessionId with
  | some entry => .ok (entry.esme, entry.responseTimer)
  | none => .error ⟨.keyError, "esme session " ++ debugText sessionId ++ " not bound"⟩

/-- The `Session` passed with an inbound PDU of an ESME. -/
def State.esmeSession (state : State) (sessionId : String) (conn : SmppConnectionInformation) :
    Session :=
  let systemId := ((state.esmes.find? fun entry => entry.esme.value.sessionId == sessionId).map
    fun entry => entry.esme.value.systemId).getD ""
  ⟨.esmeServer, sessionId, systemId, conn.clientAddress⟩

/-- The `Session` passed with an inbound PDU of an outbound bind. -/
def BindListener.bindSession (listener : BindListener) (sessionId : String)
    (conn : SmppConnectionInformation) : Session :=
  ⟨.bind, sessionId, listener.bindName, conn.serverAddress⟩

/-- The limiter an inbound session was registered with. -/
def State.inboundLimiter (state : State) (sessionId : String) : Option LimiterHandle :=
  (state.esmes.find? fun entry => entry.esme.value.sessionId == sessionId).bind
    fun entry => entry.throttle

/-! ### What the readers see -/

theorem bindGone_eq_false_iff (binds : List BindSession) (smsc : Arc Smsc) :
    bindGone binds smsc = false ↔ ∃ entry ∈ binds, entry.smsc.ptr = smsc.ptr := by
  simp [bindGone, Arc.ptrEq]

theorem esmeGone_eq_false_iff (esmes : List EsmeSession) (esme : Arc Esme) :
    esmeGone esmes esme = false ↔ ∃ entry ∈ esmes, entry.esme.ptr = esme.ptr := by
  simp [esmeGone, Arc.ptrEq]

/-- A bind that resolves gives the handle and the timer of a registered entry. -/
theorem bindHandle_mem (state : State) (bind : String) (target : BindTarget)
    (resolved : bindHandle state bind = .ok target) :
    ∃ entry ∈ state.binds, entry.name = bind ∧
      target = ⟨entry.smsc, entry.throttle, entry.responseTimer⟩ := by
  unfold bindHandle at resolved
  split at resolved
  · rename_i entry found
    cases resolved
    exact ⟨entry, List.mem_of_find?_eq_some found, by simpa using List.find?_some found, rfl⟩
  · cases resolved

/-- A session that resolves gives the handle and the timer of a registered entry. -/
theorem esmeHandle_mem (state : State) (sessionId : String) (esme : Arc Esme) (timer : Duration)
    (resolved : esmeHandle state sessionId = .ok (esme, timer)) :
    ∃ entry ∈ state.esmes, entry.esme = esme ∧ entry.responseTimer = timer := by
  unfold esmeHandle at resolved
  split at resolved
  · rename_i entry found
    cases resolved
    exact ⟨entry, List.mem_of_find?_eq_some found, rfl, rfl⟩
  · cases resolved

end SiphonSmpp
