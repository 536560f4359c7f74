/-
This file proves that inbound throttling isolates the sessions: how one ESME
session is admitted does not depend on any other.

`Inbound` is the ingress of the server at work. Sessions bind and unbind, and
every message PDU is held against the limiter of its session: the limiter is
looked up in the registry and cloned out, and its lock sections come later, with
anything in between. `OwnSession` is one session on its own, with its limiters
numbered by its own bound callbacks. The server mirrors it for each session
because a limiter is made for one session and found by that session only, which
is what `Holds` keeps track of.
-/

import Mathlib.Logic.Function.Basic
import SiphonSmpp.Lib.Projection
import SiphonSmpp.Lifecycle

namespace SiphonSmpp

/-! ### Admitting one PDU -/

/-- What a PDU is told by a section of `admit_inbound`: to proceed, and whether it had waited, to
wait for some time, or that it is over the cap. -/
inductive AdmitStep where
  | proceed (waited : Bool)
  | wait (duration : Duration)
  | throttled
  deriving DecidableEq, Repr

/-- Where a PDU stands in `admit_inbound` once its limiter was cloned out. -/
inductive Admission (Limiter : Type) where
  | acquiring (limiter : Limiter) (waited : Bool)
  | sleeping (limiter : Limiter) (wakeAt : Instant)
  | trying (limiter : Limiter)
  deriving DecidableEq, Repr

namespace Admission

variable {Limiter Other : Type}

def limiter : Admission Limiter → Limiter
  | .acquiring limiter _ => limiter
  | .sleeping limiter _ => limiter
  | .trying limiter => limiter

def map (convert : Limiter → Other) : Admission Limiter → Admission Other
  | .acquiring limiter waited => .acquiring (convert limiter) waited
  | .sleeping limiter wakeAt => .sleeping (convert limiter) wakeAt
  | .trying limiter => .trying (convert limiter)

/-- Apply `server.throttle_action`. -/
def apply (action : ThrottleAction) (limiter : Limiter) : Admission Limiter :=
  match action with
  | .pace => .acquiring limiter false
  | .reject => .trying limiter

/-- How a pass of `acquire` goes on: the bucket after it, where the PDU stands then, and what it
is told. -/
def afterPass (limiter : Limiter) (waited : Bool) (now : Instant) :
    Bucket × Pass → Bucket × Option (Admission Limiter) × AdmitStep
  | (bucket, .granted) => (bucket, none, .proceed waited)
  | (bucket, .wait duration) => (bucket, some (.sleeping limiter (now + duration)), .wait duration)

/-- How a `try_acquire` goes on. -/
def afterTry : Bucket × Bool → Bucket × Option (Admission Limiter) × AdmitStep
  | (bucket, true) => (bucket, none, .proceed false)
  | (bucket, false) => (bucket, none, .throttled)

/-- A lock section on the limiter. -/
def lock (admission : Admission Limiter) (bucket : Bucket) (now : Instant) :
    Option (Bucket × Option (Admission Limiter) × AdmitStep) :=
  match admission with
  | .acquiring limiter waited => some (afterPass limiter waited now (bucket.acquirePass now))
  | .trying _ => some (afterTry (bucket.tryAcquire now))
  | .sleeping _ _ => none

/-- The sleep between two passes of `acquire` is over. -/
def wake (admission : Admission Limiter) (now : Instant) : Option (Admission Limiter) :=
  match admission with
  | .sleeping limiter wakeAt => if wakeAt ≤ now then some (.acquiring limiter true) else none
  | _ => none

theorem limiter_map (convert : Limiter → Other) (admission : Admission Limiter) :
    (admission.map convert).limiter = convert admission.limiter := by
  cases admission <;> rfl

theorem map_congr {first second : Limiter → Other} {admission : Admission Limiter}
    (same : first admission.limiter = second admission.limiter) :
    admission.map first = admission.map second := by
  cases admission with
  | acquiring limiter waited => exact congrArg (Admission.acquiring · waited) same
  | sleeping limiter wakeAt => exact congrArg (Admission.sleeping · wakeAt) same
  | trying limiter => exact congrArg Admission.trying same

theorem map_apply (convert : Limiter → Other) (action : ThrottleAction) (limiter : Limiter) :
    (apply action limiter).map convert = apply action (convert limiter) := by
  cases action <;> rfl

theorem limiter_apply (action : ThrottleAction) (limiter : Limiter) :
    (apply action limiter).limiter = limiter := by
  cases action <;> rfl

/-- Which limiter it is makes no difference to a lock section, only its bucket does. -/
theorem lock_map (convert : Limiter → Other) (admission : Admission Limiter) (bucket : Bucket)
    (now : Instant) :
    (admission.map convert).lock bucket now =
      (admission.lock bucket now).map fun done =>
        (done.1, done.2.1.map (map convert), done.2.2) := by
  cases admission with
  | acquiring limiter waited =>
    rw [map, lock, lock]
    obtain ⟨after, granted | duration⟩ := bucket.acquirePass now
    · rfl
    · rfl
  | sleeping limiter wakeAt => rfl
  | trying limiter =>
    rw [map, lock, lock]
    obtain ⟨after, _ | _⟩ := bucket.tryAcquire now
    · rfl
    · rfl

theorem wake_map (convert : Limiter → Other) (admission : Admission Limiter) (now : Instant) :
    (admission.map convert).wake now = (admission.wake now).map (map convert) := by
  cases admission with
  | acquiring limiter waited => rfl
  | sleeping limiter wakeAt =>
    simp only [map, wake]
    split
    · rfl
    · rfl
  | trying limiter => rfl

/-- A PDU stays with its limiter through a lock section. -/
theorem limiter_of_lock {admission next : Admission Limiter} {bucket after : Bucket}
    {now : Instant} {told : AdmitStep}
    (locked : admission.lock bucket now = some (after, some next, told)) :
    next.limiter = admission.limiter := by
  cases admission with
  | acquiring limiter waited =>
    rw [lock] at locked
    generalize bucket.acquirePass now = pass at locked
    obtain ⟨left, granted | duration⟩ := pass
    · cases locked
    · cases locked
      rfl
  | sleeping limiter wakeAt => cases locked
  | trying limiter =>
    rw [lock] at locked
    generalize bucket.tryAcquire now = answer at locked
    obtain ⟨left, _ | _⟩ := answer
    · cases locked
    · cases locked

theorem limiter_of_wake {admission next : Admission Limiter} {now : Instant}
    (woken : admission.wake now = some next) : next.limiter = admission.limiter := by
  cases admission with
  | acquiring limiter waited => cases woken
  | sleeping limiter wakeAt =>
    simp only [wake] at woken
    split at woken
    · cases woken
      rfl
    · cases woken
  | trying limiter => cases woken

end Admission

/-! ### The ingress -/

/-- The ingress of the server: the registry, the bucket behind each limiter, and the message
PDUs that are being admitted, numbered within their session. -/
structure Inbound where
  state : State
  buckets : Nat → Option Bucket
  pending : String → Nat → Option (Admission LimiterHandle)

/-- A lifecycle callback, an inbound `submit_sm`, `data_sm` or `submit_sm_multi` that looks up
its limiter, and its lock sections and wake-ups after that. -/
inductive InboundEvent where
  | callback (callback : Callback) (now : Instant)
  | arrive (sessionId : String) (pdu : Nat)
  | lock (sessionId : String) (pdu : Nat) (now : Instant)
  | wake (sessionId : String) (pdu : Nat) (now : Instant)
  deriving DecidableEq, Repr

/-- The ESME session an event belongs to. -/
def InboundEvent.session : InboundEvent → Option String
  | .callback (.esmeBound esme) _ => some esme.sessionId
  | .callback (.esmeUnbound sessionId) _ => some sessionId
  | .callback _ _ => none
  | .arrive sessionId _ => some sessionId
  | .lock sessionId _ _ => some sessionId
  | .wake sessionId _ _ => some sessionId

/-- The limiter a callback makes. -/
def State.newLimiter (state : State) : Callback → Option LimiterHandle
  | .esmeBound _ => newThrottle state.inboundMaxMps (state.nextPtr + 1)
  | .smscBound listener _ => newThrottle listener.maxMsgPerSec (state.nextPtr + 1)
  | _ => none

/-- A bucket for a new limiter. -/
def addBucket (buckets : Nat → Option Bucket) (made : Option LimiterHandle) (now : Instant) :
    Nat → Option Bucket :=
  match made with
  | some limiter => Function.update buckets limiter.ptr (some (.new limiter.rate now))
  | none => buckets

/-- The ingress of a server that starts. -/
def Inbound.new (inboundMaxMps : Nat) (action : ThrottleAction) (responseTimer : Duration) :
    Inbound :=
  ⟨.new inboundMaxMps action responseTimer, fun _ => none, fun _ _ => none⟩

def Inbound.callback (inbound : Inbound) (callback : Callback) (now : Instant) : Inbound :=
  { inbound with
    state := (inbound.state.callback callback).1
    buckets := addBucket inbound.buckets (inbound.state.newLimiter callback) now }

/-- A PDU now stands somewhere else. -/
def Inbound.stand (inbound : Inbound) (sessionId : String) (pdu : Nat)
    (next : Option (Admission LimiterHandle)) : Inbound :=
  { inbound with
    pending := Function.update inbound.pending sessionId
      (Function.update (inbound.pending sessionId) pdu next) }

/-- What an event does to the ingress, with what it tells the PDU. An event that cannot happen
(a PDU that is already being admitted arrives, one that is not takes the lock, a sleep ends
early) changes nothing. -/
def Inbound.step (inbound : Inbound) : InboundEvent → Inbound × List (String × Nat × AdmitStep)
  | .callback callback now => (inbound.callback callback now, [])
  | .arrive sessionId pdu =>
    match inbound.pending sessionId pdu with
    | some _ => (inbound, [])
    | none =>
      match inbound.state.inboundLimiter sessionId with
      | none => (inbound, [(sessionId, pdu, .proceed false)])
      | some limiter =>
        (inbound.stand sessionId pdu
          (some (.apply inbound.state.inboundThrottleAction limiter)), [])
  | .lock sessionId pdu now =>
    match inbound.pending sessionId pdu with
    | none => (inbound, [])
    | some admission =>
      match (inbound.buckets admission.limiter.ptr).bind (admission.lock · now) with
      | none => (inbound, [])
      | some (bucket, next, told) =>
        ({ inbound.stand sessionId pdu next with
            buckets := Function.update inbound.buckets admission.limiter.ptr (some bucket) },
          [(sessionId, pdu, told)])
  | .wake sessionId pdu now =>
    match (inbound.pending sessionId pdu).bind (Admission.wake · now) with
    | none => (inbound, [])
    | some next => (inbound.stand sessionId pdu (some next), [])

/-! ### Who can reach a limiter -/

namespace Inbound

/-- A session is registered with a limiter, or one of its PDUs has cloned it out. -/
def Holds (inbound : Inbound) (sessionId : String) (limiter : LimiterHandle) : Prop :=
  (∃ entry ∈ inbound.state.esmes,
    entry.esme.value.sessionId = sessionId ∧ entry.throttle = some limiter) ∨
  ∃ pdu admission, inbound.pending sessionId pdu = some admission ∧ admission.limiter = limiter

/-- A step for a PDU of one session: the registry stays, and so do the PDUs of the others and
the buckets the session does not hold. -/
structure Confined (before after : Inbound) (sessionId : String) : Prop where
  state : after.state = before.state
  pending : ∀ other, other ≠ sessionId → after.pending other = before.pending other
  holds : ∀ pdu admission, after.pending sessionId pdu = some admission →
    before.Holds sessionId admission.limiter
  buckets : ∀ ptr, after.buckets ptr = before.buckets ptr ∨
    ∃ limiter, before.Holds sessionId limiter ∧ limiter.ptr = ptr

variable {inbound : Inbound}

theorem holds_of_inboundLimiter {sessionId : String} {limiter : LimiterHandle}
    (found : inbound.state.inboundLimiter sessionId = some limiter) :
    inbound.Holds sessionId limiter := by
  obtain ⟨entry, first, registered⟩ := Option.bind_eq_some_iff.mp found
  refine Or.inl ⟨entry, List.mem_of_find?_eq_some first, ?_, registered⟩
  simpa using List.find?_some first

theorem confined_self (inbound : Inbound) (sessionId : String) :
    inbound.Confined inbound sessionId :=
  ⟨rfl, fun _ _ => rfl, fun pdu admission standing => Or.inr ⟨pdu, admission, standing, rfl⟩,
    fun _ => Or.inl rfl⟩

theorem confined_stand (sessionId : String) (pdu : Nat) (next : Option (Admission LimiterHandle))
    (held : ∀ admission, next = some admission → inbound.Holds sessionId admission.limiter) :
    inbound.Confined (inbound.stand sessionId pdu next) sessionId where
  state := rfl
  pending other different := Function.update_of_ne different _ _
  holds number admission standing := by
    have here : Function.update (inbound.pending sessionId) pdu next number = some admission := by
      rw [← standing]
      exact (congrFun (Function.update_self sessionId _ inbound.pending) number).symm
    by_cases same : number = pdu
    · rw [same, Function.update_self] at here
      exact held admission here
    · rw [Function.update_of_ne same] at here
      exact Or.inr ⟨number, admission, here, rfl⟩
  buckets _ := Or.inl rfl

/-- A step is a callback, or is confined to the session whose PDU it is about. -/
theorem step_cases (inbound : Inbound) (event : InboundEvent) :
    (∃ callback now, event = .callback callback now) ∨
      ∃ sessionId, event.session = some sessionId ∧
        inbound.Confined (inbound.step event).1 sessionId ∧
        ∀ told ∈ (inbound.step event).2, told.1 = sessionId := by
  cases event with
  | callback callback now => exact Or.inl ⟨callback, now, rfl⟩
  | arrive sessionId pdu =>
    refine Or.inr ⟨sessionId, rfl, ?_⟩
    rw [step]
    split
    · exact ⟨confined_self _ _, nofun⟩
    · split
      · exact ⟨confined_self _ _, List.forall_mem_singleton.mpr rfl⟩
      · rename_i limiter found
        refine ⟨confined_stand _ _ _ ?_, nofun⟩
        intro admission standing
        cases standing
        rw [Admission.limiter_apply]
        exact holds_of_inboundLimiter found
  | lock sessionId pdu now =>
    refine Or.inr ⟨sessionId, rfl, ?_⟩
    rw [step]
    split
    · exact ⟨confined_self _ _, nofun⟩
    · rename_i admission standing
      have held : inbound.Holds sessionId admission.limiter :=
        Or.inr ⟨pdu, admission, standing, rfl⟩
      split
      · exact ⟨confined_self _ _, nofun⟩
      · rename_i bucket next told locked
        obtain ⟨old, _, passed⟩ := Option.bind_eq_some_iff.mp locked
        have stood : inbound.Confined (inbound.stand sessionId pdu next) sessionId := by
          refine confined_stand _ _ _ ?_
          intro after standing
          rw [standing] at passed
          rw [Admission.limiter_of_lock passed]
          exact held
        refine ⟨⟨rfl, stood.pending, stood.holds, fun ptr => ?_⟩, List.forall_mem_singleton.mpr rfl⟩
        by_cases same : ptr = admission.limiter.ptr
        · exact Or.inr ⟨_, held, same.symm⟩
        · exact Or.inl (Function.update_of_ne same _ _)
  | wake sessionId pdu now =>
    refine Or.inr ⟨sessionId, rfl, ?_⟩
    rw [step]
    split
    · exact ⟨confined_self _ _, nofun⟩
    · rename_i next woken
      obtain ⟨admission, standing, wakes⟩ := Option.bind_eq_some_iff.mp woken
      refine ⟨confined_stand _ _ _ ?_, nofun⟩
      intro after stands
      cases stands
      rw [Admission.limiter_of_wake wakes]
      exact Or.inr ⟨pdu, admission, standing, rfl⟩

theorem Confined.holds_before {before after : Inbound} {sessionId : String}
    (confined : before.Confined after sessionId) {other : String} {limiter : LimiterHandle}
    (held : after.Holds other limiter) : before.Holds other limiter := by
  rcases held with ⟨entry, member, owner, registered⟩ | ⟨pdu, admission, standing, same⟩
  · rw [confined.state] at member
    exact Or.inl ⟨entry, member, owner, registered⟩
  · by_cases own : other = sessionId
    · subst own
      rw [← same]
      exact confined.holds pdu admission standing
    · rw [confined.pending other own] at standing
      exact Or.inr ⟨pdu, admission, standing, same⟩

/-- A callback hands no limiter to a session but the new one of a bound callback. -/
theorem holds_of_callback {callback : Callback} {now : Instant} {sessionId : String}
    {limiter : LimiterHandle} (held : (inbound.callback callback now).Holds sessionId limiter) :
    inbound.Holds sessionId limiter ∨
      ((InboundEvent.callback callback now).session = some sessionId ∧
        limiter.ptr = inbound.state.nextPtr + 1 ∧
        inbound.state.nextPtr + 1 < (inbound.callback callback now).state.nextPtr) := by
  rcases held with ⟨entry, member, owner, registered⟩ | pending
  · cases callback with
    | esmeBound esme =>
      rcases List.mem_append.mp member with old | new
      · exact Or.inl (Or.inl ⟨entry, old, owner, registered⟩)
      · rw [List.mem_singleton] at new
        subst new
        refine Or.inr ⟨congrArg some owner, ?_, Nat.lt_succ_self _⟩
        rw [newThrottle_eq_some registered]
    | esmeUnbound left =>
      exact Or.inl (Or.inl ⟨entry, List.mem_of_mem_filter member, owner, registered⟩)
    | smscBound listener smsc => exact Or.inl (Or.inl ⟨entry, member, owner, registered⟩)
    | smscUnbound listener left => exact Or.inl (Or.inl ⟨entry, member, owner, registered⟩)
  · exact Or.inl (Or.inr pending)

/-- The buckets that were given out stay as they are when a new one is made. -/
theorem buckets_callback (callback : Callback) (now : Instant) {ptr : Nat}
    (allocated : ptr < inbound.state.nextPtr) :
    (inbound.callback callback now).buckets ptr = inbound.buckets ptr := by
  show addBucket inbound.buckets (inbound.state.newLimiter callback) now ptr = _
  cases made : inbound.state.newLimiter callback with
  | none => rfl
  | some limiter =>
    have new : limiter.ptr = inbound.state.nextPtr + 1 := by
      cases callback with
      | esmeBound esme => rw [newThrottle_eq_some made]
      | smscBound listener smsc => rw [newThrottle_eq_some made]
      | esmeUnbound left => cases made
      | smscUnbound listener left => cases made
    exact Function.update_of_ne (by omega) _ _

/-- The limiters in use were given out before, and no two sessions hold the same. -/
structure Separate (inbound : Inbound) : Prop where
  allocated : ∀ sessionId limiter, inbound.Holds sessionId limiter →
    limiter.ptr < inbound.state.nextPtr
  apart : ∀ first second limiter other, inbound.Holds first limiter →
    inbound.Holds second other → limiter.ptr = other.ptr → first = second

theorem separate_new (inboundMaxMps : Nat) (action : ThrottleAction) (responseTimer : Duration) :
    (Inbound.new inboundMaxMps action responseTimer).Separate := by
  have nobody : ∀ sessionId limiter,
      ¬ (Inbound.new inboundMaxMps action responseTimer).Holds sessionId limiter := by
    rintro sessionId limiter (⟨entry, member, _⟩ | ⟨pdu, admission, standing, _⟩)
    · cases member
    · cases standing
  exact ⟨fun sessionId limiter held => absurd held (nobody sessionId limiter),
    fun first second limiter other held => absurd held (nobody first limiter)⟩

theorem Separate.step (separate : inbound.Separate) (event : InboundEvent) :
    (inbound.step event).1.Separate := by
  rcases inbound.step_cases event with ⟨callback, now, rfl⟩ | ⟨sessionId, _, confined, _⟩
  · have grows : inbound.state.nextPtr ≤ (inbound.callback callback now).state.nextPtr :=
      inbound.state.nextPtr_le_callback callback
    refine ⟨fun sessionId limiter held => ?_, fun first second limiter other held holds same => ?_⟩
    · rcases holds_of_callback held with old | ⟨_, new, allocated⟩
      · exact (separate.allocated sessionId limiter old).trans_le grows
      · exact new ▸ allocated
    · rcases holds_of_callback held with old | ⟨owner, new, _⟩
      · rcases holds_of_callback holds with older | ⟨_, newer, _⟩
        · exact separate.apart first second limiter other old older same
        · have below := separate.allocated first limiter old
          omega
      · rcases holds_of_callback holds with older | ⟨owns, newer, _⟩
        · have below := separate.allocated second other older
          omega
        · exact Option.some.inj (owner.symm.trans owns)
  · refine ⟨fun other limiter held => ?_, fun first second limiter other held holds same => ?_⟩
    · rw [confined.state]
      exact separate.allocated other limiter (confined.holds_before held)
    · exact separate.apart first second limiter other (confined.holds_before held)
        (confined.holds_before holds) same

end Inbound

/-! ### One session on its own -/

/-- One ESME session without any other: the entries it is registered with, each with its limiter,
and its PDUs. Its limiters are numbered in the order they are made. -/
structure OwnSession where
  rate : Nat
  action : ThrottleAction
  entries : List (Option Nat)
  made : Nat
  buckets : Nat → Option Bucket
  pending : Nat → Option (Admission Nat)

namespace OwnSession

def new (rate : Nat) (action : ThrottleAction) : OwnSession :=
  ⟨rate, action, [], 0, fun _ => none, fun _ => none⟩

/-- The session binds: one more entry, with a full bucket unless the server is unlimited. -/
def bound (own : OwnSession) (now : Instant) : OwnSession :=
  { own with
    entries := own.entries ++ [if 0 < own.rate then some own.made else none]
    made := own.made + 1
    buckets := Function.update own.buckets own.made (some (.new own.rate now)) }

def stand (own : OwnSession) (pdu : Nat) (next : Option (Admission Nat)) : OwnSession :=
  { own with pending := Function.update own.pending pdu next }

/-- What an event of the session does. -/
def step (own : OwnSession) : InboundEvent → OwnSession × List (Nat × AdmitStep)
  | .callback (.esmeBound _) now => (own.bound now, [])
  | .callback (.esmeUnbound _) _ => ({ own with entries := [] }, [])
  | .callback _ _ => (own, [])
  | .arrive _ pdu =>
    match own.pending pdu with
    | some _ => (own, [])
    | none =>
      match own.entries.head?.join with
      | none => (own, [(pdu, .proceed false)])
      | some limiter => (own.stand pdu (some (.apply own.action limiter)), [])
  | .lock _ pdu now =>
    match own.pending pdu with
    | none => (own, [])
    | some admission =>
      match (own.buckets admission.limiter).bind (admission.lock · now) with
      | none => (own, [])
      | some (bucket, next, told) =>
        ({ own.stand pdu next with
            buckets := Function.update own.buckets admission.limiter (some bucket) },
          [(pdu, told)])
  | .wake _ pdu now =>
    match (own.pending pdu).bind (Admission.wake · now) with
    | none => (own, [])
    | some next => (own.stand pdu (some next), [])

def Holds (own : OwnSession) (limiter : Nat) : Prop :=
  some limiter ∈ own.entries ∨
    ∃ pdu admission, own.pending pdu = some admission ∧ admission.limiter = limiter

theorem holds_of_bound (own : OwnSession) {now : Instant} {limiter : Nat}
    (held : (own.bound now).Holds limiter) :
    own.Holds limiter ∨ (limiter = own.made ∧ 0 < own.rate) := by
  rcases held with registered | pending
  · rcases List.mem_append.mp registered with older | newer
    · exact Or.inl (Or.inl older)
    · rw [List.mem_singleton] at newer
      split at newer
      · rename_i positive
        exact Or.inr ⟨Option.some.inj newer, positive⟩
      · cases newer
  · exact Or.inl (Or.inr pending)

theorem holds_of_stand (own : OwnSession) {pdu : Nat} {next : Option (Admission Nat)}
    (stays : ∀ admission, next = some admission → own.Holds admission.limiter) {limiter : Nat}
    (held : (own.stand pdu next).Holds limiter) : own.Holds limiter := by
  rcases held with registered | ⟨number, admission, standing, rfl⟩
  · exact Or.inl registered
  · replace standing : Function.update own.pending pdu next number = some admission := standing
    by_cases same : number = pdu
    · rw [same, Function.update_self] at standing
      exact stays admission standing
    · rw [Function.update_of_ne same] at standing
      exact Or.inr ⟨number, admission, standing, rfl⟩

end OwnSession

/-! ### The server mirrors each session -/

/-- The limiters a session is registered with, the oldest entry first. -/
def State.throttlesOf (state : State) (sessionId : String) : List (Option LimiterHandle) :=
  (state.esmes.filter fun entry => entry.esme.value.sessionId == sessionId).map
    fun entry => entry.throttle

theorem State.inboundLimiter_eq (state : State) (sessionId : String) :
    state.inboundLimiter sessionId = (state.throttlesOf sessionId).head?.join := by
  rw [State.inboundLimiter, State.throttlesOf, List.head?_map, List.head?_filter]
  generalize state.esmes.find? _ = found
  cases found with
  | none => rfl
  | some entry => rfl

theorem State.throttlesOf_bound (state : State) (esme : Esme) (sessionId : String)
    (owner : esme.sessionId = sessionId) :
    (state.callback (.esmeBound esme)).1.throttlesOf sessionId =
      state.throttlesOf sessionId ++ [newThrottle state.inboundMaxMps (state.nextPtr + 1)] := by
  have kept : [state.newEsmeSession esme].filter
      (fun entry => entry.esme.value.sessionId == sessionId) = [state.newEsmeSession esme] :=
    List.filter_cons_of_pos (beq_iff_eq.mpr owner)
  show List.map _ (List.filter _ (state.esmes ++ [state.newEsmeSession esme])) = _
  rw [List.filter_append, List.map_append, kept]
  rfl

theorem State.throttlesOf_unbound (state : State) (sessionId : String) :
    (state.callback (.esmeUnbound sessionId)).1.throttlesOf sessionId = [] := by
  refine List.map_eq_nil_iff.mpr (List.filter_eq_nil_iff.mpr ?_)
  intro entry member
  have kept := (List.mem_filter.mp member).2
  simpa using kept

/-- A callback of another session leaves the limiters of this one registered. -/
theorem State.throttlesOf_callback (state : State) (callback : Callback) (now : Instant)
    (sessionId : String) (other : (InboundEvent.callback callback now).session ≠ some sessionId) :
    (state.callback callback).1.throttlesOf sessionId = state.throttlesOf sessionId := by
  cases callback with
  | esmeBound esme =>
    have dropped : [state.newEsmeSession esme].filter
        (fun entry => entry.esme.value.sessionId == sessionId) = [] :=
      List.filter_cons_of_neg fun same => other (congrArg some (eq_of_beq same))
    show List.map _ (List.filter _ (state.esmes ++ [state.newEsmeSession esme])) = _
    rw [List.filter_append, dropped, List.append_nil]
    rfl
  | esmeUnbound left =>
    have different : left ≠ sessionId := fun same => other (congrArg some same)
    show List.map _ (List.filter _ (List.filter _ state.esmes)) = _
    rw [List.filter_filter]
    refine congrArg _ (List.filter_congr ?_)
    intro entry _
    by_cases own : entry.esme.value.sessionId = sessionId
    · simp [own, different.symm]
    · simp [own]
  | smscBound listener smsc => rfl
  | smscUnbound listener left => rfl

/-- The handle the server gave to a limiter of a session. -/
def handleAt (place : Nat → Nat) (rate limiter : Nat) : LimiterHandle := ⟨place limiter, rate⟩

/-- The ingress shows a session on its own: each limiter of the session has its place among the
handles of the server. -/
structure Mirror (sessionId : String) (inbound : Inbound) (own : OwnSession) (place : Nat → Nat) :
    Prop where
  rate : inbound.state.inboundMaxMps = own.rate
  action : inbound.state.inboundThrottleAction = own.action
  entries : inbound.state.throttlesOf sessionId =
    own.entries.map (Option.map (handleAt place own.rate))
  pending : ∀ pdu, inbound.pending sessionId pdu =
    (own.pending pdu).map (Admission.map (handleAt place own.rate))
  buckets : ∀ limiter, own.Holds limiter →
    inbound.buckets (place limiter) = own.buckets limiter
  made : ∀ limiter, own.Holds limiter → limiter < own.made
  injective : ∀ first second, own.Holds first → own.Holds second →
    place first = place second → first = second

namespace Mirror

variable {sessionId : String} {inbound : Inbound} {own : OwnSession} {place : Nat → Nat}

/-- The session holds the places of its limiters. -/
theorem holds (mirror : Mirror sessionId inbound own place) {limiter : Nat}
    (held : own.Holds limiter) : inbound.Holds sessionId (handleAt place own.rate limiter) := by
  rcases held with registered | ⟨pdu, admission, standing, rfl⟩
  · have shown : some (handleAt place own.rate limiter) ∈ inbound.state.throttlesOf sessionId := by
      rw [mirror.entries]
      exact List.mem_map.mpr ⟨some limiter, registered, rfl⟩
    obtain ⟨entry, member, same⟩ := List.mem_map.mp shown
    obtain ⟨old, owner⟩ := List.mem_filter.mp member
    exact Or.inl ⟨entry, old, eq_of_beq owner, same⟩
  · refine Or.inr ⟨pdu, admission.map (handleAt place own.rate), ?_, ?_⟩
    · rw [mirror.pending, standing]
      rfl
    · exact Admission.limiter_map _ admission

/-- What is not of the session does not show. -/
theorem onOther (mirror : Mirror sessionId inbound own place) (separate : inbound.Separate)
    (event : InboundEvent) (other : event.session ≠ some sessionId) :
    Mirror sessionId (inbound.step event).1 own place ∧
      ∀ told ∈ (inbound.step event).2, told.1 ≠ sessionId := by
  rcases inbound.step_cases event with ⟨callback, now, rfl⟩ | ⟨actor, acts, confined, told⟩
  · refine ⟨⟨?_, ?_, ?_, mirror.pending, ?_, mirror.made, mirror.injective⟩, nofun⟩
    · rw [← mirror.rate]
      cases callback <;> rfl
    · rw [← mirror.action]
      cases callback <;> rfl
    · rw [← mirror.entries]
      exact inbound.state.throttlesOf_callback callback now sessionId other
    · intro limiter held
      rw [← mirror.buckets limiter held]
      have below := separate.allocated _ _ (mirror.holds held)
      exact Inbound.buckets_callback callback now below
  · have different : sessionId ≠ actor := fun same => other (same ▸ acts)
    refine ⟨⟨?_, ?_, ?_, ?_, ?_, mirror.made, mirror.injective⟩,
      fun shown member => told shown member ▸ different.symm⟩
    · rw [confined.state, mirror.rate]
    · rw [confined.state, mirror.action]
    · rw [confined.state, mirror.entries]
    · intro pdu
      rw [confined.pending sessionId different, mirror.pending]
    · intro limiter held
      rw [← mirror.buckets limiter held]
      rcases confined.buckets (place limiter) with same | ⟨taken, takes, same⟩
      · exact same
      · exact absurd (separate.apart _ _ _ _ (mirror.holds held) takes same.symm) different

/-- The session finds its own limiter. -/
theorem inboundLimiter (mirror : Mirror sessionId inbound own place) :
    inbound.state.inboundLimiter sessionId =
      own.entries.head?.join.map (handleAt place own.rate) := by
  rw [State.inboundLimiter_eq, mirror.entries, List.head?_map]
  generalize own.entries.head? = first
  obtain _ | _ | limiter := first
  · rfl
  · rfl
  · rfl

theorem stand (mirror : Mirror sessionId inbound own place) (pdu : Nat)
    (next : Option (Admission Nat))
    (held : ∀ admission, next = some admission → own.Holds admission.limiter) :
    Mirror sessionId
      (inbound.stand sessionId pdu (next.map (Admission.map (handleAt place own.rate))))
      (own.stand pdu next) place := by
  have before : ∀ limiter, (own.stand pdu next).Holds limiter → own.Holds limiter :=
    fun _ => own.holds_of_stand held
  refine ⟨mirror.rate, mirror.action, mirror.entries, fun number => ?_,
    fun limiter holds => mirror.buckets limiter (before limiter holds),
    fun limiter holds => mirror.made limiter (before limiter holds),
    fun first second one other => mirror.injective first second (before first one)
      (before second other)⟩
  show Function.update inbound.pending sessionId _ sessionId number =
    (Function.update own.pending pdu next number).map _
  rw [Function.update_self]
  by_cases same : number = pdu
  · rw [same, Function.update_self, Function.update_self]
    rfl
  · rw [Function.update_of_ne same, Function.update_of_ne same]
    exact mirror.pending number

theorem setBucket (mirror : Mirror sessionId inbound own place) {limiter : Nat}
    (held : own.Holds limiter) (bucket : Option Bucket) :
    Mirror sessionId
      { inbound with buckets := Function.update inbound.buckets (place limiter) bucket }
      { own with buckets := Function.update own.buckets limiter bucket } place := by
  refine ⟨mirror.rate, mirror.action, mirror.entries, mirror.pending, fun other holds => ?_,
    mirror.made, mirror.injective⟩
  show Function.update inbound.buckets (place limiter) bucket (place other) =
    Function.update own.buckets limiter bucket other
  by_cases same : other = limiter
  · rw [same, Function.update_self, Function.update_self]
  · have apart : place other ≠ place limiter := fun shared =>
      same (mirror.injective other limiter holds held shared)
    rw [Function.update_of_ne same, Function.update_of_ne apart]
    exact mirror.buckets other holds

/-- The places after a bound callback of the session: its next limiter has a new one. -/
def placeNext (place : Nat → Nat) (inbound : Inbound) (own : OwnSession) : Nat → Nat :=
  Function.update place own.made (inbound.state.nextPtr + 1)

theorem placeNext_made (place : Nat → Nat) (inbound : Inbound) (own : OwnSession) :
    placeNext place inbound own own.made = inbound.state.nextPtr + 1 :=
  Function.update_self _ _ _

theorem placeNext_of_holds (mirror : Mirror sessionId inbound own place) {limiter : Nat}
    (held : own.Holds limiter) : placeNext place inbound own limiter = place limiter :=
  Function.update_of_ne (mirror.made limiter held).ne _ _

theorem place_lt (mirror : Mirror sessionId inbound own place) (separate : inbound.Separate)
    {limiter : Nat} (held : own.Holds limiter) : place limiter < inbound.state.nextPtr :=
  separate.allocated _ _ (mirror.holds held)

theorem handleAt_placeNext (mirror : Mirror sessionId inbound own place) {limiter : Nat}
    (held : own.Holds limiter) :
    handleAt place own.rate limiter = handleAt (placeNext place inbound own) own.rate limiter := by
  rw [handleAt, handleAt, mirror.placeNext_of_holds held]

theorem entries_bound (mirror : Mirror sessionId inbound own place) (esme : Esme) (now : Instant)
    (owner : esme.sessionId = sessionId) :
    (inbound.state.callback (.esmeBound esme)).1.throttlesOf sessionId =
      (own.bound now).entries.map
        (Option.map (handleAt (placeNext place inbound own) own.rate)) := by
  have older : own.entries.map (Option.map (handleAt place own.rate)) =
      own.entries.map (Option.map (handleAt (placeNext place inbound own) own.rate)) := by
    refine List.map_congr_left fun entry member => ?_
    cases entry with
    | none => rfl
    | some limiter => exact congrArg some (mirror.handleAt_placeNext (Or.inl member))
  have newest : newThrottle own.rate (inbound.state.nextPtr + 1) =
      (if 0 < own.rate then some own.made else none).map
        (handleAt (placeNext place inbound own) own.rate) := by
    unfold newThrottle
    split
    · rw [Option.map_some, handleAt, placeNext_made]
    · rfl
  show _ = (own.entries ++ [_]).map _
  rw [State.throttlesOf_bound _ _ _ owner, mirror.entries, mirror.rate, List.map_append, older,
    newest]
  rfl

theorem bucket_bound (mirror : Mirror sessionId inbound own place) (esme : Esme) (now : Instant)
    (positive : 0 < own.rate) :
    (inbound.callback (.esmeBound esme) now).buckets (inbound.state.nextPtr + 1) =
      (own.bound now).buckets own.made := by
  have limiter : newThrottle inbound.state.inboundMaxMps (inbound.state.nextPtr + 1) =
      some ⟨inbound.state.nextPtr + 1, own.rate⟩ := by
    rw [mirror.rate]
    exact if_pos positive
  show addBucket inbound.buckets (newThrottle _ _) now _ =
    Function.update own.buckets own.made (some (.new own.rate now)) own.made
  rw [limiter, Function.update_self]
  exact Function.update_self _ _ _

/-- A bound callback of the session gives its next limiter a new place. -/
theorem bound (mirror : Mirror sessionId inbound own place) (separate : inbound.Separate)
    (esme : Esme) (now : Instant) (owner : esme.sessionId = sessionId) :
    Mirror sessionId (inbound.callback (.esmeBound esme) now) (own.bound now)
      (placeNext place inbound own) := by
  constructor
  · exact mirror.rate
  · exact mirror.action
  · exact mirror.entries_bound esme now owner
  · intro pdu
    refine (mirror.pending pdu).trans ?_
    show _ = (own.pending pdu).map (Admission.map (handleAt _ own.rate))
    cases standing : own.pending pdu with
    | none => rfl
    | some admission =>
      refine congrArg some (Admission.map_congr (mirror.handleAt_placeNext ?_))
      exact Or.inr ⟨pdu, admission, standing, rfl⟩
  · intro limiter held
    rcases own.holds_of_bound held with older | ⟨rfl, positive⟩
    · rw [mirror.placeNext_of_holds older,
        Inbound.buckets_callback _ _ (mirror.place_lt separate older), mirror.buckets limiter older]
      exact (Function.update_of_ne (mirror.made limiter older).ne _ _).symm
    · rw [placeNext_made]
      exact mirror.bucket_bound esme now positive
  · intro limiter held
    rcases own.holds_of_bound held with older | ⟨same, _⟩
    · exact Nat.lt_succ_of_lt (mirror.made limiter older)
    · exact same ▸ Nat.lt_succ_self _
  · intro first second one other shared
    rcases own.holds_of_bound one with older | ⟨same, _⟩
    · have low := mirror.place_lt separate older
      rcases own.holds_of_bound other with elder | ⟨equal, _⟩
      · rw [mirror.placeNext_of_holds older, mirror.placeNext_of_holds elder] at shared
        exact mirror.injective first second older elder shared
      · rw [mirror.placeNext_of_holds older, equal, placeNext_made] at shared
        omega
    · rcases own.holds_of_bound other with elder | ⟨equal, _⟩
      · have low := mirror.place_lt separate elder
        rw [mirror.placeNext_of_holds elder, same, placeNext_made] at shared
        omega
      · exact same.trans equal.symm

theorem unbound (mirror : Mirror sessionId inbound own place) (now : Instant) :
    Mirror sessionId (inbound.callback (.esmeUnbound sessionId) now) { own with entries := [] }
      place := by
  have before : ∀ limiter, OwnSession.Holds { own with entries := [] } limiter →
      own.Holds limiter := by
    rintro limiter (registered | pending)
    · cases registered
    · exact Or.inr pending
  exact ⟨mirror.rate, mirror.action, State.throttlesOf_unbound _ _, mirror.pending,
    fun limiter holds => mirror.buckets limiter (before limiter holds),
    fun limiter holds => mirror.made limiter (before limiter holds),
    fun first second one other => mirror.injective first second (before first one)
      (before second other)⟩

/-- What a session is told by an event of the ingress. -/
def seenBy (sessionId : String) (told : String × Nat × AdmitStep) : Option (Nat × AdmitStep) :=
  if told.1 == sessionId then some told.2 else none

theorem seenBy_self (sessionId : String) (pdu : Nat) (told : AdmitStep) :
    [(sessionId, pdu, told)].filterMap (seenBy sessionId) = [(pdu, told)] :=
  List.filterMap_cons_some (if_pos (beq_self_eq_true sessionId))

theorem arrive (mirror : Mirror sessionId inbound own place) (pdu : Nat) :
    Mirror sessionId (inbound.step (.arrive sessionId pdu)).1
        (own.step (.arrive sessionId pdu)).1 place ∧
      (inbound.step (.arrive sessionId pdu)).2.filterMap (seenBy sessionId) =
        (own.step (.arrive sessionId pdu)).2 := by
  rw [Inbound.step, OwnSession.step, mirror.pending, mirror.inboundLimiter, mirror.action]
  cases own.pending pdu with
  | some admission => exact ⟨mirror, rfl⟩
  | none =>
    cases found : own.entries.head?.join with
    | none => exact ⟨mirror, seenBy_self _ _ _⟩
    | some limiter =>
      refine ⟨?_, rfl⟩
      have stood := mirror.stand pdu (some (.apply own.action limiter)) ?_
      · rw [Option.map_some, Admission.map_apply] at stood
        exact stood
      · intro admission standing
        cases standing
        rw [Admission.limiter_apply]
        exact Or.inl (List.mem_of_head? (Option.join_eq_some_iff.mp found))

theorem lock (mirror : Mirror sessionId inbound own place) (pdu : Nat) (now : Instant) :
    Mirror sessionId (inbound.step (.lock sessionId pdu now)).1
        (own.step (.lock sessionId pdu now)).1 place ∧
      (inbound.step (.lock sessionId pdu now)).2.filterMap (seenBy sessionId) =
        (own.step (.lock sessionId pdu now)).2 := by
  rw [Inbound.step, OwnSession.step, mirror.pending]
  cases standing : own.pending pdu with
  | none => exact ⟨mirror, rfl⟩
  | some admission =>
    have held : own.Holds admission.limiter := Or.inr ⟨pdu, admission, standing, rfl⟩
    have same : inbound.buckets (admission.map (handleAt place own.rate)).limiter.ptr =
        own.buckets admission.limiter := by
      rw [Admission.limiter_map]
      exact mirror.buckets _ held
    have locks : (fun bucket => (admission.map (handleAt place own.rate)).lock bucket now) =
        fun bucket => (admission.lock bucket now).map fun done =>
          (done.1, done.2.1.map (Admission.map (handleAt place own.rate)), done.2.2) := by
      funext bucket
      exact Admission.lock_map _ admission bucket now
    simp only [Option.map_some]
    rw [same, locks]
    cases own.buckets admission.limiter with
    | none => exact ⟨mirror, rfl⟩
    | some bucket =>
      simp only [Option.bind_some]
      cases locked : admission.lock bucket now with
      | none => exact ⟨mirror, rfl⟩
      | some done =>
        obtain ⟨after, next, told⟩ := done
        refine ⟨?_, seenBy_self _ _ _⟩
        have stays : ∀ later, next = some later → own.Holds later.limiter := by
          intro later stands
          rw [stands] at locked
          rw [Admission.limiter_of_lock locked]
          exact held
        have stood := (mirror.setBucket held (some after)).stand pdu next stays
        rw [Admission.limiter_map]
        exact stood

theorem wake (mirror : Mirror sessionId inbound own place) (pdu : Nat) (now : Instant) :
    Mirror sessionId (inbound.step (.wake sessionId pdu now)).1
        (own.step (.wake sessionId pdu now)).1 place ∧
      (inbound.step (.wake sessionId pdu now)).2.filterMap (seenBy sessionId) =
        (own.step (.wake sessionId pdu now)).2 := by
  rw [Inbound.step, OwnSession.step, mirror.pending]
  cases standing : own.pending pdu with
  | none => exact ⟨mirror, rfl⟩
  | some admission =>
    simp only [Option.map_some, Option.bind_some, Admission.wake_map]
    cases woken : admission.wake now with
    | none => exact ⟨mirror, rfl⟩
    | some next =>
      refine ⟨mirror.stand pdu (some next) ?_, rfl⟩
      intro later stands
      cases stands
      rw [Admission.limiter_of_wake woken]
      exact Or.inr ⟨pdu, admission, standing, rfl⟩

/-- What is of the session moves it as it moves the session on its own. -/
theorem onOwn (mirror : Mirror sessionId inbound own place) (separate : inbound.Separate)
    (event : InboundEvent) (mine : event.session = some sessionId) :
    (∃ place, Mirror sessionId (inbound.step event).1 (own.step event).1 place) ∧
      (inbound.step event).2.filterMap (seenBy sessionId) = (own.step event).2 := by
  cases event with
  | callback callback now =>
    cases callback with
    | esmeBound esme => exact ⟨⟨_, mirror.bound separate esme now (Option.some.inj mine)⟩, rfl⟩
    | esmeUnbound left =>
      cases mine
      exact ⟨⟨_, mirror.unbound now⟩, rfl⟩
    | smscBound listener smsc => cases mine
    | smscUnbound listener left => cases mine
  | arrive actor pdu =>
    cases mine
    exact ⟨⟨_, (mirror.arrive pdu).1⟩, (mirror.arrive pdu).2⟩
  | lock actor pdu now =>
    cases mine
    exact ⟨⟨_, (mirror.lock pdu now).1⟩, (mirror.lock pdu now).2⟩
  | wake actor pdu now =>
    cases mine
    exact ⟨⟨_, (mirror.wake pdu now).1⟩, (mirror.wake pdu now).2⟩

theorem new (sessionId : String) (inboundMaxMps : Nat) (action : ThrottleAction)
    (responseTimer : Duration) :
    Mirror sessionId (.new inboundMaxMps action responseTimer) (.new inboundMaxMps action) id := by
  have nothing : ∀ limiter, ¬ (OwnSession.new inboundMaxMps action).Holds limiter := by
    rintro limiter (registered | ⟨pdu, admission, standing, _⟩)
    · cases registered
    · cases standing
  exact ⟨rfl, rfl, rfl, fun _ => rfl, fun limiter held => absurd held (nothing limiter),
    fun limiter held => absurd held (nothing limiter),
    fun first _ held => absurd held (nothing first)⟩

end Mirror

/-! ### Isolation -/

open Projection

/-- The ingress as one session sees it. -/
def sessionView (sessionId : String) :
    View Inbound.step OwnSession.step (fun event => event.session == some sessionId)
      (Mirror.seenBy sessionId) where
  Mirrors inbound own := inbound.Separate ∧ ∃ place, Mirror sessionId inbound own place
  onOwn inbound own event mirrors mine := by
    obtain ⟨separate, place, mirror⟩ := mirrors
    obtain ⟨moved, same⟩ := mirror.onOwn separate event (eq_of_beq mine)
    exact ⟨⟨separate.step event, moved⟩, same⟩
  onOther inbound own event mirrors other := by
    obtain ⟨separate, place, mirror⟩ := mirrors
    obtain ⟨kept, told⟩ := mirror.onOther separate event (ne_of_beq_false other)
    refine ⟨⟨separate.step event, place, kept⟩, List.filterMap_eq_nil_iff.mpr ?_⟩
    intro shown member
    exact if_neg fun same => told shown member (eq_of_beq same)

/-- The decisions of `admit_inbound` for the PDUs of a session, in the order they fall. -/
def admissions (inboundMaxMps : Nat) (action : ThrottleAction) (responseTimer : Duration)
    (events : List InboundEvent) (sessionId : String) : List (Nat × AdmitStep) :=
  (outputs Inbound.step (.new inboundMaxMps action responseTimer) events).filterMap
    (Mirror.seenBy sessionId)

/-- Inbound throttling isolates sessions: whatever else binds, unbinds and sends in between, a
session is admitted as in the run of its own callbacks and PDUs at the same instants. -/
theorem admissions_isolated (inboundMaxMps : Nat) (action : ThrottleAction)
    (responseTimer : Duration) (events : List InboundEvent) (sessionId : String) :
    admissions inboundMaxMps action responseTimer events sessionId =
      admissions inboundMaxMps action responseTimer
        (events.filter fun event => event.session == some sessionId) sessionId :=
  (sessionView sessionId).isolated _ (.new inboundMaxMps action)
    ⟨Inbound.separate_new _ _ _, id, Mirror.new _ _ _ _⟩ events

example :
    let bind (sessionId : String) : InboundEvent :=
      .callback (.esmeBound ⟨sessionId, "esme", "", true⟩) 0
    let events := [bind "a", bind "b", .arrive "b" 0, .lock "b" 0 0, .arrive "b" 1,
      .arrive "a" 0, .lock "b" 1 0, .lock "a" 0 0]
    admissions 1 .reject 5 events "a" = [(0, .proceed false)] ∧
      admissions 1 .reject 5 events "b" = [(0, .proceed false), (1, .throttled)] := by
  decide +kernel

end SiphonSmpp
