/-
This file says what an ESME can count on under `server.max_msg_per_sec`: over
every run of the ingress, with any number of other sessions at work, its PDUs are
metered by one arrival curve that opens when the session binds.

`Isolation.lean` shows that no other session has a say in it, and
`RateLimiter.lean` that one limiter on its own is the curve. Here the two meet:
of all the buckets of the server there is one that the session ever holds, it is
filled at the bound callback, and only the session's own lock sections touch it.
So a PDU is throttled exactly when the tokens that earlier PDUs of the same
session took leave none for it.
-/

import SiphonSmpp.Isolation

namespace SiphonSmpp

open ArrivalCurve

/-! ### Runs of the ingress -/

/-- A PDU that is told to proceed by a lock section took a token. -/
def AdmitStep.granted : AdmitStep → Bool
  | .proceed _ => true
  | _ => false

namespace InboundEvent

/-- The instant of an event that reads the clock. -/
def instant : InboundEvent → Option Instant
  | .callback _ now => some now
  | .arrive _ _ => none
  | .lock _ _ now => some now
  | .wake _ _ now => some now

/-- The instant at which an event binds a session. -/
def bindsAt (sessionId : String) : InboundEvent → Option Instant
  | .callback (.esmeBound esme) now => if esme.sessionId = sessionId then some now else none
  | _ => none

/-- The instant of an event that is a lock section for a PDU of a session. -/
def attemptsAt (sessionId : String) : InboundEvent → Option Instant
  | .lock actor _ now => if actor = sessionId then some now else none
  | _ => none

end InboundEvent

/-- The clock does not go back from one event to the next. -/
def Chronological (events : List InboundEvent) : Prop :=
  (events.filterMap InboundEvent.instant).Pairwise (· ≤ ·)

namespace Inbound

def run (inbound : Inbound) (events : List InboundEvent) : Inbound :=
  events.foldl (fun inbound event => (inbound.step event).1) inbound

/-- The instant at which an event took a token for a PDU of a session. -/
def tokenAt (inbound : Inbound) (sessionId : String) (event : InboundEvent) : List Instant :=
  if (inbound.step event).2.any fun told => told.2.2.granted then
    (event.attemptsAt sessionId).toList
  else []

/-- The instants at which PDUs of a session took their tokens in a run. -/
def tokens (inbound : Inbound) (sessionId : String) : List InboundEvent → List Instant
  | [] => []
  | event :: later =>
    inbound.tokenAt sessionId event ++ (inbound.step event).1.tokens sessionId later

theorem run_append (inbound : Inbound) (first second : List InboundEvent) :
    inbound.run (first ++ second) = (inbound.run first).run second :=
  List.foldl_append

theorem tokens_append (inbound : Inbound) (sessionId : String) (first second : List InboundEvent) :
    inbound.tokens sessionId (first ++ second) =
      inbound.tokens sessionId first ++ (inbound.run first).tokens sessionId second := by
  induction first generalizing inbound with
  | nil => rfl
  | cons event later inductionHypothesis =>
    rw [List.cons_append, tokens, tokens, inductionHypothesis, List.append_assoc]
    rfl

theorem tokens_singleton (inbound : Inbound) (sessionId : String) (event : InboundEvent) :
    inbound.tokens sessionId [event] = inbound.tokenAt sessionId event :=
  List.append_nil _

theorem separate_run {inbound : Inbound} (separate : inbound.Separate)
    (events : List InboundEvent) : (inbound.run events).Separate := by
  induction events generalizing inbound with
  | nil => exact separate
  | cons event later inductionHypothesis => exact inductionHypothesis (separate.step event)

/-- Each token is taken by an attempt. -/
theorem tokens_sublist (inbound : Inbound) (sessionId : String) (events : List InboundEvent) :
    (inbound.tokens sessionId events).Sublist
      (events.filterMap (InboundEvent.attemptsAt sessionId)) := by
  induction events generalizing inbound with
  | nil => exact List.Sublist.refl _
  | cons event later inductionHypothesis =>
    have whole : (event :: later).filterMap (InboundEvent.attemptsAt sessionId) =
        (event.attemptsAt sessionId).toList ++
          later.filterMap (InboundEvent.attemptsAt sessionId) := by
      rw [List.filterMap_cons]
      cases event.attemptsAt sessionId with
      | none => rfl
      | some now => rfl
    rw [tokens, whole]
    refine List.Sublist.append ?_ (inductionHypothesis _)
    unfold tokenAt
    split
    · exact List.Sublist.refl _
    · exact List.nil_sublist _

end Inbound

/-! ### The one bucket of a session -/

/-- A bucket that made the grants of a list stands on the arrival curve that opened at an instant. -/
def Bucket.OnCurve (rate : ℚ) (opened : Instant) (bucket : Bucket) (grants : List Instant) : Prop :=
  (RateLimiter.mk bucket [] grants).Tracks rate opened

/-- A session that is not bound yet holds no limiter. -/
def Inbound.Unmetered (inbound : Inbound) (sessionId : String) : Prop :=
  ∀ limiter, ¬ inbound.Holds sessionId limiter

/-- All PDUs of a session are held against one bucket, which is the session's alone. -/
structure Inbound.Metered (inbound : Inbound) (sessionId : String) (rate : ℚ) (opened : Instant)
    (grants instants : List Instant) (ptr : Nat) : Prop where
  allocated : ptr < inbound.state.nextPtr
  only : ∀ limiter, inbound.Holds sessionId limiter → limiter.ptr = ptr
  apart : ∀ other limiter, inbound.Holds other limiter → limiter.ptr = ptr → other = sessionId
  bucket : ∃ bucket, inbound.buckets ptr = some bucket ∧ bucket.OnCurve rate opened grants ∧
    bucket.last ∈ instants

/-- What a lock section does to a bucket: refill it to its instant, and take a token exactly when
there is one. -/
theorem Admission.lock_cases {Limiter : Type} {admission : Admission Limiter}
    {bucket after : Bucket} {now : Instant} {next : Option (Admission Limiter)} {told : AdmitStep}
    (locked : admission.lock bucket now = some (after, next, told)) :
    (1 ≤ (bucket.refilled now).tokens ∧ told.granted = true ∧
      after = { bucket.refilled now with tokens := (bucket.refilled now).tokens - 1 }) ∨
    (¬ 1 ≤ (bucket.refilled now).tokens ∧ told.granted = false ∧ after = bucket.refilled now) := by
  by_cases enough : 1 ≤ (bucket.refilled now).tokens
  · left
    cases admission with
    | acquiring limiter waited =>
      rw [Admission.lock, Bucket.acquirePass_of_le _ _ enough] at locked
      cases locked
      exact ⟨enough, rfl, rfl⟩
    | trying limiter =>
      rw [Admission.lock, Bucket.tryAcquire_of_le _ _ enough] at locked
      cases locked
      exact ⟨enough, rfl, rfl⟩
    | sleeping limiter wakeAt => cases locked
  · right
    cases admission with
    | acquiring limiter waited =>
      rw [Admission.lock, Bucket.acquirePass_of_not_le _ _ enough] at locked
      cases locked
      exact ⟨enough, rfl, rfl⟩
    | trying limiter =>
      rw [Admission.lock, Bucket.tryAcquire_of_not_le _ _ enough] at locked
      cases locked
      exact ⟨enough, rfl, rfl⟩
    | sleeping limiter wakeAt => cases locked

section Curve

variable {rate : ℚ} {opened now : Instant} {bucket : Bucket} {grants : List Instant}

theorem Bucket.onCurve_new (rate : Nat) (positive : 1 ≤ rate) (now : Instant) :
    (Bucket.new rate now).OnCurve rate now [] :=
  RateLimiter.tracks_new rate positive now

/-- A bucket on the curve holds a token at a lock section exactly when the curve allows one. -/
theorem Bucket.OnCurve.enough_iff (onCurve : bucket.OnCurve rate opened grants) (nonneg : 0 ≤ rate)
    (ordered : bucket.last ≤ now) :
    1 ≤ (bucket.refilled now).tokens ↔ ∀ start, opened ≤ start → start ≤ now →
      1 + (grantsWithin grants start now : ℚ) ≤ rate + rate * (now - start) :=
  (RateLimiter.Tracks.refilled onCurve nonneg now ordered).le_iff 1

/-- A bucket stays on the curve through the lock section of a `try_acquire`. -/
theorem Bucket.OnCurve.tryAcquire (onCurve : bucket.OnCurve rate opened grants) (nonneg : 0 ≤ rate)
    (ordered : bucket.last ≤ now) :
    (bucket.tryAcquire now).1.OnCurve rate opened
      (grants ++ if (bucket.tryAcquire now).2 then [now] else []) := by
  have trying : (RateLimiter.mk bucket [.trying] grants).Tracks rate opened :=
    ⟨onCurve.max, onCurve.refill, onCurve.begun, onCurve.past, onCurve.level, onCurve.windows⟩
  by_cases enough : 1 ≤ (bucket.refilled now).tokens
  · have taken : (RateLimiter.mk bucket [.trying] grants).lock 0 now =
        some ⟨(bucket.tryAcquire now).1, [.tried true], grants ++ [now]⟩ := by
      simp only [RateLimiter.lock, List.getElem?_cons_zero, Bucket.tryAcquire_of_le _ _ enough]
      rfl
    have locked := trying.lock nonneg 0 now ordered taken
    rw [Bucket.tryAcquire_of_le _ _ enough] at locked ⊢
    exact ⟨locked.max, locked.refill, locked.begun, locked.past, locked.level, locked.windows⟩
  · have taken : (RateLimiter.mk bucket [.trying] grants).lock 0 now =
        some ⟨(bucket.tryAcquire now).1, [.tried false], grants⟩ := by
      simp only [RateLimiter.lock, List.getElem?_cons_zero, Bucket.tryAcquire_of_not_le _ _ enough]
      rfl
    have locked := trying.lock nonneg 0 now ordered taken
    rw [Bucket.tryAcquire_of_not_le _ _ enough] at locked ⊢
    simp only [Bool.false_eq_true, if_false, List.append_nil]
    exact ⟨locked.max, locked.refill, locked.begun, locked.past, locked.level, locked.windows⟩

/-- A bucket stays on the curve through a lock section of either throttle action. -/
theorem Bucket.OnCurve.lock {Limiter : Type} {admission : Admission Limiter} {after : Bucket}
    {next : Option (Admission Limiter)} {told : AdmitStep}
    (onCurve : bucket.OnCurve rate opened grants) (nonneg : 0 ≤ rate)
    (ordered : bucket.last ≤ now) (locked : admission.lock bucket now = some (after, next, told)) :
    after.OnCurve rate opened (grants ++ if told.granted then [now] else []) ∧
      after.last = now := by
  have moved := onCurve.tryAcquire nonneg ordered
  rcases Admission.lock_cases locked with ⟨enough, granted, rfl⟩ | ⟨short, refused, rfl⟩
  · rw [Bucket.tryAcquire_of_le _ _ enough] at moved
    rw [granted]
    exact ⟨moved, rfl⟩
  · rw [Bucket.tryAcquire_of_not_le _ _ short] at moved
    rw [refused]
    exact ⟨moved, rfl⟩

end Curve

/-! ### What an event does to the bucket of a session -/

namespace Inbound

variable {inbound : Inbound} {sessionId : String} {rate : ℚ} {opened : Instant}
  {grants instants : List Instant} {ptr : Nat}

theorem Metered.mono (metered : inbound.Metered sessionId rate opened grants instants ptr)
    {more : List Instant} (subset : instants ⊆ more) :
    inbound.Metered sessionId rate opened grants more ptr := by
  obtain ⟨bucket, found, onCurve, last⟩ := metered.bucket
  exact ⟨metered.allocated, metered.only, metered.apart, bucket, found, onCurve, subset last⟩

/-- A callback that does not bind the session leaves its bucket alone. -/
theorem Metered.callback (metered : inbound.Metered sessionId rate opened grants instants ptr)
    (callback : Callback) (now : Instant)
    (other : (InboundEvent.callback callback now).bindsAt sessionId = none) :
    (inbound.callback callback now).Metered sessionId rate opened grants instants ptr := by
  have grows : inbound.state.nextPtr ≤ (inbound.callback callback now).state.nextPtr :=
    inbound.state.nextPtr_le_callback callback
  have allocated := metered.allocated
  refine ⟨allocated.trans_le grows, fun limiter held => ?_, fun actor limiter held same => ?_, ?_⟩
  · rcases holds_of_callback held with old | ⟨owner, new, fresh⟩
    · exact metered.only limiter old
    · cases callback with
      | esmeBound esme =>
        rw [InboundEvent.bindsAt, if_pos (Option.some.inj owner)] at other
        cases other
      | esmeUnbound left => exact absurd fresh (by simp [Inbound.callback, State.callback,
          State.onEsmeUnbound])
      | smscBound listener smsc => cases owner
      | smscUnbound listener left => cases owner
  · rcases holds_of_callback held with old | ⟨_, new, _⟩
    · exact metered.apart actor limiter old same
    · omega
  · obtain ⟨bucket, found, onCurve, last⟩ := metered.bucket
    exact ⟨bucket, (buckets_callback callback now allocated).trans found, onCurve, last⟩

/-- What is confined to another session leaves the bucket alone. -/
theorem Metered.confined (metered : inbound.Metered sessionId rate opened grants instants ptr)
    {after : Inbound} {actor : String} (confined : inbound.Confined after actor)
    (same : after.buckets ptr = inbound.buckets ptr) :
    after.Metered sessionId rate opened grants instants ptr := by
  obtain ⟨bucket, found, onCurve, last⟩ := metered.bucket
  refine ⟨confined.state ▸ metered.allocated, fun limiter held => ?_, fun other limiter held => ?_,
    bucket, same.trans found, onCurve, last⟩
  · exact metered.only limiter (confined.holds_before held)
  · exact metered.apart other limiter (confined.holds_before held)

theorem tokenAt_of_not_attempt {event : InboundEvent}
    (elsewhere : event.attemptsAt sessionId = none) : inbound.tokenAt sessionId event = [] := by
  rw [tokenAt, elsewhere]
  exact ite_self _

/-- Only a lock section moves a bucket. -/
theorem buckets_step (inbound : Inbound) {event : InboundEvent} (actor : String)
    (whose : event.session = some actor) (ptr : Nat)
    (quiet : ∀ pdu now, event ≠ .lock actor pdu now)
    (notCallback : ∀ callback now, event ≠ .callback callback now) :
    (inbound.step event).1.buckets ptr = inbound.buckets ptr := by
  cases event with
  | callback callback now => exact absurd rfl (notCallback callback now)
  | arrive sender pdu =>
    rw [step]
    split
    · rfl
    · split
      · rfl
      · rfl
  | lock sender pdu now =>
    cases whose
    exact absurd rfl (quiet pdu now)
  | wake sender pdu now =>
    rw [step]
    split
    · rfl
    · rfl

/-- A lock section does nothing for a PDU that is not about to take the lock, and tells any other one
how its limiter decided. -/
theorem step_lock (inbound : Inbound) (sessionId : String) (pdu : Nat) (now : Instant) :
    inbound.step (.lock sessionId pdu now) = (inbound, []) ∨
    ∃ admission bucket after next told, inbound.pending sessionId pdu = some admission ∧
      inbound.buckets admission.limiter.ptr = some bucket ∧
      admission.lock bucket now = some (after, next, told) ∧
      inbound.step (.lock sessionId pdu now) =
        ({ inbound.stand sessionId pdu next with
            buckets := Function.update inbound.buckets admission.limiter.ptr (some after) },
          [(sessionId, pdu, told)]) := by
  rw [step]
  cases standing : inbound.pending sessionId pdu with
  | none => exact Or.inl rfl
  | some admission =>
    dsimp only
    cases found : inbound.buckets admission.limiter.ptr with
    | none => exact Or.inl rfl
    | some bucket =>
      rw [Option.bind_some]
      cases locked : admission.lock bucket now with
      | none => exact Or.inl rfl
      | some done =>
        obtain ⟨after, next, told⟩ := done
        exact Or.inr ⟨admission, bucket, after, next, told, rfl, found, locked, rfl⟩

/-- A lock section of the session moves its bucket along the curve. -/
theorem Metered.lock (metered : inbound.Metered sessionId rate opened grants instants ptr)
    (nonneg : 0 ≤ rate) (pdu : Nat) (now : Instant) (ordered : ∀ past ∈ instants, past ≤ now)
    (confined : inbound.Confined (inbound.step (.lock sessionId pdu now)).1 sessionId) :
    (inbound.step (.lock sessionId pdu now)).1.Metered sessionId rate opened
      (grants ++ inbound.tokenAt sessionId (.lock sessionId pdu now)) (instants ++ [now]) ptr := by
  have attempt : (InboundEvent.lock sessionId pdu now).attemptsAt sessionId = some now :=
    if_pos rfl
  obtain ⟨bucket, found, onCurve, last⟩ := metered.bucket
  have moved : ∃ bucket, (inbound.step (.lock sessionId pdu now)).1.buckets ptr = some bucket ∧
      bucket.OnCurve rate opened
        (grants ++ inbound.tokenAt sessionId (.lock sessionId pdu now)) ∧
      bucket.last ∈ instants ++ [now] := by
    rw [tokenAt, attempt]
    rcases inbound.step_lock sessionId pdu now with idle | ⟨admission, was, after, next, told,
      standing, stored, locked, stepped⟩
    · rw [idle]
      refine ⟨bucket, found, ?_, List.mem_append_left _ last⟩
      simpa using onCurve
    · have mine : admission.limiter.ptr = ptr :=
        metered.only _ (Or.inr ⟨pdu, admission, standing, rfl⟩)
      rw [mine, found, Option.some.injEq] at stored
      subst stored
      obtain ⟨stays, atNow⟩ := onCurve.lock nonneg (ordered _ last) locked
      rw [stepped, mine]
      refine ⟨after, Function.update_self _ _ _, ?_, ?_⟩
      · simpa using stays
      · rw [atNow]
        exact List.mem_append_right _ (List.mem_singleton_self now)
  refine ⟨confined.state ▸ metered.allocated, fun limiter held => ?_, fun other limiter held => ?_,
    moved⟩
  · exact metered.only limiter (confined.holds_before held)
  · exact metered.apart other limiter (confined.holds_before held)

/-- Every event but another bound callback of the session keeps its PDUs on the curve. -/
theorem Metered.step (metered : inbound.Metered sessionId rate opened grants instants ptr)
    (nonneg : 0 ≤ rate) (event : InboundEvent) (other : event.bindsAt sessionId = none)
    (ordered : ∀ now, event.instant = some now → ∀ past ∈ instants, past ≤ now) :
    (inbound.step event).1.Metered sessionId rate opened
      (grants ++ inbound.tokenAt sessionId event) (instants ++ event.instant.toList) ptr := by
  rcases inbound.step_cases event with ⟨callback, now, rfl⟩ | ⟨actor, whose, confined, _⟩
  · rw [tokenAt_of_not_attempt rfl, List.append_nil]
    exact (metered.callback callback now other).mono (List.subset_append_left _ _)
  · by_cases mine : actor = sessionId
    · subst mine
      cases event with
      | callback callback now =>
        rw [tokenAt_of_not_attempt rfl, List.append_nil]
        exact (metered.callback callback now other).mono (List.subset_append_left _ _)
      | arrive sender pdu =>
        rw [tokenAt_of_not_attempt rfl, List.append_nil]
        exact (metered.confined confined
          (buckets_step inbound actor whose ptr nofun nofun)).mono (List.subset_append_left _ _)
      | lock sender pdu now =>
        cases whose
        exact metered.lock nonneg pdu now (ordered now rfl) confined
      | wake sender pdu now =>
        rw [tokenAt_of_not_attempt rfl, List.append_nil]
        exact (metered.confined confined
          (buckets_step inbound actor whose ptr nofun nofun)).mono (List.subset_append_left _ _)
    · have elsewhere : event.attemptsAt sessionId = none := by
        cases event with
        | lock sender pdu now =>
          cases whose
          exact if_neg mine
        | _ => rfl
      rw [tokenAt_of_not_attempt elsewhere, List.append_nil]
      refine (metered.confined confined ?_).mono (List.subset_append_left _ _)
      rcases confined.buckets ptr with same | ⟨limiter, held, place⟩
      · exact same
      · exact absurd (metered.apart actor limiter held place) mine

/-- Before its bound callback a session has no limiter. -/
theorem Unmetered.step (unmetered : inbound.Unmetered sessionId) (event : InboundEvent)
    (other : event.bindsAt sessionId = none) : (inbound.step event).1.Unmetered sessionId := by
  intro limiter held
  rcases inbound.step_cases event with ⟨callback, now, rfl⟩ | ⟨actor, _, confined, _⟩
  · rcases holds_of_callback held with old | ⟨owner, new, fresh⟩
    · exact unmetered limiter old
    · cases callback with
      | esmeBound esme =>
        rw [InboundEvent.bindsAt, if_pos (Option.some.inj owner)] at other
        cases other
      | esmeUnbound left => exact absurd fresh (by simp [Inbound.callback, State.callback,
          State.onEsmeUnbound])
      | smscBound listener smsc => cases owner
      | smscUnbound listener left => cases owner
  · exact unmetered limiter (confined.holds_before held)

/-- Nobody takes a token for a session that has no limiter. -/
theorem Unmetered.tokenAt (unmetered : inbound.Unmetered sessionId) (event : InboundEvent) :
    inbound.tokenAt sessionId event = [] := by
  cases event with
  | lock sender pdu now =>
    by_cases mine : sender = sessionId
    · subst mine
      have absent : inbound.pending sender pdu = none := by
        cases standing : inbound.pending sender pdu with
        | none => rfl
        | some admission => exact absurd (Or.inr ⟨pdu, admission, standing, rfl⟩) (unmetered _)
      rw [Inbound.tokenAt, Inbound.step, absent]
      rfl
    · exact tokenAt_of_not_attempt (if_neg mine)
  | _ => exact tokenAt_of_not_attempt rfl

/-- The bound callback of a session opens its curve. -/
theorem Unmetered.bound (unmetered : inbound.Unmetered sessionId) (separate : inbound.Separate)
    (positive : 1 ≤ inbound.state.inboundMaxMps) (event : InboundEvent) (now : Instant)
    (binds : event.bindsAt sessionId = some now) :
    (inbound.step event).1.Metered sessionId inbound.state.inboundMaxMps now [] [now]
      (inbound.state.nextPtr + 1) := by
  obtain ⟨esme, mine, rfl⟩ : ∃ esme : Esme, esme.sessionId = sessionId ∧
      event = .callback (.esmeBound esme) now := by
    unfold InboundEvent.bindsAt at binds
    split at binds
    · rename_i esme at_
      split at binds
      · rename_i same
        cases binds
        exact ⟨esme, same, rfl⟩
      · cases binds
    · cases binds
  have made : inbound.state.newLimiter (.esmeBound esme) =
      some ⟨inbound.state.nextPtr + 1, inbound.state.inboundMaxMps⟩ :=
    if_pos positive
  refine ⟨Nat.lt_succ_self _, fun limiter held => ?_, fun other limiter held same => ?_, ?_⟩
  · rcases holds_of_callback held with old | ⟨_, new, _⟩
    · exact absurd old (unmetered limiter)
    · exact new
  · rcases holds_of_callback held with old | ⟨owner, _, _⟩
    · have below := separate.allocated other limiter old
      omega
    · exact (Option.some.inj owner).symm.trans mine
  · refine ⟨.new inbound.state.inboundMaxMps now, ?_, Bucket.onCurve_new _ positive now,
      List.mem_singleton_self now⟩
    show addBucket inbound.buckets (inbound.state.newLimiter (.esmeBound esme)) now _ = _
    rw [made]
    exact Function.update_self _ _ _

/-! ### Whole runs -/

/-- The cap and the action are those the server started with. -/
theorem step_settings (inbound : Inbound) (event : InboundEvent) :
    (inbound.step event).1.state.inboundMaxMps = inbound.state.inboundMaxMps ∧
      (inbound.step event).1.state.inboundThrottleAction = inbound.state.inboundThrottleAction := by
  rcases inbound.step_cases event with ⟨callback, now, rfl⟩ | ⟨_, _, confined, _⟩
  · cases callback <;> exact ⟨rfl, rfl⟩
  · exact ⟨congrArg State.inboundMaxMps confined.state,
      congrArg State.inboundThrottleAction confined.state⟩

theorem run_settings (inbound : Inbound) (events : List InboundEvent) :
    (inbound.run events).state.inboundMaxMps = inbound.state.inboundMaxMps ∧
      (inbound.run events).state.inboundThrottleAction = inbound.state.inboundThrottleAction := by
  induction events generalizing inbound with
  | nil => exact ⟨rfl, rfl⟩
  | cons event later inductionHypothesis =>
    obtain ⟨rate, action⟩ := inductionHypothesis (inbound.step event).1
    obtain ⟨sameRate, sameAction⟩ := inbound.step_settings event
    exact ⟨rate.trans sameRate, action.trans sameAction⟩

/-- Until its bound callback a session has no limiter and takes no tokens. -/
theorem Unmetered.run (unmetered : inbound.Unmetered sessionId) (events : List InboundEvent)
    (others : events.filterMap (InboundEvent.bindsAt sessionId) = []) :
    (inbound.run events).Unmetered sessionId ∧ inbound.tokens sessionId events = [] := by
  induction events generalizing inbound with
  | nil => exact ⟨unmetered, rfl⟩
  | cons event later inductionHypothesis =>
    rw [List.filterMap_eq_nil_iff] at others
    have other := others event List.mem_cons_self
    obtain ⟨still, none⟩ := inductionHypothesis (unmetered.step event other)
      (List.filterMap_eq_nil_iff.mpr fun next member =>
        others next (List.mem_cons_of_mem event member))
    exact ⟨still, by rw [tokens, unmetered.tokenAt, none, List.append_nil]⟩

/-- In every run, the PDUs of a session that was bound once are held against one bucket, which
stands on the curve that opened when the session was bound. -/
theorem metered_run (separate : inbound.Separate) (unmetered : inbound.Unmetered sessionId)
    (positive : 1 ≤ inbound.state.inboundMaxMps) (events : List InboundEvent)
    (chronological : Chronological events)
    (once : events.filterMap (InboundEvent.bindsAt sessionId) = [opened]) :
    ∃ ptr, (inbound.run events).Metered sessionId inbound.state.inboundMaxMps opened
      (inbound.tokens sessionId events) (events.filterMap InboundEvent.instant) ptr := by
  induction events using List.reverseRecOn with
  | nil => cases once
  | append_singleton front event inductionHypothesis =>
    rw [Chronological, List.filterMap_append, List.pairwise_append] at chronological
    obtain ⟨chronologicalFront, _, ordered⟩ := chronological
    have instants : [event].filterMap InboundEvent.instant = event.instant.toList := by
      rw [List.filterMap_cons]
      cases event.instant with
      | none => rfl
      | some now => rfl
    rw [run_append, tokens_append, tokens_singleton, List.filterMap_append, instants]
    rw [List.filterMap_append] at once
    cases binds : event.bindsAt sessionId with
    | none =>
      have before : front.filterMap (InboundEvent.bindsAt sessionId) = [opened] := by
        rwa [List.filterMap_cons, binds, List.filterMap_nil, List.append_nil] at once
      obtain ⟨ptr, metered⟩ := inductionHypothesis chronologicalFront before
      refine ⟨ptr, metered.step (Nat.cast_nonneg _) event binds ?_⟩
      intro now reads past member
      refine ordered past member now ?_
      rw [instants, reads]
      exact List.mem_singleton_self now
    | some now =>
      rw [List.filterMap_cons, binds, List.filterMap_nil] at once
      have alone : front.filterMap (InboundEvent.bindsAt sessionId) = [] ∧ now = opened := by
        cases first : front.filterMap (InboundEvent.bindsAt sessionId) with
        | nil =>
          rw [first] at once
          exact ⟨rfl, (List.cons.inj once).1⟩
        | cons other rest =>
          rw [first] at once
          exact absurd (List.cons.inj once).2 (List.append_ne_nil_of_right_ne_nil _ nofun)
      obtain ⟨before, none⟩ := unmetered.run front alone.1
      have rate := (inbound.run_settings front).1
      have opens := before.bound (separate_run separate front) (rate ▸ positive) event now binds
      rw [rate, alone.2] at opens
      rw [none, before.tokenAt]
      refine ⟨_, opens.mono ?_⟩
      have reads : event.instant = some now := by
        cases event with
        | callback callback at_ =>
          cases callback with
          | esmeBound esme =>
            rw [InboundEvent.bindsAt] at binds
            split at binds
            · exact binds
            · cases binds
          | _ => cases binds
        | _ => cases binds
      rw [reads, alone.2]
      exact List.subset_append_right _ _

/-- Every PDU that is being admitted goes through the call its throttle action stands for. -/
def Applied (inbound : Inbound) : Prop :=
  ∀ sessionId pdu admission, inbound.pending sessionId pdu = some admission →
    ((∃ limiter, admission = .trying limiter) ↔ inbound.state.inboundThrottleAction = .reject)

theorem Applied.stand (applied : inbound.Applied) (sessionId : String) (pdu : Nat)
    {next : Option (Admission LimiterHandle)}
    (follows : ∀ admission, next = some admission →
      ((∃ limiter, admission = .trying limiter) ↔
        inbound.state.inboundThrottleAction = .reject)) :
    (inbound.stand sessionId pdu next).Applied := by
  intro actor number admission standing
  by_cases mine : actor = sessionId
  · subst mine
    have here : Function.update (inbound.pending actor) pdu next number = some admission := by
      rw [← standing]
      exact (congrFun (Function.update_self actor _ inbound.pending) number).symm
    by_cases same : number = pdu
    · rw [same, Function.update_self] at here
      exact follows admission here
    · rw [Function.update_of_ne same] at here
      exact applied actor number admission here
  · refine applied actor number admission ?_
    rw [← standing]
    exact (congrFun (Function.update_of_ne mine _ inbound.pending) number).symm

theorem Applied.step (applied : inbound.Applied) (event : InboundEvent) :
    (inbound.step event).1.Applied := by
  cases event with
  | callback callback now =>
    intro sessionId pdu admission standing
    rw [(inbound.step_settings _).2]
    exact applied sessionId pdu admission standing
  | arrive sessionId pdu =>
    rw [Inbound.step]
    split
    · exact applied
    · split
      · exact applied
      · refine applied.stand sessionId pdu fun admission standing => ?_
        cases standing
        cases inbound.state.inboundThrottleAction <;> simp [Admission.apply]
  | lock sessionId pdu now =>
    rcases inbound.step_lock sessionId pdu now with idle | ⟨admission, bucket, after, next, told,
      standing, _, locked, stepped⟩
    · rw [idle]
      exact applied
    · rw [stepped]
      have stood : (inbound.stand sessionId pdu next).Applied :=
        applied.stand sessionId pdu fun later stays => ?_
      · exact stood
      · -- only an `acquire` goes on after a lock section
        have before := applied sessionId pdu admission standing
        rw [stays] at locked
        cases admission with
        | acquiring limiter waited =>
          rw [Admission.lock] at locked
          generalize bucket.acquirePass now = pass at locked
          obtain ⟨left, granted | duration⟩ := pass
          · cases locked
          · cases locked
            simpa using before
        | sleeping limiter wakeAt => cases locked
        | trying limiter =>
          rw [Admission.lock] at locked
          generalize bucket.tryAcquire now = answer at locked
          obtain ⟨left, _ | _⟩ := answer
          · cases locked
          · cases locked
  | wake sessionId pdu now =>
    rw [Inbound.step]
    split
    · exact applied
    · rename_i next woken
      obtain ⟨admission, standing, wakes⟩ := Option.bind_eq_some_iff.mp woken
      refine applied.stand sessionId pdu fun later stays => ?_
      cases stays
      have before := applied sessionId pdu admission standing
      cases admission with
      | acquiring limiter waited => cases wakes
      | sleeping limiter wakeAt =>
        simp only [Admission.wake] at wakes
        split at wakes
        · cases wakes
          simpa using before
        · cases wakes
      | trying limiter => cases wakes

theorem Applied.run (applied : inbound.Applied) (events : List InboundEvent) :
    (inbound.run events).Applied := by
  induction events generalizing inbound with
  | nil => exact applied
  | cons event later inductionHypothesis => exact inductionHypothesis (applied.step event)

/-- A PDU is told that it is over the cap exactly when `try_acquire` finds no token for it. -/
theorem told_throttled_iff {Limiter : Type} {admission : Admission Limiter} {bucket after : Bucket}
    {now : Instant} {next : Option (Admission Limiter)} {told : AdmitStep}
    (locked : admission.lock bucket now = some (after, next, told)) :
    told = .throttled ↔ (∃ limiter, admission = .trying limiter) ∧ told.granted = false := by
  cases admission with
  | acquiring limiter waited =>
    rw [Admission.lock] at locked
    generalize bucket.acquirePass now = pass at locked
    obtain ⟨left, granted | duration⟩ := pass
    · cases locked
      simp
    · cases locked
      simp
  | sleeping limiter wakeAt => cases locked
  | trying limiter =>
    rw [Admission.lock] at locked
    generalize bucket.tryAcquire now = answer at locked
    obtain ⟨left, _ | _⟩ := answer
    · cases locked
      simp [AdmitStep.granted]
    · cases locked
      simp [AdmitStep.granted]

end Inbound

/-! ### What a session can count on -/

/-- In every run of the ingress, whatever other sessions do, the PDUs of a session that was bound
once are metered by one arrival curve that opened when it was bound. A lock section grants a PDU
its token exactly when every window still allows one beyond the tokens the session took before; a
PDU is throttled exactly when there is none and the action is to reject; a session that keeps its
attempts within the curve is granted every one of them; and no window ever sees more tokens taken
than the curve allows. -/
theorem admissions_follow_curve (rate : Nat) (positive : 1 ≤ rate) (action : ThrottleAction)
    (responseTimer : Duration) (events : List InboundEvent) (sessionId : String) (opened : Instant)
    (once : events.filterMap (InboundEvent.bindsAt sessionId) = [opened]) (pdu : Nat)
    (now : Instant) (chronological : Chronological (events ++ [.lock sessionId pdu now]))
    (told : AdmitStep)
    (answered : (((Inbound.new rate action responseTimer).run events).step
      (.lock sessionId pdu now)).2 = [(sessionId, pdu, told)]) :
    let inbound := Inbound.new rate action responseTimer
    let allows (taken : List Instant) : Prop := ∀ start, opened ≤ start → start ≤ now →
      1 + (grantsWithin taken start now : ℚ) ≤ rate + rate * (now - start)
    (told.granted = true ↔ allows (inbound.tokens sessionId events)) ∧
    (told = .throttled ↔
      action = .reject ∧ ¬ allows (inbound.tokens sessionId events)) ∧
    (allows (events.filterMap (InboundEvent.attemptsAt sessionId)) → told.granted = true) ∧
    ∀ start stop, opened ≤ start → start ≤ stop →
      (grantsWithin (inbound.tokens sessionId (events ++ [.lock sessionId pdu now])) start stop : ℚ) ≤
        rate + rate * (stop - start) := by
  intro inbound allows
  have unmetered : inbound.Unmetered sessionId := by
    rintro limiter (⟨entry, member, _⟩ | ⟨number, admission, standing, _⟩)
    · cases member
    · cases standing
  have separate : inbound.Separate := Inbound.separate_new rate action responseTimer
  have applied : inbound.Applied := fun _ _ _ standing => nomatch standing
  have append : (events ++ [InboundEvent.lock sessionId pdu now]).filterMap
      (InboundEvent.bindsAt sessionId) = [opened] := by
    rw [List.filterMap_append, once]
    rfl
  obtain ⟨_, meteredAfter⟩ := Inbound.metered_run separate unmetered positive _ chronological append
  rw [Chronological, List.filterMap_append, List.pairwise_append] at chronological
  obtain ⟨chronologicalBefore, _, ordered⟩ := chronological
  obtain ⟨ptr, metered⟩ :=
    Inbound.metered_run separate unmetered positive events chronologicalBefore once
  rcases (inbound.run events).step_lock sessionId pdu now with idle | ⟨admission, bucket, after, next,
    other, standing, stored, locked, stepped⟩
  · rw [idle] at answered
    cases answered
  · rw [stepped] at answered
    cases answered
    obtain ⟨own, found, onCurve, last⟩ := metered.bucket
    have mine := metered.only _ (Or.inr ⟨pdu, admission, standing, rfl⟩)
    rw [mine, found, Option.some.injEq] at stored
    subst stored
    have nonneg : (0 : ℚ) ≤ rate := Nat.cast_nonneg rate
    have decided : told.granted = true ↔ allows (inbound.tokens sessionId events) := by
      have enoughIff := onCurve.enough_iff nonneg (ordered _ last now (List.mem_singleton_self now))
      refine Iff.trans ?_ enoughIff
      rcases Admission.lock_cases locked with ⟨enough, granted, _⟩ | ⟨short, refused, _⟩
      · exact iff_of_true granted enough
      · exact iff_of_false (Bool.eq_false_iff.mp refused) short
    have acting : (∃ limiter, admission = .trying limiter) ↔ action = .reject := by
      rw [applied.run events sessionId pdu admission standing, (inbound.run_settings events).2]
      rfl
    refine ⟨decided, ?_, fun conforming => decided.mpr ?_, ?_⟩
    · rw [Inbound.told_throttled_iff locked, acting, ← decided, Bool.not_eq_true]
    · intro start early late
      have fewer : grantsWithin (inbound.tokens sessionId events) start now ≤
          grantsWithin (events.filterMap (InboundEvent.attemptsAt sessionId)) start now :=
        (inbound.tokens_sublist sessionId events).countP_le
      have bound := conforming start early late
      have castFewer : (grantsWithin (inbound.tokens sessionId events) start now : ℚ) ≤
          grantsWithin (events.filterMap (InboundEvent.attemptsAt sessionId)) start now :=
        Nat.cast_le.mpr fewer
      linarith
    · obtain ⟨_, _, curveAfter, _⟩ := meteredAfter.bucket
      exact curveAfter.windows

/-- At one message a second, the second of two messages a session sends at once is throttled, however
many another session sends. -/
theorem admissions_follow_curve_throttled :
    let bind (sessionId : String) : InboundEvent :=
      .callback (.esmeBound ⟨sessionId, "esme", "", true⟩) 0
    let events := [bind "a", bind "b", .arrive "b" 0, .lock "b" 0 0, .arrive "a" 0, .lock "a" 0 0,
      .arrive "a" 1]
    (Inbound.new 1 .reject 5).tokens "a" events = [0] ∧
      ¬ ∀ start, (0 : Instant) ≤ start → start ≤ 0 →
        1 + (grantsWithin [(0 : Instant)] start 0 : ℚ) ≤ (1 : Nat) + (1 : Nat) * (0 - start) := by
  intro bind events
  have taken : (Inbound.new 1 .reject 5).tokens "a" events = [0] := by decide +kernel
  have chronological : Chronological (events ++ [.lock "a" 1 0]) := by
    rw [Chronological]
    decide +kernel
  have curve := admissions_follow_curve 1 le_rfl .reject 5 events "a" 0 (by decide +kernel) 1 0
    chronological .throttled (by decide +kernel)
  have throttled := curve.2.1.mp rfl
  rw [taken] at throttled
  exact ⟨taken, throttled.2⟩

end SiphonSmpp
