/-
This file proves that a paced `acquire` waits for the right time and comes to an
end. A pass that finds less than one token computes how long the level takes to
reach one. The passes of a call over a run are listed with the grants that other
calls got since its pass before, which is the time it was asleep.

The level at a pass depends on the grants only. So whatever refills the sections
of other calls made, a call that slept out its wait finds its token unless one of
them took it, and every pass that is refused after a sleep can be charged to a
grant in that sleep.
-/

import Mathlib.Data.List.Chain
import SiphonSmpp.RateLimiter

namespace SiphonSmpp

open ArrivalCurve

/-! ### The wait of a refused pass -/

/-- A rate of zero is taken for one. -/
theorem RateLimiter.new_clamped (rate : Nat) (origin : Instant) :
    RateLimiter.new (max rate 1) origin = RateLimiter.new rate origin := by
  rw [RateLimiter.new, RateLimiter.new, Bucket.new, Bucket.new, max_assoc, max_self]

theorem RateLimiter.tracks_clamped (rate : Nat) (origin : Instant) (limiter : RateLimiter)
    (reachable : (RateLimiter.new rate origin).Reachable limiter) :
    limiter.Tracks (max rate 1 : Nat) origin := by
  rw [← RateLimiter.new_clamped] at reachable
  exact tracks_of_reachable (max rate 1) (le_max_right _ _) origin limiter reachable

section Wait

variable {rate : ℚ} {origin : Instant} {limiter : RateLimiter}

/-- No more tokens were granted than there were. -/
theorem RateLimiter.Tracks.refilled_nonneg (tracks : limiter.Tracks rate origin) (nonneg : 0 ≤ rate)
    (now : Instant) (ordered : limiter.inner.last ≤ now) :
    0 ≤ (limiter.inner.refilled now).tokens := by
  obtain ⟨start, early, late, attained⟩ := (tracks.refilled nonneg now ordered).1
  have windows := tracks.windows start now early late
  rw [attained, allowance]
  linarith

/-- A pass that finds less than one token waits until an untouched bucket holds one: for some time,
and for no longer than a single token takes. -/
theorem RateLimiter.Tracks.wait (tracks : limiter.Tracks rate origin) (positive : 1 ≤ rate)
    (now : Instant) (ordered : limiter.inner.last ≤ now)
    (short : (limiter.inner.refilled now).tokens < 1) :
    ∃ wait, limiter.inner.acquirePass now = (limiter.inner.refilled now, .wait wait) ∧
      0 < wait ∧ wait ≤ 1 / rate ∧
      ∀ later, now ≤ later →
        (1 ≤ ((limiter.inner.refilled now).refilled later).tokens ↔ now + wait ≤ later) := by
  have above : 0 < rate := lt_of_lt_of_le one_pos positive
  have level := tracks.refilled_nonneg above.le now ordered
  refine ⟨(1 - (limiter.inner.refilled now).tokens) / rate, ?_, ?_, ?_, ?_⟩
  · rw [Bucket.acquirePass_of_not_le _ _ (not_le.mpr short), tracks.refill]
  · exact div_pos (sub_pos.mpr short) above
  · exact div_le_div_of_nonneg_right (by linarith) above.le
  · intro later notBefore
    have elapsed : durationSince later now = later - now := max_eq_left (sub_nonneg.mpr notBefore)
    rw [← le_min_advance_iff above positive, ← elapsed]
    show 1 ≤ min ((limiter.inner.refilled now).tokens +
      durationSince later now * limiter.inner.refillPerSec) limiter.inner.max ↔ _
    rw [tracks.refill, tracks.max]

end Wait

/-! ### The passes of a call -/

/-- A pass of an `acquire`: the grants that other calls got since its pass before, its instant, the
level it finds, and how it ends. -/
structure AcquirePass where
  since : List (Nat × Instant)
  now : Instant
  level : ℚ
  result : Pass
  deriving DecidableEq, Repr

/-- The pass that a lock section of an `acquire` makes. -/
def RateLimiter.passAt (limiter : RateLimiter) (since : List (Nat × Instant)) (now : Instant) :
    AcquirePass :=
  ⟨since, now, (limiter.inner.refilled now).tokens, (limiter.inner.acquirePass now).2⟩

/-- The instant of an event that is a lock section of a call. -/
def LimiterEvent.passOf (call : Nat) : LimiterEvent → Option Instant
  | .lock other now => if other = call then some now else none
  | _ => none

/-- The grant that an event leading to a limiter has made. -/
def RateLimiter.grantOf (after : RateLimiter) : LimiterEvent → List (Nat × Instant)
  | .lock call now => if (after.calls[call]?).any Call.granted then [(call, now)] else []
  | _ => []

/-- The passes of an `acquire` over a list of events, from a limiter on which other calls were
granted tokens since its last pass. -/
def RateLimiter.passesFrom (call : Nat) (since : List (Nat × Instant)) (limiter : RateLimiter) :
    List LimiterEvent → List AcquirePass
  | [] => []
  | event :: rest =>
    match limiter.step event with
    | none => []
    | some after =>
      match event.passOf call with
      | some now => limiter.passAt since now :: passesFrom call [] after rest
      | none => passesFrom call (since ++ after.grantOf event) after rest

/-- The passes of an `acquire` from when it is made. -/
def RateLimiter.passes (limiter : RateLimiter) (call : Nat) (events : List LimiterEvent) :
    List AcquirePass :=
  limiter.passesFrom call [] events

theorem LimiterEvent.passOf_eq_some_iff (call : Nat) (event : LimiterEvent) (now : Instant) :
    event.passOf call = some now ↔ event = .lock call now := by
  cases event with
  | lock other instant => simp [LimiterEvent.passOf]
  | _ => exact iff_of_false nofun nofun

/-! ### What an event does to a call -/

section Event

variable {limiter after : RateLimiter} {event : LimiterEvent}

/-- A lock section moves its own call only. -/
theorem RateLimiter.lock_calls {call : Nat} {now : Instant}
    (locked : limiter.lock call now = some after) :
    ∃ status, after.calls = limiter.calls.set call status := by
  unfold RateLimiter.lock at locked
  split at locked
  · split at locked
    · cases locked
      exact ⟨_, rfl⟩
    · cases locked
      exact ⟨_, rfl⟩
  · split at locked
    · cases locked
      exact ⟨_, rfl⟩
    · cases locked
      exact ⟨_, rfl⟩
  · cases locked

/-- Between its passes a call is left as it is, or woken. -/
theorem RateLimiter.step_standing {call : Nat} {status : Call}
    (stepped : limiter.step event = some after) (elsewhere : event.passOf call = none)
    (standing : limiter.calls[call]? = some status) :
    after.calls[call]? = some status ∨
      (∃ wakeAt, status = .sleeping wakeAt) ∧ after.calls[call]? = some (.acquiring true) := by
  obtain ⟨bound, _⟩ := List.getElem?_eq_some_iff.mp standing
  cases event with
  | acquire =>
    cases stepped
    exact Or.inl ((List.getElem?_append_left bound).trans standing)
  | tryAcquire =>
    cases stepped
    exact Or.inl ((List.getElem?_append_left bound).trans standing)
  | lock other now =>
    have apart : other ≠ call := by
      rintro rfl
      rw [(LimiterEvent.passOf_eq_some_iff other _ now).mpr rfl] at elsewhere
      cases elsewhere
    obtain ⟨_, calls⟩ := lock_calls ((limiter.step_lock_iff after other now).mp stepped).2
    rw [calls, List.getElem?_set_ne apart]
    exact Or.inl standing
  | wake other =>
    rw [RateLimiter.step] at stepped
    split at stepped
    · rename_i wakeAt asleep
      cases stepped
      by_cases same : other = call
      · subst same
        rw [standing] at asleep
        exact Or.inr ⟨⟨wakeAt, Option.some.inj asleep⟩, List.getElem?_set_self bound⟩
      · exact Or.inl ((List.getElem?_set_ne same).trans standing)
    · cases stepped

theorem RateLimiter.grantOf_eq_nil (elsewhere : ∀ call now, event ≠ .lock call now) :
    after.grantOf event = [] := by
  cases event with
  | lock call now => exact absurd rfl (elsewhere call now)
  | _ => rfl

/-- What an event grants is on record, at an instant it takes the clock to. -/
theorem RateLimiter.step_grants (stepped : limiter.step event = some after) :
    after.grants = limiter.grants ++ (after.grantOf event).map Prod.snd ∧
    limiter.inner.last ≤ after.inner.last ∧
    ∀ grant ∈ after.grantOf event, event.passOf grant.1 = some grant.2 ∧
      limiter.inner.last ≤ grant.2 ∧ grant.2 ≤ after.inner.last := by
  rcases step_cases stepped with ⟨call, now, rfl, ordered, locked⟩ | ⟨elsewhere, inner, grants⟩
  · rcases limiter.lock_cases after call now locked with granted | refused
    · have last : after.inner.last = now := by
        rw [granted.inner]
        rfl
      rw [RateLimiter.grantOf, granted.call, if_pos rfl, granted.grants, last]
      refine ⟨rfl, ordered, List.forall_mem_singleton.mpr ⟨?_, ordered, le_rfl⟩⟩
      exact (LimiterEvent.passOf_eq_some_iff call _ now).mpr rfl
    · have last : after.inner.last = now := by
        rw [refused.inner]
        rfl
      rw [RateLimiter.grantOf, refused.call, if_neg Bool.false_ne_true, refused.grants, last]
      exact ⟨(List.append_nil _).symm, ordered, fun _ member => absurd member List.not_mem_nil⟩
  · rw [grantOf_eq_nil elsewhere, inner, grants]
    exact ⟨(List.append_nil _).symm, le_rfl, fun _ member => absurd member List.not_mem_nil⟩

/-- A pass ends with the token when there is one, and asleep when there is none. -/
theorem RateLimiter.step_pass {call : Nat} {now : Instant}
    (stepped : limiter.step (.lock call now) = some after) {waited : Bool}
    (standing : limiter.calls[call]? = some (.acquiring waited)) :
    limiter.inner.last ≤ now ∧
      ((1 ≤ (limiter.inner.refilled now).tokens ∧ (limiter.inner.acquirePass now).2 = .granted ∧
          after.calls[call]? = some (.acquired waited)) ∨
        ((limiter.inner.refilled now).tokens < 1 ∧
          (limiter.inner.acquirePass now).2 =
            .wait ((1 - (limiter.inner.refilled now).tokens) / limiter.inner.refillPerSec) ∧
          after.inner = limiter.inner.refilled now ∧ after.grants = limiter.grants ∧
          ∃ wakeAt, after.calls[call]? = some (.sleeping wakeAt))) := by
  obtain ⟨bound, _⟩ := List.getElem?_eq_some_iff.mp standing
  obtain ⟨ordered, locked⟩ := (limiter.step_lock_iff after call now).mp stepped
  refine ⟨ordered, ?_⟩
  rw [RateLimiter.lock, standing] at locked
  dsimp only at locked
  by_cases enough : 1 ≤ (limiter.inner.refilled now).tokens
  · rw [Bucket.acquirePass_of_le _ _ enough] at locked ⊢
    cases locked
    exact Or.inl ⟨enough, rfl, List.getElem?_set_self bound⟩
  · rw [Bucket.acquirePass_of_not_le _ _ enough] at locked ⊢
    cases locked
    exact Or.inr ⟨not_le.mp enough, rfl, rfl, rfl, _, List.getElem?_set_self bound⟩

/-- Only a call that is about to take the lock goes through a lock section. -/
theorem RateLimiter.standing_of_lock {call : Nat} {now : Instant}
    (stepped : limiter.step (.lock call now) = some after) :
    (∃ waited, limiter.calls[call]? = some (.acquiring waited)) ∨
      limiter.calls[call]? = some .trying := by
  have locked := ((limiter.step_lock_iff after call now).mp stepped).2
  unfold RateLimiter.lock at locked
  split at locked
  · rename_i waited standing
    exact Or.inl ⟨waited, standing⟩
  · rename_i standing
    exact Or.inr standing
  · cases locked

end Event

/-! ### From one pass to the next -/

/-- What a pass of a call has to do with the one before: that was refused, this one is not granted
before its wait is over, and it is granted after it unless other calls were granted tokens in
between. -/
structure AcquirePass.Follows (call : Nat) (pass next : AcquirePass) : Prop where
  refused : ∃ wait, pass.result = .wait wait ∧
    (next.result = .granted → pass.now + wait ≤ next.now) ∧
    (pass.now + wait ≤ next.now → next.since = [] → next.result = .granted)
  others : ∀ grant ∈ next.since, grant.1 ≠ call ∧ pass.now ≤ grant.2 ∧ grant.2 ≤ next.now

section Passes

variable (rate : ℚ) (origin : Instant) (call : Nat)

/-- What holds between a refused pass and the next: the grants on record are those of the curve at
the pass and the ones that other calls got since. -/
structure RateLimiter.Asleep (pass : AcquirePass) (since : List (Nat × Instant))
    (limiter : RateLimiter) : Prop where
  refused : pass.result = .wait ((1 - pass.level) / rate)
  begun : origin ≤ pass.now
  ordered : pass.now ≤ limiter.inner.last
  level : ∃ grants, IsLevel rate rate origin grants pass.now pass.level ∧
    (∀ grant ∈ grants, grant ≤ pass.now) ∧ limiter.grants = grants ++ since.map Prod.snd
  others : ∀ grant ∈ since,
    grant.1 ≠ call ∧ pass.now ≤ grant.2 ∧ grant.2 ≤ limiter.inner.last

/-- Where an `acquire` stands after its last pass: before its first, between a refused pass and the
next, or returned. -/
inductive RateLimiter.Stands (limiter : RateLimiter) (since : List (Nat × Instant)) :
    Option AcquirePass → Prop where
  | made (standing : limiter.calls[call]? = some (.acquiring false)) : limiter.Stands since none
  | asleep (pass : AcquirePass) (asleep : RateLimiter.Asleep rate origin call pass since limiter)
    (standing : (∃ wakeAt, limiter.calls[call]? = some (.sleeping wakeAt)) ∨
      limiter.calls[call]? = some (.acquiring true)) : limiter.Stands since (some pass)
  | returned (pass : AcquirePass) (granted : pass.result = .granted) (waited : Bool)
    (standing : limiter.calls[call]? = some (.acquired waited)) : limiter.Stands since (some pass)

variable {rate origin call} {limiter after : RateLimiter} {since : List (Nat × Instant)}
  {last : Option AcquirePass} {event : LimiterEvent} {now : Instant}

theorem RateLimiter.Asleep.step {pass : AcquirePass}
    (asleep : RateLimiter.Asleep rate origin call pass since limiter)
    (stepped : limiter.step event = some after) (elsewhere : event.passOf call = none) :
    RateLimiter.Asleep rate origin call pass (since ++ after.grantOf event) after := by
  obtain ⟨grants, later, made⟩ := step_grants stepped
  refine ⟨asleep.refused, asleep.begun, asleep.ordered.trans later, ?_, ?_⟩
  · obtain ⟨earlier, isLevel, past, recorded⟩ := asleep.level
    refine ⟨earlier, isLevel, past, ?_⟩
    rw [grants, recorded, List.map_append, List.append_assoc]
  · intro grant member
    rcases List.mem_append.mp member with old | new
    · obtain ⟨other, after, before⟩ := asleep.others grant old
      exact ⟨other, after, before.trans later⟩
    · obtain ⟨locked, after, before⟩ := made grant new
      refine ⟨?_, asleep.ordered.trans after, before⟩
      rintro rfl
      rw [locked] at elsewhere
      cases elsewhere

/-- An event of other calls leaves an `acquire` where it stands. -/
theorem RateLimiter.Stands.step (stands : limiter.Stands rate origin call since last)
    (stepped : limiter.step event = some after) (elsewhere : event.passOf call = none) :
    after.Stands rate origin call (since ++ after.grantOf event) last := by
  cases stands with
  | made standing =>
    rcases step_standing stepped elsewhere standing with same | ⟨⟨_, asleep⟩, _⟩
    · exact .made same
    · cases asleep
  | asleep pass asleep standing =>
    refine .asleep pass (asleep.step stepped elsewhere) ?_
    rcases standing with ⟨wakeAt, sleeping⟩ | awake
    · rcases step_standing stepped elsewhere sleeping with same | ⟨_, woken⟩
      · exact Or.inl ⟨wakeAt, same⟩
      · exact Or.inr woken
    · rcases step_standing stepped elsewhere awake with same | ⟨⟨_, sleeping⟩, _⟩
      · exact Or.inr same
      · cases sleeping
  | returned pass granted waited standing =>
    rcases step_standing stepped elsewhere standing with same | ⟨⟨_, asleep⟩, _⟩
    · exact .returned pass granted waited same
    · cases asleep

/-- A call that makes a pass has not returned. -/
theorem RateLimiter.Stands.acquiring (stands : limiter.Stands rate origin call since last)
    (stepped : limiter.step (.lock call now) = some after) :
    ∃ waited, limiter.calls[call]? = some (.acquiring waited) := by
  refine (standing_of_lock stepped).resolve_right fun trying => ?_
  cases stands with
  | made standing => exact absurd (standing.symm.trans trying) nofun
  | asleep _ _ standing =>
    rcases standing with ⟨_, sleeping⟩ | awake
    · exact absurd (sleeping.symm.trans trying) nofun
    · exact absurd (awake.symm.trans trying) nofun
  | returned _ _ _ standing => exact absurd (standing.symm.trans trying) nofun

/-- A pass either returns the call or puts it to sleep. -/
theorem RateLimiter.Stands.pass (tracks : limiter.Tracks rate origin) (nonneg : 0 ≤ rate)
    (stands : limiter.Stands rate origin call since last)
    (stepped : limiter.step (.lock call now) = some after) :
    after.Stands rate origin call [] (some (limiter.passAt since now)) := by
  obtain ⟨waited, standing⟩ := stands.acquiring stepped
  obtain ⟨ordered, ⟨_, granted, acquired⟩ | ⟨_, refused, inner, grants, sleeping⟩⟩ :=
    step_pass stepped standing
  · exact .returned _ granted waited acquired
  · refine .asleep _ ⟨?_, tracks.begun.trans ordered, ?_, ?_, ?_⟩ (Or.inl sleeping)
    · rw [← tracks.refill]
      exact refused
    · rw [inner]
      exact le_rfl
    · refine ⟨limiter.grants, tracks.refilled nonneg now ordered, ?_, ?_⟩
      · exact fun grant member => (tracks.past grant member).trans ordered
      · rw [grants, List.map_nil, List.append_nil]
    · exact fun grant member => absurd member List.not_mem_nil

/-- The level that a pass finds after a sleep is the one of the pass before, risen since, and less
when other calls were granted tokens. -/
theorem RateLimiter.Asleep.follows {pass : AcquirePass}
    (asleep : RateLimiter.Asleep rate origin call pass since limiter)
    (tracks : limiter.Tracks rate origin) (positive : 1 ≤ rate)
    (ordered : limiter.inner.last ≤ now) :
    pass.Follows call (limiter.passAt since now) := by
  have above : 0 < rate := lt_of_lt_of_le one_pos positive
  obtain ⟨grants, isLevel, past, recorded⟩ := asleep.level
  have found := tracks.refilled above.le now ordered
  have risen := isLevel.advance asleep.begun above.le past now (asleep.ordered.trans ordered)
  rw [recorded] at found
  refine ⟨⟨_, asleep.refused, fun granted => ?_, fun waited unspent => ?_⟩, fun grant member => ?_⟩
  · by_cases enough : 1 ≤ (limiter.inner.refilled now).tokens
    · exact (le_min_advance_iff above positive).mp (enough.trans (risen.le_of_append found))
    · have refused : (limiter.passAt since now).result = .wait _ :=
        congrArg Prod.snd (Bucket.acquirePass_of_not_le _ _ enough)
      exact absurd (granted.symm.trans refused) nofun
  · have same : since = [] := unspent
    rw [same, List.map_nil, List.append_nil] at found
    have enough : 1 ≤ (limiter.inner.refilled now).tokens := by
      rw [IsLeast.unique found risen]
      exact (le_min_advance_iff above positive).mpr waited
    exact congrArg Prod.snd (Bucket.acquirePass_of_le _ _ enough)
  · obtain ⟨other, after, before⟩ := asleep.others grant member
    exact ⟨other, after, before.trans ordered⟩

/-- A pass follows the one before. -/
theorem RateLimiter.Stands.follows (tracks : limiter.Tracks rate origin) (positive : 1 ≤ rate)
    (stands : limiter.Stands rate origin call since last)
    (stepped : limiter.step (.lock call now) = some after) (pass : AcquirePass)
    (before : last = some pass) : pass.Follows call (limiter.passAt since now) := by
  obtain ⟨waited, standing⟩ := stands.acquiring stepped
  have ordered := (step_pass stepped standing).1
  cases stands with
  | made => cases before
  | asleep _ asleep =>
    cases before
    exact asleep.follows tracks positive ordered
  | returned _ _ _ returned => exact absurd (standing.symm.trans returned) nofun

/-! ### All passes of a call -/

theorem RateLimiter.passesFrom_other (stepped : limiter.step event = some after)
    (elsewhere : event.passOf call = none) (rest : List LimiterEvent) :
    limiter.passesFrom call since (event :: rest) =
      after.passesFrom call (since ++ after.grantOf event) rest := by
  rw [RateLimiter.passesFrom, stepped]
  dsimp only
  rw [elsewhere]

theorem RateLimiter.passesFrom_pass (stepped : limiter.step (.lock call now) = some after)
    (rest : List LimiterEvent) :
    limiter.passesFrom call since (.lock call now :: rest) =
      limiter.passAt since now :: after.passesFrom call [] rest := by
  rw [RateLimiter.passesFrom, stepped]
  dsimp only
  rw [(LimiterEvent.passOf_eq_some_iff call _ now).mpr rfl]

/-- Over every run each pass follows the one before, and the call stands where its last pass left
it. -/
theorem RateLimiter.Stands.run (tracks : limiter.Tracks rate origin) (positive : 1 ≤ rate)
    (stands : limiter.Stands rate origin call since last) (events : List LimiterEvent)
    (ran : events.foldlM RateLimiter.step limiter = some after) :
    (last.toList ++ limiter.passesFrom call since events).IsChain (AcquirePass.Follows call) ∧
      ∃ spent, after.Stands rate origin call spent
        (last.toList ++ limiter.passesFrom call since events).getLast? := by
  have nonneg : 0 ≤ rate := zero_le_one.trans positive
  induction events generalizing limiter since last with
  | nil =>
    cases ran
    rw [RateLimiter.passesFrom, List.append_nil]
    cases last with
    | none => exact ⟨.nil, since, stands⟩
    | some pass => exact ⟨.singleton pass, since, stands⟩
  | cons event rest inductionHypothesis =>
    obtain ⟨next, stepped, ranRest⟩ := Option.bind_eq_some_iff.mp ran
    have tracksNext := tracks.step nonneg event stepped
    cases passed : event.passOf call with
    | none =>
      rw [passesFrom_other stepped passed]
      exact inductionHypothesis tracksNext (stands.step stepped passed) ranRest
    | some now =>
      obtain rfl := (LimiterEvent.passOf_eq_some_iff call event now).mp passed
      have later := inductionHypothesis tracksNext (stands.pass tracks nonneg stepped) ranRest
      rw [passesFrom_pass stepped]
      cases last with
      | none => exact later
      | some pass =>
        have follows := stands.follows tracks positive stepped pass rfl
        refine ⟨List.isChain_cons_cons.mpr ⟨follows, later.1⟩, ?_⟩
        show ∃ spent, after.Stands rate origin call spent (pass :: (_ :: _)).getLast?
        rw [List.getLast?_cons_cons]
        exact later.2

end Passes

/-- The sleep before a pass lasts as long as the pass before asked for. -/
def AcquirePass.SleptOut (pass next : AcquirePass) : Prop :=
  ∀ wait, pass.result = .wait wait → pass.now + wait ≤ next.now

section Counting

variable {call : Nat} {pass next : AcquirePass} {passes : List AcquirePass}

theorem AcquirePass.Follows.not_granted (follows : pass.Follows call next) :
    pass.result ≠ .granted := by
  obtain ⟨wait, refused, _⟩ := follows.refused
  rw [refused]
  exact nofun

/-- A pass that is refused after its sleep can be charged to a grant in it. -/
theorem AcquirePass.Follows.charged (follows : pass.Follows call next) (slept : pass.SleptOut next)
    (refused : next.result ≠ .granted) : next.since ≠ [] := by
  obtain ⟨wait, result, _, grants⟩ := follows.refused
  exact fun unspent => refused (grants (slept wait result) unspent)

/-- Every pass after the first but the last is charged to a grant of its own. -/
theorem AcquirePass.length_le_grants (pass : AcquirePass) (passes : List AcquirePass)
    (chain : (pass :: passes).IsChain fun pass next =>
      pass.Follows call next ∧ pass.SleptOut next) :
    passes.length ≤ 1 + (passes.flatMap AcquirePass.since).length := by
  induction passes generalizing pass with
  | nil => exact Nat.zero_le _
  | cons next rest inductionHypothesis =>
    obtain ⟨⟨follows, slept⟩, chainRest⟩ := List.isChain_cons_cons.mp chain
    have fewer := inductionHypothesis next chainRest
    rw [List.length_cons, List.flatMap_cons, List.length_append]
    cases rest with
    | nil => exact Nat.le_add_right 1 _
    | cons further =>
      have refused := (List.isChain_cons_cons.mp chainRest).1.1.not_granted
      have charged := List.length_pos_iff.mpr (follows.charged slept refused)
      omega

/-- Nothing follows a pass that is granted. -/
theorem AcquirePass.getLast?_of_granted (passes : List AcquirePass)
    (chain : passes.IsChain (AcquirePass.Follows call)) (member : pass ∈ passes)
    (granted : pass.result = .granted) : passes.getLast? = some pass := by
  induction passes with
  | nil => cases member
  | cons first rest inductionHypothesis =>
    cases rest with
    | nil =>
      rw [List.mem_singleton.mp member]
      rfl
    | cons next =>
      obtain ⟨follows, chainRest⟩ := List.isChain_cons_cons.mp chain
      rw [List.getLast?_cons_cons]
      rcases List.mem_cons.mp member with rfl | later
      · exact absurd granted follows.not_granted
      · exact inductionHypothesis chainRest later

end Counting

/-! ### The loop of `acquire` -/

section Loop

variable {rate : ℚ} {origin : Instant} {call : Nat} {limiter : RateLimiter}
  {since : List (Nat × Instant)} {last : Option AcquirePass}

/-- A pass grants exactly when it finds a whole token. -/
theorem RateLimiter.passesFrom_granted_iff (since : List (Nat × Instant)) (limiter : RateLimiter)
    (events : List LimiterEvent) (pass : AcquirePass)
    (member : pass ∈ limiter.passesFrom call since events) :
    pass.result = .granted ↔ 1 ≤ pass.level := by
  induction events generalizing limiter since with
  | nil => cases member
  | cons event rest inductionHypothesis =>
    rw [RateLimiter.passesFrom] at member
    split at member
    · cases member
    · split at member
      · rename_i now _
        rcases List.mem_cons.mp member with rfl | later
        · by_cases enough : 1 ≤ (limiter.inner.refilled now).tokens
          · exact iff_of_true (congrArg Prod.snd (Bucket.acquirePass_of_le _ _ enough)) enough
          · refine iff_of_false ?_ enough
            show (limiter.inner.acquirePass now).2 ≠ .granted
            rw [Bucket.acquirePass_of_not_le _ _ enough]
            exact nofun
        · exact inductionHypothesis _ _ later
      · exact inductionHypothesis _ _ member

theorem RateLimiter.Stands.returned_iff (stands : limiter.Stands rate origin call since last) :
    (∃ waited, limiter.calls[call]? = some (.acquired waited)) ↔
      ∃ pass, last = some pass ∧ pass.result = .granted := by
  cases stands with
  | made standing =>
    refine iff_of_false ?_ nofun
    rintro ⟨waited, returned⟩
    exact absurd (standing.symm.trans returned) nofun
  | asleep pass asleep standing =>
    refine iff_of_false ?_ ?_
    · rintro ⟨waited, returned⟩
      rcases standing with ⟨_, sleeping⟩ | awake
      · exact absurd (sleeping.symm.trans returned) nofun
      · exact absurd (awake.symm.trans returned) nofun
    · rintro ⟨_, same, granted⟩
      cases same
      exact absurd (granted.symm.trans asleep.refused) nofun
  | returned pass granted waited standing =>
    exact iff_of_true ⟨waited, standing⟩ ⟨pass, rfl, granted⟩

theorem RateLimiter.exists_lock {waited : Bool}
    (standing : limiter.calls[call]? = some (.acquiring waited)) (now : Instant)
    (ordered : limiter.inner.last ≤ now) : ∃ next, limiter.step (.lock call now) = some next := by
  rw [RateLimiter.step, if_pos ordered, RateLimiter.lock, standing]
  dsimp only
  by_cases enough : 1 ≤ (limiter.inner.refilled now).tokens
  · rw [Bucket.acquirePass_of_le _ _ enough]
    exact ⟨_, rfl⟩
  · rw [Bucket.acquirePass_of_not_le _ _ enough]
    exact ⟨_, rfl⟩

/-- An `acquire` that has not returned can go on. -/
theorem RateLimiter.Stands.progress (stands : limiter.Stands rate origin call since last) :
    (∃ waited, limiter.calls[call]? = some (.acquired waited)) ∨
      (∃ next, limiter.step (.wake call) = some next) ∨
      ∀ now, limiter.inner.last ≤ now → ∃ next, limiter.step (.lock call now) = some next := by
  cases stands with
  | made standing => exact Or.inr (Or.inr (exists_lock standing))
  | asleep _ _ standing =>
    rcases standing with ⟨wakeAt, sleeping⟩ | awake
    · have woken : limiter.step (.wake call) =
          some { limiter with calls := limiter.calls.set call (.acquiring true) } := by
        rw [RateLimiter.step, sleeping]
      exact Or.inr (Or.inl ⟨_, woken⟩)
    · exact Or.inr (Or.inr (exists_lock awake))
  | returned _ _ waited standing => exact Or.inl ⟨waited, standing⟩

end Loop

/-- An `acquire` waits for the right time and comes to an end. A pass that finds less than one token
waits until an untouched bucket holds one, for some time and for no longer than a single token
takes. Over every run from when an `acquire` is made, it is granted its token only when it is
there, and not before its wait is over. When its sleeps last as long as asked, it is granted its
token after a sleep in which no other call was granted one, so each further pass has a grant to
another call in a sleep of its own, and without such grants there are at most two passes. -/
theorem RateLimiter.acquire_waits_exactly (rate : Nat) (origin : Instant) (limiter : RateLimiter)
    (reachable : (RateLimiter.new rate origin).Reachable limiter) :
    (∀ now, limiter.inner.last ≤ now → (limiter.inner.refilled now).tokens < 1 →
      ∃ wait, limiter.inner.acquirePass now = (limiter.inner.refilled now, .wait wait) ∧
        0 < wait ∧ wait ≤ 1 / (max rate 1 : Nat) ∧
        ∀ later, now ≤ later →
          (1 ≤ ((limiter.inner.refilled now).refilled later).tokens ↔ now + wait ≤ later)) ∧
    ∀ call events after, limiter.calls[call]? = some (.acquiring false) →
      events.foldlM RateLimiter.step limiter = some after →
      let passes := limiter.passes call events
      (∀ pass ∈ passes, pass.result = .granted ↔ 1 ≤ pass.level) ∧
      passes.IsChain (fun pass next => ∃ wait, pass.result = .wait wait ∧
        (next.result = .granted → pass.now + wait ≤ next.now)) ∧
      ((∃ waited, after.calls[call]? = some (.acquired waited)) ↔
        ∃ pass ∈ passes, pass.result = .granted) ∧
      ((∃ waited, after.calls[call]? = some (.acquired waited)) ∨
        (∃ next, after.step (.wake call) = some next) ∨
        ∀ now, after.inner.last ≤ now → ∃ next, after.step (.lock call now) = some next) ∧
      (passes.IsChain AcquirePass.SleptOut →
        passes.IsChain (fun _ next => next.since = [] → next.result = .granted) ∧
        passes.IsChain (fun pass next => next.result ≠ .granted → ∃ grant ∈ next.since,
          grant.1 ≠ call ∧ pass.now ≤ grant.2 ∧ grant.2 ≤ next.now) ∧
        passes.length ≤ 2 + (passes.tail.flatMap AcquirePass.since).length ∧
        ((∀ pass ∈ passes.tail, pass.since = []) → passes.length ≤ 2 ∧
          (passes.length = 2 → ∃ waited, after.calls[call]? = some (.acquired waited)))) := by
  have tracks := tracks_clamped rate origin limiter reachable
  have positive : (1 : ℚ) ≤ (max rate 1 : Nat) := Nat.one_le_cast.mpr (le_max_right _ _)
  refine ⟨fun now ordered short => tracks.wait positive now ordered short, ?_⟩
  intro call events after made ran passes
  have begun : limiter.Stands (max rate 1 : Nat) origin call [] none := .made made
  obtain ⟨chain, spent, stands⟩ := begun.run tracks positive events ran
  have chain : passes.IsChain (AcquirePass.Follows call) := chain
  have stands : after.Stands (max rate 1 : Nat) origin call spent passes.getLast? := stands
  have returned : (∃ waited, after.calls[call]? = some (.acquired waited)) ↔
      ∃ pass ∈ passes, pass.result = .granted := by
    rw [stands.returned_iff]
    constructor
    · rintro ⟨pass, final, granted⟩
      exact ⟨pass, List.mem_of_getLast? final, granted⟩
    · rintro ⟨pass, member, granted⟩
      exact ⟨pass, AcquirePass.getLast?_of_granted passes chain member granted, granted⟩
  refine ⟨passesFrom_granted_iff [] limiter events, ?_, returned, stands.progress, fun slept => ?_⟩
  · refine chain.imp fun pass next follows => ?_
    obtain ⟨wait, refused, notBefore, _⟩ := follows.refused
    exact ⟨wait, refused, notBefore⟩
  · have sleeps : passes.IsChain fun pass next => pass.Follows call next ∧ pass.SleptOut next :=
      List.isChain_iff_getElem.mpr fun index within =>
        ⟨chain.getElem index within, slept.getElem index within⟩
    have bounded : passes.length ≤ 2 + (passes.tail.flatMap AcquirePass.since).length := by
      cases listed : passes with
      | nil => exact Nat.zero_le _
      | cons pass rest =>
        have fewer := AcquirePass.length_le_grants pass rest (listed ▸ sleeps)
        rw [List.length_cons, List.tail_cons]
        omega
    refine ⟨?_, ?_, bounded, fun uncontended => ⟨?_, fun two => ?_⟩⟩
    · refine sleeps.imp fun pass next ⟨follows, slept⟩ unspent => ?_
      by_contra refused
      exact follows.charged slept refused unspent
    · refine sleeps.imp fun pass next ⟨follows, slept⟩ refused => ?_
      obtain ⟨grant, member⟩ := List.exists_mem_of_ne_nil _ (follows.charged slept refused)
      exact ⟨grant, member, follows.others grant member⟩
    · have none : passes.tail.flatMap AcquirePass.since = [] :=
        List.flatMap_eq_nil_iff.mpr uncontended
      rwa [none] at bounded
    · obtain ⟨first, second, listed⟩ := List.length_eq_two.mp two
      rw [listed] at sleeps uncontended
      obtain ⟨⟨follows, slept⟩, _⟩ := List.isChain_cons_cons.mp sleeps
      have unspent := uncontended second (List.mem_singleton_self second)
      refine returned.mpr ⟨second, ?_, ?_⟩
      · rw [listed]
        exact List.mem_cons_of_mem first (List.mem_singleton_self second)
      · by_contra refused
        exact follows.charged slept refused unspent

/-- At one message a second, an `acquire` made when another call has just taken the token sleeps for
a second and then has its own. -/
theorem RateLimiter.acquire_waits_exactly_twice :
    let limiter : RateLimiter :=
      { inner := ⟨0, 1, 1, 0⟩, calls := [.tried true, .acquiring false], grants := [0] }
    let events : List LimiterEvent := [.lock 1 0, .wake 1, .lock 1 1]
    limiter.passes 1 events = [⟨[], 0, 0, .wait 1⟩, ⟨[], 1, 1, .granted⟩] ∧
      ∃ after, events.foldlM RateLimiter.step limiter = some after ∧
        ∃ waited, after.calls[1]? = some (.acquired waited) := by
  intro limiter events
  have reachable : (RateLimiter.new 1 0).Reachable limiter :=
    ((Run.Reaches.refl.tail .tryAcquire rfl).tail .acquire rfl).tail (.lock 0 0)
      (by decide +kernel)
  have passes : limiter.passes 1 events = [⟨[], 0, 0, .wait 1⟩, ⟨[], 1, 1, .granted⟩] := by
    decide +kernel
  have ran : events.foldlM RateLimiter.step limiter =
      some { inner := ⟨0, 1, 1, 1⟩, calls := [.tried true, .acquired true], grants := [0, 1] } := by
    decide +kernel
  have waits := (acquire_waits_exactly 1 0 limiter reachable).2 1 events _ rfl ran
  have slept : (limiter.passes 1 events).IsChain AcquirePass.SleptOut := by
    rw [passes]
    refine List.isChain_cons_cons.mpr ⟨fun wait same => ?_, .singleton _⟩
    cases same
    decide +kernel
  have uncontended : ∀ pass ∈ (limiter.passes 1 events).tail, pass.since = [] := by
    rw [passes]
    exact List.forall_mem_singleton.mpr rfl
  refine ⟨passes, _, ran, ?_⟩
  exact ((waits.2.2.2.2 slept).2.2.2 uncontended).2 (by rw [passes]; rfl)

end SiphonSmpp
