/-
This file models the token bucket behind `max_msg_per_sec` (`RateLimiter` in
`src/runtime.rs`) with exact rationals for its `f64` arithmetic, and proves
that it is the arrival curve of `Lib/ArrivalCurve.lean`.

Any number of `acquire` and `try_acquire` calls run at once. Each touches the
bucket only inside a lock section, so a run is a sequence of lock sections in
the order they take the lock, with an `acquire` that was refused asleep between
two of its own. The invariant `Tracks` says that the level stored at the last
section is the least allowance over the whole history of grants. Every section
refills from that level to its own instant, whichever of the two calls it
belongs to, so its decision is the decision of the curve.
-/

import Mathlib.Algebra.Order.Field.Rat
import SiphonSmpp.Lib.ArrivalCurve
import SiphonSmpp.Lib.Run

namespace SiphonSmpp

open ArrivalCurve

/-! ### The bucket -/

/-- A reading of the monotonic clock, in seconds. -/
abbrev Instant := ℚ

/-- A length of time, in seconds. -/
abbrev Duration := ℚ

/-- `Instant::duration_since`, which saturates at zero. -/
def durationSince (now earlier : Instant) : Duration := max (now - earlier) 0

structure Bucket where
  tokens : ℚ
  max : ℚ
  refillPerSec : ℚ
  last : Instant
  deriving DecidableEq, Repr

/-- `RateLimiter::new`, created at an instant. -/
def Bucket.new (rate : Nat) (now : Instant) : Bucket :=
  let r : ℚ := (Max.max rate 1 : Nat)
  { tokens := r, max := r, refillPerSec := r, last := now }

/-- How one pass of `acquire` ends: with a token, or with how long to sleep before the next. -/
inductive Pass where
  | granted
  | wait (duration : Duration)
  deriving DecidableEq, Repr

/-- One lock section of `acquire`. -/
def Bucket.acquirePass (bucket : Bucket) (now : Instant) : Bucket × Pass :=
  let elapsed := durationSince now bucket.last
  let bucket := { bucket with
    tokens := min (bucket.tokens + elapsed * bucket.refillPerSec) bucket.max
    last := now }
  if 1 ≤ bucket.tokens then
    ({ bucket with tokens := bucket.tokens - 1 }, .granted)
  else
    let deficit := 1 - bucket.tokens
    (bucket, .wait (deficit / bucket.refillPerSec))

/-- The lock section of `try_acquire`. -/
def Bucket.tryAcquire (bucket : Bucket) (now : Instant) : Bucket × Bool :=
  let elapsed := durationSince now bucket.last
  let bucket := { bucket with
    tokens := min (bucket.tokens + elapsed * bucket.refillPerSec) bucket.max
    last := now }
  if 1 ≤ bucket.tokens then
    ({ bucket with tokens := bucket.tokens - 1 }, true)
  else
    (bucket, false)

/-! ### Concurrent calls -/

/-- Where a call stands: an `acquire` about to take the lock or asleep, a `try_acquire`
about to take it, or either one returned. -/
inductive Call where
  | acquiring (waited : Bool)
  | sleeping (wakeAt : Instant)
  | acquired (waited : Bool)
  | trying
  | tried (answer : Bool)
  deriving DecidableEq, Repr

/-- Whether a call has been granted its token. -/
def Call.granted : Call → Bool
  | .acquired _ => true
  | .tried answer => answer
  | _ => false

/-- A limiter with the calls made on it and the instants of the lock sections that granted a
token. -/
structure RateLimiter where
  inner : Bucket
  calls : List Call
  grants : List Instant
  deriving DecidableEq, Repr

def RateLimiter.new (rate : Nat) (now : Instant) : RateLimiter :=
  { inner := .new rate now, calls := [], grants := [] }

/-- What can happen on a limiter: a call is made, a call goes through its lock section, a
sleeping `acquire` wakes up. -/
inductive LimiterEvent where
  | acquire
  | tryAcquire
  | lock (call : Nat) (now : Instant)
  | wake (call : Nat)
  deriving DecidableEq, Repr

/-- A lock section of a call at an instant. -/
def RateLimiter.lock (limiter : RateLimiter) (call : Nat) (now : Instant) : Option RateLimiter :=
  match limiter.calls[call]? with
  | some (.acquiring waited) =>
    match limiter.inner.acquirePass now with
    | (inner, .granted) => some {
        inner := inner, calls := limiter.calls.set call (.acquired waited)
        grants := limiter.grants ++ [now] }
    | (inner, .wait duration) => some {
        inner := inner, calls := limiter.calls.set call (.sleeping (now + duration))
        grants := limiter.grants }
  | some .trying =>
    match limiter.inner.tryAcquire now with
    | (inner, true) => some {
        inner := inner, calls := limiter.calls.set call (.tried true)
        grants := limiter.grants ++ [now] }
    | (inner, false) => some {
        inner := inner, calls := limiter.calls.set call (.tried false)
        grants := limiter.grants }
  | _ => none

/-- One step of a limiter, where the event is possible. The clock does not go back from one
lock section to the next; how long a sleep lasts is left open. -/
def RateLimiter.step (limiter : RateLimiter) : LimiterEvent → Option RateLimiter
  | .acquire => some { limiter with calls := limiter.calls ++ [.acquiring false] }
  | .tryAcquire => some { limiter with calls := limiter.calls ++ [.trying] }
  | .lock call now => if limiter.inner.last ≤ now then limiter.lock call now else none
  | .wake call =>
    match limiter.calls[call]? with
    | some (.sleeping _) =>
      some { limiter with calls := limiter.calls.set call (.acquiring true) }
    | _ => none

/-- The limiters an interleaving of calls can lead to. -/
def RateLimiter.Reachable (start limiter : RateLimiter) : Prop :=
  Run.Reaches RateLimiter.step start limiter

/-! ### What a lock section does -/

/-- The bucket refilled up to an instant. -/
def Bucket.refilled (bucket : Bucket) (now : Instant) : Bucket :=
  { bucket with
    tokens := min (bucket.tokens + durationSince now bucket.last * bucket.refillPerSec) bucket.max
    last := now }

theorem Bucket.acquirePass_of_le (bucket : Bucket) (now : Instant)
    (enough : 1 ≤ (bucket.refilled now).tokens) :
    bucket.acquirePass now =
      ({ bucket.refilled now with tokens := (bucket.refilled now).tokens - 1 }, .granted) :=
  if_pos enough

theorem Bucket.acquirePass_of_not_le (bucket : Bucket) (now : Instant)
    (short : ¬ 1 ≤ (bucket.refilled now).tokens) :
    bucket.acquirePass now = (bucket.refilled now,
      .wait ((1 - (bucket.refilled now).tokens) / bucket.refillPerSec)) :=
  if_neg short

theorem Bucket.tryAcquire_of_le (bucket : Bucket) (now : Instant)
    (enough : 1 ≤ (bucket.refilled now).tokens) :
    bucket.tryAcquire now =
      ({ bucket.refilled now with tokens := (bucket.refilled now).tokens - 1 }, true) :=
  if_pos enough

theorem Bucket.tryAcquire_of_not_le (bucket : Bucket) (now : Instant)
    (short : ¬ 1 ≤ (bucket.refilled now).tokens) :
    bucket.tryAcquire now = (bucket.refilled now, false) :=
  if_neg short

/-- What a lock section leaves behind when it grants a token. -/
structure RateLimiter.Granted (limiter after : RateLimiter) (call : Nat) (now : Instant) :
    Prop where
  enough : 1 ≤ (limiter.inner.refilled now).tokens
  inner : after.inner = { limiter.inner.refilled now with
    tokens := (limiter.inner.refilled now).tokens - 1 }
  grants : after.grants = limiter.grants ++ [now]
  call : (after.calls[call]?).any Call.granted = true

/-- What a lock section leaves behind when it refuses one. -/
structure RateLimiter.Refused (limiter after : RateLimiter) (call : Nat) (now : Instant) :
    Prop where
  short : ¬ 1 ≤ (limiter.inner.refilled now).tokens
  inner : after.inner = limiter.inner.refilled now
  grants : after.grants = limiter.grants
  call : (after.calls[call]?).any Call.granted = false

/-- A lock section of either call refills the bucket to its instant and then grants exactly
when a whole token is there. -/
theorem RateLimiter.lock_cases (limiter after : RateLimiter) (call : Nat) (now : Instant)
    (locked : limiter.lock call now = some after) :
    limiter.Granted after call now ∨ limiter.Refused after call now := by
  unfold RateLimiter.lock at locked
  split at locked
  · rename_i waited standing
    obtain ⟨bound, _⟩ := List.getElem?_eq_some_iff.mp standing
    by_cases enough : 1 ≤ (limiter.inner.refilled now).tokens
    · rw [Bucket.acquirePass_of_le _ _ enough] at locked
      cases locked
      exact Or.inl ⟨enough, rfl, rfl, by simp [bound, Call.granted]⟩
    · rw [Bucket.acquirePass_of_not_le _ _ enough] at locked
      cases locked
      exact Or.inr ⟨enough, rfl, rfl, by simp [bound, Call.granted]⟩
  · rename_i standing
    obtain ⟨bound, _⟩ := List.getElem?_eq_some_iff.mp standing
    by_cases enough : 1 ≤ (limiter.inner.refilled now).tokens
    · rw [Bucket.tryAcquire_of_le _ _ enough] at locked
      cases locked
      exact Or.inl ⟨enough, rfl, rfl, by simp [bound, Call.granted]⟩
    · rw [Bucket.tryAcquire_of_not_le _ _ enough] at locked
      cases locked
      exact Or.inr ⟨enough, rfl, rfl, by simp [bound, Call.granted]⟩
  · cases locked

theorem RateLimiter.step_lock_iff (limiter after : RateLimiter) (call : Nat) (now : Instant) :
    limiter.step (.lock call now) = some after ↔
      limiter.inner.last ≤ now ∧ limiter.lock call now = some after :=
  Option.ite_none_right_eq_some

/-- What a step can do: go through a lock section at an instant the clock has come to, or leave the
bucket and the grants alone. -/
theorem RateLimiter.step_cases {limiter after : RateLimiter} {event : LimiterEvent}
    (stepped : limiter.step event = some after) :
    (∃ call now, event = .lock call now ∧ limiter.inner.last ≤ now ∧
      limiter.lock call now = some after) ∨
    ((∀ call now, event ≠ .lock call now) ∧ after.inner = limiter.inner ∧
      after.grants = limiter.grants) := by
  cases event with
  | acquire =>
    cases stepped
    exact Or.inr ⟨nofun, rfl, rfl⟩
  | tryAcquire =>
    cases stepped
    exact Or.inr ⟨nofun, rfl, rfl⟩
  | lock call now => exact Or.inl ⟨call, now, rfl, (limiter.step_lock_iff after call now).mp stepped⟩
  | wake call =>
    rw [RateLimiter.step] at stepped
    split at stepped
    · cases stepped
      exact Or.inr ⟨nofun, rfl, rfl⟩
    · cases stepped

/-! ### The stored level is the level of the curve -/

/-- The bucket stores the level of the arrival curve of its rate at its last lock section,
and no window has seen more grants than the curve allows. -/
structure RateLimiter.Tracks (rate : ℚ) (origin : Instant) (limiter : RateLimiter) : Prop where
  max : limiter.inner.max = rate
  refill : limiter.inner.refillPerSec = rate
  begun : origin ≤ limiter.inner.last
  past : ∀ grant ∈ limiter.grants, grant ≤ limiter.inner.last
  level : IsLevel rate rate origin limiter.grants limiter.inner.last limiter.inner.tokens
  windows : ∀ start stop, origin ≤ start → start ≤ stop →
    (grantsWithin limiter.grants start stop : ℚ) ≤ rate + rate * (stop - start)

theorem RateLimiter.tracks_new (rate : Nat) (positive : 1 ≤ rate) (origin : Instant) :
    (RateLimiter.new rate origin).Tracks rate origin := by
  have clamped : ((Max.max rate 1 : Nat) : ℚ) = rate := by rw [max_eq_left positive]
  have nonneg : (0 : ℚ) ≤ rate := Nat.cast_nonneg rate
  refine ⟨clamped, clamped, le_rfl, fun grant member => absurd member List.not_mem_nil,
    ?_, fun start stop _ ordered => ?_⟩
  · show IsLevel (rate : ℚ) rate origin [] origin ((Max.max rate 1 : Nat) : ℚ)
    rw [clamped]
    exact isLevel_origin _ _ _
  · show ((0 : Nat) : ℚ) ≤ rate + rate * (stop - start)
    have gained : 0 ≤ (rate : ℚ) * (stop - start) := mul_nonneg nonneg (sub_nonneg.mpr ordered)
    rw [Nat.cast_zero]
    exact add_nonneg nonneg gained

/-- A refill carries the stored level to the instant of the lock section. -/
theorem RateLimiter.Tracks.refilled {rate : ℚ} {origin : Instant} {limiter : RateLimiter}
    (tracks : limiter.Tracks rate origin) (nonneg : 0 ≤ rate) (now : Instant)
    (ordered : limiter.inner.last ≤ now) :
    IsLevel rate rate origin limiter.grants now (limiter.inner.refilled now).tokens := by
  have elapsed : durationSince now limiter.inner.last = now - limiter.inner.last :=
    max_eq_left (sub_nonneg.mpr ordered)
  have advanced := tracks.level.advance tracks.begun nonneg tracks.past now ordered
  show IsLevel rate rate origin limiter.grants now
    (min (limiter.inner.tokens + durationSince now limiter.inner.last *
      limiter.inner.refillPerSec) limiter.inner.max)
  rw [elapsed, tracks.refill, tracks.max]
  exact advanced

/-- A grant the curve allows keeps every window within it. -/
theorem windows_append {rate : ℚ} {origin now : Instant} {grants : List Instant} {level : ℚ}
    (isLevel : IsLevel rate rate origin grants now level) (nonneg : 0 ≤ rate)
    (enough : 1 ≤ level) (past : ∀ grant ∈ grants, grant ≤ now)
    (windows : ∀ start stop, origin ≤ start → start ≤ stop →
      (grantsWithin grants start stop : ℚ) ≤ rate + rate * (stop - start)) :
    ∀ start stop, origin ≤ start → start ≤ stop →
      (grantsWithin (grants ++ [now]) start stop : ℚ) ≤ rate + rate * (stop - start) := by
  intro start stop early ordered
  by_cases inside : start ≤ now ∧ now ≤ stop
  · have allowed := (isLevel.le_iff 1).mp enough start early inside.1
    have counted : grantsWithin (grants ++ [now]) start stop =
        grantsWithin grants start now + 1 := by
      have pastAppend : ∀ grant ∈ grants ++ [now], grant ≤ now := by
        intro grant member
        rcases List.mem_append.mp member with old | new
        · exact past grant old
        · exact le_of_eq (List.mem_singleton.mp new)
      rw [grantsWithin_extend _ start now stop pastAppend inside.2,
        grantsWithin_append_self grants start now inside.1]
    have longer : rate * (now - start) ≤ rate * (stop - start) :=
      mul_le_mul_of_nonneg_left (sub_le_sub_right inside.2 start) nonneg
    rw [counted, Nat.cast_add, Nat.cast_one]
    linarith
  · have same : grantsWithin (grants ++ [now]) start stop = grantsWithin grants start stop := by
      simp [grantsWithin, inside]
    rw [same]
    exact windows start stop early ordered

/-- A lock section keeps the stored level the level of the curve. -/
theorem RateLimiter.Tracks.lock {rate : ℚ} {origin : Instant} {limiter after : RateLimiter}
    (tracks : limiter.Tracks rate origin) (nonneg : 0 ≤ rate) (call : Nat) (now : Instant)
    (ordered : limiter.inner.last ≤ now) (locked : limiter.lock call now = some after) :
    after.Tracks rate origin := by
  have level := tracks.refilled nonneg now ordered
  have begun : origin ≤ now := tracks.begun.trans ordered
  have past : ∀ grant ∈ limiter.grants, grant ≤ now := fun grant member =>
    (tracks.past grant member).trans ordered
  rcases limiter.lock_cases after call now locked with granted | refused
  · constructor
    · rw [granted.inner]
      exact tracks.max
    · rw [granted.inner]
      exact tracks.refill
    · rw [granted.inner]
      exact begun
    · intro grant member
      rw [granted.grants] at member
      rw [granted.inner]
      rcases List.mem_append.mp member with old | new
      · exact past grant old
      · exact le_of_eq (List.mem_singleton.mp new)
    · rw [granted.inner, granted.grants]
      exact level.grant
    · rw [granted.grants]
      exact windows_append level nonneg granted.enough past tracks.windows
  · constructor
    · rw [refused.inner]
      exact tracks.max
    · rw [refused.inner]
      exact tracks.refill
    · rw [refused.inner]
      exact begun
    · rw [refused.inner, refused.grants]
      exact past
    · rw [refused.inner, refused.grants]
      exact level
    · rw [refused.grants]
      exact tracks.windows

/-- Every step of a limiter keeps the stored level the level of the curve. -/
theorem RateLimiter.Tracks.step {rate : ℚ} {origin : Instant} {limiter after : RateLimiter}
    (tracks : limiter.Tracks rate origin) (nonneg : 0 ≤ rate) (event : LimiterEvent)
    (stepped : limiter.step event = some after) : after.Tracks rate origin := by
  rcases step_cases stepped with ⟨call, now, rfl, ordered, locked⟩ | ⟨_, inner, grants⟩
  · exact tracks.lock nonneg call now ordered locked
  · constructor
    · rw [inner]
      exact tracks.max
    · rw [inner]
      exact tracks.refill
    · rw [inner]
      exact tracks.begun
    · rw [inner, grants]
      exact tracks.past
    · rw [inner, grants]
      exact tracks.level
    · rw [grants]
      exact tracks.windows

/-- In every run of calls the stored level is the level of the curve. -/
theorem RateLimiter.tracks_of_reachable (rate : Nat) (positive : 1 ≤ rate) (origin : Instant)
    (limiter : RateLimiter) (reachable : (RateLimiter.new rate origin).Reachable limiter) :
    limiter.Tracks rate origin := by
  refine Run.Reaches.invariant reachable (tracks_new rate positive origin) ?_
  intro before event after tracks stepped
  exact tracks.step (Nat.cast_nonneg rate) event stepped

/-- A limiter was used since an instant only. -/
structure RateLimiter.UsedSince (origin : Instant) (limiter : RateLimiter) : Prop where
  last : origin ≤ limiter.inner.last
  grants : ∀ grant ∈ limiter.grants, origin ≤ grant

theorem RateLimiter.UsedSince.step {origin : Instant} {limiter after : RateLimiter}
    (used : limiter.UsedSince origin) (event : LimiterEvent)
    (stepped : limiter.step event = some after) : after.UsedSince origin := by
  rcases step_cases stepped with ⟨call, now, rfl, ordered, locked⟩ | ⟨_, inner, grants⟩
  · have late : origin ≤ now := used.last.trans ordered
    rcases limiter.lock_cases after call now locked with granted | refused
    · refine ⟨granted.inner ▸ late, ?_⟩
      rw [granted.grants]
      exact List.forall_mem_append.mpr ⟨used.grants, List.forall_mem_singleton.mpr late⟩
    · exact ⟨refused.inner ▸ late, refused.grants ▸ used.grants⟩
  · exact ⟨inner ▸ used.last, grants ▸ used.grants⟩

/-- No token is granted before the limiter was made. -/
theorem RateLimiter.usedSince_of_reachable (rate : Nat) (origin : Instant) (limiter : RateLimiter)
    (reachable : (RateLimiter.new rate origin).Reachable limiter) : limiter.UsedSince origin := by
  refine Run.Reaches.invariant reachable ⟨le_rfl, fun _ member => absurd member List.not_mem_nil⟩ ?_
  intro before event after used stepped
  exact used.step event stepped

/-! ### The limiter is the arrival curve -/

/-- The limiter is the token-bucket arrival curve: whatever calls ran before, a lock section
grants exactly when every window that ends at its instant still allows one more token; the
grants recorded are those sections; and no window has seen more than the curve allows. -/
theorem RateLimiter.lock_grants_iff_curve (rate : Nat) (positive : 1 ≤ rate) (origin : Instant)
    (limiter : RateLimiter) (reachable : (RateLimiter.new rate origin).Reachable limiter)
    (call : Nat) (now : Instant) (after : RateLimiter)
    (locked : limiter.step (.lock call now) = some after) :
    ((after.calls[call]?).any Call.granted = true ↔
      ∀ start, origin ≤ start → start ≤ now →
        1 + (grantsWithin limiter.grants start now : ℚ) ≤ rate + rate * (now - start)) ∧
    after.grants = limiter.grants ++
      (if (after.calls[call]?).any Call.granted then [now] else []) ∧
    ∀ start stop, origin ≤ start → start ≤ stop →
      (grantsWithin after.grants start stop : ℚ) ≤ rate + rate * (stop - start) := by
  have tracks := tracks_of_reachable rate positive origin limiter reachable
  have tracksAfter := tracks.step (Nat.cast_nonneg rate) (.lock call now) locked
  obtain ⟨ordered, locked⟩ := (limiter.step_lock_iff after call now).mp locked
  have level := tracks.refilled (Nat.cast_nonneg rate) now ordered
  rw [← level.le_iff 1]
  rcases limiter.lock_cases after call now locked with granted | refused
  · exact ⟨⟨fun _ => granted.enough, fun _ => granted.call⟩,
      by rw [granted.grants, granted.call, if_pos rfl], tracksAfter.windows⟩
  · refine ⟨⟨fun given => ?_, fun enough => absurd enough refused.short⟩, ?_, tracksAfter.windows⟩
    · rw [refused.call] at given
      cases given
    · rw [refused.grants, refused.call, if_neg Bool.false_ne_true, List.append_nil]

/-- At one message a second the second of two calls made at once is refused its token. -/
theorem RateLimiter.lock_grants_iff_curve_refused :
    ¬ ∀ start, (0 : Instant) ≤ start → start ≤ 0 →
      1 + (grantsWithin [(0 : Instant)] start 0 : ℚ) ≤ (1 : Nat) + (1 : Nat) * (0 - start) := by
  have reachable : (RateLimiter.new 1 0).Reachable
      { inner := ⟨0, 1, 1, 0⟩, calls := [.tried true, .trying], grants := [0] } :=
    ((Run.Reaches.refl.tail .tryAcquire rfl).tail .tryAcquire rfl).tail (.lock 0 0)
      (by decide +kernel)
  have decision := lock_grants_iff_curve 1 le_rfl 0 _ reachable 1 0
    { inner := ⟨0, 1, 1, 0⟩, calls := [.tried true, .tried false], grants := [0] }
    (by decide +kernel)
  exact fun allowed => absurd (decision.1.mpr allowed) (by decide)

end SiphonSmpp
