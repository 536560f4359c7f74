/-
This file bounds how long a paced `acquire` waits when other calls compete for
the tokens of the same limiter.

A limiter keeps no queue: a call that wakes up takes the lock like any other, and
a newer call may be served first. What a call can rely on is that it only waits
while others are served. Each of its waits is at most what one token takes, and
each wait after the first is paid for by a token that went to somebody else. When
no more calls are made, every token that is granted leaves one call fewer, so a
call among `n` has its token after at most `n` waits.
-/

import Mathlib.Data.List.Count
import SiphonSmpp.Pacing

namespace SiphonSmpp

open ArrivalCurve

/-! ### Calls that have not returned -/

/-- A call that has not returned. -/
def Call.outstanding : Call → Bool
  | .acquiring _ => true
  | .sleeping _ => true
  | .trying => true
  | .acquired _ => false
  | .tried _ => false

/-- How many calls compete for the tokens. -/
def RateLimiter.outstanding (limiter : RateLimiter) : Nat := limiter.calls.countP Call.outstanding

/-- An event that makes a call. -/
def LimiterEvent.makesCall : LimiterEvent → Bool
  | .acquire => true
  | .tryAcquire => true
  | _ => false

section Step

variable {limiter after : RateLimiter} {event : LimiterEvent} {call : Nat} {status : Call}

/-- A call that moves on stays outstanding or leaves the others alone to compete. -/
theorem outstanding_set {calls : List Call} (next : Call) (standing : calls[call]? = some status)
    (unreturned : status.outstanding = true) :
    (calls.set call next).countP Call.outstanding + (if next.outstanding then 0 else 1) =
      calls.countP Call.outstanding := by
  obtain ⟨bound, found⟩ := List.getElem?_eq_some_iff.mp standing
  have counted : 0 < calls.countP Call.outstanding :=
    List.countP_pos_iff.mpr ⟨status, List.mem_of_getElem? standing, unreturned⟩
  rw [List.countP_set bound, found, if_pos unreturned]
  cases next.outstanding with
  | false =>
    rw [if_neg Bool.false_ne_true, if_neg Bool.false_ne_true]
    omega
  | true =>
    rw [if_pos rfl, if_pos rfl]
    omega

theorem outstanding_pos (standing : limiter.calls[call]? = some status)
    (unreturned : status.outstanding = true) : 0 < limiter.outstanding :=
  List.countP_pos_iff.mpr ⟨status, List.mem_of_getElem? standing, unreturned⟩

/-- A lock section that grants a token leaves one call fewer, and any other leaves no more. -/
theorem RateLimiter.lock_outstanding {now : Instant}
    (locked : limiter.lock call now = some after) :
    after.outstanding + (after.grantOf (.lock call now)).length ≤ limiter.outstanding := by
  have grantOf : after.grantOf (.lock call now) =
      if (after.calls[call]?).any Call.granted then [(call, now)] else [] := rfl
  rw [grantOf]
  unfold RateLimiter.lock at locked
  split at locked
  · rename_i waited standing
    obtain ⟨bound, _⟩ := List.getElem?_eq_some_iff.mp standing
    split at locked
    · cases locked
      have fewer := outstanding_set (.acquired waited) standing rfl
      simp only [List.getElem?_set_self bound]
      exact le_of_eq fewer
    · rename_i duration _
      cases locked
      have same := outstanding_set (.sleeping (now + duration)) standing rfl
      simp only [List.getElem?_set_self bound]
      exact le_of_eq same
  · rename_i standing
    obtain ⟨bound, _⟩ := List.getElem?_eq_some_iff.mp standing
    split at locked
    · cases locked
      have fewer := outstanding_set (.tried true) standing rfl
      simp only [List.getElem?_set_self bound]
      exact le_of_eq fewer
    · cases locked
      have fewer := outstanding_set (.tried false) standing rfl
      simp only [List.getElem?_set_self bound]
      exact le_of_lt (Nat.lt_of_succ_le (le_of_eq fewer))
  · cases locked

/-- Unless a call is made, every token that is granted leaves one call fewer. -/
theorem RateLimiter.step_outstanding (stepped : limiter.step event = some after)
    (quiet : event.makesCall = false) :
    after.outstanding + (after.grantOf event).length ≤ limiter.outstanding := by
  cases event with
  | acquire => cases quiet
  | tryAcquire => cases quiet
  | lock call now => exact lock_outstanding ((limiter.step_lock_iff after call now).mp stepped).2
  | wake call =>
    rw [RateLimiter.step] at stepped
    split at stepped
    · rename_i wakeAt asleep
      cases stepped
      exact le_of_eq (outstanding_set (.acquiring true) asleep rfl)
    · cases stepped

/-- A call that has returned makes no more passes. -/
theorem RateLimiter.passesFrom_of_returned {waited : Bool} (since : List (Nat × Instant))
    (limiter : RateLimiter) (returned : limiter.calls[call]? = some (.acquired waited))
    (events : List LimiterEvent) : limiter.passesFrom call since events = [] := by
  induction events generalizing limiter since with
  | nil => rfl
  | cons event rest inductionHypothesis =>
    rw [RateLimiter.passesFrom]
    split
    · rfl
    · rename_i after stepped
      split
      · rename_i now passed
        obtain rfl := (LimiterEvent.passOf_eq_some_iff call event now).mp passed
        rcases standing_of_lock stepped with ⟨_, standing⟩ | standing
        · exact absurd (returned.symm.trans standing) (by simp)
        · exact absurd (returned.symm.trans standing) (by simp)
      · rename_i elsewhere
        rcases step_standing stepped elsewhere returned with same | ⟨⟨_, asleep⟩, _⟩
        · exact inductionHypothesis _ after same
        · cases asleep

/-- As long as no call is made, fewer tokens go to others between the passes of a call than calls
compete at the start. -/
theorem RateLimiter.since_lt_outstanding (since : List (Nat × Instant)) (limiter : RateLimiter)
    (events : List LimiterEvent) (quiet : ∀ event ∈ events, event.makesCall = false)
    (standing : limiter.calls[call]? = some status) (unreturned : status.outstanding = true)
    (acquiring : status ≠ .trying) :
    ((limiter.passesFrom call since events).flatMap AcquirePass.since).length + 1 ≤
      since.length + limiter.outstanding := by
  induction events generalizing limiter since status with
  | nil => exact Nat.add_le_add (Nat.zero_le _) (outstanding_pos standing unreturned)
  | cons event rest inductionHypothesis =>
    have quietRest : ∀ event ∈ rest, event.makesCall = false := fun event member =>
      quiet event (List.mem_cons_of_mem _ member)
    cases stepped : limiter.step event with
    | none =>
      rw [RateLimiter.passesFrom, stepped]
      exact Nat.add_le_add (Nat.zero_le _) (outstanding_pos standing unreturned)
    | some after =>
      have fewer := step_outstanding stepped (quiet event List.mem_cons_self)
      cases passed : event.passOf call with
      | none =>
        rw [passesFrom_other stepped passed]
        rcases step_standing stepped passed standing with same | ⟨_, woken⟩
        · have bound := inductionHypothesis (since ++ after.grantOf event) after quietRest same
            unreturned acquiring
          rw [List.length_append] at bound
          omega
        · have bound := inductionHypothesis (since ++ after.grantOf event) after quietRest woken
            rfl (by simp)
          rw [List.length_append] at bound
          omega
      | some now =>
        obtain rfl := (LimiterEvent.passOf_eq_some_iff call event now).mp passed
        rw [passesFrom_pass stepped, List.flatMap_cons, List.length_append]
        have sinceAt : (limiter.passAt since now).since = since := rfl
        rw [sinceAt]
        obtain ⟨waited, standing⟩ : ∃ waited, limiter.calls[call]? = some (.acquiring waited) := by
          refine (standing_of_lock stepped).resolve_right fun trying => acquiring ?_
          exact Option.some.inj (standing.symm.trans trying)
        obtain ⟨_, ⟨_, _, returned⟩ | ⟨_, _, _, _, wakeAt, sleeping⟩⟩ := step_pass stepped standing
        · rw [passesFrom_of_returned [] after returned]
          have competing := outstanding_pos standing rfl
          exact Nat.add_le_add_left competing since.length
        · have bound := inductionHypothesis [] after quietRest sleeping rfl (by simp)
          rw [List.length_nil] at bound
          omega

end Step

/-! ### The time between passes -/

/-- After its sleep is over, a call takes the lock within a delay. -/
def AcquirePass.Punctual (delay : Duration) (pass next : AcquirePass) : Prop :=
  ∀ wait, pass.result = .wait wait → next.now ≤ pass.now + wait + delay

section Waits

variable {rate : ℚ} {origin : Instant} {call : Nat} {limiter after : RateLimiter}

/-- No wait is longer than a single token takes. -/
theorem RateLimiter.passesFrom_wait_le (since : List (Nat × Instant))
    (tracks : limiter.Tracks rate origin) (positive : 0 < rate) (events : List LimiterEvent)
    {pass : AcquirePass} (member : pass ∈ limiter.passesFrom call since events) {wait : Duration}
    (refused : pass.result = .wait wait) : wait ≤ 1 / rate := by
  induction events generalizing limiter since with
  | nil => cases member
  | cons event rest inductionHypothesis =>
    rw [RateLimiter.passesFrom] at member
    split at member
    · cases member
    · rename_i after stepped
      have tracksAfter := tracks.step positive.le event stepped
      split at member
      · rename_i now passed
        rcases List.mem_cons.mp member with rfl | later
        · obtain rfl := (LimiterEvent.passOf_eq_some_iff call event now).mp passed
          have ordered := ((limiter.step_lock_iff after call now).mp stepped).1
          have level := tracks.refilled_nonneg positive.le now ordered
          have result : (limiter.inner.acquirePass now).2 = .wait wait := refused
          by_cases enough : 1 ≤ (limiter.inner.refilled now).tokens
          · rw [Bucket.acquirePass_of_le _ _ enough] at result
            cases result
          · rw [Bucket.acquirePass_of_not_le _ _ enough, tracks.refill] at result
            cases result
            exact div_le_div_of_nonneg_right (by linarith) positive.le
        · exact inductionHypothesis [] tracksAfter later
      · exact inductionHypothesis _ tracksAfter member

end Waits

/-- Passes a bounded time apart are all within as many times that bound of the first. -/
theorem AcquirePass.now_le {gap : Duration} (nonneg : 0 ≤ gap) (first : AcquirePass)
    (rest : List AcquirePass)
    (chain : (first :: rest).IsChain fun pass next => next.now ≤ pass.now + gap)
    (pass : AcquirePass) (member : pass ∈ first :: rest) :
    pass.now ≤ first.now + rest.length * gap := by
  induction rest generalizing first with
  | nil =>
    rw [List.mem_singleton.mp member, List.length_nil, Nat.cast_zero, zero_mul, add_zero]
  | cons next later inductionHypothesis =>
    obtain ⟨near, chainRest⟩ := List.isChain_cons_cons.mp chain
    rw [List.length_cons, Nat.cast_succ]
    rcases List.mem_cons.mp member with rfl | inRest
    · have some : 0 ≤ ((later.length : ℚ) + 1) * gap := by positivity
      exact le_add_of_nonneg_right some
    · have bound := inductionHypothesis next chainRest inRest
      linarith

/-- As long as a call is refused, every pass after its first is charged to a grant of its own. -/
theorem AcquirePass.length_le_grants_of_refused {call : Nat} (pass : AcquirePass)
    (passes : List AcquirePass)
    (chain : (pass :: passes).IsChain fun pass next =>
      pass.Follows call next ∧ pass.SleptOut next)
    (refused : ∀ last, (pass :: passes).getLast? = some last → last.result ≠ .granted) :
    passes.length ≤ (passes.flatMap AcquirePass.since).length := by
  induction passes generalizing pass with
  | nil => exact Nat.zero_le _
  | cons next rest inductionHypothesis =>
    obtain ⟨⟨follows, slept⟩, chainRest⟩ := List.isChain_cons_cons.mp chain
    rw [List.getLast?_cons_cons] at refused
    have fewer := inductionHypothesis next chainRest refused
    have nextRefused : next.result ≠ .granted := by
      cases rest with
      | nil => exact refused next rfl
      | cons further => exact (List.isChain_cons_cons.mp chainRest).1.1.not_granted
    have charged := List.length_pos_iff.mpr (follows.charged slept nextRefused)
    rw [List.length_cons, List.flatMap_cons, List.length_append]
    omega

/-! ### An `acquire` is served -/

/-- An `acquire` waits only while others are served. Over every run from when it is made, when its
sleeps last as long as asked and it takes the lock within a delay after them, all its passes lie
within the time its own token and those granted to others in its sleeps take, each with that
delay. When no more calls are made, a call among `n` outstanding ones is granted its token at the
latest by its pass `n + 1`, and all its passes lie within `n` such times. -/
theorem RateLimiter.acquire_is_served (rate : Nat) (origin : Instant) (limiter after : RateLimiter)
    (reachable : (RateLimiter.new rate origin).Reachable limiter) (call : Nat)
    (events : List LimiterEvent) (made : limiter.calls[call]? = some (.acquiring false))
    (ran : events.foldlM RateLimiter.step limiter = some after) (delay : Duration)
    (nonneg : 0 ≤ delay) (slept : (limiter.passes call events).IsChain AcquirePass.SleptOut)
    (punctual : (limiter.passes call events).IsChain (AcquirePass.Punctual delay)) :
    let passes := limiter.passes call events
    let gap : Duration := 1 / (max rate 1 : Nat) + delay
    (∀ first ∈ passes.head?, ∀ pass ∈ passes,
      pass.now ≤ first.now + ((passes.tail.flatMap AcquirePass.since).length + 1) * gap) ∧
    ((∀ event ∈ events, event.makesCall = false) →
      passes.length ≤ limiter.outstanding + 1 ∧
      (passes.length = limiter.outstanding + 1 →
        ∃ waited, after.calls[call]? = some (.acquired waited)) ∧
      ∀ first ∈ passes.head?, ∀ pass ∈ passes,
        pass.now ≤ first.now + limiter.outstanding * gap) := by
  intro passes gap
  have tracks := tracks_clamped rate origin limiter reachable
  have positive : (1 : ℚ) ≤ (max rate 1 : Nat) := Nat.one_le_cast.mpr (le_max_right _ _)
  have above : (0 : ℚ) < (max rate 1 : Nat) := lt_of_lt_of_le one_pos positive
  have gapNonneg : 0 ≤ gap := add_nonneg (div_nonneg zero_le_one above.le) nonneg
  have begun : limiter.Stands (max rate 1 : Nat) origin call [] none := .made made
  obtain ⟨chain, spent, stands⟩ := begun.run tracks positive events ran
  have chain : passes.IsChain (AcquirePass.Follows call) := chain
  have stands : after.Stands (max rate 1 : Nat) origin call spent passes.getLast? := stands
  have sleeps : passes.IsChain fun pass next => pass.Follows call next ∧ pass.SleptOut next :=
    List.isChain_iff_getElem.mpr fun index within =>
      ⟨chain.getElem index within, slept.getElem index within⟩
  -- each refused pass asked for at most the time of one token
  have near : passes.IsChain fun pass next => next.now ≤ pass.now + gap := by
    refine List.isChain_iff_getElem.mpr fun index within => ?_
    obtain ⟨wait, refused, _⟩ := (chain.getElem index within).refused
    have short := passesFrom_wait_le [] tracks above events (List.getElem_mem _) refused
    have soon := punctual.getElem index within wait refused
    simp only [gap]
    linarith
  have within : ∀ bound : Nat, passes.length ≤ bound + 1 → ∀ first ∈ passes.head?,
      ∀ pass ∈ passes, pass.now ≤ first.now + bound * gap := by
    intro bound fewer first head pass member
    obtain ⟨rest, listed⟩ := List.head?_eq_some_iff.mp head
    rw [listed] at near member fewer
    have last := AcquirePass.now_le gapNonneg first rest near pass member
    have longer : (rest.length : ℚ) * gap ≤ bound * gap := by
      refine mul_le_mul_of_nonneg_right (Nat.cast_le.mpr ?_) gapNonneg
      exact Nat.le_of_succ_le_succ fewer
    linarith
  have charged : passes.length ≤ (passes.tail.flatMap AcquirePass.since).length + 1 + 1 := by
    cases listed : passes with
    | nil => exact Nat.zero_le _
    | cons pass rest =>
      have fewer := AcquirePass.length_le_grants pass rest (listed ▸ sleeps)
      rw [List.length_cons, List.tail_cons]
      omega
  refine ⟨fun first head pass member => ?_, fun quiet => ?_⟩
  · have last := within _ charged first head pass member
    rwa [Nat.cast_succ] at last
  · have others : (passes.tail.flatMap AcquirePass.since).length + 1 ≤ limiter.outstanding := by
      have all := since_lt_outstanding [] limiter events quiet made rfl nofun
      rw [List.length_nil, Nat.zero_add] at all
      have first : (passes.tail.flatMap AcquirePass.since).length ≤
          (passes.flatMap AcquirePass.since).length := by
        cases passes with
        | nil => exact Nat.le_refl _
        | cons pass rest =>
          rw [List.tail_cons, List.flatMap_cons, List.length_append]
          exact Nat.le_add_left _ _
      exact le_trans (Nat.succ_le_succ first) all
    have fewer : passes.length ≤ limiter.outstanding + 1 := charged.trans (Nat.succ_le_succ others)
    refine ⟨fewer, fun full => ?_, within _ fewer⟩
    -- a last pass that was refused too would need a token to somebody else of its own
    by_contra waiting
    rw [stands.returned_iff] at waiting
    cases listed : passes with
    | nil =>
      rw [listed] at full
      cases full
    | cons pass rest =>
      rw [listed] at sleeps full waiting others
      have refused : ∀ last, (pass :: rest).getLast? = some last → last.result ≠ .granted :=
        fun last final granted => waiting ⟨last, final, granted⟩
      have paid := AcquirePass.length_le_grants_of_refused pass rest sleeps refused
      rw [List.length_cons] at full
      rw [List.tail_cons] at others
      omega

/-- At one message a second, the later of two calls that wait for the same token has its own by its
third pass, two seconds after its first. -/
theorem RateLimiter.acquire_is_served_second :
    let limiter : RateLimiter :=
      { inner := ⟨0, 1, 1, 0⟩, calls := [.tried true, .acquiring false, .acquiring false],
        grants := [0] }
    let events : List LimiterEvent :=
      [.lock 1 0, .lock 2 0, .wake 2, .wake 1, .lock 2 1, .lock 1 1, .wake 1, .lock 1 2]
    ∃ after, events.foldlM RateLimiter.step limiter = some after ∧
      (∃ waited, after.calls[1]? = some (.acquired waited)) ∧
      ∀ pass ∈ limiter.passes 1 events, pass.now ≤ 2 := by
  intro limiter events
  have reachable : (RateLimiter.new 1 0).Reachable limiter :=
    (((Run.Reaches.refl.tail .tryAcquire rfl).tail .acquire rfl).tail .acquire rfl).tail (.lock 0 0)
      (by decide +kernel)
  have passes : limiter.passes 1 events =
      [⟨[], 0, 0, .wait 1⟩, ⟨[(2, 1)], 1, 0, .wait 1⟩, ⟨[], 2, 1, .granted⟩] := by
    decide +kernel
  have ran : events.foldlM RateLimiter.step limiter =
      some { inner := ⟨0, 1, 1, 2⟩, calls := [.tried true, .acquired true, .acquired true],
             grants := [0, 1, 2] } := by
    decide +kernel
  have onTime : ∀ wait now next : ℚ, now + wait = next → now + wait ≤ next ∧ next ≤ now + wait + 0 :=
    fun wait now next same => ⟨le_of_eq same, le_of_eq (by rw [same, add_zero])⟩
  have slept : (limiter.passes 1 events).IsChain AcquirePass.SleptOut := by
    rw [passes]
    refine List.isChain_cons_cons.mpr ⟨?_, List.isChain_cons_cons.mpr ⟨?_, .singleton _⟩⟩
    · intro wait same
      cases same
      exact (onTime 1 0 1 (by norm_num)).1
    · intro wait same
      cases same
      exact (onTime 1 1 2 (by norm_num)).1
  have punctual : (limiter.passes 1 events).IsChain (AcquirePass.Punctual 0) := by
    rw [passes]
    refine List.isChain_cons_cons.mpr ⟨?_, List.isChain_cons_cons.mpr ⟨?_, .singleton _⟩⟩
    · intro wait same
      cases same
      exact (onTime 1 0 1 (by norm_num)).2
    · intro wait same
      cases same
      exact (onTime 1 1 2 (by norm_num)).2
  have served := (acquire_is_served 1 0 limiter _ reachable 1 events rfl ran 0 le_rfl slept
    punctual).2 (by decide)
  have competing : limiter.outstanding = 2 := rfl
  rw [passes, competing] at served
  refine ⟨_, ran, served.2.1 rfl, ?_⟩
  rw [passes]
  intro pass member
  refine (served.2.2 _ rfl pass member).trans ?_
  norm_num

end SiphonSmpp
