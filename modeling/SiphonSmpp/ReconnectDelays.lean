/-
This file proves the closed form of the delays between the attempts of an
outbound bind. What an attempt comes to is said in terms of its polls: the
connect failed, the deadline ran out, or the session was held from the poll that
found it up to the one that found it down.

Whatever an attempt comes to, it takes the supervisor through one iteration of
its loop in finitely many steps, and what the iteration leaves behind depends on
the backoff before it and on whether the session was held long enough. So the
delays are those of `Lib/Escalation.lean`, for every infinite sequence of
outcomes.
-/

import SiphonSmpp.Lib.Escalation
import SiphonSmpp.Reconnect

namespace SiphonSmpp

/-! ### What an attempt comes to -/

/-- How an attempt ends for the supervisor. -/
inductive AttemptOutcome where
  | connectFailed
  | deadline
  | held (duration : Duration)
  deriving DecidableEq, Repr

/-- The session was held long enough for the backoff to start over. -/
def AttemptOutcome.Healthy : AttemptOutcome → Prop
  | .held duration => healthyThreshold ≤ duration
  | _ => False

instance : DecidablePred AttemptOutcome.Healthy
  | .held duration => inferInstanceAs (Decidable (healthyThreshold ≤ duration))
  | .connectFailed => inferInstanceAs (Decidable False)
  | .deadline => inferInstanceAs (Decidable False)

/-- Whether the supervisor goes on waiting at a poll. -/
def Attempt.awaits (attempt : Attempt) (poll : Nat) : Bool :=
  let elapsed := attempt.pollAt poll
  awaitingBind (attempt.isAlive elapsed) (attempt.hasFailed elapsed) elapsed bindDeadline

/-- What an attempt comes to, as its polls find it. -/
inductive Attempt.ComesTo (attempt : Attempt) : AttemptOutcome → Prop where
  | connectFailed (last : Nat) (awaited : ∀ poll < last, attempt.awaits poll = true)
    (dead : attempt.isAlive (attempt.pollAt last) = false)
    (failed : attempt.hasFailed (attempt.pollAt last) = true) : attempt.ComesTo .connectFailed
  | deadline (last : Nat) (awaited : ∀ poll < last, attempt.awaits poll = true)
    (dead : attempt.isAlive (attempt.pollAt last) = false)
    (unfailed : attempt.hasFailed (attempt.pollAt last) = false)
    (expired : bindDeadline ≤ attempt.pollAt last) : attempt.ComesTo .deadline
  | held (first last : Nat) (awaited : ∀ poll < first, attempt.awaits poll = true)
    (before : first < last)
    (up : ∀ poll, first ≤ poll → poll < last → attempt.isAlive (attempt.pollAt poll) = true)
    (down : attempt.isAlive (attempt.pollAt last) = false) :
    attempt.ComesTo (.held (attempt.pollAt last - attempt.pollAt first))

theorem Attempt.awaits_of_alive {attempt : Attempt} {poll : Nat}
    (alive : attempt.isAlive (attempt.pollAt poll) = true) : attempt.awaits poll = false := by
  rw [Attempt.awaits, awaitingBind, alive]
  rfl

theorem Attempt.awaits_of_failed {attempt : Attempt} {poll : Nat}
    (failed : attempt.hasFailed (attempt.pollAt poll) = true) : attempt.awaits poll = false := by
  rw [Attempt.awaits, awaitingBind, failed, Bool.not_true, Bool.and_false, Bool.false_and]

theorem Attempt.awaits_of_expired {attempt : Attempt} {poll : Nat}
    (expired : bindDeadline ≤ attempt.pollAt poll) : attempt.awaits poll = false := by
  rw [Attempt.awaits, awaitingBind, decide_eq_false (not_lt.mpr expired), Bool.and_false]

/-! ### Through an attempt -/

section Iteration

variable (attempts : Nat → Attempt)

/-- Some number of steps leads from one state of the supervisor to another. -/
def Supervisor.Leads (first last : Supervisor) : Prop :=
  ∃ steps, (Supervisor.step attempts)^[steps] first = last

variable {attempts} {supervisor middle last : Supervisor}

theorem Supervisor.Leads.trans (front : supervisor.Leads attempts middle)
    (back : middle.Leads attempts last) : supervisor.Leads attempts last := by
  obtain ⟨steps, rfl⟩ := front
  obtain ⟨more, rfl⟩ := back
  exact ⟨more + steps, Function.iterate_add_apply _ _ _ _⟩

theorem Supervisor.Leads.step (front : supervisor.Leads attempts middle)
    (stepped : middle.step attempts = last) : supervisor.Leads attempts last :=
  front.trans ⟨1, stepped⟩

/-- The supervisor in a phase at a poll of the attempt it is about to start. -/
def Supervisor.atPoll (supervisor : Supervisor) (attempt : Attempt) (poll : Nat)
    (phase : BindPhase) : Supervisor :=
  { supervisor with now := supervisor.now + attempt.pollAt poll, phase := phase }

theorem Supervisor.atPoll_elapsed (supervisor : Supervisor) (attempt : Attempt) (poll : Nat)
    (phase : BindPhase) :
    (supervisor.atPoll attempt poll phase).now - supervisor.now = attempt.pollAt poll :=
  add_sub_cancel_left _ _

/-- A sleep takes the supervisor to the next poll. -/
theorem Supervisor.atPoll_poll (supervisor : Supervisor) (attempt : Attempt) (poll : Nat)
    (phase next : BindPhase) :
    (supervisor.atPoll attempt poll phase).poll attempt poll next =
      supervisor.atPoll attempt (poll + 1) next := by
  have clock : supervisor.now + attempt.pollAt poll + pollInterval + attempt.late poll =
      supervisor.now + attempt.pollAt (poll + 1) := by
    rw [Attempt.pollAt, ← add_assoc, ← add_assoc]
  rw [Supervisor.poll, Supervisor.atPoll, clock]
  rfl

/-- What a step of the wait does at a poll. -/
theorem Supervisor.step_awaiting (supervisor : Supervisor) (poll : Nat) :
    let attempt := attempts supervisor.attempt
    (supervisor.atPoll attempt poll (.awaiting supervisor.now poll)).step attempts =
      if attempt.awaits poll then
        supervisor.atPoll attempt (poll + 1) (.awaiting supervisor.now (poll + 1))
      else if attempt.isAlive (attempt.pollAt poll) then
        supervisor.atPoll attempt poll
          (.holding supervisor.now poll (supervisor.now + attempt.pollAt poll))
      else supervisor.atPoll attempt poll (.ended supervisor.now poll none) := by
  intro attempt
  have elapsed := supervisor.atPoll_elapsed attempt poll (.awaiting supervisor.now poll)
  have slept := supervisor.atPoll_poll attempt poll (.awaiting supervisor.now poll)
    (.awaiting supervisor.now (poll + 1))
  show (if awaitingBind (attempt.isAlive _) (attempt.hasFailed _) _ bindDeadline then
      (supervisor.atPoll attempt poll _).poll attempt poll (.awaiting supervisor.now (poll + 1))
    else if attempt.isAlive _ then _ else _) = _
  rw [elapsed, slept]
  rfl

/-- What a step of the hold does at a poll. -/
theorem Supervisor.step_holding (supervisor : Supervisor) (poll : Nat) (boundAt : Instant) :
    let attempt := attempts supervisor.attempt
    (supervisor.atPoll attempt poll (.holding supervisor.now poll boundAt)).step attempts =
      if attempt.isAlive (attempt.pollAt poll) then
        supervisor.atPoll attempt (poll + 1) (.holding supervisor.now (poll + 1) boundAt)
      else supervisor.atPoll attempt poll (.ended supervisor.now poll (some boundAt)) := by
  intro attempt
  have elapsed := supervisor.atPoll_elapsed attempt poll (.holding supervisor.now poll boundAt)
  have slept := supervisor.atPoll_poll attempt poll (.holding supervisor.now poll boundAt)
    (.holding supervisor.now (poll + 1) boundAt)
  show (if attempt.isAlive _ then
      (supervisor.atPoll attempt poll _).poll attempt poll
        (.holding supervisor.now (poll + 1) boundAt)
    else _) = _
  rw [elapsed, slept]
  rfl

/-- The supervisor waits as long as its polls say so. -/
theorem Supervisor.leads_awaiting (starting : supervisor.phase = .starting) (polls : Nat)
    (awaited : ∀ poll < polls, (attempts supervisor.attempt).awaits poll = true) :
    supervisor.Leads attempts (supervisor.atPoll (attempts supervisor.attempt) polls
      (.awaiting supervisor.now polls)) := by
  induction polls with
  | zero =>
    refine ⟨1, ?_⟩
    show supervisor.step attempts = _
    rw [Supervisor.step, starting, Supervisor.atPoll, Attempt.pollAt, add_zero]
  | succ polls inductionHypothesis =>
    have front := inductionHypothesis fun poll before =>
      awaited poll (before.trans (Nat.lt_succ_self _))
    refine front.step ?_
    rw [supervisor.step_awaiting, if_pos (awaited polls (Nat.lt_succ_self _))]

/-- The supervisor holds a session as long as its polls find it up. -/
theorem Supervisor.leads_holding {first : Nat} {boundAt : Instant} (polls : Nat)
    (up : ∀ poll, first ≤ poll → poll < first + polls →
      (attempts supervisor.attempt).isAlive ((attempts supervisor.attempt).pollAt poll) = true)
    (front : middle.Leads attempts (supervisor.atPoll (attempts supervisor.attempt) first
      (.holding supervisor.now first boundAt))) :
    middle.Leads attempts (supervisor.atPoll (attempts supervisor.attempt) (first + polls)
      (.holding supervisor.now (first + polls) boundAt)) := by
  induction polls with
  | zero => exact front
  | succ polls inductionHypothesis =>
    have held := inductionHypothesis fun poll after before =>
      up poll after (before.trans (Nat.lt_succ_self _))
    refine held.step ?_
    rw [supervisor.step_holding,
      if_pos (up (first + polls) (Nat.le_add_right _ _) (Nat.lt_succ_self _))]
    rfl

/-- An attempt that comes to an outcome takes the supervisor to its end, where the session counts
as healthy exactly when the outcome is. -/
theorem Supervisor.leads_ended {outcome : AttemptOutcome} (starting : supervisor.phase = .starting)
    (comesTo : (attempts supervisor.attempt).ComesTo outcome) :
    ∃ polls boundAt, supervisor.Leads attempts
      (supervisor.atPoll (attempts supervisor.attempt) polls
        (.ended supervisor.now polls boundAt)) ∧
      ((boundAt.any fun bound => healthyThreshold ≤
        supervisor.now + (attempts supervisor.attempt).pollAt polls - bound) = true ↔
        outcome.Healthy) := by
  cases comesTo with
  | connectFailed last awaited dead failed =>
    refine ⟨last, none, (leads_awaiting starting last awaited).step ?_, iff_of_false nofun nofun⟩
    rw [supervisor.step_awaiting, if_neg (Bool.eq_false_iff.mp (Attempt.awaits_of_failed failed)),
      if_neg (Bool.eq_false_iff.mp dead)]
  | deadline last awaited dead unfailed expired =>
    refine ⟨last, none, (leads_awaiting starting last awaited).step ?_, iff_of_false nofun nofun⟩
    rw [supervisor.step_awaiting, if_neg (Bool.eq_false_iff.mp (Attempt.awaits_of_expired expired)),
      if_neg (Bool.eq_false_iff.mp dead)]
  | held first last awaited before up down =>
    have alive := up first le_rfl before
    have bound := (leads_awaiting starting first awaited).step (by
      rw [supervisor.step_awaiting, if_neg (Bool.eq_false_iff.mp (Attempt.awaits_of_alive alive)),
        if_pos alive])
    have elapsed : first + (last - first) = last := Nat.add_sub_cancel' before.le
    have held := leads_holding (last - first) (elapsed.symm ▸ up) bound
    rw [elapsed] at held
    refine ⟨last, some (supervisor.now + (attempts supervisor.attempt).pollAt first),
      held.step ?_, ?_⟩
    · rw [supervisor.step_holding, if_neg (Bool.eq_false_iff.mp down)]
    · rw [Option.any_some, decide_eq_true_iff, add_sub_add_left_eq_sub]
      rfl

end Iteration

/-! ### Through any number of attempts -/

section Delays

variable (attempts : Nat → Attempt) (outcomes : Nat → AttemptOutcome)

/-- The delay in milliseconds after an attempt. -/
def reconnectDelayMs : Nat → Nat :=
  Escalation.delay 1000 2 60000 fun attempt => (outcomes attempt).Healthy

/-- The supervisor is done with the attempts before a certain one, and about to start that. -/
structure Supervisor.DoneBefore (next : Nat) (supervisor : Supervisor) : Prop where
  phase : supervisor.phase = .starting
  attempt : supervisor.attempt = next
  backoffMs : supervisor.backoffMs =
    Escalation.counter 1000 2 60000 (fun earlier => (outcomes earlier).Healthy) next
  delays : supervisor.backoffs.map (fun backoff => (backoff.attempt, backoff.delayMs)) =
    (List.range next).map fun earlier => (earlier, reconnectDelayMs outcomes earlier)

variable {attempts outcomes}

/-- One iteration of the loop. -/
theorem Supervisor.DoneBefore.succ {attempt : Nat} {supervisor : Supervisor}
    (done : supervisor.DoneBefore outcomes attempt)
    (comesTo : (attempts attempt).ComesTo (outcomes attempt)) :
    ∃ after, supervisor.Leads attempts after ∧ after.DoneBefore outcomes (attempt + 1) := by
  obtain ⟨phase, rfl, backoffMs, delays⟩ := done
  obtain ⟨polls, boundAt, leads, healthy⟩ := Supervisor.leads_ended phase comesTo
  have slept : (if boundAt.any fun bound => healthyThreshold ≤
      supervisor.now + (attempts supervisor.attempt).pollAt polls - bound then 1000
      else supervisor.backoffMs) = reconnectDelayMs outcomes supervisor.attempt := by
    rw [reconnectDelayMs, Escalation.delay, backoffMs]
    exact if_congr healthy rfl rfl
  refine ⟨_, leads.step rfl, rfl, rfl, ?_, ?_⟩
  · exact congrArg (fun delayMs => min (delayMs * 2) 60000) slept
  · show (supervisor.backoffs ++ [_]).map _ = _
    rw [List.map_append, delays, List.range_succ, List.map_append, List.map_singleton,
      List.map_singleton]
    exact congrArg (fun delayMs => _ ++ [(supervisor.attempt, delayMs)]) slept

theorem Supervisor.run_eq_iterate (now : Instant) (steps : Nat) :
    run attempts now steps = (Supervisor.step attempts)^[steps] (.start now) := by
  induction steps with
  | zero => rfl
  | succ steps inductionHypothesis =>
    rw [Function.iterate_succ_apply', ← inductionHypothesis]
    rfl

/-- Every attempt is come to. -/
theorem Supervisor.exists_doneBefore
    (comesTo : ∀ attempt, (attempts attempt).ComesTo (outcomes attempt)) (now : Instant)
    (attempt : Nat) : ∃ steps, (run attempts now steps).DoneBefore outcomes attempt := by
  have leads : ∃ after, (Supervisor.start now).Leads attempts after ∧
      after.DoneBefore outcomes attempt := by
    induction attempt with
    | zero => exact ⟨.start now, ⟨0, rfl⟩, rfl, rfl, rfl, rfl⟩
    | succ attempt inductionHypothesis =>
      obtain ⟨middle, front, done⟩ := inductionHypothesis
      obtain ⟨after, back, doneAfter⟩ := done.succ (comesTo attempt)
      exact ⟨after, front.trans back, doneAfter⟩
  obtain ⟨after, ⟨steps, rfl⟩, done⟩ := leads
  exact ⟨steps, (run_eq_iterate now steps).symm ▸ done⟩

/-- What the supervisor has slept for stays on record. -/
theorem Supervisor.backoffs_sublist (now : Instant) {steps later : Nat} (ordered : steps ≤ later) :
    (run attempts now steps).backoffs.Sublist (run attempts now later).backoffs := by
  induction later, ordered using Nat.le_induction with
  | base => exact List.Sublist.refl _
  | succ later _ inductionHypothesis =>
    refine inductionHypothesis.trans ?_
    show (run attempts now later).backoffs.Sublist ((run attempts now later).step attempts).backoffs
    rcases step_cases attempts (run attempts now later) with
      ⟨_, stepped⟩ | ⟨_, _, _, _, _, _, stepped⟩ | ⟨_, _, _, _, stepped⟩
    · rw [stepped]
    · rw [stepped]
    · rw [stepped]
      exact List.sublist_append_left _ _

theorem Supervisor.backoffs_length (now : Instant) (steps : Nat) :
    (run attempts now steps).backoffs.length = (run attempts now steps).attempt := by
  have numbered := congrArg List.length (kept_run attempts now steps).backoffs
  rwa [List.length_map, List.length_range] at numbered

/-! ### The delay after an attempt -/

variable (attempts) in
/-- The supervisor, started at an instant, sleeps this many milliseconds after an attempt. -/
def Supervisor.Sleeps (now : Instant) (attempt delayMs : Nat) : Prop :=
  ∃ steps, ∃ backoff ∈ (run attempts now steps).backoffs,
    backoff.attempt = attempt ∧ backoff.delayMs = delayMs

/-- After every attempt the supervisor sleeps, for exactly the delay of the attempt. -/
theorem Supervisor.sleeps_iff
    (comesTo : ∀ attempt, (attempts attempt).ComesTo (outcomes attempt)) (now : Instant)
    (attempt delayMs : Nat) :
    Supervisor.Sleeps attempts now attempt delayMs ↔
      delayMs = reconnectDelayMs outcomes attempt := by
  constructor
  · rintro ⟨steps, backoff, listed, rfl, rfl⟩
    -- a state after more attempts has the same entry on record
    obtain ⟨later, done⟩ := exists_doneBefore comesTo now ((run attempts now steps).attempt + 1)
    have ordered : steps ≤ later := by
      by_contra early
      have fewer : (run attempts now later).backoffs.length ≤
          (run attempts now steps).backoffs.length :=
        (backoffs_sublist now (not_le.mp early).le).length_le
      rw [backoffs_length, backoffs_length, done.attempt] at fewer
      exact absurd fewer (Nat.not_succ_le_self _)
    have recorded := List.mem_map_of_mem
      (f := fun backoff => (backoff.attempt, backoff.delayMs))
      ((backoffs_sublist now ordered).subset listed)
    rw [done.delays, List.mem_map] at recorded
    obtain ⟨earlier, _, same⟩ := recorded
    obtain ⟨sameAttempt, sameDelay⟩ := Prod.mk.inj same
    rw [← sameDelay, sameAttempt]
  · rintro rfl
    obtain ⟨steps, done⟩ := exists_doneBefore comesTo now (attempt + 1)
    have recorded : (attempt, reconnectDelayMs outcomes attempt) ∈
        (run attempts now steps).backoffs.map
          fun backoff => (backoff.attempt, backoff.delayMs) := by
      rw [done.delays]
      exact List.mem_map_of_mem (List.mem_range.mpr (Nat.lt_succ_self _))
    obtain ⟨backoff, listed, same⟩ := List.mem_map.mp recorded
    exact ⟨steps, backoff, listed, congrArg Prod.fst same, congrArg Prod.snd same⟩

end Delays

/-- The delays between the attempts have their closed form, whatever the attempts come to: the
base doubled once for each attempt since the last healthy session, or since the start, up to the
cap. So they lie between a second and a minute, do not decrease until the next healthy session,
are a second after one, and their double is the one that 64 bits hold. -/
theorem reconnect_delays_closed_form (attempts : Nat → Attempt) (outcomes : Nat → AttemptOutcome)
    (comesTo : ∀ attempt, (attempts attempt).ComesTo (outcomes attempt)) (now : Instant) :
    (∀ attempt, ∃ delayMs, Supervisor.Sleeps attempts now attempt delayMs) ∧
    ∀ attempt delayMs, Supervisor.Sleeps attempts now attempt delayMs →
      (∀ last ≤ attempt, (outcomes last).Healthy →
        (∀ later, last < later → later ≤ attempt → ¬ (outcomes later).Healthy) →
        delayMs = min 60000 (1000 * 2 ^ (attempt - last))) ∧
      ((∀ earlier ≤ attempt, ¬ (outcomes earlier).Healthy) →
        delayMs = min 60000 (1000 * 2 ^ attempt)) ∧
      1000 ≤ delayMs ∧ delayMs ≤ 60000 ∧
      ((outcomes attempt).Healthy → delayMs = 1000) ∧
      (∀ later laterMs, attempt ≤ later →
        (∀ between, attempt < between → between ≤ later → ¬ (outcomes between).Healthy) →
        Supervisor.Sleeps attempts now later laterMs → delayMs ≤ laterMs) ∧
      (UInt64.ofNat delayMs * 2).toNat = delayMs * 2 := by
  have sleeps := Supervisor.sleeps_iff comesTo now
  refine ⟨fun attempt => ⟨_, (sleeps attempt _).mpr rfl⟩, fun attempt delayMs slept => ?_⟩
  obtain rfl := (sleeps attempt delayMs).mp slept
  have within : 1000 ≤ 60000 := by decide
  have grows : 1 ≤ 2 := by decide
  have atMost : reconnectDelayMs outcomes attempt ≤ 60000 := Escalation.delay_le_cap within attempt
  refine ⟨?_, ?_, Escalation.base_le_delay within grows attempt, atMost, ?_, ?_, ?_⟩
  · intro last before healthy unhealthy
    exact Escalation.delay_of_last_reset within grows before healthy unhealthy
  · intro unhealthy
    exact Escalation.delay_of_no_reset within grows unhealthy
  · intro healthy
    exact Escalation.delay_of_reset healthy
  · intro later laterMs ordered unhealthy sleptLater
    rw [(sleeps later laterMs).mp sleptLater]
    exact Escalation.delay_mono within grows ordered unhealthy
  · have fits : reconnectDelayMs outcomes attempt < 2 ^ 64 := by omega
    have doubled : reconnectDelayMs outcomes attempt * 2 < 2 ^ 64 := by omega
    rw [UInt64.toNat_mul, UInt64.toNat_ofNat_of_lt' fits]
    exact Nat.mod_eq_of_lt doubled

/-! ### Attempts of any outcome -/

/-- An attempt that comes to an outcome. A session is held until the poll after the one that
finds it up, so for no less than the time between the two. -/
def AttemptOutcome.attempt : AttemptOutcome → Attempt
  | .connectFailed => { quietAttempt with connectFailed := some 0 }
  | .deadline => quietAttempt
  | .held duration =>
    { up := some 0
      down := some (max duration pollInterval)
      connectFailed := none
      late _ := max duration pollInterval - pollInterval
      lateBackoff := 0
      up_nonneg := halfSecond.up_nonneg
      down_after _ same := ⟨0, rfl,
        Option.some.inj same ▸ lt_of_lt_of_le one_pos (le_max_right duration pollInterval)⟩
      late_nonneg _ := sub_nonneg.mpr (le_max_right _ _)
      lateBackoff_nonneg := quietAttempt.lateBackoff_nonneg }

theorem pollAt_quietAttempt (poll : Nat) : quietAttempt.pollAt poll = poll := by
  induction poll with
  | zero => rfl
  | succ poll inductionHypothesis =>
    rw [Attempt.pollAt, inductionHypothesis, Nat.cast_succ]
    exact add_zero _

theorem AttemptOutcome.comesTo_attempt (outcome : AttemptOutcome)
    (polled : ∀ duration, outcome = .held duration → pollInterval ≤ duration) :
    outcome.attempt.ComesTo outcome := by
  cases outcome with
  | connectFailed =>
    refine Attempt.ComesTo.connectFailed 0 (fun _ before => nomatch before) rfl ?_
    show decide ((0 : Duration) ≤ 0) = true
    exact decide_eq_true le_rfl
  | deadline =>
    refine Attempt.ComesTo.deadline 15 (fun poll before => ?_) rfl rfl ?_
    · show decide (quietAttempt.pollAt poll < 15) = true
      rw [pollAt_quietAttempt, decide_eq_true_iff]
      exact_mod_cast before
    · show (15 : Duration) ≤ quietAttempt.pollAt 15
      rw [pollAt_quietAttempt]
      norm_num
  | held duration =>
    have longer : max duration pollInterval = duration := max_eq_left (polled duration rfl)
    have begun : (AttemptOutcome.held duration).attempt.pollAt 0 = 0 := rfl
    have next : (AttemptOutcome.held duration).attempt.pollAt 1 = duration := by
      show (0 : Duration) + pollInterval + (max duration pollInterval - pollInterval) = duration
      rw [longer]
      ring
    have alive : (AttemptOutcome.held duration).attempt.isAlive 0 = true := by
      refine (Attempt.isAlive_iff _ _).mpr ⟨⟨0, rfl, le_rfl⟩, fun down same => ?_⟩
      rw [← Option.some.inj same]
      exact lt_of_lt_of_le one_pos (le_max_right _ _)
    have dead : (AttemptOutcome.held duration).attempt.isAlive duration = false := by
      rw [Bool.eq_false_iff, Ne, Attempt.isAlive_iff]
      rintro ⟨_, later⟩
      exact lt_irrefl duration (later duration (congrArg some longer))
    have up : ∀ poll, 0 ≤ poll → poll < 1 → (AttemptOutcome.held duration).attempt.isAlive
        ((AttemptOutcome.held duration).attempt.pollAt poll) = true := by
      intro poll _ before
      rwa [Nat.lt_one_iff.mp before, begun]
    have comesTo := Attempt.ComesTo.held 0 1 (fun _ before => nomatch before) Nat.one_pos up
      (by rwa [next])
    rwa [begun, next, sub_zero] at comesTo

/-- A deadline, a session held for 40 seconds, and refused connects from then on. -/
def blipThenRefused : Nat → AttemptOutcome
  | 0 => .deadline
  | 1 => .held 40
  | _ => .connectFailed

/-- Six attempts after the session the delay has reached the cap. -/
theorem reconnect_delays_closed_form_capped :
    Supervisor.Sleeps (fun attempt => (blipThenRefused attempt).attempt) 0 7 60000 := by
  have polled : ∀ attempt duration, blipThenRefused attempt = .held duration →
      pollInterval ≤ duration := by
    rintro (_ | _ | _) duration same
    · cases same
    · cases same
      norm_num [pollInterval]
    · cases same
  have unhealthy : ∀ later, 1 < later → later ≤ 7 → ¬ (blipThenRefused later).Healthy := by
    rintro (_ | _ | _) after _
    · omega
    · omega
    · exact id
  have healthy : (blipThenRefused 1).Healthy := by
    show healthyThreshold ≤ (40 : Duration)
    norm_num [healthyThreshold]
  have closed := reconnect_delays_closed_form (fun attempt => (blipThenRefused attempt).attempt)
    blipThenRefused (fun attempt => AttemptOutcome.comesTo_attempt _ (polled attempt)) 0
  obtain ⟨delayMs, slept⟩ := closed.1 7
  have capped := (closed.2 7 delayMs slept).1 1 (by decide) healthy unhealthy
  rw [capped] at slept
  exact slept

end SiphonSmpp
