/-
This file models the supervisor of an outbound bind (`run_bind_loop` in
`src/runtime.rs`) as a machine over a clock. Only its sleeps take time, and a
sleep lasts at least as long as it was asked to. What the client does is an
input: when its session comes up and goes down again, and when a connect fails.

The supervisor sees the session only at its polls. A session that comes up and
goes down between two of them is not seen at all: the attempt ends with the
deadline, as if nothing had come up. `sessions_noticed_iff` says that this is
the only way a session is missed.
-/

import Mathlib.Algebra.Order.Field.Rat
import Mathlib.Algebra.Order.Archimedean.Basic
import Mathlib.Tactic.Linarith
import Mathlib.Tactic.NormNum
import SiphonSmpp.RateLimiter

namespace SiphonSmpp

/-! ### One attempt -/

/-- What happens in one attempt to bind. Instants are counted from the start of the attempt:
when `is_alive()` flips true, when it flips false again, and when `on_connection_failed` is
called. `late` is how much longer than asked the sleep after each poll lasts, `lateBackoff` the
same for the sleep at the end. -/
structure Attempt where
  up : Option Duration
  down : Option Duration
  connectFailed : Option Duration
  late : Nat → Duration
  lateBackoff : Duration
  up_nonneg : ∀ instant, up = some instant → 0 ≤ instant
  down_after : ∀ instant, down = some instant → ∃ earlier, up = some earlier ∧ earlier < instant
  late_nonneg : ∀ poll, 0 ≤ late poll
  lateBackoff_nonneg : 0 ≤ lateBackoff

/-- `is_alive()`, some time after the start of the attempt. -/
def Attempt.isAlive (attempt : Attempt) (elapsed : Duration) : Bool :=
  attempt.up.any (· ≤ elapsed) && !attempt.down.any (· ≤ elapsed)

/-- Whether the connect has failed by then. -/
def Attempt.hasFailed (attempt : Attempt) (elapsed : Duration) : Bool :=
  attempt.connectFailed.any (· ≤ elapsed)

def bindDeadline : Duration := 15

def healthyThreshold : Duration := 30

def pollInterval : Duration := 1

/-- Whether the supervisor keeps waiting for an attempt to resolve. -/
def awaitingBind (alive connectFailed : Bool) (waited deadline : Duration) : Bool :=
  !alive && !connectFailed && waited < deadline

/-! ### The supervisor -/

/-- Where the supervisor stands in an iteration of its loop: before the attempt, in the wait for
the bind, holding the session, or done with it. The counter is the number of sleeps so far. -/
inductive BindPhase where
  | starting
  | awaiting (bindStarted : Instant) (polls : Nat)
  | holding (bindStarted : Instant) (polls : Nat) (boundAt : Instant)
  | ended (bindStarted : Instant) (polls : Nat) (boundAt : Option Instant)
  deriving DecidableEq, Repr

/-- The sleep at the end of an attempt: when the attempt had started, when the session was seen
up, since when the supervisor sleeps, and for how long. -/
structure Backoff where
  attempt : Nat
  started : Instant
  boundAt : Option Instant
  since : Instant
  delayMs : Nat
  deriving DecidableEq, Repr

/-- `reconnects` lists the attempts for which `record_bind_reconnect` was called. -/
structure Supervisor where
  now : Instant
  backoffMs : Nat
  attempt : Nat
  phase : BindPhase
  reconnects : List Nat
  backoffs : List Backoff
  deriving DecidableEq, Repr

def Supervisor.start (now : Instant) : Supervisor :=
  { now := now, backoffMs := 1000, attempt := 0, phase := .starting, reconnects := [],
    backoffs := [] }

/-- `tokio::time::sleep(poll_interval)`. -/
def Supervisor.poll (supervisor : Supervisor) (attempt : Attempt) (polls : Nat)
    (phase : BindPhase) : Supervisor :=
  { supervisor with now := supervisor.now + pollInterval + attempt.late polls, phase := phase }

/-- The end of an iteration: reset the backoff after a healthy session, count the drop of a
session, drop the client, sleep and double the backoff. -/
def Supervisor.backOff (supervisor : Supervisor) (attempt : Attempt) (bindStarted : Instant)
    (boundAt : Option Instant) : Supervisor :=
  let delayMs := if boundAt.any fun bound => healthyThreshold ≤ supervisor.now - bound then 1000
    else supervisor.backoffMs
  { now := supervisor.now + delayMs / 1000 + attempt.lateBackoff
    backoffMs := min (delayMs * 2) 60000
    attempt := supervisor.attempt + 1
    phase := .starting
    reconnects := supervisor.reconnects ++ if boundAt.isSome then [supervisor.attempt] else []
    backoffs := supervisor.backoffs ++
      [⟨supervisor.attempt, bindStarted, boundAt, supervisor.now, delayMs⟩] }

/-- One step of the loop. -/
def Supervisor.step (attempts : Nat → Attempt) (supervisor : Supervisor) : Supervisor :=
  let attempt := attempts supervisor.attempt
  match supervisor.phase with
  | .starting => { supervisor with phase := .awaiting supervisor.now 0 }
  | .awaiting bindStarted polls =>
    let elapsed := supervisor.now - bindStarted
    if awaitingBind (attempt.isAlive elapsed) (attempt.hasFailed elapsed) elapsed bindDeadline then
      supervisor.poll attempt polls (.awaiting bindStarted (polls + 1))
    else if attempt.isAlive elapsed then
      { supervisor with phase := .holding bindStarted polls supervisor.now }
    else { supervisor with phase := .ended bindStarted polls none }
  | .holding bindStarted polls boundAt =>
    if attempt.isAlive (supervisor.now - bindStarted) then
      supervisor.poll attempt polls (.holding bindStarted (polls + 1) boundAt)
    else { supervisor with phase := .ended bindStarted polls (some boundAt) }
  | .ended bindStarted _ boundAt => supervisor.backOff attempt bindStarted boundAt

/-- The supervisor after a number of steps, over whatever the attempts come to. -/
def Supervisor.run (attempts : Nat → Attempt) (now : Instant) : Nat → Supervisor
  | 0 => .start now
  | steps + 1 => (run attempts now steps).step attempts

/-- What holds at the start and is kept by every step holds throughout every run. -/
theorem Supervisor.run_invariant {Invariant : Supervisor → Prop} (attempts : Nat → Attempt)
    (now : Instant) (initially : Invariant (.start now))
    (kept : ∀ supervisor, Invariant supervisor → Invariant (supervisor.step attempts))
    (steps : Nat) : Invariant (run attempts now steps) := by
  induction steps with
  | zero => exact initially
  | succ steps inductionHypothesis => exact kept _ inductionHypothesis

/-! ### Polls -/

/-- The instant of a poll, counted from the start of the attempt. -/
def Attempt.pollAt (attempt : Attempt) : Nat → Duration
  | 0 => 0
  | poll + 1 => attempt.pollAt poll + pollInterval + attempt.late poll

/-- The session came up while the attempt lasted. -/
def Attempt.CameUp (attempt : Attempt) (lasted : Duration) : Prop :=
  ∃ up, attempt.up = some up ∧ up ≤ lasted

/-- Some poll falls while the session is up. -/
def Attempt.Sampled (attempt : Attempt) : Prop :=
  ∃ poll, attempt.isAlive (attempt.pollAt poll) = true

section Polls

variable (attempt : Attempt)

theorem Attempt.isAlive_iff (elapsed : Duration) :
    attempt.isAlive elapsed = true ↔
      attempt.CameUp elapsed ∧ ∀ down, attempt.down = some down → elapsed < down := by
  rw [Attempt.isAlive, Bool.and_eq_true, Attempt.CameUp, Option.any_eq_true]
  simp only [decide_eq_true_eq, Bool.not_eq_true', Option.any_eq_false, decide_eq_false_iff_not,
    not_le]

theorem Attempt.pollAt_strictMono : StrictMono attempt.pollAt := by
  refine strictMono_nat_of_lt_succ fun poll => ?_
  have nonneg := attempt.late_nonneg poll
  rw [Attempt.pollAt, pollInterval]
  linarith

/-- No poll before a certain one found the session up. -/
def Attempt.Unseen (polls : Nat) : Prop :=
  ∀ poll < polls, attempt.isAlive (attempt.pollAt poll) = false

/-- The poll before a certain one found the session up. -/
def Attempt.Held (polls : Nat) : Prop :=
  ∃ poll, polls = poll + 1 ∧ attempt.isAlive (attempt.pollAt poll) = true

theorem Attempt.Unseen.succ {polls : Nat} (unseen : attempt.Unseen polls)
    (dead : attempt.isAlive (attempt.pollAt polls) = false) : attempt.Unseen (polls + 1) := by
  intro poll before
  rcases Nat.lt_succ_iff_lt_or_eq.mp before with earlier | rfl
  · exact unseen poll earlier
  · exact dead

end Polls

/-! ### What a run keeps -/

/-- How an attempt is observed: the supervisor sleeps since a poll that found the session not
up, and counted its drop exactly if an earlier poll had found it up. -/
structure Attempt.Observed (attempt : Attempt) (lasted : Duration) (counted : Nat) : Prop where
  observed : ∃ polls, lasted = attempt.pollAt polls ∧
    attempt.isAlive (attempt.pollAt polls) = false ∧
    ((counted = 1 ∧ attempt.Held polls) ∨ (counted = 0 ∧ attempt.Unseen polls))

/-- What the current phase says of the polls so far. -/
def Supervisor.PhaseKept (attempts : Nat → Attempt) (supervisor : Supervisor) : Prop :=
  let attempt := attempts supervisor.attempt
  match supervisor.phase with
  | .starting => True
  | .awaiting bindStarted polls =>
    supervisor.now = bindStarted + attempt.pollAt polls ∧ attempt.Unseen polls
  | .holding bindStarted polls _ =>
    supervisor.now = bindStarted + attempt.pollAt polls ∧
      (attempt.Held polls ∨ attempt.isAlive (attempt.pollAt polls) = true)
  | .ended bindStarted polls boundAt =>
    supervisor.now = bindStarted + attempt.pollAt polls ∧
      attempt.isAlive (attempt.pollAt polls) = false ∧
      if boundAt.isSome then attempt.Held polls else attempt.Unseen polls

/-- The phase is kept, drops are counted for ended attempts only, and each attempt that ended
was observed. -/
structure Supervisor.Kept (attempts : Nat → Attempt) (supervisor : Supervisor) : Prop where
  phase : supervisor.PhaseKept attempts
  reconnects : ∀ attempt ∈ supervisor.reconnects, attempt < supervisor.attempt
  backoffs : supervisor.backoffs.map Backoff.attempt = List.range supervisor.attempt
  observed : ∀ backoff ∈ supervisor.backoffs, (attempts backoff.attempt).Observed
    (backoff.since - backoff.started) (supervisor.reconnects.count backoff.attempt)

theorem Supervisor.kept_start (attempts : Nat → Attempt) (now : Instant) :
    (Supervisor.start now).Kept attempts :=
  ⟨trivial, (fun _ member => nomatch member), rfl, fun _ member => nomatch member⟩

/-- A step within an attempt keeps what was recorded before. -/
theorem Supervisor.Kept.within {attempts : Nat → Attempt} {supervisor after : Supervisor}
    (kept : supervisor.Kept attempts) (attempt : after.attempt = supervisor.attempt)
    (reconnects : after.reconnects = supervisor.reconnects)
    (backoffs : after.backoffs = supervisor.backoffs) (phase : after.PhaseKept attempts) :
    after.Kept attempts := by
  refine ⟨phase, ?_, ?_, ?_⟩
  · rw [reconnects, attempt]
    exact kept.reconnects
  · rw [backoffs, attempt]
    exact kept.backoffs
  · rw [backoffs, reconnects]
    exact kept.observed

theorem Supervisor.Kept.backOff {attempts : Nat → Attempt} {supervisor : Supervisor}
    (kept : supervisor.Kept attempts) (bindStarted : Instant) (polls : Nat)
    (boundAt : Option Instant) (ended : supervisor.phase = .ended bindStarted polls boundAt) :
    (supervisor.backOff (attempts supervisor.attempt) bindStarted boundAt).Kept attempts := by
  have phase := kept.phase
  rw [Supervisor.PhaseKept, ended] at phase
  obtain ⟨clock, dead, seen⟩ := phase
  have uncounted : supervisor.reconnects.count supervisor.attempt = 0 :=
    List.count_eq_zero.mpr fun member => lt_irrefl _ (kept.reconnects _ member)
  refine ⟨trivial, ?_, ?_, ?_⟩
  · intro attempt member
    rcases List.mem_append.mp member with old | new
    · exact (kept.reconnects attempt old).trans (Nat.lt_succ_self _)
    · split at new
      · rw [List.mem_singleton.mp new]
        exact Nat.lt_succ_self _
      · cases new
  · show (supervisor.backoffs ++ [_]).map Backoff.attempt = List.range (supervisor.attempt + 1)
    rw [List.map_append, kept.backoffs, List.range_succ]
    rfl
  · intro backoff member
    show (attempts backoff.attempt).Observed _ ((supervisor.reconnects ++ _).count backoff.attempt)
    rw [List.count_append]
    rcases List.mem_append.mp member with old | new
    · have earlier : backoff.attempt < supervisor.attempt := by
        rw [← List.mem_range, ← kept.backoffs]
        exact List.mem_map_of_mem old
      have unchanged : (if boundAt.isSome then [supervisor.attempt] else []).count
          backoff.attempt = 0 := by
        split
        · exact List.count_eq_zero.mpr fun same => earlier.ne (List.mem_singleton.mp same)
        · rfl
      rw [unchanged, Nat.add_zero]
      exact kept.observed backoff old
    · obtain rfl := List.mem_singleton.mp new
      rw [uncounted, Nat.zero_add]
      refine ⟨polls, ?_, dead, ?_⟩
      · show supervisor.now - bindStarted = _
        rw [clock, add_sub_cancel_left]
      · split at seen
        · rename_i bound
          rw [if_pos bound]
          exact Or.inl ⟨by simp, seen⟩
        · rename_i unbound
          rw [if_neg unbound]
          exact Or.inr ⟨rfl, seen⟩

/-- A sleep takes the clock from one poll to the next. -/
theorem Supervisor.poll_now (supervisor : Supervisor) (attempt : Attempt) (polls : Nat)
    (phase : BindPhase) (bindStarted : Instant)
    (clock : supervisor.now = bindStarted + attempt.pollAt polls) :
    (supervisor.poll attempt polls phase).now = bindStarted + attempt.pollAt (polls + 1) := by
  show supervisor.now + pollInterval + attempt.late polls = _
  rw [clock, Attempt.pollAt]
  ring

theorem Supervisor.Kept.step {attempts : Nat → Attempt} {supervisor : Supervisor}
    (kept : supervisor.Kept attempts) : (supervisor.step attempts).Kept attempts := by
  have phase := kept.phase
  unfold Supervisor.step
  unfold Supervisor.PhaseKept at phase
  dsimp only at phase ⊢
  split
  · exact kept.within rfl rfl rfl ⟨(add_zero _).symm, fun _ before => nomatch before⟩
  · rename_i bindStarted polls standing
    rw [standing] at phase
    obtain ⟨clock, unseen⟩ := phase
    have elapsed : supervisor.now - bindStarted =
        (attempts supervisor.attempt).pollAt polls := by rw [clock, add_sub_cancel_left]
    rw [elapsed]
    split
    · rename_i waits
      rw [awaitingBind, Bool.and_eq_true, Bool.and_eq_true, Bool.not_eq_true'] at waits
      exact kept.within rfl rfl rfl
        ⟨supervisor.poll_now _ polls _ bindStarted clock, unseen.succ _ waits.1.1⟩
    · split
      · rename_i alive
        exact kept.within rfl rfl rfl ⟨clock, Or.inr alive⟩
      · rename_i dead
        exact kept.within rfl rfl rfl ⟨clock, Bool.eq_false_iff.mpr dead, unseen⟩
  · rename_i bindStarted polls boundAt standing
    rw [standing] at phase
    obtain ⟨clock, held⟩ := phase
    have elapsed : supervisor.now - bindStarted =
        (attempts supervisor.attempt).pollAt polls := by rw [clock, add_sub_cancel_left]
    rw [elapsed]
    split
    · rename_i alive
      exact kept.within rfl rfl rfl
        ⟨supervisor.poll_now _ polls _ bindStarted clock, Or.inl ⟨polls, rfl, alive⟩⟩
    · rename_i dead
      exact kept.within rfl rfl rfl ⟨clock, Bool.eq_false_iff.mpr dead, held.resolve_right dead⟩
  · rename_i bindStarted polls boundAt standing
    exact kept.backOff bindStarted polls boundAt standing

/-- Every attempt of every run is observed at its polls. -/
theorem Supervisor.kept_run (attempts : Nat → Attempt) (now : Instant) (steps : Nat) :
    (run attempts now steps).Kept attempts :=
  run_invariant attempts now (kept_start attempts now) (fun _ kept => kept.step) steps

/-! ### Which sessions are noticed -/

/-- The end of an attempt as the supervisor should treat it: the drop of a session that came up
is counted once, and the sleep begins within the poll interval that the drop falls into; an
attempt without a session is not counted. -/
structure Attempt.Noticed (attempt : Attempt) (started since : Instant) (counted : Nat) :
    Prop where
  once : attempt.CameUp (since - started) → counted = 1
  prompt : attempt.CameUp (since - started) → ∃ down poll, attempt.down = some down ∧
    attempt.pollAt poll < down ∧ started + down ≤ since ∧
    since - (started + down) < pollInterval + attempt.late poll
  uncounted : ¬ attempt.CameUp (since - started) → counted = 0

section Noticing

variable (attempt : Attempt)

theorem Attempt.CameUp.mono {attempt : Attempt} {early late : Duration} (up : attempt.CameUp early)
    (ordered : early ≤ late) : attempt.CameUp late := by
  obtain ⟨instant, same, before⟩ := up
  exact ⟨instant, same, before.trans ordered⟩

/-- A session that came up and is not up any more went down. -/
theorem Attempt.exists_down (elapsed : Duration) (up : attempt.CameUp elapsed)
    (dead : attempt.isAlive elapsed = false) :
    ∃ down, attempt.down = some down ∧ down ≤ elapsed := by
  by_contra none
  refine Bool.eq_false_iff.mp dead ((attempt.isAlive_iff elapsed).mpr ⟨up, fun down same => ?_⟩)
  by_contra late
  exact none ⟨down, same, not_lt.mp late⟩

/-- The end of an observed attempt is noticed exactly when the session, if it came up, was up at
some poll. -/
theorem Attempt.Observed.noticed_iff {attempt : Attempt} {started since : Instant} {counted : Nat}
    (observed : attempt.Observed (since - started) counted) :
    attempt.Noticed started since counted ↔
      (attempt.CameUp (since - started) → attempt.Sampled) := by
  obtain ⟨polls, lasted, dead, ⟨once, poll, rfl, alive⟩ | ⟨never, unseen⟩⟩ := observed.observed
  · refine iff_of_true ?_ fun _ => ⟨poll, alive⟩
    obtain ⟨upAtPoll, upUntil⟩ := (attempt.isAlive_iff _).mp alive
    have later : attempt.pollAt poll ≤ attempt.pollAt (poll + 1) :=
      (attempt.pollAt_strictMono (Nat.lt_succ_self poll)).le
    have up : attempt.CameUp (since - started) := lasted ▸ upAtPoll.mono later
    obtain ⟨down, same, before⟩ := attempt.exists_down _ (upAtPoll.mono later) dead
    have after := upUntil down same
    rw [Attempt.pollAt] at lasted before
    refine ⟨fun _ => once, fun _ => ⟨down, poll, same, after, ?_, ?_⟩,
      fun absent => absurd up absent⟩
    · linarith
    · linarith
  · constructor
    · intro noticed up
      have twice := noticed.once up
      rw [never] at twice
      cases twice
    · intro sampled
      have absent : ¬ attempt.CameUp (since - started) := by
        intro up
        obtain ⟨poll, alive⟩ := sampled up
        rw [lasted] at up
        obtain ⟨down, same, before⟩ := attempt.exists_down _ up dead
        have upUntil := ((attempt.isAlive_iff _).mp alive).2 down same
        have earlier : poll < polls :=
          attempt.pollAt_strictMono.lt_iff_lt.mp (upUntil.trans_le before)
        rw [unseen poll earlier] at alive
        cases alive
      exact ⟨fun up => absurd up absent, fun up => absurd up absent, fun _ => never⟩

/-- A drop is counted for a session that came up only. -/
theorem Attempt.Observed.cameUp {attempt : Attempt} {lasted : Duration} {counted : Nat}
    (observed : attempt.Observed lasted counted) (positive : counted ≠ 0) :
    attempt.CameUp lasted := by
  obtain ⟨polls, rfl, _, ⟨_, poll, rfl, alive⟩ | ⟨never, _⟩⟩ := observed.observed
  · exact ((attempt.isAlive_iff _).mp alive).1.mono
      (attempt.pollAt_strictMono (Nat.lt_succ_self poll)).le
  · exact absurd never positive

end Noticing

/-! ### An attempt ends -/

/-- The session, if it comes up, goes down again. -/
def Attempt.Ends (attempt : Attempt) : Prop :=
  ∀ up, attempt.up = some up → ∃ down, attempt.down = some down

theorem Attempt.le_pollAt (attempt : Attempt) (poll : Nat) :
    (poll : Duration) ≤ attempt.pollAt poll := by
  induction poll with
  | zero => exact le_rfl
  | succ poll inductionHypothesis =>
    have nonneg := attempt.late_nonneg poll
    rw [Attempt.pollAt, pollInterval, Nat.cast_succ]
    linarith

/-- From some poll on the deadline is over and the session is down. -/
theorem Attempt.Ends.exists_over {attempt : Attempt} (ends : attempt.Ends) :
    ∃ last, ∀ poll, last ≤ poll →
      bindDeadline ≤ attempt.pollAt poll ∧ attempt.isAlive (attempt.pollAt poll) = false := by
  obtain ⟨last, expired⟩ := exists_nat_ge (max bindDeadline (attempt.down.getD 0))
  refine ⟨last, fun poll notBefore => ?_⟩
  have past : max bindDeadline (attempt.down.getD 0) ≤ attempt.pollAt poll :=
    expired.trans ((Nat.cast_le.mpr notBefore).trans (attempt.le_pollAt poll))
  refine ⟨(le_max_left _ _).trans past, Bool.eq_false_iff.mpr fun alive => ?_⟩
  obtain ⟨⟨up, same, _⟩, upUntil⟩ := (attempt.isAlive_iff _).mp alive
  obtain ⟨down, fell⟩ := ends up same
  have before := upUntil down fell
  rw [fell] at past
  exact absurd before (not_lt.mpr ((le_max_right _ _).trans past))

/-- How far a phase is from the end of its attempt, when the attempt is over by some poll. -/
def BindPhase.distance (last : Nat) : BindPhase → Nat
  | .starting => 2 * last + 4
  | .awaiting _ polls => 2 * (last - polls) + 3
  | .holding _ polls _ => 2 * (last - polls) + 2
  | .ended _ _ _ => 1

/-- A step ends the attempt or comes closer to its end. -/
theorem Supervisor.step_progress {attempts : Nat → Attempt} {supervisor : Supervisor}
    (kept : supervisor.PhaseKept attempts) (last : Nat)
    (expired : ∀ poll, last ≤ poll →
      bindDeadline ≤ (attempts supervisor.attempt).pollAt poll ∧
        (attempts supervisor.attempt).isAlive ((attempts supervisor.attempt).pollAt poll) = false) :
    (supervisor.step attempts).attempt = supervisor.attempt + 1 ∨
      ((supervisor.step attempts).attempt = supervisor.attempt ∧
        (supervisor.step attempts).phase.distance last < supervisor.phase.distance last) := by
  unfold Supervisor.PhaseKept at kept
  unfold Supervisor.step
  dsimp only at kept ⊢
  split
  · rename_i standing
    refine Or.inr ⟨rfl, ?_⟩
    rw [standing]
    show 2 * (last - 0) + 3 < 2 * last + 4
    omega
  · rename_i bindStarted polls standing
    rw [standing] at kept ⊢
    have elapsed : supervisor.now - bindStarted =
        (attempts supervisor.attempt).pollAt polls := by rw [kept.1, add_sub_cancel_left]
    rw [elapsed]
    split
    · rename_i waits
      rw [awaitingBind, Bool.and_eq_true, decide_eq_true_iff] at waits
      have early : polls < last := by
        by_contra late
        exact absurd waits.2 (not_lt.mpr (expired polls (not_lt.mp late)).1)
      refine Or.inr ⟨rfl, ?_⟩
      show 2 * (last - (polls + 1)) + 3 < 2 * (last - polls) + 3
      omega
    · split
      · exact Or.inr ⟨rfl, Nat.lt_succ_self _⟩
      · refine Or.inr ⟨rfl, ?_⟩
        show 1 < 2 * (last - polls) + 3
        omega
  · rename_i bindStarted polls boundAt standing
    rw [standing] at kept ⊢
    have elapsed : supervisor.now - bindStarted =
        (attempts supervisor.attempt).pollAt polls := by rw [kept.1, add_sub_cancel_left]
    rw [elapsed]
    split
    · rename_i alive
      have early : polls < last := by
        by_contra late
        rw [(expired polls (not_lt.mp late)).2] at alive
        cases alive
      refine Or.inr ⟨rfl, ?_⟩
      show 2 * (last - (polls + 1)) + 2 < 2 * (last - polls) + 2
      omega
    · refine Or.inr ⟨rfl, ?_⟩
      show 1 < 2 * (last - polls) + 2
      omega
  · exact Or.inl rfl

/-- An attempt whose session does not stay up for good comes to its end. -/
theorem Supervisor.exists_ended (attempts : Nat → Attempt) (now : Instant) (steps : Nat)
    (ends : (attempts (run attempts now steps).attempt).Ends) :
    ∃ more, (run attempts now (steps + more)).attempt = (run attempts now steps).attempt + 1 := by
  obtain ⟨last, expired⟩ := ends.exists_over
  generalize size : (run attempts now steps).phase.distance last = distance
  induction distance using Nat.strong_induction_on generalizing steps with
  | _ distance inductionHypothesis =>
    have kept := (kept_run attempts now steps).phase
    rcases step_progress kept last expired with ended | ⟨same, closer⟩
    · exact ⟨1, ended⟩
    · have stepped : run attempts now (steps + 1) = (run attempts now steps).step attempts := rfl
      rw [← stepped] at same closer
      obtain ⟨more, ended⟩ := inductionHypothesis _ (size ▸ closer) (steps + 1) (same ▸ ends)
        (same ▸ expired) rfl
      refine ⟨1 + more, ?_⟩
      rw [← Nat.add_assoc, ended, same]

/-! ### The supervisor and its sessions -/

/-- In every run, the end of every attempt is noticed exactly when each session that came up was
up at some poll. Whatever the polls missed, a drop is only counted for an attempt that ended and
whose session came up, and an attempt whose session does not stay up for good ends. -/
theorem sessions_noticed_iff (attempts : Nat → Attempt) (now : Instant) (steps : Nat) :
    let supervisor := Supervisor.run attempts now steps
    ((∀ backoff ∈ supervisor.backoffs, (attempts backoff.attempt).Noticed backoff.started
        backoff.since (supervisor.reconnects.count backoff.attempt)) ↔
      ∀ backoff ∈ supervisor.backoffs,
        (attempts backoff.attempt).CameUp (backoff.since - backoff.started) →
          (attempts backoff.attempt).Sampled) ∧
    (∀ attempt ∈ supervisor.reconnects, ∃ backoff ∈ supervisor.backoffs,
      backoff.attempt = attempt ∧
        (attempts attempt).CameUp (backoff.since - backoff.started)) ∧
    ((attempts supervisor.attempt).Ends → ∃ more,
      (Supervisor.run attempts now (steps + more)).attempt = supervisor.attempt + 1) := by
  intro supervisor
  have kept : supervisor.Kept attempts := Supervisor.kept_run attempts now steps
  refine ⟨?_, ?_, Supervisor.exists_ended attempts now steps⟩
  · exact forall₂_congr fun backoff member => (kept.observed backoff member).noticed_iff
  · intro attempt member
    have ended : attempt ∈ supervisor.backoffs.map Backoff.attempt := by
      rw [kept.backoffs, List.mem_range]
      exact kept.reconnects attempt member
    obtain ⟨backoff, listed, rfl⟩ := List.mem_map.mp ended
    refine ⟨backoff, listed, rfl, (kept.observed backoff listed).cameUp ?_⟩
    exact fun none => List.count_eq_zero.mp none member

/-- An attempt in which nothing happens, and whose sleeps last no longer than asked. -/
def quietAttempt : Attempt where
  up := none
  down := none
  connectFailed := none
  late _ := 0
  lateBackoff := 0
  up_nonneg _ same := nomatch same
  down_after _ same := nomatch same
  late_nonneg _ := le_rfl
  lateBackoff_nonneg := le_rfl

/-- A session that is up from 0.2 to 0.7 seconds after the start of its attempt. -/
def briefSession : Attempt where
  up := some (1 / 5)
  down := some (7 / 10)
  connectFailed := none
  late _ := 0
  lateBackoff := 0
  up_nonneg instant same := by
    cases same
    norm_num
  down_after instant same := by
    cases same
    exact ⟨1 / 5, rfl, by norm_num⟩
  late_nonneg _ := le_rfl
  lateBackoff_nonneg := le_rfl

/-- The supervisor waits out the whole deadline for it and counts no drop. -/
theorem session_missed :
    let supervisor := Supervisor.run (fun _ => briefSession) 0 18
    supervisor.backoffs = [⟨0, 0, none, 15, 1000⟩] ∧ supervisor.reconnects = [] ∧
    briefSession.CameUp 15 ∧ ¬ briefSession.Noticed 0 15 (supervisor.reconnects.count 0) := by
  intro supervisor
  have backoffs : supervisor.backoffs = [⟨0, 0, none, 15, 1000⟩] := by decide +kernel
  have reconnects : supervisor.reconnects = [] := by decide +kernel
  have up : briefSession.CameUp 15 := ⟨1 / 5, rfl, by norm_num⟩
  refine ⟨backoffs, reconnects, up, fun noticed => ?_⟩
  have counted := noticed.once (by rwa [sub_zero])
  rw [reconnects] at counted
  cases counted

end SiphonSmpp
