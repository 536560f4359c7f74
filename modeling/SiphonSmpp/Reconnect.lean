/-
This file proves that the cap on an outbound bind holds across reconnects.
Every `on_smsc_bound` makes a fresh, full limiter, so the bound is not one of a
single limiter: it rests on the supervisor, which drops the client of an attempt
and then sleeps at least a second before it starts the next, as long as a whole
bucket takes to refill.

A `BindLife` is a bind over the life of the process: its supervisor, and a
limiter for each session it had. Sends resolve a session, and make their calls
on its limiter whenever they come to it, also after the session is gone; a token
counts when the session is alive as it is granted.
-/

import SiphonSmpp.Supervisor

namespace SiphonSmpp

open ArrivalCurve

/-! ### The life of a bind -/

/-- A session of a bind: its attempt with the instant it had started, the instant of
`on_smsc_bound`, and the limiter made there. -/
structure ThrottledSession where
  attempt : Nat
  started : Instant
  boundAt : Instant
  limiter : RateLimiter
  deriving DecidableEq, Repr

structure BindLife where
  supervisor : Supervisor
  sessions : List ThrottledSession
  deriving DecidableEq, Repr

/-- What happens in the life of a bind: the supervisor takes a step, `on_smsc_bound` is called in
the attempt, or a send takes a step on the limiter of the session it resolved. -/
inductive BindEvent where
  | supervise
  | smscBound (now : Instant)
  | limiter (session : Nat) (event : LimiterEvent)
  deriving DecidableEq, Repr

/-- When the attempt that is under way had started. -/
def BindPhase.bindStarted : BindPhase → Option Instant
  | .starting => none
  | .awaiting bindStarted _ => some bindStarted
  | .holding bindStarted _ _ => some bindStarted
  | .ended bindStarted _ _ => some bindStarted

def BindLife.start (now : Instant) : BindLife := ⟨.start now, []⟩

section Life

variable (attempts : Nat → Attempt) (rate : Nat)

/-- A client has one session, so `on_smsc_bound` is called at most once in an attempt. -/
def BindLife.step (life : BindLife) : BindEvent → Option BindLife
  | .supervise => some { life with supervisor := life.supervisor.step attempts }
  | .smscBound now =>
    match life.supervisor.phase.bindStarted with
    | none => none
    | some started =>
      if started ≤ now ∧
          life.sessions.all fun session => session.attempt != life.supervisor.attempt then
        some { life with sessions := life.sessions ++
          [⟨life.supervisor.attempt, started, now, .new rate now⟩] }
      else none
  | .limiter session event =>
    match life.sessions[session]? with
    | none => none
    | some standing =>
      match standing.limiter.step event with
      | none => none
      | some limiter =>
        some { life with
          sessions := life.sessions.set session { standing with limiter := limiter } }

/-- The lives any interleaving can lead to. -/
def BindLife.Reachable (now : Instant) (life : BindLife) : Prop :=
  Run.Reaches (BindLife.step attempts rate) (.start now) life

/-- Whether a session is alive at an instant: it is up, and its client was not dropped. -/
def BindLife.alive (life : BindLife) (session : ThrottledSession) (instant : Instant) : Bool :=
  (attempts session.attempt).isAlive (instant - session.started) &&
    life.supervisor.backoffs.all fun backoff =>
      backoff.attempt != session.attempt || instant ≤ backoff.since

/-- The instants at which a token was granted to a send on a session that was alive. -/
def BindLife.grants (life : BindLife) : List Instant :=
  life.sessions.flatMap fun session => session.limiter.grants.filter (life.alive attempts session)

end Life

/-! ### The supervisor leaves a second between sessions -/

/-- What a step of the supervisor can do: start an attempt, go on with it, or end it. -/
theorem Supervisor.step_cases (attempts : Nat → Attempt) (supervisor : Supervisor) :
    (supervisor.phase = .starting ∧ supervisor.step attempts =
      { supervisor with phase := .awaiting supervisor.now 0 }) ∨
    (∃ bindStarted now phase, supervisor.phase.bindStarted = some bindStarted ∧
      phase.bindStarted = some bindStarted ∧ supervisor.now ≤ now ∧
      supervisor.step attempts = { supervisor with now := now, phase := phase }) ∨
    (∃ bindStarted polls boundAt, supervisor.phase = .ended bindStarted polls boundAt ∧
      supervisor.step attempts =
        supervisor.backOff (attempts supervisor.attempt) bindStarted boundAt) := by
  have later : ∀ polls, supervisor.now ≤
      supervisor.now + pollInterval + (attempts supervisor.attempt).late polls := by
    intro polls
    have nonneg := (attempts supervisor.attempt).late_nonneg polls
    rw [pollInterval]
    linarith
  unfold Supervisor.step
  dsimp only
  split
  · rename_i standing
    exact Or.inl ⟨standing, rfl⟩
  · rename_i bindStarted polls standing
    refine Or.inr (Or.inl ?_)
    rw [standing]
    split
    · exact ⟨bindStarted, _, _, rfl, rfl, later polls, rfl⟩
    · split
      · exact ⟨bindStarted, _, _, rfl, rfl, le_rfl, rfl⟩
      · exact ⟨bindStarted, _, _, rfl, rfl, le_rfl, rfl⟩
  · rename_i bindStarted polls boundAt standing
    refine Or.inr (Or.inl ?_)
    rw [standing]
    split
    · exact ⟨bindStarted, _, _, rfl, rfl, later polls, rfl⟩
    · exact ⟨bindStarted, _, _, rfl, rfl, le_rfl, rfl⟩
  · rename_i bindStarted polls boundAt standing
    exact Or.inr (Or.inr ⟨bindStarted, polls, boundAt, standing, rfl⟩)

/-- An attempt starts at least a second after the client of an earlier one was dropped. -/
structure Supervisor.Spaced (supervisor : Supervisor) : Prop where
  backoffMs : 1000 ≤ supervisor.backoffMs
  attempts : ∀ backoff ∈ supervisor.backoffs, backoff.attempt < supervisor.attempt
  now : ∀ bindStarted, supervisor.phase.bindStarted = some bindStarted →
    bindStarted ≤ supervisor.now
  current : ∀ backoff ∈ supervisor.backoffs,
    backoff.since + 1 ≤ supervisor.phase.bindStarted.getD supervisor.now
  backoffs : ∀ earlier ∈ supervisor.backoffs, ∀ later ∈ supervisor.backoffs,
    earlier.attempt < later.attempt → earlier.since + 1 ≤ later.started

theorem Supervisor.spaced_start (now : Instant) : (Supervisor.start now).Spaced :=
  ⟨le_rfl, (fun _ member => nomatch member), nofun, (fun _ member => nomatch member),
    fun _ member => nomatch member⟩

theorem Supervisor.Spaced.backOff {supervisor : Supervisor} (spaced : supervisor.Spaced)
    (attempt : Attempt) (bindStarted : Instant) (polls : Nat) (boundAt : Option Instant)
    (ended : supervisor.phase = .ended bindStarted polls boundAt) :
    (supervisor.backOff attempt bindStarted boundAt).Spaced := by
  have nonneg := attempt.lateBackoff_nonneg
  have current := spaced.current
  have started := spaced.now bindStarted (by rw [ended]; rfl)
  rw [ended] at current
  unfold Supervisor.backOff
  set delayMs := if boundAt.any fun bound => healthyThreshold ≤ supervisor.now - bound then 1000
    else supervisor.backoffMs with chosen
  have delay : 1000 ≤ delayMs := by
    rw [chosen]
    split
    · exact le_rfl
    · exact spaced.backoffMs
  have slept : (1 : ℚ) ≤ (delayMs : ℚ) / 1000 := by
    rw [le_div_iff₀ (by norm_num), one_mul]
    exact_mod_cast delay
  refine ⟨?_, ?_, nofun, ?_, ?_⟩
  · show 1000 ≤ min (delayMs * 2) 60000
    omega
  · intro backoff member
    rcases List.mem_append.mp member with old | new
    · exact (spaced.attempts backoff old).trans (Nat.lt_succ_self _)
    · obtain rfl := List.mem_singleton.mp new
      exact Nat.lt_succ_self _
  · intro backoff member
    show backoff.since + 1 ≤ supervisor.now + (delayMs : ℚ) / 1000 + attempt.lateBackoff
    rcases List.mem_append.mp member with old | new
    · have before : backoff.since + 1 ≤ bindStarted := current backoff old
      linarith
    · obtain rfl := List.mem_singleton.mp new
      show supervisor.now + 1 ≤ _
      linarith
  · intro earlier memberEarlier later memberLater ordered
    rcases List.mem_append.mp memberLater with oldLater | newLater
    · rcases List.mem_append.mp memberEarlier with oldEarlier | newEarlier
      · exact spaced.backoffs earlier oldEarlier later oldLater ordered
      · obtain rfl := List.mem_singleton.mp newEarlier
        exact absurd (spaced.attempts later oldLater) (lt_asymm ordered)
    · obtain rfl := List.mem_singleton.mp newLater
      rcases List.mem_append.mp memberEarlier with oldEarlier | newEarlier
      · exact current earlier oldEarlier
      · obtain rfl := List.mem_singleton.mp newEarlier
        exact absurd ordered (lt_irrefl _)

theorem Supervisor.Spaced.step {supervisor : Supervisor} (spaced : supervisor.Spaced)
    (attempts : Nat → Attempt) : (supervisor.step attempts).Spaced := by
  rcases supervisor.step_cases attempts with ⟨standing, stepped⟩ |
    ⟨bindStarted, now, phase, standing, kept, later, stepped⟩ |
    ⟨bindStarted, polls, boundAt, standing, stepped⟩
  · rw [stepped]
    have current := spaced.current
    rw [standing] at current
    refine ⟨spaced.backoffMs, spaced.attempts, fun bindStarted same => ?_, current, spaced.backoffs⟩
    cases same
    exact le_rfl
  · rw [stepped]
    have current := spaced.current
    rw [standing] at current
    refine ⟨spaced.backoffMs, spaced.attempts, fun other same => ?_, ?_, spaced.backoffs⟩
    · rw [kept] at same
      cases same
      exact (spaced.now bindStarted standing).trans later
    · show ∀ backoff ∈ supervisor.backoffs, backoff.since + 1 ≤ phase.bindStarted.getD now
      rw [kept]
      exact current
  · rw [stepped]
    exact spaced.backOff _ bindStarted polls boundAt standing

/-! ### What a life keeps -/

/-- A session belongs to the attempt under way or to one that ended, and its limiter was made
full when it came up. -/
structure ThrottledSession.Kept (rate : Nat) (supervisor : Supervisor)
    (session : ThrottledSession) : Prop where
  bound : session.started ≤ session.boundAt
  limiter : (RateLimiter.new rate session.boundAt).Reachable session.limiter
  placed : (session.attempt = supervisor.attempt ∧
      supervisor.phase.bindStarted = some session.started) ∨
    ∃ backoff ∈ supervisor.backoffs, backoff.attempt = session.attempt ∧
      backoff.started = session.started

structure BindLife.Kept (rate : Nat) (life : BindLife) : Prop where
  spaced : life.supervisor.Spaced
  ordered : life.sessions.Pairwise fun earlier later => earlier.attempt < later.attempt
  sessions : ∀ session ∈ life.sessions, session.Kept rate life.supervisor

section Keeping

variable {attempts : Nat → Attempt} {rate : Nat} {supervisor : Supervisor}
  {session : ThrottledSession} {life : BindLife}

theorem ThrottledSession.Kept.attempt_le (kept : session.Kept rate supervisor)
    (spaced : supervisor.Spaced) : session.attempt ≤ supervisor.attempt := by
  rcases kept.placed with ⟨same, _⟩ | ⟨backoff, member, same, _⟩
  · exact same.le
  · exact same ▸ (spaced.attempts backoff member).le

/-- A step of the supervisor leaves the sessions where they are. -/
theorem ThrottledSession.Kept.supervise (kept : session.Kept rate supervisor) :
    session.Kept rate (supervisor.step attempts) := by
  refine ⟨kept.bound, kept.limiter, ?_⟩
  rcases supervisor.step_cases attempts with ⟨standing, stepped⟩ |
    ⟨bindStarted, now, phase, standing, same, _, stepped⟩ |
    ⟨bindStarted, polls, boundAt, standing, stepped⟩
  · rw [stepped]
    refine Or.inr (kept.placed.resolve_left fun current => ?_)
    rw [standing] at current
    cases current.2
  · rw [stepped]
    refine kept.placed.imp (fun current => ⟨current.1, ?_⟩) id
    show phase.bindStarted = _
    rw [same, ← standing, current.2]
  · rw [stepped]
    refine Or.inr ?_
    rcases kept.placed with ⟨current, started⟩ | ⟨backoff, member, placed⟩
    · rw [standing] at started
      cases started
      exact ⟨_, List.mem_append_right _ List.mem_cons_self, current.symm, rfl⟩
    · exact ⟨backoff, List.mem_append_left _ member, placed⟩

theorem BindLife.Kept.smscBound (kept : life.Kept rate) (started now : Instant)
    (underWay : life.supervisor.phase.bindStarted = some started) (late : started ≤ now)
    (first : ∀ session ∈ life.sessions, session.attempt ≠ life.supervisor.attempt) :
    BindLife.Kept rate { life with sessions := life.sessions ++
      [⟨life.supervisor.attempt, started, now, .new rate now⟩] } := by
  refine ⟨kept.spaced, ?_, ?_⟩
  · refine List.pairwise_append.mpr ⟨kept.ordered, List.pairwise_singleton _ _, ?_⟩
    intro session member added last
    obtain rfl := List.mem_singleton.mp last
    exact lt_of_le_of_ne ((kept.sessions session member).attempt_le kept.spaced)
      (first session member)
  · intro session member
    rcases List.mem_append.mp member with old | new
    · exact kept.sessions session old
    · obtain rfl := List.mem_singleton.mp new
      exact ⟨late, Run.Reaches.refl, Or.inl ⟨rfl, underWay⟩⟩

theorem BindLife.Kept.limiter (kept : life.Kept rate) (index : Nat)
    (event : LimiterEvent) (limiter : RateLimiter)
    (standing : life.sessions[index]? = some session)
    (stepped : session.limiter.step event = some limiter) :
    BindLife.Kept rate
      { life with sessions := life.sessions.set index { session with limiter := limiter } } := by
  have sameAttempts : (life.sessions.set index { session with limiter := limiter }).map
      ThrottledSession.attempt = life.sessions.map ThrottledSession.attempt := by
    obtain ⟨bound, same⟩ := List.getElem?_eq_some_iff.mp standing
    have boundMap : index < (life.sessions.map ThrottledSession.attempt).length := by
      rwa [List.length_map]
    have unchanged : session.attempt = (life.sessions.map ThrottledSession.attempt)[index] := by
      rw [List.getElem_map, same]
    rw [List.map_set]
    show (life.sessions.map ThrottledSession.attempt).set index session.attempt = _
    rw [unchanged, List.set_getElem_self]
  refine ⟨kept.spaced, ?_, ?_⟩
  · show List.Pairwise _ (life.sessions.set index _)
    have ordered := List.pairwise_map.mpr kept.ordered
    rw [← sameAttempts, List.pairwise_map] at ordered
    exact ordered
  · intro other member
    rcases List.mem_or_eq_of_mem_set member with old | rfl
    · exact kept.sessions other old
    · have before := kept.sessions session (List.mem_of_getElem? standing)
      exact ⟨before.bound, before.limiter.tail event stepped, before.placed⟩

theorem BindLife.Kept.step (kept : life.Kept rate) (event : BindEvent) (after : BindLife)
    (stepped : life.step attempts rate event = some after) : after.Kept rate := by
  cases event with
  | supervise =>
    cases stepped
    exact ⟨kept.spaced.step attempts, kept.ordered,
      fun session member => (kept.sessions session member).supervise⟩
  | smscBound now =>
    rw [BindLife.step] at stepped
    split at stepped
    · cases stepped
    · rename_i started underWay
      split at stepped
      · rename_i first
        cases stepped
        rw [List.all_eq_true] at first
        exact kept.smscBound started now underWay first.1 fun session member =>
          bne_iff_ne.mp (first.2 session member)
      · cases stepped
  | limiter index event =>
    rw [BindLife.step] at stepped
    split at stepped
    · cases stepped
    · rename_i session standing
      split at stepped
      · cases stepped
      · rename_i limiter took
        cases stepped
        exact kept.limiter index event limiter standing took

theorem BindLife.kept_of_reachable (now : Instant) (reachable : life.Reachable attempts rate now) :
    life.Kept rate :=
  Run.Reaches.invariant reachable
    ⟨Supervisor.spaced_start now, List.Pairwise.nil, fun _ member => nomatch member⟩
    fun _ event after kept stepped => kept.step event after stepped

/-! ### The cap across reconnects -/

/-- The tokens of one session while it was alive. -/
def BindLife.spell (attempts : Nat → Attempt) (life : BindLife) (session : ThrottledSession) :
    Spell Instant :=
  ⟨session.boundAt, session.limiter.grants.filter (life.alive attempts session)⟩

/-- A session that is alive has come up, and its client was not dropped before. -/
theorem BindLife.alive_iff (life : BindLife) (session : ThrottledSession) (instant : Instant) :
    life.alive attempts session instant = true ↔
      (attempts session.attempt).isAlive (instant - session.started) = true ∧
        ∀ backoff ∈ life.supervisor.backoffs, backoff.attempt = session.attempt →
          instant ≤ backoff.since := by
  simp only [BindLife.alive, Bool.and_eq_true, List.all_eq_true, Bool.or_eq_true, bne_iff_ne,
    decide_eq_true_eq, ne_eq, ← imp_iff_not_or]

theorem BindLife.spell_bounded (positive : 1 ≤ rate) (kept : session.Kept rate supervisor) :
    (life.spell attempts session).Bounded (rate : ℚ) rate := by
  have tracks := RateLimiter.tracks_of_reachable rate positive session.boundAt session.limiter
    kept.limiter
  refine ⟨fun grant member => ?_, fun start stop early ordered => ?_⟩
  · have used := RateLimiter.usedSince_of_reachable rate session.boundAt session.limiter
      kept.limiter
    exact used.grants grant (List.mem_of_mem_filter member)
  · have fewer : grantsWithin (life.spell attempts session).grants start stop ≤
        grantsWithin session.limiter.grants start stop :=
      (List.filter_sublist (p := life.alive attempts session)).countP_le
    exact (Nat.cast_le.mpr fewer).trans (tracks.windows start stop early ordered)

/-- A session comes up at least a second after the last token on an earlier one. -/
theorem BindLife.Kept.apart (kept : life.Kept rate) {earlier later : ThrottledSession}
    (memberEarlier : earlier ∈ life.sessions) (memberLater : later ∈ life.sessions)
    (ordered : earlier.attempt < later.attempt) :
    ∀ grant ∈ (life.spell attempts earlier).grants, grant + 1 ≤ later.boundAt := by
  intro grant member
  have keptLater := kept.sessions later memberLater
  obtain ⟨_, alive⟩ := List.mem_filter.mp member
  obtain ⟨_, undropped⟩ := (life.alive_iff earlier grant).mp alive
  have bound := keptLater.bound
  obtain ⟨backoff, listed, same, _⟩ := (kept.sessions earlier memberEarlier).placed.resolve_left
    fun current => absurd (keptLater.attempt_le kept.spaced) (not_le.mpr (current.1 ▸ ordered))
  have dropped := undropped backoff listed same
  have started : backoff.since + 1 ≤ later.started := by
    rcases keptLater.placed with ⟨_, underWay⟩ | ⟨ended, memberEnded, sameLater, startedLater⟩
    · have current := kept.spaced.current backoff listed
      rwa [underWay] at current
    · rw [← startedLater]
      refine kept.spaced.backoffs backoff listed ended memberEnded ?_
      rw [same, sameLater]
      exact ordered
  linarith

end Keeping

/-- Over the whole life of a bind, whatever its attempts come to and however sends interleave,
the tokens granted on sessions that were alive keep to the cap in every window. -/
theorem cap_holds_across_reconnects (attempts : Nat → Attempt) (rate : Nat) (positive : 1 ≤ rate)
    (now : Instant) (life : BindLife) (reachable : life.Reachable attempts rate now)
    (start stop : Instant) (ordered : start ≤ stop) :
    (grantsWithin (life.grants attempts) start stop : ℚ) ≤ rate + rate * (stop - start) := by
  have kept := BindLife.kept_of_reachable now reachable
  have nonneg : (0 : ℚ) ≤ rate := Nat.cast_nonneg rate
  have spells : life.grants attempts =
      (life.sessions.map (life.spell attempts)).flatMap Spell.grants := by
    rw [List.flatMap_map]
    rfl
  rw [spells]
  refine grantsWithin_flatMap_le nonneg nonneg one_pos (mul_one _).ge _ ?_ ?_ start stop ordered
  · intro spell member
    obtain ⟨session, listed, rfl⟩ := List.mem_map.mp member
    exact BindLife.spell_bounded positive (kept.sessions session listed)
  · rw [List.pairwise_map]
    refine kept.ordered.imp_of_mem fun {earlier later} memberEarlier memberLater before => ?_
    exact kept.apart memberEarlier memberLater before

/-- A session that comes up at once and goes down half a second later. -/
def halfSecond : Attempt where
  up := some 0
  down := some (1 / 2)
  connectFailed := none
  late _ := 0
  lateBackoff := 0
  up_nonneg instant same := by
    cases same
    exact le_rfl
  down_after instant same := by
    cases same
    exact ⟨0, rfl, by norm_num⟩
  late_nonneg := quietAttempt.late_nonneg
  lateBackoff_nonneg := quietAttempt.lateBackoff_nonneg

/-- With a cap of one message a second, a send on each of two sessions in a row: the second
attempt starts two seconds after the first, and the two tokens keep to the cap. -/
theorem cap_holds_across_two_sessions :
    let life : BindLife :=
      ⟨⟨2, 2000, 1, .awaiting 2 0, [0], [⟨0, 0, some 0, 1, 1000⟩]⟩,
        [⟨0, 0, 0, ⟨⟨0, 1, 1, 0⟩, [.acquired false], [0]⟩⟩,
          ⟨1, 2, 2, ⟨⟨0, 1, 1, 2⟩, [.acquired false], [2]⟩⟩]⟩
    life.Reachable (fun _ => halfSecond) 1 0 ∧ life.grants (fun _ => halfSecond) = [0, 2] ∧
    (grantsWithin (life.grants fun _ => halfSecond) 0 2 : ℚ) ≤ (1 : Nat) + (1 : Nat) * (2 - 0) := by
  intro life
  have reachable : life.Reachable (fun _ => halfSecond) 1 0 :=
    Run.Reaches.of_foldlM
      [.supervise, .smscBound 0, .limiter 0 .acquire, .limiter 0 (.lock 0 0), .supervise,
        .supervise, .supervise, .supervise, .supervise, .smscBound 2, .limiter 1 .acquire,
        .limiter 1 (.lock 0 2)]
      (by decide +kernel)
  exact ⟨reachable, by decide +kernel,
    cap_holds_across_reconnects _ 1 le_rfl 0 life reachable 0 2 (by norm_num)⟩

end SiphonSmpp
