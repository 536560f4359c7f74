/-
This file models how the result of an async handler travels from the asyncio
loop to the tokio task that waits for it (`await_handler`, `Completion` and
`Started::settle` in `src/dispatch.rs`), one step of either thread at a time.

The wrapper bounds the coroutine by a timeout scope and makes one call on its
completion object, which sends the converted result over a oneshot channel. The
waiting side takes what arrives, sees the channel close, or gives up after a
backstop. Whichever comes first settles the event for good: a wrapper that ends
later finds nobody to tell. `Authorisation.lean` has the same exchange in one
piece, as a `LoopRun`, and every run of the threads comes to one of those.
-/

import SiphonSmpp.Authorisation
import SiphonSmpp.RateLimiter

namespace SiphonSmpp

/-! ### The wrapper and the channel -/

/-- How the timeout scope around a coroutine is left: with the value the coroutine returned, or
with an exception, which the wrapper raises again unless it is an `Exception`. -/
inductive ScopeExit where
  | returned (value : PyValue)
  | raised (error : PyErr) (isException : Bool)

/-- Where `await_handler` stands on its loop: not begun, inside its timeout scope, entered at an
instant and expired or not, at its end, or discarded before its first step. -/
inductive WrapperState where
  | submitted
  | awaiting (entered : Instant) (expired : Bool)
  | ended (raised : Bool)
  | discarded
  deriving DecidableEq, Repr

/-- The channel between the loop and the waiting side. -/
inductive Oneshot (Result : Type) where
  | empty
  | sent (result : Except DispatchError Result)
  | closed

/-- A coroutine on the asyncio pool, with the calls made on its completion object and the task
that waits for its result since an instant. -/
structure HandlerRun (Result : Type) where
  wrapper : WrapperState
  hasFinish : Bool
  calls : List (Except PyErr PyValue)
  channel : Oneshot Result
  settled : Option (Except DispatchError Result)
  begun : Instant
  clock : Instant

/-- What can happen: the loop begins the wrapper, its timeout scope expires, the scope is left,
the loop discards a wrapper it has not begun, time passes, the waiting side is polled. -/
inductive HandlerEvent where
  | start
  | expire
  | exit (how : ScopeExit)
  | discard
  | tick (now : Instant)
  | poll

/-- A coroutine that was just taken by the pool. -/
def HandlerRun.new (Result : Type) (begun : Instant) : HandlerRun Result :=
  ⟨.submitted, true, [], .empty, none, begun, begun⟩

/-- The exception of a coroutine that did not settle within its timeout. -/
def timeoutError (name : String) (timeout : Nat) : PyErr :=
  ⟨.exception "TimeoutError",
    "async handler " ++ name ++ " did not settle within " ++ toString timeout ++ "s"⟩

section Run

variable {Result : Type} (convert : PyValue → Result)

/-- The result that the closure of a completion object makes of a call. -/
def resultOf : Except PyErr PyValue → Except DispatchError Result
  | .ok value => .ok (convert value)
  | .error error => .error (.fromPython error)

/-- `Completion::done` and `Completion::fail`: take the closure, if it is still there, and send
what it makes of the outcome. A channel whose receiver is gone keeps what it had. -/
def HandlerRun.complete (run : HandlerRun Result) (outcome : Except PyErr PyValue) :
    HandlerRun Result :=
  { run with
    calls := run.calls ++ [outcome]
    hasFinish := false
    channel :=
      if run.hasFinish ∧ run.settled.isNone then .sent (resultOf convert outcome)
      else run.channel }

/-- The rest of the wrapper once its timeout scope is left. -/
def HandlerRun.leave (name : String) (timeout : Nat) (run : HandlerRun Result) (expired : Bool) :
    ScopeExit → HandlerRun Result
  | .returned value => { run.complete convert (.ok value) with wrapper := .ended false }
  | .raised error isException =>
    { run.complete convert (.error (if expired then timeoutError name timeout else error)) with
      wrapper := .ended (!isException) }

/-- `Started::settle` when it is polled: what the channel holds, else the backstop. -/
def HandlerRun.poll (timeout : Nat) (run : HandlerRun Result) :
    Option (Except DispatchError Result) :=
  match run.channel with
  | .sent result => some result
  | .closed => some (Started.pending .closed timeout).settle
  | .empty =>
    if run.begun + (timeout + settleBackstop : Nat) ≤ run.clock then
      some (Started.pending .elapsed timeout).settle
    else none

/-- One step of the loop thread, the waiting task or the clock, where it is possible. -/
def HandlerRun.step (name : String) (timeout : Nat) (run : HandlerRun Result) :
    HandlerEvent → Option (HandlerRun Result)
  | .start =>
    match run.wrapper with
    | .submitted => some { run with wrapper := .awaiting run.clock false }
    | _ => none
  | .expire =>
    match run.wrapper with
    | .awaiting entered false =>
      if entered + timeout ≤ run.clock then some { run with wrapper := .awaiting entered true }
      else none
    | _ => none
  | .exit how =>
    match run.wrapper with
    | .awaiting _ expired => some (run.leave convert name timeout expired how)
    | _ => none
  | .discard =>
    match run.wrapper with
    | .submitted =>
      some { run with
        wrapper := .discarded
        hasFinish := false
        channel := if run.settled.isNone then .closed else run.channel }
    | _ => none
  | .tick now => if run.clock ≤ now then some { run with clock := now } else none
  | .poll =>
    match run.settled with
    | some _ => none
    | none => some { run with settled := run.poll timeout }

end Run

/-! ### What every step keeps -/

section Kept

variable {Result : Type} {convert : PyValue → Result} {name : String} {timeout : Nat}
  {run after : HandlerRun Result}

/-- What the wrapper has told its completion object, and what the channel shows of it. -/
inductive HandlerRun.Told (convert : PyValue → Result) (run : HandlerRun Result) : Prop where
  | silent (working : run.wrapper = .submitted ∨ ∃ entered expired,
      run.wrapper = .awaiting entered expired)
    (finish : run.hasFinish = true) (calls : run.calls = [])
    (channel : run.settled = none → run.channel = .empty)
  | once (outcome : Except PyErr PyValue) (isOver : ∃ raised, run.wrapper = .ended raised)
    (calls : run.calls = [outcome])
    (channel : run.settled = none → run.channel = .sent (resultOf convert outcome))
  | never (isOver : run.wrapper = .discarded) (calls : run.calls = [])
    (channel : run.settled = none → run.channel = .closed)

/-- How a settled event came to its result: it is that of the one call on the completion object,
the wrapper was discarded, or the backstop had passed. -/
inductive HandlerRun.Explains (convert : PyValue → Result) (timeout : Nat)
    (run : HandlerRun Result) (result : Except DispatchError Result) : Prop where
  | told (outcome : Except PyErr PyValue) (calls : run.calls = [outcome])
    (same : result = resultOf convert outcome)
  | discarded (isOver : run.wrapper = .discarded)
    (same : result = (Started.pending .closed timeout).settle)
  | elapsed (late : run.begun + (timeout + settleBackstop : Nat) ≤ run.clock)
    (same : result = (Started.pending .elapsed timeout).settle)

structure HandlerRun.Kept (convert : PyValue → Result) (timeout : Nat) (begun : Instant)
    (run : HandlerRun Result) : Prop where
  begun : run.begun = begun
  told : run.Told convert
  explained : ∀ result, run.settled = some result → run.Explains convert timeout result

theorem HandlerRun.kept_new (begun : Instant) :
    (HandlerRun.new Result begun).Kept convert timeout begun :=
  ⟨rfl, .silent (Or.inl rfl) rfl rfl fun _ => rfl, nofun⟩

/-- What explains a result goes on explaining it. -/
theorem HandlerRun.Explains.mono {result : Except DispatchError Result}
    (explains : run.Explains convert timeout result)
    (calls : ∀ outcome, run.calls = [outcome] → after.calls = [outcome])
    (wrapper : run.wrapper = .discarded → after.wrapper = .discarded)
    (begun : after.begun = run.begun) (clock : run.clock ≤ after.clock) :
    after.Explains convert timeout result := by
  cases explains with
  | told outcome made same => exact .told outcome (calls outcome made) same
  | discarded isOver same => exact .discarded (wrapper isOver) same
  | elapsed late same => exact .elapsed (begun ▸ late.trans clock) same

/-- A wrapper that leaves its scope makes its one call. -/
theorem HandlerRun.Kept.exit {begun entered : Instant} {expired : Bool}
    (kept : run.Kept convert timeout begun)
    (inside : run.wrapper = .awaiting entered expired) (how : ScopeExit) :
    (run.leave convert name timeout expired how).Kept convert timeout begun := by
  obtain ⟨sinceBegun, told, explained⟩ := kept
  cases told with
  | once _ isOver =>
    obtain ⟨_, isOver⟩ := isOver
    exact absurd (inside.symm.trans isOver) nofun
  | never isOver => exact absurd (inside.symm.trans isOver) nofun
  | silent _ finish calls _ =>
    have completed : ∀ outcome raised,
        HandlerRun.Kept convert timeout begun
          { run.complete convert outcome with wrapper := .ended raised } := by
      intro outcome raised
      have made : run.calls ++ [outcome] = [outcome] := by rw [calls, List.nil_append]
      refine ⟨sinceBegun, .once outcome ⟨raised, rfl⟩ made fun unsettled => ?_,
        fun result settled => ?_⟩
      · have waiting : run.settled = none := unsettled
        exact if_pos ⟨finish, by rw [waiting]; rfl⟩
      · refine (explained result settled).mono (fun other one => ?_) (fun isOver => ?_) rfl le_rfl
        · rw [calls] at one
          cases one
        · exact absurd (inside.symm.trans isOver) nofun
    cases how with
    | returned value => exact completed (.ok value) false
    | raised error isException => exact completed _ (!isException)

theorem HandlerRun.Kept.poll {begun : Instant} (kept : run.Kept convert timeout begun)
    (unsettled : run.settled = none) :
    HandlerRun.Kept convert timeout begun { run with settled := run.poll timeout } := by
  obtain ⟨sinceBegun, told, explained⟩ := kept
  cases told with
  | silent working finish calls channel =>
    refine ⟨sinceBegun, .silent working finish calls fun _ => channel unsettled, ?_⟩
    intro result settled
    have settled : run.poll timeout = some result := settled
    rw [HandlerRun.poll, channel unsettled] at settled
    dsimp only at settled
    split at settled
    · rename_i late
      cases settled
      exact .elapsed late rfl
    · cases settled
  | once outcome isOver calls channel =>
    refine ⟨sinceBegun, .once outcome isOver calls fun _ => channel unsettled, ?_⟩
    intro result settled
    have settled : run.poll timeout = some result := settled
    rw [HandlerRun.poll, channel unsettled] at settled
    cases settled
    exact .told outcome calls rfl
  | never isOver calls channel =>
    refine ⟨sinceBegun, .never isOver calls fun _ => channel unsettled, ?_⟩
    intro result settled
    have settled : run.poll timeout = some result := settled
    rw [HandlerRun.poll, channel unsettled] at settled
    cases settled
    exact .discarded isOver rfl

/-- What a step can do: move a wrapper that has not ended into its scope or past its expiry, leave
the scope, discard a wrapper that was not begun, let time pass, or poll an unsettled task. -/
theorem HandlerRun.step_cases {event : HandlerEvent}
    (stepped : run.step convert name timeout event = some after) :
    (∃ entered expired, (run.wrapper = .submitted ∨ ∃ since, run.wrapper = .awaiting since false) ∧
      after = { run with wrapper := .awaiting entered expired }) ∨
    (∃ entered expired how, run.wrapper = .awaiting entered expired ∧
      after = run.leave convert name timeout expired how) ∨
    (run.wrapper = .submitted ∧ after = { run with
      wrapper := .discarded
      hasFinish := false
      channel := if run.settled.isNone then .closed else run.channel }) ∨
    (∃ now, run.clock ≤ now ∧ after = { run with clock := now }) ∨
    (run.settled = none ∧ after = { run with settled := run.poll timeout }) := by
  cases event with
  | start =>
    rw [HandlerRun.step] at stepped
    split at stepped
    · rename_i submitted
      cases stepped
      exact Or.inl ⟨_, _, Or.inl submitted, rfl⟩
    · cases stepped
  | expire =>
    rw [HandlerRun.step] at stepped
    split at stepped
    · rename_i entered inside
      split at stepped
      · cases stepped
        exact Or.inl ⟨_, _, Or.inr ⟨entered, inside⟩, rfl⟩
      · cases stepped
    · cases stepped
  | exit how =>
    rw [HandlerRun.step] at stepped
    split at stepped
    · rename_i entered expired inside
      cases stepped
      exact Or.inr (Or.inl ⟨entered, expired, how, inside, rfl⟩)
    · cases stepped
  | discard =>
    rw [HandlerRun.step] at stepped
    split at stepped
    · rename_i submitted
      cases stepped
      exact Or.inr (Or.inr (Or.inl ⟨submitted, rfl⟩))
    · cases stepped
  | tick now =>
    rw [HandlerRun.step] at stepped
    split at stepped
    · rename_i ordered
      cases stepped
      exact Or.inr (Or.inr (Or.inr (Or.inl ⟨now, ordered, rfl⟩)))
    · cases stepped
  | poll =>
    rw [HandlerRun.step] at stepped
    split at stepped
    · cases stepped
    · rename_i unsettled
      cases stepped
      exact Or.inr (Or.inr (Or.inr (Or.inr ⟨unsettled, rfl⟩)))

/-- Every step keeps the account of what was told. -/
theorem HandlerRun.Kept.step {begun : Instant} (kept : run.Kept convert timeout begun)
    (event : HandlerEvent) (stepped : run.step convert name timeout event = some after) :
    after.Kept convert timeout begun := by
  rcases step_cases stepped with ⟨entered, expired, working, rfl⟩ | ⟨entered, expired, how, inside,
    rfl⟩ | ⟨submitted, rfl⟩ | ⟨now, ordered, rfl⟩ | ⟨unsettled, rfl⟩
  · obtain ⟨sinceBegun, told, explained⟩ := kept
    have alive : run.wrapper ≠ .discarded ∧ ∀ raised, run.wrapper ≠ .ended raised := by
      rcases working with same | ⟨_, same⟩
      · rw [same]
        exact ⟨nofun, nofun⟩
      · rw [same]
        exact ⟨nofun, nofun⟩
    refine ⟨sinceBegun, ?_, fun result settled => (explained result settled).mono
      (fun _ one => one) (fun isOver => absurd isOver alive.1) rfl le_rfl⟩
    cases told with
    | silent _ finish calls channel => exact .silent (Or.inr ⟨_, _, rfl⟩) finish calls channel
    | once _ isOver => exact absurd isOver.choose_spec (alive.2 _)
    | never isOver => exact absurd isOver alive.1
  · exact kept.exit inside how
  · obtain ⟨sinceBegun, told, explained⟩ := kept
    cases told with
    | once _ isOver =>
      obtain ⟨_, isOver⟩ := isOver
      exact absurd (submitted.symm.trans isOver) nofun
    | never isOver => exact absurd (submitted.symm.trans isOver) nofun
    | silent _ _ calls _ =>
      refine ⟨sinceBegun, .never rfl calls fun unsettled => ?_, fun result settled => ?_⟩
      · have waiting : run.settled = none := unsettled
        exact if_pos (by rw [waiting]; rfl)
      · exact (explained result settled).mono (fun _ one => one) (fun _ => rfl) rfl le_rfl
  · obtain ⟨sinceBegun, told, explained⟩ := kept
    refine ⟨sinceBegun, ?_, fun result settled =>
      (explained result settled).mono (fun _ one => one) id rfl ordered⟩
    cases told with
    | silent working finish calls channel => exact .silent working finish calls channel
    | once outcome isOver calls channel => exact .once outcome isOver calls channel
    | never isOver calls channel => exact .never isOver calls channel
  · exact kept.poll unsettled

/-- Nothing that happens later changes how an event was settled. -/
theorem HandlerRun.step_settled {result : Except DispatchError Result} {event : HandlerEvent}
    (settled : run.settled = some result)
    (stepped : run.step convert name timeout event = some after) : after.settled = some result := by
  rcases step_cases stepped with ⟨_, _, _, rfl⟩ | ⟨_, _, how, _, rfl⟩ | ⟨_, rfl⟩ | ⟨_, _, rfl⟩ |
    ⟨unsettled, _⟩
  · exact settled
  · cases how with
    | returned value => exact settled
    | raised error isException => exact settled
  · exact settled
  · exact settled
  · rw [unsettled] at settled
    cases settled

end Kept

/-! ### An event settles once -/

section Settling

variable {Result : Type} (convert : PyValue → Result) (name : String) (timeout : Nat)
  (begun : Instant)

/-- The runs of the two threads. -/
def HandlerRun.Reachable (run : HandlerRun Result) : Prop :=
  Run.Reaches (HandlerRun.step convert name timeout) (.new Result begun) run

/-- What `submit_coroutine` and `settle` make of a run of the loop. -/
def LoopRun.settles (loop : LoopRun) : Except DispatchError Result :=
  match loop.awaited with
  | .done value => .ok (convert value)
  | .failed error => .error (.fromPython error)
  | .dropped => (Started.pending .closed timeout).settle
  | .stalled => (Started.pending .elapsed timeout).settle

/-- A run of the loop settles an event as its dispatch does. -/
theorem LoopRun.settles_submitted (loop : LoopRun) (script : Script) (coroutine : PyValue)
    (taken : script.submit = .ok ()) (ran : script.awaited coroutine = loop.awaited)
    (bounded : script.coroutineTimeout = timeout) :
    (submitCoroutine script coroutine convert).map Started.settle =
      .ok (loop.settles convert timeout) := by
  unfold submitCoroutine LoopRun.settles
  rw [taken, ran, bounded]
  cases loop.awaited with
  | done value => rfl
  | failed error => rfl
  | dropped => rfl
  | stalled => rfl

end Settling

/-- The result of an async handler reaches the waiting side once. In every run of the two threads,
at most one call is made on the completion object; once the wrapper has ended or was discarded, or
the backstop has passed, the next poll settles the event; a settled event has the result of a run
of the loop, as its dispatch settles it, with the calls made so far, unless the waiting side had
given up, which it does not before its time; and what the loop does after that changes nothing. -/
theorem HandlerRun.settles_once {Result : Type} (convert : PyValue → Result) (name : String)
    (timeout : Nat) (begun : Instant) (run : HandlerRun Result)
    (reachable : run.Reachable convert name timeout begun) :
    run.calls.length ≤ 1 ∧
    (run.settled = none →
      ((∃ raised, run.wrapper = .ended raised) ∨ run.wrapper = .discarded ∨
        begun + (timeout + settleBackstop : Nat) ≤ run.clock) →
      ∃ result, run.step convert name timeout .poll = some { run with settled := some result }) ∧
    ∀ result, run.settled = some result →
      (∃ loop : LoopRun,
        (∀ script coroutine, script.submit = .ok () → script.awaited coroutine = loop.awaited →
          script.coroutineTimeout = timeout →
          (submitCoroutine script coroutine convert).map Started.settle = .ok result) ∧
        (loop.inTime = true → loop.reports = run.calls) ∧
        (loop.inTime = false → begun + (timeout + settleBackstop : Nat) ≤ run.clock)) ∧
      ∀ later, Run.Reaches (HandlerRun.step convert name timeout) run later →
        later.settled = some result := by
  have kept : run.Kept convert timeout begun :=
    Run.Reaches.invariant reachable (kept_new begun) fun _ event _ kept stepped =>
      kept.step event stepped
  obtain ⟨sinceBegun, told, explained⟩ := kept
  refine ⟨?_, fun unsettled due => ?_, fun result settled => ⟨?_, fun later reaches => ?_⟩⟩
  · cases told with
    | silent _ _ calls =>
      rw [calls]
      exact Nat.zero_le _
    | once _ _ calls =>
      rw [calls]
      exact Nat.le_refl _
    | never _ calls =>
      rw [calls]
      exact Nat.zero_le _
  · have polled : run.step convert name timeout .poll =
        some { run with settled := run.poll timeout } := by
      rw [HandlerRun.step, unsettled]
    rw [polled]
    cases told with
    | silent working _ _ channel =>
      have late : run.begun + (timeout + settleBackstop : Nat) ≤ run.clock := by
        rcases due with ⟨_, ended⟩ | discarded | late
        · rcases working with same | ⟨_, _, same⟩
          · exact absurd (ended.symm.trans same) nofun
          · exact absurd (ended.symm.trans same) nofun
        · rcases working with same | ⟨_, _, same⟩
          · exact absurd (discarded.symm.trans same) nofun
          · exact absurd (discarded.symm.trans same) nofun
        · exact sinceBegun ▸ late
      refine ⟨(Started.pending .elapsed timeout).settle, ?_⟩
      rw [HandlerRun.poll, channel unsettled]
      dsimp only
      rw [if_pos late]
    | once outcome _ _ channel =>
      refine ⟨resultOf convert outcome, ?_⟩
      rw [HandlerRun.poll, channel unsettled]
    | never _ _ channel =>
      refine ⟨(Started.pending .closed timeout).settle, ?_⟩
      rw [HandlerRun.poll, channel unsettled]
  · have settles : ∀ loop : LoopRun, result = loop.settles convert timeout →
        ∀ script coroutine, script.submit = .ok () → script.awaited coroutine = loop.awaited →
          script.coroutineTimeout = timeout →
          (submitCoroutine script coroutine convert).map Started.settle = .ok result := by
      intro loop same script coroutine taken ran bounded
      rw [same]
      exact loop.settles_submitted convert timeout script coroutine taken ran bounded
    cases explained result settled with
    | told outcome calls same =>
      refine ⟨⟨[outcome], true⟩, settles _ ?_, fun _ => calls.symm, nofun⟩
      rw [same]
      cases outcome with
      | ok value => rfl
      | error error => rfl
    | discarded isOver same =>
      have silent : run.calls = [] := by
        cases told with
        | silent working =>
          rcases working with alive | ⟨_, _, alive⟩
          · exact absurd (isOver.symm.trans alive) nofun
          · exact absurd (isOver.symm.trans alive) nofun
        | once _ ended =>
          obtain ⟨_, ended⟩ := ended
          exact absurd (isOver.symm.trans ended) nofun
        | never _ calls => exact calls
      exact ⟨⟨[], true⟩, settles _ same, fun _ => silent.symm, nofun⟩
    | elapsed late same => exact ⟨⟨[], false⟩, settles _ same, nofun, fun _ => sinceBegun ▸ late⟩
  · exact @Run.Reaches.invariant _ _ _ _ _ (fun run => run.settled = some result) reaches settled
      fun _ _ _ => step_settled

/-- A handler whose loop did not turn for six seconds is given up on, and the value it returns after
that reaches nobody. -/
theorem HandlerRun.settles_once_late :
    let stalled := (Started.pending .elapsed 1 : Started PduReply).settle
    let late : HandlerRun PduReply :=
      ⟨.ended false, false, [.ok .none], .empty, some stalled, 0, 6⟩
    late.Reachable pduReply "on_submit" 1 0 ∧ late.calls.length ≤ 1 ∧
      late.settled = some stalled := by
  intro stalled late
  let waiting : HandlerRun PduReply := ⟨.submitted, true, [], .empty, none, 0, 6⟩
  let gaveUp : HandlerRun PduReply := ⟨.submitted, true, [], .empty, some stalled, 0, 6⟩
  have ticked : (HandlerRun.new PduReply 0).step pduReply "on_submit" 1 (.tick 6) =
      some waiting := by
    have later : (0 : Instant) ≤ 6 := by norm_num [Instant]
    simp [HandlerRun.step, HandlerRun.new, later, waiting]
  have due : waiting.poll 1 = some stalled := by
    refine if_pos ?_
    show (0 : ℚ) + (1 + settleBackstop : Nat) ≤ 6
    norm_num [settleBackstop]
  have polled : waiting.step pduReply "on_submit" 1 .poll = some gaveUp := by
    show some { waiting with settled := waiting.poll 1 } = some gaveUp
    rw [due]
  have reachable : gaveUp.Reachable pduReply "on_submit" 1 0 :=
    (Run.Reaches.refl.tail (.tick 6) ticked).tail .poll polled
  have reaches : Run.Reaches (HandlerRun.step pduReply "on_submit" 1) gaveUp late :=
    (Run.Reaches.refl.tail .start rfl).tail (.exit (.returned .none)) rfl
  have lateReachable : late.Reachable pduReply "on_submit" 1 0 := reachable.trans reaches
  refine ⟨lateReachable, (settles_once pduReply "on_submit" 1 0 late lateReachable).1, ?_⟩
  exact ((settles_once pduReply "on_submit" 1 0 gaveUp reachable).2.2 _ rfl).2 late reaches

end SiphonSmpp
