/-
This file proves what a report of a failed send says about its cause, over
every interleaving of sends with sessions that bind, unbind and bind again.

A send takes a handle from the registry, waits for its turn, hands the request
to the codec and waits. What the codec promises is in the conditions under
which it may release a request: with a response or a `generic_nack` at any
time, because the session ended only after the unbound hook of that session has
run, and because of the response timer only once that timer has elapsed since
the send began. The elapsed time is read and the registry searched later, in
steps of their own, so any other step may come in between.
-/

import SiphonSmpp.Lib.Run
import SiphonSmpp.Outcome

namespace SiphonSmpp

/-! ### Sessions and their handles -/

/-- The handle of a session, outbound or inbound. -/
inductive Handle where
  | smsc (smsc : Arc Smsc)
  | esme (esme : Arc Esme)
  deriving DecidableEq, Repr

def Handle.ptr : Handle → Nat
  | .smsc session => session.ptr
  | .esme session => session.ptr

/-- The sessions the registry holds. -/
def State.handles (state : State) : List Handle :=
  state.binds.map (fun entry => .smsc entry.smsc) ++ state.esmes.map fun entry => .esme entry.esme

/-- What a send helper resolved: a bind by its name, or an ESME session by its id. -/
inductive SendTarget where
  | bind (bind : String) (target : BindTarget)
  | esme (sessionId : String) (esme : Arc Esme) (responseTimer : Duration)
  deriving DecidableEq, Repr

def SendTarget.handle : SendTarget → Handle
  | .bind _ target => .smsc target.smsc
  | .esme _ session _ => .esme session

def SendTarget.responseTimer : SendTarget → Duration
  | .bind _ target => target.responseTimer
  | .esme _ _ responseTimer => responseTimer

/-- How the target is named in an error. -/
def SendTarget.name : SendTarget → String
  | .bind name _ => "bind " ++ debugText name
  | .esme sessionId _ _ => "session " ++ debugText sessionId

/-- True when the target's own session is no longer registered. -/
def SendTarget.gone (target : SendTarget) (state : State) : Bool :=
  match target with
  | .bind _ target => bindGone state.binds target.smsc
  | .esme _ session _ => esmeGone state.esmes session

section Sends

variable {Response : Type}

def SendTarget.settle (target : SendTarget) (state : State) (command : String)
    (sent : Except SmppError Response) (waited : Duration) : Except SendErrorValue Response :=
  match target with
  | .bind name target => settleOnBind state target name command sent waited
  | .esme sessionId session responseTimer =>
    settleOnEsme state session responseTimer sessionId command sent waited

/-! ### Sends -/

/-- Why the codec gave a request back. `failed` stands for a failed write and for a response
of another type. -/
inductive Release (Response : Type) where
  | response (response : Response)
  | genericNack (status : SmppError)
  | sessionEnded
  | timerElapsed
  | failed
  deriving DecidableEq, Repr

/-- What the codec's send call returns. -/
def Release.result : Release Response → Except SmppError Response
  | .response given => .ok given
  | .genericNack status => .error status
  | .sessionEnded => .error .esmeRsyserr
  | .timerElapsed => .error .esmeRsyserr
  | .failed => .error .esmeRsyserr

/-- A settled request: why it was released, what was reported, and for a failure how long it
was out by the helper's clock and which sessions were registered at the check. -/
structure Settled (Response : Type) where
  release : Release Response
  report : Except SendErrorValue Response
  checked : Option (Duration × List Handle)

/-- How far a send has come. -/
inductive Phase (Response : Type) where
  | resolved
  | awaiting (started : Instant)
  | outstanding (started began : Instant)
  | released (started : Instant) (release : Release Response)
  | measured (waited : Duration) (release : Release Response)
  | settled (settled : Settled Response)

structure Send (Response : Type) where
  target : SendTarget
  command : String
  phase : Phase Response

/-! ### The interleaving -/

/-- The clock, the registry, the sessions the bound hooks have registered, those whose unbound
hook has run, and every send made so far. -/
structure World (Response : Type) where
  now : Instant
  state : State
  bound : List Handle
  ended : List Handle
  sends : List (Send Response)

/-- A world in which nothing was bound or sent yet. -/
def World.new (now : Instant) (inboundMaxMps : Nat) (action : ThrottleAction)
    (inboundResponseTimer : Duration) : World Response where
  now := now
  state := ⟨[], [], inboundMaxMps, action, inboundResponseTimer, 0⟩
  bound := []
  ended := []
  sends := []

/-- The next step of a send: its turn comes and the clock is read, the codec takes the request,
the codec gives it back, the elapsed time is read, the registry is searched. -/
inductive Move (Response : Type) where
  | start
  | begin
  | release (release : Release Response)
  | measure
  | check

/-- What can happen next: time passes, a lifecycle hook of the codec runs, a helper resolves
its target, a send takes its next step. -/
inductive WorldEvent (Response : Type) where
  | tick (later : Instant)
  | smscBound (listener : BindListener) (smsc : Smsc)
  | smscUnbound (listener : BindListener) (smsc : Arc Smsc)
  | esmeBound (esme : Esme)
  | esmeUnbound (esme : Arc Esme)
  | sendOnBind (bind command : String)
  | sendOnEsme (sessionId command : String)
  | advance (send : Nat) (move : Move Response)

/-- When the codec may release a request that is outstanding. -/
def World.mayRelease (world : World Response) (target : SendTarget) (began : Instant) :
    Release Response → Bool
  | .sessionEnded => target.handle ∈ world.ended
  | .timerElapsed => target.responseTimer ≤ world.now - began
  | _ => true

/-- Where a step takes a send, if the send is at that step. -/
def World.move (world : World Response) (send : Send Response) :
    Move Response → Option (Phase Response)
  | .start =>
    match send.phase with
    | .resolved => some (.awaiting world.now)
    | _ => none
  | .begin =>
    match send.phase with
    | .awaiting started => some (.outstanding started world.now)
    | _ => none
  | .release release =>
    match send.phase with
    | .outstanding started began =>
      if world.mayRelease send.target began release then some (.released started release) else none
    | _ => none
  | .measure =>
    match send.phase with
    | .released started release =>
      let waited := durationSince world.now started
      match release.result with
      | .ok _ => some (.settled
          ⟨release, send.target.settle world.state send.command release.result waited, none⟩)
      | .error _ => some (.measured waited release)
    | _ => none
  | .check =>
    match send.phase with
    | .measured waited release => some (.settled
        ⟨release, send.target.settle world.state send.command release.result waited,
          some (waited, world.state.handles)⟩)
    | _ => none

/-- Move one send. -/
def World.advance (world : World Response) (index : Nat) (move : Move Response) :
    Option (World Response) :=
  match world.sends[index]? with
  | none => none
  | some send =>
    (world.move send move).map fun phase =>
      { world with sends := world.sends.set index { send with phase := phase } }

def World.step (world : World Response) : WorldEvent Response → Option (World Response)
  | .tick later => if world.now ≤ later then some { world with now := later } else none
  | .smscBound listener smsc => some
      { world with
        state := (world.state.onSmscBound listener smsc smsc.sessionId).1
        bound := .smsc ⟨world.state.nextPtr, smsc⟩ :: world.bound }
  | .smscUnbound listener smsc =>
    if .smsc smsc ∈ world.bound then some
      { world with
        state := (world.state.onSmscUnbound listener smsc.value.sessionId).1
        ended := .smsc smsc :: world.ended }
    else none
  | .esmeBound esme => some
      { world with
        state := (world.state.onEsmeBound esme esme.sessionId).1
        bound := .esme ⟨world.state.nextPtr, esme⟩ :: world.bound }
  | .esmeUnbound esme =>
    if .esme esme ∈ world.bound then some
      { world with
        state := (world.state.onEsmeUnbound esme.value.sessionId).1
        ended := .esme esme :: world.ended }
    else none
  | .sendOnBind bind command =>
    match bindHandle world.state bind with
    | .ok target => some
        { world with sends := world.sends ++ [⟨.bind bind target, command, .resolved⟩] }
    | .error _ => none
  | .sendOnEsme sessionId command =>
    match esmeHandle world.state sessionId with
    | .ok (esme, responseTimer) => some
        { world with
          sends := world.sends ++ [⟨.esme sessionId esme responseTimer, command, .resolved⟩] }
    | .error _ => none
  | .advance send move => world.advance send move

/-- The worlds an interleaving can lead to. -/
def World.Reachable (start world : World Response) : Prop := Run.Reaches World.step start world

end Sends

/-! ### What the hooks do to the registry -/

section Hooks

variable (state : State)

theorem State.smsc_mem_handles (smsc : Arc Smsc) :
    .smsc smsc ∈ state.handles ↔ ∃ entry ∈ state.binds, entry.smsc = smsc := by
  simp [State.handles]

theorem State.esme_mem_handles (esme : Arc Esme) :
    .esme esme ∈ state.handles ↔ ∃ entry ∈ state.esmes, entry.esme = esme := by
  simp [State.handles]

theorem State.mem_handles_onSmscBound (listener : BindListener) (smsc : Smsc) (sessionId : String)
    (handle : Handle) :
    handle ∈ (state.onSmscBound listener smsc sessionId).1.handles ↔
      handle ∈ state.handles ∨ handle = .smsc ⟨state.nextPtr, smsc⟩ := by
  simp [State.handles, State.onSmscBound, or_comm, or_left_comm]

theorem State.mem_handles_onEsmeBound (esme : Esme) (sessionId : String) (handle : Handle) :
    handle ∈ (state.onEsmeBound esme sessionId).1.handles ↔
      handle ∈ state.handles ∨ handle = .esme ⟨state.nextPtr, esme⟩ := by
  simp [State.handles, State.onEsmeBound, or_assoc]

/-- The unbound hook leaves sessions that were registered, and none with the id it was called
with. -/
theorem State.mem_handles_onSmscUnbound (listener : BindListener) (sessionId : String)
    (handle : Handle) (member : handle ∈ (state.onSmscUnbound listener sessionId).1.handles) :
    handle ∈ state.handles ∧ ∀ smsc, handle = .smsc smsc → smsc.value.sessionId ≠ sessionId := by
  simp only [State.handles, State.onSmscUnbound, List.mem_append, List.mem_map,
    List.mem_filter] at member
  rcases member with ⟨entry, ⟨present, kept⟩, rfl⟩ | ⟨entry, present, rfl⟩
  · refine ⟨List.mem_append_left _ (List.mem_map_of_mem present), ?_⟩
    intro smsc same
    cases same
    simpa using kept
  · refine ⟨List.mem_append_right _ (List.mem_map_of_mem present), ?_⟩
    intro smsc same
    cases same

theorem State.mem_handles_onEsmeUnbound (sessionId : String) (handle : Handle)
    (member : handle ∈ (state.onEsmeUnbound sessionId).1.handles) :
    handle ∈ state.handles ∧ ∀ esme, handle = .esme esme → esme.value.sessionId ≠ sessionId := by
  simp only [State.handles, State.onEsmeUnbound, List.mem_append, List.mem_map,
    List.mem_filter] at member
  rcases member with ⟨entry, present, rfl⟩ | ⟨entry, ⟨present, kept⟩, rfl⟩
  · refine ⟨List.mem_append_left _ (List.mem_map_of_mem present), ?_⟩
    intro esme same
    cases same
  · refine ⟨List.mem_append_right _ (List.mem_map_of_mem present), ?_⟩
    intro esme same
    cases same
    simpa using kept

end Hooks

/-! ### The registry and the identity of a session -/

/-- The registry holds only sessions that were bound, their handles tell them apart, and a
session whose unbound hook has run is not among them. -/
structure Registered (state : State) (bound ended : List Handle) : Prop where
  fresh : ∀ handle ∈ bound, handle.ptr < state.nextPtr
  identity : ∀ first ∈ bound, ∀ second ∈ bound, first.ptr = second.ptr → first = second
  registered : ∀ handle ∈ state.handles, handle ∈ bound
  removed : ∀ handle ∈ ended, handle ∈ bound ∧ handle ∉ state.handles

/-- A bound hook registers a session under a handle that was not used before. -/
theorem Registered.ofBound {state after : State} {bound ended : List Handle}
    (sound : Registered state bound ended) (handle : Handle) (new : handle.ptr = state.nextPtr)
    (later : state.nextPtr < after.nextPtr)
    (handles : ∀ other, other ∈ after.handles ↔ other ∈ state.handles ∨ other = handle) :
    Registered after (handle :: bound) ended := by
  have distinct : ∀ other ∈ bound, other.ptr ≠ handle.ptr := by
    intro other member
    rw [new]
    exact (sound.fresh other member).ne
  refine ⟨?_, ?_, ?_, ?_⟩
  · intro other member
    rcases List.mem_cons.mp member with same | old
    · rw [same, new]
      exact later
    · exact (sound.fresh other old).trans later
  · intro first memberFirst second memberSecond same
    rcases List.mem_cons.mp memberFirst with firstNew | firstOld
    · rcases List.mem_cons.mp memberSecond with secondNew | secondOld
      · rw [firstNew, secondNew]
      · rw [firstNew] at same
        exact absurd same.symm (distinct second secondOld)
    · rcases List.mem_cons.mp memberSecond with secondNew | secondOld
      · rw [secondNew] at same
        exact absurd same (distinct first firstOld)
      · exact sound.identity first firstOld second secondOld same
  · intro other member
    rcases (handles other).mp member with old | same
    · exact List.mem_cons_of_mem _ (sound.registered other old)
    · rw [same]
      exact List.mem_cons_self
  · intro other member
    obtain ⟨known, absent⟩ := sound.removed other member
    refine ⟨List.mem_cons_of_mem _ known, fun present => ?_⟩
    rcases (handles other).mp present with old | same
    · exact absent old
    · exact distinct other known (congrArg Handle.ptr same)

/-- An unbound hook removes its session, perhaps with others, and registers none. -/
theorem Registered.ofUnbound {state after : State} {bound ended : List Handle}
    (sound : Registered state bound ended) (handle : Handle) (known : handle ∈ bound)
    (same : after.nextPtr = state.nextPtr) (fewer : ∀ other ∈ after.handles, other ∈ state.handles)
    (absent : handle ∉ after.handles) : Registered after bound (handle :: ended) := by
  refine ⟨?_, sound.identity, fun other member => sound.registered other (fewer other member), ?_⟩
  · rw [same]
    exact sound.fresh
  · intro other member
    rcases List.mem_cons.mp member with new | old
    · rw [new]
      exact ⟨known, absent⟩
    · obtain ⟨knownOther, absentOther⟩ := sound.removed other old
      exact ⟨knownOther, fun present => absentOther (fewer other present)⟩

/-- The search by handle finds exactly the target's own session: a session bound later under
the same name has another handle. -/
theorem Registered.gone_eq_false_iff {state : State} {bound ended : List Handle}
    (sound : Registered state bound ended) (target : SendTarget) (known : target.handle ∈ bound) :
    target.gone state = false ↔ target.handle ∈ state.handles := by
  cases target with
  | bind name target =>
    rw [SendTarget.gone, bindGone_eq_false_iff, SendTarget.handle, state.smsc_mem_handles]
    constructor
    · intro ⟨entry, member, same⟩
      have present := (state.smsc_mem_handles entry.smsc).mpr ⟨entry, member, rfl⟩
      have own := sound.identity _ (sound.registered _ present) _ known same
      exact ⟨entry, member, Handle.smsc.inj own⟩
    · intro ⟨entry, member, same⟩
      exact ⟨entry, member, congrArg Arc.ptr same⟩
  | esme sessionId session responseTimer =>
    rw [SendTarget.gone, esmeGone_eq_false_iff, SendTarget.handle, state.esme_mem_handles]
    constructor
    · intro ⟨entry, member, same⟩
      have present := (state.esme_mem_handles entry.esme).mpr ⟨entry, member, rfl⟩
      have own := sound.identity _ (sound.registered _ present) _ known same
      exact ⟨entry, member, Handle.esme.inj own⟩
    · intro ⟨entry, member, same⟩
      exact ⟨entry, member, congrArg Arc.ptr same⟩

/-- The session of a target whose unbound hook has run is gone. -/
theorem Registered.gone_of_ended {state : State} {bound ended : List Handle}
    (sound : Registered state bound ended) (target : SendTarget)
    (finished : target.handle ∈ ended) : target.gone state = true := by
  obtain ⟨known, absent⟩ := sound.removed _ finished
  rw [← Bool.not_eq_false, sound.gone_eq_false_iff target known]
  exact absent

/-! ### What a settled request says -/

section Reports

variable {Response : Type}

/-- A report explains the release of its request: it is the response exactly when one came; a
request released with its session is reported closed or timed out, one released by the timer
as timed out; and one reported unanswered was out for less than the timer on a session of its
own that was registered at the check. -/
structure Settled.Explains (settled : Settled Response) (target : SendTarget) (command : String) :
    Prop where
  response : ∀ response, settled.report = .ok response ↔ settled.release = .response response
  ended : settled.release = .sessionEnded →
    settled.report = .error (SendFailure.closed.intoPyErr command target.name) ∨
    settled.report =
      .error ((SendFailure.timeout target.responseTimer).intoPyErr command target.name)
  timer : settled.release = .timerElapsed →
    settled.report =
      .error ((SendFailure.timeout target.responseTimer).intoPyErr command target.name)
  unanswered : ∀ error, settled.report = .error error → error.reason = "unanswered" →
    ∃ waited registered, settled.checked = some (waited, registered) ∧
      target.handle ∈ registered ∧ waited < target.responseTimer

theorem SendTarget.settle_eq (target : SendTarget) (state : State) (command : String)
    (sent : Except SmppError Response) (waited : Duration) :
    target.settle state command sent waited =
      (SiphonSmpp.settle sent waited target.responseTimer (target.gone state)).mapError
        fun failure => failure.intoPyErr command target.name := by
  cases target with
  | bind name target => rfl
  | esme sessionId session responseTimer => rfl

/-- A failed send is reported as the classified failure. -/
theorem SendTarget.settle_error (target : SendTarget) (state : State) (command : String)
    (error : SmppError) (waited : Duration) :
    (target.settle state command (.error error) waited : Except SendErrorValue Response) =
      .error ((classify error waited target.responseTimer (target.gone state)).intoPyErr command
        target.name) := by
  rw [target.settle_eq]
  rfl

/-- What is known of a send at each phase: the clock readings are in order, and a release by
the timer or with the session keeps its evidence. -/
def Phase.Sound (now : Instant) (ended : List Handle) (target : SendTarget) (command : String) :
    Phase Response → Prop
  | .resolved => True
  | .awaiting started => started ≤ now
  | .outstanding started began => started ≤ began ∧ began ≤ now
  | .released started release => started ≤ now ∧
      (release = .timerElapsed → target.responseTimer ≤ now - started) ∧
      (release = .sessionEnded → target.handle ∈ ended)
  | .measured waited release => (∀ response, release ≠ .response response) ∧
      (release = .timerElapsed → target.responseTimer ≤ waited) ∧
      (release = .sessionEnded → target.handle ∈ ended)
  | .settled report => report.Explains target command

/-- Neither the clock nor a further hook takes away what is known of a send. -/
theorem Phase.Sound.mono {now later : Instant} {ended more : List Handle} {target : SendTarget}
    {command : String} {phase : Phase Response} (sound : phase.Sound now ended target command)
    (passed : now ≤ later) (extended : ∀ handle ∈ ended, handle ∈ more) :
    phase.Sound later more target command := by
  cases phase with
  | resolved => trivial
  | awaiting started => exact le_trans sound passed
  | outstanding started began => exact ⟨sound.1, le_trans sound.2 passed⟩
  | released started release =>
    obtain ⟨ordered, timer, finished⟩ := sound
    refine ⟨le_trans ordered passed, fun same => ?_, fun same => extended _ (finished same)⟩
    exact le_trans (timer same) (sub_le_sub_right passed started)
  | measured waited release =>
    obtain ⟨noResponse, timer, finished⟩ := sound
    exact ⟨noResponse, timer, fun same => extended _ (finished same)⟩
  | settled settled => exact sound

/-- A response is reported as it came. -/
theorem Settled.explains_response (target : SendTarget) (state : State) (command : String)
    (response : Response) (waited : Duration) :
    Settled.Explains ⟨.response response, target.settle state command (.ok response) waited, none⟩
      target command := by
  have report : target.settle state command (.ok response) waited = .ok response := by
    rw [target.settle_eq]
    rfl
  rw [report]
  refine ⟨fun other => ?_, fun same => ?_, fun same => ?_, fun error same => ?_⟩
  · rw [Except.ok.injEq, Release.response.injEq]
  · cases same
  · cases same
  · cases same

/-- A release without a response is reported as its cause. -/
theorem Registered.explains_failure {state : State} {bound ended : List Handle}
    (sound : Registered state bound ended) (target : SendTarget) (known : target.handle ∈ bound)
    (command : String) (waited : Duration) (release : Release Response)
    (noResponse : ∀ response, release ≠ .response response)
    (timer : release = .timerElapsed → target.responseTimer ≤ waited)
    (finished : release = .sessionEnded → target.handle ∈ ended) :
    Settled.Explains ⟨release, target.settle state command release.result waited,
      some (waited, state.handles)⟩ target command := by
  obtain ⟨error, failed⟩ : ∃ error, release.result = .error error := by
    cases release with
    | response given => exact absurd rfl (noResponse given)
    | genericNack status => exact ⟨_, rfl⟩
    | sessionEnded => exact ⟨_, rfl⟩
    | timerElapsed => exact ⟨_, rfl⟩
    | failed => exact ⟨_, rfl⟩
  rw [failed, target.settle_error]
  refine ⟨fun response => ?_, fun same => ?_, fun same => ?_, fun report reported unanswered => ?_⟩
  · refine ⟨fun same => ?_, fun same => absurd same (noResponse response)⟩
    cases same
  · have cause := finished same
    subst same
    cases failed
    rw [sound.gone_of_ended target cause]
    rcases classify_of_gone waited target.responseTimer with closed | timeout
    · exact Or.inl (by rw [closed])
    · exact Or.inr (by rw [timeout])
  · have cause := timer same
    subst same
    cases failed
    show Except.error _ = _
    rw [classify_of_elapsed waited target.responseTimer _ cause]
  · cases reported
    have named := (SendFailure.reason_eq_unanswered_iff _).mp unanswered
    obtain ⟨_, early, present⟩ := classify_unanswered _ _ _ _ named
    exact ⟨waited, state.handles, rfl, (sound.gone_eq_false_iff target known).mp present, early⟩

end Reports

/-! ### One step -/

section Steps

variable {Response : Type}

/-- What holds in every world: the registry is sound, and every send holds the handle of a
session that was bound and is in order at its phase. -/
structure World.Sound (world : World Response) : Prop where
  registered : Registered world.state world.bound world.ended
  sends : ∀ send ∈ world.sends, send.target.handle ∈ world.bound ∧
    send.phase.Sound world.now world.ended send.target send.command

/-- A step of a send keeps what is known of it. -/
theorem World.Sound.move {world : World Response} (sound : world.Sound) (send : Send Response)
    (member : send ∈ world.sends) (move : Move Response) (phase : Phase Response)
    (moved : world.move send move = some phase) :
    phase.Sound world.now world.ended send.target send.command := by
  obtain ⟨known, before⟩ := sound.sends send member
  cases move with
  | start =>
    rw [World.move] at moved
    split at moved
    · cases moved
      exact le_refl world.now
    · cases moved
  | begin =>
    rw [World.move] at moved
    split at moved
    · rename_i started phaseBefore
      cases moved
      rw [phaseBefore] at before
      exact ⟨before, le_refl world.now⟩
    · cases moved
  | release release =>
    rw [World.move] at moved
    split at moved
    · rename_i started began phaseBefore
      rw [phaseBefore] at before
      split at moved
      · rename_i may
        cases moved
        refine ⟨before.1.trans before.2, fun same => ?_, fun same => ?_⟩
        · subst same
          have elapsed : send.target.responseTimer ≤ world.now - began := of_decide_eq_true may
          exact elapsed.trans (sub_le_sub_left before.1 world.now)
        · subst same
          exact of_decide_eq_true may
      · cases moved
    · cases moved
  | measure =>
    rw [World.move] at moved
    split at moved
    · rename_i started release phaseBefore
      rw [phaseBefore] at before
      obtain ⟨ordered, timer, finished⟩ := before
      have elapsed : durationSince world.now started = world.now - started :=
        max_eq_left (sub_nonneg.mpr ordered)
      cases release with
      | response given =>
        cases moved
        exact Settled.explains_response send.target world.state send.command given _
      | genericNack status =>
        cases moved
        exact ⟨fun _ => nofun, nofun, nofun⟩
      | sessionEnded =>
        cases moved
        exact ⟨fun _ => nofun, nofun, finished⟩
      | timerElapsed =>
        cases moved
        exact ⟨fun _ => nofun, fun same => elapsed ▸ timer same, nofun⟩
      | failed =>
        cases moved
        exact ⟨fun _ => nofun, nofun, nofun⟩
    · cases moved
  | check =>
    rw [World.move] at moved
    split at moved
    · rename_i waited release phaseBefore
      cases moved
      rw [phaseBefore] at before
      obtain ⟨noResponse, timer, finished⟩ := before
      exact sound.registered.explains_failure send.target known send.command waited release
        noResponse timer finished
    · cases moved

theorem World.Sound.advance {world after : World Response} (sound : world.Sound) (index : Nat)
    (move : Move Response) (advanced : world.advance index move = some after) : after.Sound := by
  unfold World.advance at advanced
  split at advanced
  · cases advanced
  · rename_i send found
    have member : send ∈ world.sends := List.mem_of_getElem? found
    obtain ⟨phase, moved, same⟩ := Option.map_eq_some_iff.mp advanced
    subst same
    refine ⟨sound.registered, fun other present => ?_⟩
    rcases List.mem_or_eq_of_mem_set present with old | new
    · exact sound.sends other old
    · rw [new]
      exact ⟨(sound.sends send member).1, sound.move send member move phase moved⟩

/-- A hook changes nothing that is known of a send. -/
theorem World.Sound.ofHook {world : World Response} (sound : world.Sound) {state : State}
    {bound ended : List Handle} (registered : Registered state bound ended)
    (known : ∀ handle ∈ world.bound, handle ∈ bound)
    (extended : ∀ handle ∈ world.ended, handle ∈ ended) :
    World.Sound { world with state := state, bound := bound, ended := ended } := by
  refine ⟨registered, fun send member => ?_⟩
  obtain ⟨handle, phase⟩ := sound.sends send member
  exact ⟨known _ handle, phase.mono (le_refl world.now) extended⟩

/-- A helper that resolved its target holds a handle that was bound. -/
theorem World.Sound.ofResolved {world : World Response} (sound : world.Sound)
    (target : SendTarget) (command : String) (present : target.handle ∈ world.state.handles) :
    World.Sound { world with sends := world.sends ++ [⟨target, command, .resolved⟩] } := by
  refine ⟨sound.registered, fun send member => ?_⟩
  rcases List.mem_append.mp member with old | new
  · exact sound.sends send old
  · rw [List.mem_singleton.mp new]
    exact ⟨sound.registered.registered _ present, trivial⟩

/-- Every step keeps the world sound. -/
theorem World.Sound.step {world after : World Response} (sound : world.Sound)
    (event : WorldEvent Response) (stepped : world.step event = some after) : after.Sound := by
  cases event with
  | tick later =>
    rw [World.step] at stepped
    split at stepped
    · rename_i passed
      cases stepped
      refine ⟨sound.registered, fun send member => ?_⟩
      obtain ⟨known, phase⟩ := sound.sends send member
      exact ⟨known, phase.mono passed fun _ finished => finished⟩
    · cases stepped
  | smscBound listener smsc =>
    cases stepped
    refine sound.ofHook ?_ (fun _ => List.mem_cons_of_mem _) fun _ finished => finished
    exact sound.registered.ofBound _ rfl (Nat.lt_add_of_pos_right (by decide))
      (world.state.mem_handles_onSmscBound listener smsc smsc.sessionId)
  | smscUnbound listener smsc =>
    rw [World.step] at stepped
    split at stepped
    · rename_i known
      cases stepped
      refine sound.ofHook ?_ (fun _ member => member) fun _ => List.mem_cons_of_mem _
      have left := world.state.mem_handles_onSmscUnbound listener smsc.value.sessionId
      exact sound.registered.ofUnbound _ known rfl (fun other member => (left other member).1)
        fun member => (left _ member).2 smsc rfl rfl
    · cases stepped
  | esmeBound esme =>
    cases stepped
    refine sound.ofHook ?_ (fun _ => List.mem_cons_of_mem _) fun _ finished => finished
    exact sound.registered.ofBound _ rfl (Nat.lt_add_of_pos_right (by decide))
      (world.state.mem_handles_onEsmeBound esme esme.sessionId)
  | esmeUnbound esme =>
    rw [World.step] at stepped
    split at stepped
    · rename_i known
      cases stepped
      refine sound.ofHook ?_ (fun _ member => member) fun _ => List.mem_cons_of_mem _
      have left := world.state.mem_handles_onEsmeUnbound esme.value.sessionId
      exact sound.registered.ofUnbound _ known rfl (fun other member => (left other member).1)
        fun member => (left _ member).2 esme rfl rfl
    · cases stepped
  | sendOnBind bind command =>
    rw [World.step] at stepped
    split at stepped
    · rename_i target resolved
      cases stepped
      obtain ⟨entry, member, _, same⟩ := bindHandle_mem world.state bind target resolved
      refine sound.ofResolved (.bind bind target) command ?_
      exact (world.state.smsc_mem_handles target.smsc).mpr ⟨entry, member, by rw [same]⟩
    · cases stepped
  | sendOnEsme sessionId command =>
    rw [World.step] at stepped
    split at stepped
    · rename_i esme responseTimer resolved
      cases stepped
      obtain ⟨entry, member, same, _⟩ :=
        esmeHandle_mem world.state sessionId esme responseTimer resolved
      refine sound.ofResolved (.esme sessionId esme responseTimer) command ?_
      exact (world.state.esme_mem_handles esme).mpr ⟨entry, member, same⟩
    · cases stepped
  | advance send move => exact sound.advance send move stepped

theorem World.sound_new (now : Instant) (inboundMaxMps : Nat) (action : ThrottleAction)
    (inboundResponseTimer : Duration) :
    (World.new now inboundMaxMps action inboundResponseTimer : World Response).Sound := by
  refine ⟨⟨?_, ?_, ?_, ?_⟩, ?_⟩ <;> simp [World.new, State.handles]

/-! ### Every run -/

/-- In every interleaving of sends with sessions that bind, unbind and bind again, a settled
send reports the response exactly when one came; a request released because its session ended
is reported closed or timed out, whatever is registered at the check; one released by the
response timer is reported timed out; and unanswered is reported only of a request whose own
session was registered at the check, before the timer had elapsed. -/
theorem settled_send_names_its_cause (now : Instant) (inboundMaxMps : Nat)
    (action : ThrottleAction) (inboundResponseTimer : Duration) (world : World Response)
    (reachable : (World.new now inboundMaxMps action inboundResponseTimer).Reachable world)
    (send : Send Response) (member : send ∈ world.sends) (settled : Settled Response)
    (phase : send.phase = .settled settled) :
    (∀ response, settled.report = .ok response ↔ settled.release = .response response) ∧
    (settled.release = .sessionEnded →
      settled.report = .error (SendFailure.closed.intoPyErr send.command send.target.name) ∨
      settled.report = .error
        ((SendFailure.timeout send.target.responseTimer).intoPyErr send.command send.target.name)) ∧
    (settled.release = .timerElapsed →
      settled.report = .error
        ((SendFailure.timeout send.target.responseTimer).intoPyErr send.command send.target.name)) ∧
    ∀ error, settled.report = .error error → error.reason = "unanswered" →
      ∃ waited registered, settled.checked = some (waited, registered) ∧
        send.target.handle ∈ registered ∧ waited < send.target.responseTimer := by
  have sound : world.Sound := Run.Reaches.invariant reachable (World.sound_new _ _ _ _)
    fun before event after sound stepped => sound.step event stepped
  have explains := (sound.sends send member).2
  rw [phase] at explains
  exact ⟨explains.response, explains.ended, explains.timer, explains.unanswered⟩

end Steps

/-- A request is outstanding on the bind `"smsc"` when its session ends; the bind is up again
before the registry is searched, and the send is still reported closed. -/
theorem settled_send_names_its_cause_rebound :
    ∃ world : World Unit, (World.new 0 0 .pace 30).Reachable world ∧
      (world.state.binds.map BindSession.name) = ["smsc"] ∧
      ∃ send ∈ world.sends, ∃ settled, send.phase = .settled settled ∧
        (settled.report = .error (SendFailure.closed.intoPyErr send.command send.target.name) ∨
        settled.report = .error
          ((SendFailure.timeout send.target.responseTimer).intoPyErr send.command
            send.target.name)) := by
  have start : (World.new 0 0 .pace 30 : World Unit).Reachable (World.new 0 0 .pace 30) :=
    Run.Reaches.refl
  have reachable := start
    |>.tail (.smscBound ⟨"smsc", 0, 30⟩ ⟨"session-1", "peer", "192.0.2.1:2775"⟩) rfl
    |>.tail (.sendOnBind "smsc" "submit_sm") rfl
    |>.tail (.advance 0 .start) rfl
    |>.tail (.advance 0 .begin) rfl
    |>.tail (.smscUnbound ⟨"smsc", 0, 30⟩ ⟨0, ⟨"session-1", "peer", "192.0.2.1:2775"⟩⟩) rfl
    |>.tail (.smscBound ⟨"smsc", 0, 30⟩ ⟨"session-2", "peer", "192.0.2.1:2775"⟩) rfl
    |>.tail (.advance 0 (.release .sessionEnded)) rfl
    |>.tail (.advance 0 .measure) rfl
    |>.tail (.advance 0 .check) rfl
  refine ⟨_, reachable, rfl, _, List.mem_singleton_self _, _, rfl, ?_⟩
  exact (settled_send_names_its_cause 0 0 .pace 30 _ reachable _ (List.mem_singleton_self _) _
    rfl).2.1 rfl

end SiphonSmpp
