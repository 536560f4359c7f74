/-
This file follows what a script learns of the sessions from `@smpp.on_session`,
which is there for a script to keep a table of who can be reached. A callback
changes the registry under its lock and dispatches its event when the lock is
released, so other callbacks come in between, and the events of different sessions
reach the script in another order than the registry changed.

A handler keeps the table only as far as it gets. One that returned has made its
change; of one that raised, or whose coroutine came to nothing, nobody can say.
The argument goes one session at a time: the registered sessions of an id are
changed by the events of that id alone, and so is the table. What the script was
told of an id, followed by what still waits for it, is what happened to the
registry, in that order. Once nothing waits, and the handlers of its events have
returned, the two agree.
-/

import SiphonSmpp.SessionDispatch
import SiphonSmpp.SessionEvents

namespace SiphonSmpp

/-! ### Callbacks and the dispatch of their events -/

/-- The event as `@smpp.on_session` is keyed by it. -/
def SessionEvent.name : SessionEvent → String
  | .bound => "bound"
  | .unbound => "unbound"

/-- How a dispatch goes: how the executor and Python behave, and whether a handler that does not
return has done its work before. -/
structure FeedScript extends SessionScript where
  partway : Nat → Bool

/-- A handler returned: a sync one at once, and the coroutine of an async one when it was
awaited. -/
def SessionScript.returns (script : SessionScript) (number : Nat) (handler : RegisteredHandler)
    (session : Session) : Bool :=
  match (script.handler number).valueOf handler (.session session) with
  | .returned _ => true
  | _ => false

/-- The calls of a log that have done their work. -/
def FeedScript.worked (script : FeedScript) (log : List SessionEffect) :
    List (RegisteredHandler × Session) :=
  log.filterMap fun effect =>
    match effect with
    | .called number handler session =>
      if script.returns number handler session || script.partway number then some (handler, session)
      else none
    | _ => none

/-- The registry, the events that callbacks have still to dispatch, oldest first, and the calls of
handlers that have done their work. -/
structure SessionFeed where
  state : State
  waiting : List (SessionEvent × Session)
  worked : List (RegisteredHandler × Session)

/-- One step of the lifecycle: the lock section of a callback, or the dispatch of the oldest event
that waits for a session. The codec makes the callbacks of one session one after the other. -/
inductive FeedStep where
  | callback (callback : Callback)
  | dispatch (id : SourceKind × String) (script : FeedScript)

section Feed

variable (source : HandlerSource)

def SessionFeed.step (feed : SessionFeed) : FeedStep → SessionFeed
  | .callback callback =>
    let done := feed.state.callback callback
    { feed with state := done.1, waiting := feed.waiting ++ done.2.toList }
  | .dispatch id script =>
    match feed.waiting.find? fun event => event.2.id = id with
    | none => feed
    | some event =>
      { feed with
        waiting := feed.waiting.eraseP fun event => event.2.id = id
        worked := feed.worked ++ script.worked
          (Dispatch.session script.toSessionScript source event.1.name event.2) }

def SessionFeed.run (feed : SessionFeed) (steps : List FeedStep) : SessionFeed :=
  steps.foldl (SessionFeed.step source) feed

theorem SessionFeed.run_concat (feed : SessionFeed) (steps : List FeedStep) (last : FeedStep) :
    feed.run source (steps ++ [last]) = (feed.run source steps).step source last := by
  rw [SessionFeed.run, List.foldl_append]
  rfl

end Feed

/-! ### The table of a script -/

/-- A change of the table of sessions. -/
abbrev TableChange := Roster.Change Session (SourceKind × String)

/-- What an event says of the sessions. -/
def toldChange (event : SessionEvent × Session) : TableChange :=
  match event.1 with
  | .bound => .join event.2
  | .unbound => .leave event.2.id

/-- The two handlers a script keeps its table with: one adds the session it is called with, the
other drops every session of that id. -/
structure TableHandlers where
  bound : RegisteredHandler
  unbound : RegisteredHandler
  boundKey : bound.key = some "bound"
  unboundKey : unbound.key = some "unbound"

/-- The executor runs every job of a dispatch, the arguments of the handlers are built, and the
handlers of the table return. -/
structure TableHandlers.Return (handlers : TableHandlers) (script : SessionScript) : Prop where
  jobs : ∀ job, script.job job = .ran
  built : ∀ number session, (script.handler number).arguments (.session session) = .ok ()
  bound : ∀ number session, script.returns number handlers.bound session = true
  unbound : ∀ number session, script.returns number handlers.unbound session = true

/-- Each of the two is registered once. -/
def TableHandlers.Registered (handlers : TableHandlers) (source : HandlerSource) : Prop :=
  (source .onSession).count handlers.bound = 1 ∧ (source .onSession).count handlers.unbound = 1

/-- What a call of a handler that does its work does to the table. -/
def TableHandlers.change (handlers : TableHandlers) (call : RegisteredHandler × Session) :
    Option TableChange :=
  if call.1 = handlers.bound then some (.join call.2)
  else if call.1 = handlers.unbound then some (.leave call.2.id)
  else none

/-- The table after the work of the handlers. -/
def TableHandlers.table (handlers : TableHandlers) (worked : List (RegisteredHandler × Session)) :
    List Session :=
  Roster.after Session.id [] (worked.filterMap handlers.change)

theorem toldChange_about (event : SessionEvent × Session) :
    (toldChange event).about Session.id = event.2.id := by
  obtain ⟨event, session⟩ := event
  cases event with
  | bound => rfl
  | unbound => rfl

/-- The changes that wait for an id are those of the events that do. -/
theorem filter_map_toldChange (events : List (SessionEvent × Session))
    (own : SourceKind × String) :
    (events.map toldChange).filter (fun change => change.about Session.id = own) =
      (events.filter fun event => event.2.id = own).map toldChange := by
  rw [List.filter_map]
  congr 2
  funext event
  show decide ((toldChange event).about Session.id = own) = _
  rw [toldChange_about]

/-! ### What a dispatch tells the table -/

section Told

variable (source : HandlerSource) (handlers : TableHandlers)

/-- A handler among others that do nothing acts as often as it is there. -/
theorem filterMap_eq_replicate (registered : List RegisteredHandler) (handler : RegisteredHandler)
    (change : TableChange) (act : RegisteredHandler → Option TableChange)
    (own : act handler = some change) (others : ∀ other ∈ registered, other ≠ handler →
      act other = none) :
    registered.filterMap act = List.replicate (registered.count handler) change := by
  induction registered with
  | nil => rfl
  | cons first rest inductionHypothesis =>
    have inRest := inductionHypothesis fun other member =>
      others other (List.mem_cons_of_mem _ member)
    by_cases same : first = handler
    · rw [same, List.filterMap_cons_some own, List.count_cons_self, List.replicate_succ, inRest]
    · rw [List.filterMap_cons_none (others first List.mem_cons_self same),
        List.count_cons_of_ne same, inRest]

omit handlers source in
theorem ne_of_key {first second : RegisteredHandler} {name other : String}
    (firstKey : first.key = some name) (secondKey : second.key = some other)
    (apart : name ≠ other) : first ≠ second := by
  rintro rfl
  exact apart (Option.some.inj (firstKey.symm.trans secondKey))

/-- The handlers of an event make the one change it tells. -/
theorem TableHandlers.changes_registered (registered : handlers.Registered source)
    (event : SessionEvent × Session) :
    ((registeredFor source event.1.name).map fun handler => (handler, event.2)).filterMap
      handlers.change = [toldChange event] := by
  have keyed : ∀ name, ∀ handler ∈ registeredFor source name, handler.key = some name :=
    fun name handler member => beq_iff_eq.mp (List.mem_filter.mp member).2
  have counted : ∀ name handler, handler.key = some name →
      (registeredFor source name).count handler = (source .onSession).count handler :=
    fun name handler key => List.count_filter (beq_iff_eq.mpr key)
  obtain ⟨event, session⟩ := event
  rw [List.filterMap_map]
  cases event with
  | bound =>
    show (registeredFor source "bound").filterMap _ = [Roster.Change.join session]
    have act : (handlers.change ∘ fun handler => (handler, session)) handlers.bound =
        some (.join session) := if_pos rfl
    rw [filterMap_eq_replicate _ handlers.bound _ _ act, counted "bound" _ handlers.boundKey,
      registered.1]
    · rfl
    · intro other member apart
      have different := ne_of_key (keyed "bound" other member) handlers.unboundKey (by decide)
      exact (if_neg apart).trans (if_neg different)
  | unbound =>
    show (registeredFor source "unbound").filterMap _ = [Roster.Change.leave session.id]
    have distinct := ne_of_key handlers.unboundKey handlers.boundKey (by decide)
    have act : (handlers.change ∘ fun handler => (handler, session)) handlers.unbound =
        some (.leave session.id) := (if_neg distinct).trans (if_pos rfl)
    rw [filterMap_eq_replicate _ handlers.unbound _ _ act,
      counted "unbound" _ handlers.unboundKey, registered.2]
    · rfl
    · intro other member apart
      have different := ne_of_key (keyed "unbound" other member) handlers.boundKey (by decide)
      exact (if_neg different).trans (if_neg apart)

variable (script : FeedScript)

omit handlers source in
theorem FeedScript.worked_append (before later : List SessionEffect) :
    script.worked (before ++ later) = script.worked before ++ script.worked later :=
  List.filterMap_append

omit handlers source in
/-- A handler that is visited does its work if it returns, or has done it by then. -/
theorem FeedScript.worked_visit (event : String) (session : Session) (number : Nat)
    (handler : RegisteredHandler)
    (built : (script.handler number).arguments (.session session) = .ok ()) :
    script.worked (visit script.toSessionScript event session number handler) =
      if script.returns number handler session || script.partway number then [(handler, session)]
      else [] := by
  have quiet : ∀ result, script.worked (settled event number result) = [] := by
    intro result
    cases result with
    | error error => rfl
    | ok done => rfl
  rw [visit, FeedScript.worked_append, quiet, List.append_nil, startHandler, built]
  unfold FeedScript.worked
  rw [List.filterMap_cons, List.filterMap_nil]
  dsimp only
  split
  · rename_i idle
    split at idle
    · cases idle
    · rename_i none
      rw [if_neg none]
  · rename_i call worked
    split at worked
    · rename_i does
      rw [if_pos does, Option.some.inj worked]
    · cases worked

/-- What the handlers of an event do to the table is what they would do if all returned, as long
as those of the table do. -/
theorem TableHandlers.changes_plainLoop (returns : handlers.Return script.toSessionScript)
    (event : String) (session : Session) (reached : Nat) (registered : List RegisteredHandler) :
    (script.worked (plainLoop script.toSessionScript event session reached registered)).filterMap
        handlers.change =
      (registered.map fun handler => (handler, session)).filterMap handlers.change := by
  induction registered generalizing reached with
  | nil => rfl
  | cons handler rest inductionHypothesis =>
    have own : (script.worked (visit script.toSessionScript event session (reached + 1)
        handler)).filterMap handlers.change = [(handler, session)].filterMap handlers.change := by
      rw [script.worked_visit event session _ handler (returns.built _ _)]
      split
      · rfl
      · rename_i idle
        have other : handlers.change (handler, session) = none := by
          rw [Bool.or_eq_true, not_or] at idle
          unfold TableHandlers.change
          split
          · rename_i same
            have same : handler = handlers.bound := same
            exact absurd (same ▸ returns.bound _ session) idle.1
          · split
            · rename_i same
              have same : handler = handlers.unbound := same
              exact absurd (same ▸ returns.unbound _ session) idle.1
            · rfl
        rw [List.filterMap_cons_none other]
    rw [plainLoop, FeedScript.worked_append, List.filterMap_append, inductionHypothesis, own]
    exact List.filterMap_append.symm

/-- A dispatch that runs tells the table its event. -/
theorem TableHandlers.changes_dispatch (registered : handlers.Registered source)
    (returns : handlers.Return script.toSessionScript) (event : SessionEvent × Session) :
    (script.worked (Dispatch.session script.toSessionScript source event.1.name event.2)).filterMap
      handlers.change = [toldChange event] := by
  obtain ⟨_, complete⟩ := resume_cutShort script.toSessionScript 0
    ⟨event.1.name, event.2, registeredFor source event.1.name, 0⟩
  have whole : Dispatch.session script.toSessionScript source event.1.name event.2 =
      plainLoop script.toSessionScript event.1.name event.2 0
        (registeredFor source event.1.name) := complete returns.jobs
  rw [whole, handlers.changes_plainLoop script returns]
  exact handlers.changes_registered source registered event

omit handlers source in
/-- Every handler of a plain loop is called with the session of the event. -/
theorem session_of_mem_calls (script : SessionScript) (event : String) (session : Session)
    (reached : Nat) (registered : List RegisteredHandler) (call : RegisteredHandler × Session)
    (member : call ∈ calls (plainLoop script event session reached registered)) :
    call.2 = session := by
  induction registered generalizing reached with
  | nil => cases member
  | cons handler rest inductionHypothesis =>
    have split : calls (plainLoop script event session reached (handler :: rest)) =
        calls (visit script event session (reached + 1) handler) ++
          calls (plainLoop script event session (reached + 1) rest) := List.filterMap_append
    rw [split, List.mem_append] at member
    refine member.elim (fun visited => ?_) (inductionHypothesis (reached + 1))
    have own : calls (visit script event session (reached + 1) handler) =
        calls (startHandler (script.handler (reached + 1)) session (reached + 1) handler).1 := by
      refine List.filterMap_append.trans ?_
      exact (congrArg (_ ++ ·) (calls_settled _ _ _)).trans (List.append_nil _)
    rw [own, startHandler] at visited
    split at visited
    · exact congrArg Prod.snd (List.mem_singleton.mp visited)
    · cases visited

omit handlers source in
/-- What has done its work was called. -/
theorem FeedScript.worked_subset (log : List SessionEffect) : script.worked log ⊆ calls log := by
  intro call member
  obtain ⟨effect, among, made⟩ := List.mem_filterMap.mp member
  refine List.mem_filterMap.mpr ⟨effect, among, ?_⟩
  cases effect with
  | called number handler session =>
    dsimp only at made
    split at made
    · exact made
    · cases made
  | ended number => cases made
  | logged event error => cases made

/-- Whatever becomes of its jobs and handlers, a dispatch tells the table nothing of another
session. -/
theorem TableHandlers.changes_dispatch_other (event : SessionEvent × Session)
    (own : SourceKind × String) (apart : event.2.id ≠ own) :
    ((script.worked (Dispatch.session script.toSessionScript source event.1.name
      event.2)).filterMap handlers.change).filter (fun change => change.about Session.id = own) =
        [] := by
  obtain ⟨short, _⟩ := resume_cutShort script.toSessionScript 0
    ⟨event.1.name, event.2, registeredFor source event.1.name, 0⟩
  refine List.filter_eq_nil_iff.mpr fun change member => ?_
  obtain ⟨call, worked, made⟩ := List.mem_filterMap.mp member
  have session := session_of_mem_calls script.toSessionScript event.1.name event.2 0 _ call
    (short.calls_prefix.subset (script.worked_subset _ worked))
  have about : change.about Session.id = call.2.id := by
    unfold TableHandlers.change at made
    split at made
    · rw [← Option.some.inj made]
      rfl
    · split at made
      · rw [← Option.some.inj made]
        rfl
      · cases made
  rw [about, session]
  simpa using apart

end Told

/-! ### The registry, one session at a time -/

theorem after_leave (sessions : List Session) (id : SourceKind × String) :
    Roster.after Session.id sessions [.leave id] =
      sessions.filter fun session => session.id != id := by
  refine List.filter_congr fun session _ => ?_
  -- the two sides compare the pairs by different instances
  rw [Bool.eq_iff_iff]
  exact (@bne_iff_ne _ instBEqOfDecidableEq _ _ _).trans bne_iff_ne.symm

/-- A callback changes the registered sessions of an id as its event says. -/
theorem State.filter_sessions_callback (state : State) (callback : Callback)
    (own : SourceKind × String) :
    (state.callback callback).1.sessions.filter (fun session => session.id = own) =
      (Roster.after Session.id state.sessions
        ((state.callback callback).2.toList.map toldChange)).filter
          fun session => session.id = own := by
  cases callback with
  | esmeBound esme =>
    show ((state.esmes ++ [state.newEsmeSession esme]).map EsmeSession.session ++
        state.binds.map BindSession.session).filter _ =
      (state.esmes.map EsmeSession.session ++ state.binds.map BindSession.session ++
        [(state.newEsmeSession esme).session]).filter _
    -- the new entry stands before the outbound sessions, none of which has an inbound id
    simp only [List.map_append, List.filter_append, List.append_assoc, List.map_singleton]
    congr 1
    by_cases inbound : own.1 = .esmeServer
    · have none : (state.binds.map BindSession.session).filter
          (fun session => session.id = own) = [] := by
        refine List.filter_eq_nil_iff.mpr fun session member same => ?_
        obtain ⟨entry, _, rfl⟩ := List.mem_map.mp member
        rw [← of_decide_eq_true same] at inbound
        cases inbound
      rw [none, List.append_nil, List.nil_append]
    · have none : [(state.newEsmeSession esme).session].filter
          (fun session => session.id = own) = [] := by
        refine List.filter_eq_nil_iff.mpr fun session member same => inbound ?_
        rw [List.mem_singleton.mp member] at same
        rw [← of_decide_eq_true same]
        rfl
      rw [none, List.append_nil, List.nil_append]
  | smscBound listener smsc =>
    show (state.esmes.map EsmeSession.session ++
        (state.binds ++ [state.newBindSession listener smsc]).map BindSession.session).filter _ =
      (state.esmes.map EsmeSession.session ++ state.binds.map BindSession.session ++
        [(state.newBindSession listener smsc).session]).filter _
    simp only [List.map_append, List.append_assoc, List.map_singleton]
  | esmeUnbound sessionId =>
    show (state.onEsmeUnbound sessionId).1.sessions.filter _ =
      (Roster.after Session.id state.sessions [.leave (.esmeServer, sessionId)]).filter _
    rw [state.sessions_onEsmeUnbound, after_leave]
  | smscUnbound listener sessionId =>
    show (state.onSmscUnbound listener sessionId).1.sessions.filter _ =
      (Roster.after Session.id state.sessions
        ((state.onSmscUnbound listener sessionId).2.toList.map toldChange)).filter _
    rw [state.sessions_onSmscUnbound, state.onSmscUnbound_event]
    split
    · show _ = (Roster.after Session.id state.sessions [.leave (.bind, sessionId)]).filter _
      rw [after_leave]
    · rename_i absent
      have kept : (state.sessions.filter fun session => session.id != (.bind, sessionId)) =
          state.sessions := by
        refine List.filter_eq_self.mpr fun session member => bne_iff_ne.mpr fun same => ?_
        obtain ⟨entry, present, rfl⟩ :=
          (state.bind_mem_sessions session (congrArg Prod.fst same)).mp member
        exact absent ⟨entry, present, congrArg Prod.snd same⟩
      rw [kept]
      rfl

/-! ### The feed over a run -/

/-- What the script was told of a session, followed by what waits for it, is what happened to
it in the registry. -/
def SessionFeed.Accounts (feed : SessionFeed) (handlers : TableHandlers)
    (own : SourceKind × String) : Prop :=
  feed.state.sessions.filter (fun session => session.id = own) =
    Roster.after Session.id []
      ((feed.worked.filterMap handlers.change ++ feed.waiting.map toldChange).filter
        fun change => change.about Session.id = own)

/-- A session of which nothing waits, and of which every dispatch ran and the handlers of the table
returned. -/
structure SessionFeed.Told (feed : SessionFeed) (handlers : TableHandlers) (steps : List FeedStep)
    (id : SourceKind × String) : Prop where
  settled : ∀ event ∈ feed.waiting, event.2.id ≠ id
  returns : ∀ script, .dispatch id script ∈ steps → handlers.Return script.toSessionScript

section Run

variable {source : HandlerSource} {handlers : TableHandlers}

/-- One step keeps the account of a session, when the handlers of its own dispatches return. -/
theorem SessionFeed.Accounts.step {feed : SessionFeed} {own : SourceKind × String}
    (accounts : feed.Accounts handlers own) (registered : handlers.Registered source)
    (step : FeedStep)
    (returns : ∀ script, step = .dispatch own script → handlers.Return script.toSessionScript) :
    (feed.step source step).Accounts handlers own := by
  cases step with
  | callback callback =>
    show ((feed.state.callback callback).1.sessions).filter _ = Roster.after Session.id []
      ((feed.worked.filterMap handlers.change ++
        (feed.waiting ++ (feed.state.callback callback).2.toList).map toldChange).filter _)
    rw [feed.state.filter_sessions_callback, Roster.filter_after, accounts, List.map_append,
      ← List.append_assoc, List.filter_append _ (List.map _ (Option.toList _)), Roster.after,
      Roster.after, Roster.after, List.foldl_append]
  | dispatch id script =>
    rw [SessionFeed.step]
    split
    · exact accounts
    · rename_i event found
      have named : event.2.id = id := by simpa using List.find?_some found
      rw [SessionFeed.Accounts] at accounts ⊢
      rw [accounts]
      congr 1
      rw [List.filterMap_append]
      simp only [List.filter_append, filter_map_toldChange, List.append_assoc]
      congr 1
      by_cases same : id = own
      · -- its own dispatch tells what was the oldest to wait
        subst same
        have told := handlers.changes_dispatch source script registered (returns script rfl) event
        rw [told, Roster.filter_eq_cons_eraseP (fun event => event.2.id) _ id event found,
          List.filter_singleton, toldChange_about, named, decide_eq_true rfl]
        rfl
      · have silent := handlers.changes_dispatch_other source script event own (named ▸ same)
        have left := Roster.filter_eraseP_of_ne (fun event => event.2.id) feed.waiting id own same
        rw [silent, List.nil_append, left]

/-- The account of a session holds over every run in which the handlers of its dispatches return. -/
theorem SessionFeed.accounts_run (start : SessionFeed) (own : SourceKind × String)
    (accounts : start.Accounts handlers own) (registered : handlers.Registered source)
    (steps : List FeedStep)
    (returns : ∀ script, .dispatch own script ∈ steps → handlers.Return script.toSessionScript) :
    (start.run source steps).Accounts handlers own := by
  induction steps using List.reverseRecOn with
  | nil => exact accounts
  | append_singleton steps last inductionHypothesis =>
    have before := inductionHypothesis fun script member =>
      returns script (List.mem_append_left _ member)
    rw [SessionFeed.run_concat]
    refine before.step registered last fun script same => returns script ?_
    rw [same]
    exact List.mem_append_right _ List.mem_cons_self

/-- Once nothing waits for a session, the table holds what is registered of it. -/
theorem SessionFeed.Accounts.filter_table {feed : SessionFeed} {own : SourceKind × String}
    (accounts : feed.Accounts handlers own)
    (settled : ∀ event ∈ feed.waiting, event.2.id ≠ own) :
    (handlers.table feed.worked).filter (fun session => session.id = own) =
      feed.state.sessions.filter fun session => session.id = own := by
  have nothing : (feed.waiting.filter fun event => event.2.id = own) = [] :=
    List.filter_eq_nil_iff.mpr fun event member same =>
      settled event member (of_decide_eq_true same)
  rw [accounts, List.filter_append, filter_map_toldChange, nothing, List.map_nil, List.append_nil,
    TableHandlers.table, Roster.filter_after]
  rfl

end Run

/-! ### What a send finds -/

theorem State.find_session_esme (state : State) (sessionId : String) :
    state.sessions.find? (fun session => session.id = (.esmeServer, sessionId)) =
      (state.esmes.find? fun entry => entry.esme.value.sessionId == sessionId).map
        EsmeSession.session := by
  have outbound : (state.binds.map BindSession.session).find?
      (fun session => session.id = (.esmeServer, sessionId)) = none := by
    refine List.find?_eq_none.mpr fun session member same => ?_
    obtain ⟨entry, _, rfl⟩ := List.mem_map.mp member
    cases congrArg Prod.fst (of_decide_eq_true same)
  rw [State.sessions, List.find?_append, outbound, Option.or_none, List.find?_map]
  congr 2
  funext entry
  have same : entry.session.id = (.esmeServer, sessionId) ↔
      entry.esme.value.sessionId = sessionId := by simp [Session.id, EsmeSession.session]
  exact Bool.eq_iff_iff.mpr (decide_eq_true_iff.trans (same.trans beq_iff_eq.symm))

theorem esmeHandle_ok_iff (state : State) (sessionId : String) :
    (∃ handle, esmeHandle state sessionId = .ok handle) ↔
      (state.sessions.find? fun session => session.id = (.esmeServer, sessionId)).isSome := by
  rw [state.find_session_esme, Option.isSome_map, esmeHandle]
  cases state.esmes.find? fun entry => entry.esme.value.sessionId == sessionId with
  | none => simp
  | some entry => simp

theorem State.esmeSession_systemId (state : State) (sessionId : String)
    (conn : SmppConnectionInformation) :
    (state.esmeSession sessionId conn).systemId =
      ((state.sessions.find? fun session => session.id = (.esmeServer, sessionId)).map
        Session.systemId).getD "" := by
  rw [state.find_session_esme, Option.map_map]
  rfl

theorem bindHandle_ok_iff (state : State) (bind : String) :
    (∃ target, bindHandle state bind = .ok target) ↔
      ∃ session ∈ state.sessions, session.kind = .bind ∧ session.systemId = bind := by
  constructor
  · rintro ⟨target, resolved⟩
    obtain ⟨entry, member, named, _⟩ := bindHandle_mem state bind target resolved
    exact ⟨entry.session, (state.bind_mem_sessions _ rfl).mpr ⟨entry, member, rfl⟩, rfl, named⟩
  · rintro ⟨session, member, kind, named⟩
    obtain ⟨entry, present, rfl⟩ := (state.bind_mem_sessions session kind).mp member
    have some : (state.binds.find? fun entry => entry.name == bind).isSome := by
      rw [List.find?_isSome]
      exact ⟨entry, present, beq_iff_eq.mpr named⟩
    obtain ⟨found, resolved⟩ := Option.isSome_iff_exists.mp some
    exact ⟨_, by rw [bindHandle, resolved]⟩

/-- A registry in which nothing was bound yet, and nothing told. -/
def SessionFeed.new (inboundMaxMps : Nat) (action : ThrottleAction)
    (inboundResponseTimer : Duration) : SessionFeed :=
  ⟨State.new inboundMaxMps action inboundResponseTimer, [], []⟩

section Table

variable (source : HandlerSource) (handlers : TableHandlers)

/-- A script that keeps a table from the session events has the registry, over any order of the
callbacks and of the dispatches of their events. Of a session of which nothing waits, and whose
handlers have returned, it has what is registered, so it can tell whether a send finds the session
and whom a message is from; and once that is so of every session it has all that are registered,
and knows which binds can be sent on. -/
theorem table_follows_registry (registered : handlers.Registered source) (inboundMaxMps : Nat)
    (action : ThrottleAction) (inboundResponseTimer : Duration) (steps : List FeedStep) :
    let feed := (SessionFeed.new inboundMaxMps action inboundResponseTimer).run source steps
    let table := handlers.table feed.worked
    (∀ id, feed.Told handlers steps id → table.filter (fun session => session.id = id) =
      feed.state.sessions.filter fun session => session.id = id) ∧
    (∀ sessionId, feed.Told handlers steps (.esmeServer, sessionId) →
      ((∃ handle, esmeHandle feed.state sessionId = .ok handle) ↔
        ∃ session ∈ table, session.id = (.esmeServer, sessionId)) ∧
      ∀ conn, (feed.state.esmeSession sessionId conn).systemId =
        ((table.find? fun session => session.id = (.esmeServer, sessionId)).map
          Session.systemId).getD "") ∧
    ((∀ id, feed.Told handlers steps id) → table.Perm feed.state.sessions ∧
      ∀ bind, (∃ target, bindHandle feed.state bind = .ok target) ↔
        ∃ session ∈ table, session.kind = .bind ∧ session.systemId = bind) := by
  intro feed table
  have known : ∀ id, feed.Told handlers steps id → table.filter (fun session => session.id = id) =
      feed.state.sessions.filter fun session => session.id = id := by
    intro id told
    have accounts : (SessionFeed.new inboundMaxMps action inboundResponseTimer).Accounts
        handlers id := rfl
    exact (SessionFeed.accounts_run _ id accounts registered steps told.returns).filter_table
      told.settled
  refine ⟨known, fun sessionId told => ?_, fun told => ?_⟩
  · have found : table.find? (fun session => session.id = (.esmeServer, sessionId)) =
        feed.state.sessions.find? fun session => session.id = (.esmeServer, sessionId) := by
      rw [← List.head?_filter, ← List.head?_filter, known _ told]
    refine ⟨?_, fun conn => ?_⟩
    · rw [esmeHandle_ok_iff, ← found, List.find?_isSome]
      simp only [decide_eq_true_eq]
    · rw [State.esmeSession_systemId, found]
  · have same := Roster.perm_of_filter_eq Session.id table feed.state.sessions fun id =>
      known id (told id)
    refine ⟨same, fun bind => ?_⟩
    rw [bindHandle_ok_iff]
    simp only [same.mem_iff]

end Table

/-- The handlers of a table, the second a coroutine function. -/
def tableHandlers : TableHandlers :=
  ⟨⟨1, false, some "bound"⟩, ⟨2, true, some "unbound"⟩, rfl, rfl⟩

def tableSource : HandlerSource
  | .onSession => [tableHandlers.bound, tableHandlers.unbound]
  | _ => []

/-- An executor that sheds nothing, and handlers that return `None`. -/
def tableScript : FeedScript where
  job _ := .ran
  handler _ :=
    { tryRun := .ok ()
      arguments := fun _ => .ok ()
      call := fun handler _ => .ok (if handler.isAsync then .coroutine handler.callable else .none)
      submit := .ok ()
      awaited := fun _ => .done .none
      coroutineTimeout := 30 }
  partway _ := false

/-- A client comes and goes while a bind comes up, and the script hears of the bind first. -/
def reorderedSteps : List FeedStep :=
  [.callback (.esmeBound ⟨"s-1", "client", "192.0.2.7:40001", true⟩),
    .callback (.smscBound ⟨"upstream", 0, 30⟩ ⟨"s-2", "trunk", "198.51.100.1:2775"⟩),
    .dispatch (.bind, "s-2") tableScript, .callback (.esmeUnbound "s-1"),
    .dispatch (.esmeServer, "s-1") tableScript, .dispatch (.esmeServer, "s-1") tableScript]

theorem table_follows_registry_reordered :
    let feed := (SessionFeed.new 0 .pace 30).run tableSource reorderedSteps
    (tableHandlers.table feed.worked).Perm [⟨.bind, "s-2", "upstream", "198.51.100.1:2775"⟩] := by
  intro feed
  have returns : ∀ id script, FeedStep.dispatch id script ∈ reorderedSteps →
      tableHandlers.Return script.toSessionScript := by
    intro id script member
    have same : script = tableScript := by
      simp only [reorderedSteps, List.mem_cons, FeedStep.dispatch.injEq, reduceCtorEq, false_or,
        List.not_mem_nil, or_false] at member
      rcases member with ⟨_, same⟩ | ⟨_, same⟩ | ⟨_, same⟩ <;> exact same
    rw [same]
    exact ⟨fun _ => rfl, fun _ _ => rfl, fun _ _ => rfl, fun _ _ => rfl⟩
  have told : ∀ id, feed.Told tableHandlers reorderedSteps id := fun id =>
    ⟨fun event member => absurd member List.not_mem_nil, returns id⟩
  exact ((table_follows_registry tableSource tableHandlers ⟨rfl, rfl⟩ 0 .pace 30
    reorderedSteps).2.2 told).1

end SiphonSmpp
