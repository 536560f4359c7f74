/-
This file compares the events dispatched to `@smpp.on_session` with the sessions
they are about, over any history of lifecycle callbacks. A script keeps its
routing by these events, so an unbound event should come once for a session, after
its bound event and with the same `Session`. The two sides build that `Session`
from different sources: the inbound side reports an unbound callback whether or
not it removed a session, and the outbound side reports the end of a session
without its address. `session_events_paired_iff` says exactly when the events
of a history are paired.
-/

import Mathlib.Data.List.Induction
import SiphonSmpp.Lifecycle

namespace SiphonSmpp

/-! ### Sessions and their events -/

/-- Which session a `Session` is of. -/
def Session.id (session : Session) : SourceKind × String := (session.kind, session.sessionId)

/-- The `Session` the bound event of an inbound entry carried. -/
def EsmeSession.session (entry : EsmeSession) : Session :=
  ⟨.esmeServer, entry.esme.value.sessionId, entry.esme.value.systemId,
    entry.esme.value.clientAddress⟩

/-- The `Session` the bound event of an outbound entry carried. -/
def BindSession.session (entry : BindSession) : Session :=
  ⟨.bind, entry.smsc.value.sessionId, entry.name, entry.smsc.value.serverAddress⟩

/-- The registered sessions, as their bound events carried them. -/
def State.sessions (state : State) : List Session :=
  state.esmes.map EsmeSession.session ++ state.binds.map BindSession.session

/-- Events are paired: an unbound event comes after a bound event with the same `Session`, and
after no other unbound event for that session. -/
def Paired (log : List (SessionEvent × Session)) : Prop :=
  ∀ before session later, log = before ++ (.unbound, session) :: later →
    (.bound, session) ∈ before ∧ ∀ other, (.unbound, other) ∈ before → other.id ≠ session.id

/-- An unbound callback finds what its event should carry: on the inbound side a session that is
registered, on the outbound side no session whose address it would have to repeat. -/
def Callback.Reports (state : State) : Callback → Prop
  | .esmeUnbound sessionId => ∃ entry ∈ state.esmes, entry.esme.value.sessionId = sessionId
  | .smscUnbound _ sessionId => ∀ entry ∈ state.binds, entry.smsc.value.sessionId = sessionId →
      entry.smsc.value.serverAddress = ""
  | _ => True

/-- The codec makes the unbound callback of an outbound session on the listener its bound
callback was made on. -/
def OnOwnListener (history : List Callback) : Prop :=
  ∀ bound smsc unbound, .smscBound bound smsc ∈ history →
    .smscUnbound unbound smsc.sessionId ∈ history → unbound.bindName = bound.bindName

theorem State.esme_mem_sessions (state : State) (session : Session)
    (esme : session.kind = .esmeServer) :
    session ∈ state.sessions ↔ ∃ entry ∈ state.esmes, entry.session = session := by
  rw [State.sessions, List.mem_append, List.mem_map, List.mem_map]
  refine ⟨fun member => member.resolve_right ?_, Or.inl⟩
  rintro ⟨entry, _, rfl⟩
  cases esme

theorem State.bind_mem_sessions (state : State) (session : Session) (bind : session.kind = .bind) :
    session ∈ state.sessions ↔ ∃ entry ∈ state.binds, entry.session = session := by
  rw [State.sessions, List.mem_append, List.mem_map, List.mem_map]
  refine ⟨fun member => member.resolve_left ?_, Or.inr⟩
  rintro ⟨entry, _, rfl⟩
  cases bind

/-- The unbound callback of an inbound session takes down exactly the sessions of its id. -/
theorem State.sessions_onEsmeUnbound (state : State) (sessionId : String) :
    (state.onEsmeUnbound sessionId).1.sessions =
      state.sessions.filter fun session => session.id != (.esmeServer, sessionId) := by
  rw [State.sessions, State.sessions, List.filter_append, List.filter_map, List.filter_map]
  congr 2
  refine (List.filter_eq_self.mpr fun entry _ => ?_).symm
  simp [BindSession.session, Session.id]

theorem State.sessions_onSmscUnbound (state : State) (listener : BindListener)
    (sessionId : String) :
    (state.onSmscUnbound listener sessionId).1.sessions =
      state.sessions.filter fun session => session.id != (.bind, sessionId) := by
  rw [State.sessions, State.sessions, List.filter_append, List.filter_map, List.filter_map]
  congr 2
  refine (List.filter_eq_self.mpr fun entry _ => ?_).symm
  simp [EsmeSession.session, Session.id]

/-- The inbound side reports a session it finds as its bound event carried it. -/
theorem State.onEsmeUnbound_event (state : State) (sessionId : String) (entry : EsmeSession)
    (member : entry ∈ state.esmes) (same : entry.esme.value.sessionId = sessionId) :
    ∃ found ∈ state.esmes, (state.onEsmeUnbound sessionId).2 = (.unbound, found.session) := by
  have some : (state.esmes.find? fun entry => entry.esme.value.sessionId == sessionId).isSome := by
    rw [List.find?_isSome]
    exact ⟨entry, member, beq_iff_eq.mpr same⟩
  obtain ⟨found, resolved⟩ := Option.isSome_iff_exists.mp some
  have named : found.esme.value.sessionId = sessionId := by simpa using List.find?_some resolved
  refine ⟨found, List.mem_of_find?_eq_some resolved, ?_⟩
  rw [State.onEsmeUnbound, resolved, EsmeSession.session, named]
  rfl

/-- The outbound side dispatches its unbound event exactly when it removed a session. -/
theorem State.onSmscUnbound_event (state : State) (listener : BindListener) (sessionId : String) :
    (state.onSmscUnbound listener sessionId).2 =
      if ∃ entry ∈ state.binds, entry.smsc.value.sessionId = sessionId then
        some (.unbound, ⟨.bind, sessionId, listener.bindName, ""⟩)
      else none := by
  have removed : (state.binds.filter fun entry => entry.smsc.value.sessionId != sessionId).length <
      state.binds.length ↔ ∃ entry ∈ state.binds, entry.smsc.value.sessionId = sessionId := by
    rw [List.length_filter_lt_length_iff_exists]
    simp
  exact if_congr removed rfl rfl

/-- What a callback does: it brings one session up and says so, or it takes down every session
of an id; the second dispatches an event for that id whenever a session was there. -/
theorem State.callback_cases (state : State) (callback : Callback) :
    (∃ session, callback.boundId = some session.id ∧
      (state.callback callback).2 = some (.bound, session) ∧
      ∀ other, other ∈ (state.callback callback).1.sessions ↔
        other ∈ state.sessions ∨ other = session) ∨
    (∃ id, callback.unboundId = some id ∧
      (∀ other, other ∈ (state.callback callback).1.sessions ↔
        other ∈ state.sessions ∧ other.id ≠ id) ∧
      (((state.callback callback).2 = none ∧ ∀ other ∈ state.sessions, other.id ≠ id) ∨
        ∃ session, (state.callback callback).2 = some (.unbound, session) ∧ session.id = id)) := by
  cases callback with
  | esmeBound esme =>
    refine Or.inl ⟨⟨.esmeServer, esme.sessionId, esme.systemId, esme.clientAddress⟩, rfl, rfl, ?_⟩
    intro other
    show other ∈ (state.esmes ++ [state.newEsmeSession esme]).map EsmeSession.session ++
      state.binds.map BindSession.session ↔ _
    rw [List.map_append, List.mem_append, List.mem_append, State.sessions, List.mem_append,
      or_right_comm, List.map_singleton, List.mem_singleton]
    rfl
  | smscBound listener smsc =>
    refine Or.inl ⟨⟨.bind, smsc.sessionId, listener.bindName, smsc.serverAddress⟩, rfl, rfl, ?_⟩
    intro other
    show other ∈ state.esmes.map EsmeSession.session ++
      (state.binds ++ [state.newBindSession listener smsc]).map BindSession.session ↔ _
    rw [List.map_append, ← List.append_assoc, List.mem_append, State.sessions,
      List.map_singleton, List.mem_singleton]
    rfl
  | esmeUnbound sessionId =>
    refine Or.inr ⟨(.esmeServer, sessionId), rfl, fun other => ?_, Or.inr ⟨_, rfl, rfl⟩⟩
    show other ∈ (state.onEsmeUnbound sessionId).1.sessions ↔ _
    rw [state.sessions_onEsmeUnbound, List.mem_filter, bne_iff_ne]
  | smscUnbound listener sessionId =>
    refine Or.inr ⟨(.bind, sessionId), rfl, fun other => ?_, ?_⟩
    · show other ∈ (state.onSmscUnbound listener sessionId).1.sessions ↔ _
      rw [state.sessions_onSmscUnbound, List.mem_filter, bne_iff_ne]
    · show ((state.onSmscUnbound listener sessionId).2 = none ∧ _) ∨
        ∃ session, (state.onSmscUnbound listener sessionId).2 = some (.unbound, session) ∧ _
      rw [state.onSmscUnbound_event]
      split
      · exact Or.inr ⟨_, rfl, rfl⟩
      · rename_i absent
        refine Or.inl ⟨rfl, fun other member same => absent ?_⟩
        obtain ⟨entry, present, shown⟩ :=
          (state.bind_mem_sessions other (congrArg Prod.fst same)).mp member
        rw [← shown] at same
        exact ⟨entry, present, congrArg Prod.snd same⟩

/-- An unbound callback finds what its event should carry exactly when the `Session` it
dispatches is the one the bound event of a registered session carried. -/
theorem Callback.reports_iff (state : State) (callback : Callback)
    (distinct : (state.binds.map bindSide.sessionId).Nodup)
    (own : ∀ listener sessionId, callback = .smscUnbound listener sessionId →
      ∀ entry ∈ state.binds, entry.smsc.value.sessionId = sessionId →
        entry.name = listener.bindName) :
    callback.Reports state ↔ ∀ session, (state.callback callback).2 = some (.unbound, session) →
      session ∈ state.sessions := by
  cases callback with
  | esmeBound esme => exact ⟨fun _ session dispatched => (nomatch dispatched), fun _ => trivial⟩
  | smscBound listener smsc =>
    exact ⟨fun _ session dispatched => (nomatch dispatched), fun _ => trivial⟩
  | esmeUnbound sessionId =>
    constructor
    · rintro ⟨entry, member, same⟩ session dispatched
      obtain ⟨found, present, event⟩ := state.onEsmeUnbound_event sessionId entry member same
      have carried : some (state.onEsmeUnbound sessionId).2 = some (.unbound, session) := dispatched
      rw [event] at carried
      cases carried
      exact (state.esme_mem_sessions _ rfl).mpr ⟨found, present, rfl⟩
    · intro carried
      obtain ⟨entry, present, shown⟩ := (state.esme_mem_sessions _ rfl).mp (carried _ rfl)
      exact ⟨entry, present, congrArg Session.sessionId shown⟩
  | smscUnbound listener sessionId =>
    show (∀ entry ∈ state.binds, _) ↔ ∀ session,
      (state.onSmscUnbound listener sessionId).2 = some (.unbound, session) → _
    rw [state.onSmscUnbound_event]
    split
    · rename_i found
      obtain ⟨entry, member, same⟩ := found
      constructor
      · intro silent session dispatched
        cases dispatched
        refine (state.bind_mem_sessions _ rfl).mpr ⟨entry, member, ?_⟩
        rw [BindSession.session, same, own listener sessionId rfl entry member same,
          silent entry member same]
      · intro carried other present named
        obtain ⟨shown, shownMember, session⟩ := (state.bind_mem_sessions _ rfl).mp (carried _ rfl)
        have address : shown.smsc.value.serverAddress = "" := congrArg Session.clientAddr session
        have shownId : shown.smsc.value.sessionId = sessionId :=
          congrArg Session.sessionId session
        rwa [List.inj_on_of_nodup_map distinct shownMember present (shownId.trans named.symm)]
          at address
    · rename_i absent
      exact ⟨fun _ session dispatched => (nomatch dispatched),
        fun _ entry member same => absurd ⟨entry, member, same⟩ absent⟩

/-! ### Events over a history -/

theorem State.run_concat (state : State) (history : List Callback) (callback : Callback) :
    state.run (history ++ [callback]) = ((state.run history).callback callback).1 := by
  rw [state.run_append]
  rfl

theorem State.dispatched_concat (state : State) (history : List Callback) (callback : Callback) :
    state.dispatched (history ++ [callback]) =
      state.dispatched history ++ ((state.run history).callback callback).2.toList := by
  rw [state.dispatched_append, State.dispatched, State.dispatched, List.append_nil]

/-- Every bound event is of a session that a callback of the history brought up. -/
theorem State.boundId_of_dispatched (state : State) (history : List Callback) (session : Session)
    (dispatched : (.bound, session) ∈ state.dispatched history) :
    session.id ∈ history.filterMap Callback.boundId := by
  induction history using List.reverseRecOn with
  | nil => cases dispatched
  | append_singleton history callback inductionHypothesis =>
    rw [state.dispatched_concat, List.mem_append] at dispatched
    rw [List.filterMap_append, List.mem_append]
    refine dispatched.imp inductionHypothesis fun last => ?_
    rcases (state.run history).callback_cases callback with
      ⟨brought, bound, event, _⟩ | ⟨id, _, _, ⟨event, _⟩ | ⟨taken, event, _⟩⟩
    · rw [event] at last
      have same := List.mem_singleton.mp last
      cases same
      rw [List.filterMap_cons_some bound]
      exact List.mem_cons_self
    · rw [event] at last
      cases last
    · rw [event] at last
      cases List.mem_singleton.mp last

/-- A session whose bound event was dispatched is registered until an unbound event for it. -/
theorem State.mem_sessions_of_dispatched (state : State) (history : List Callback)
    (session : Session) (bound : (.bound, session) ∈ state.dispatched history)
    (live : ∀ other, (.unbound, other) ∈ state.dispatched history → other.id ≠ session.id) :
    session ∈ (state.run history).sessions := by
  induction history using List.reverseRecOn with
  | nil => cases bound
  | append_singleton history callback inductionHypothesis =>
    rw [state.dispatched_concat] at bound live
    rw [state.run_concat]
    have earlier : ∀ other, (.unbound, other) ∈ state.dispatched history →
        other.id ≠ session.id := fun other member => live other (List.mem_append_left _ member)
    rcases (state.run history).callback_cases callback with
      ⟨brought, _, event, after⟩ | ⟨id, _, after, taken⟩
    · rw [event] at bound
      rcases List.mem_append.mp bound with old | new
      · exact (after session).mpr (Or.inl (inductionHypothesis old earlier))
      · cases List.mem_singleton.mp new
        exact (after _).mpr (Or.inr rfl)
    · rcases taken with ⟨event, absent⟩ | ⟨removed, event, named⟩
      · rw [event] at bound
        have old := (List.mem_append.mp bound).resolve_right List.not_mem_nil
        have present := inductionHypothesis old earlier
        exact (after session).mpr ⟨present, absent session present⟩
      · rw [event] at bound live
        rcases List.mem_append.mp bound with old | new
        · refine (after session).mpr ⟨inductionHypothesis old earlier, fun same => ?_⟩
          exact live removed (List.mem_append_right _ List.mem_cons_self) (named.trans same.symm)
        · cases List.mem_singleton.mp new

/-- A log stays paired when what is added to it is. -/
theorem Paired.concat {log : List (SessionEvent × Session)} (paired : Paired log)
    (event : SessionEvent × Session)
    (last : ∀ session, event = (.unbound, session) → (.bound, session) ∈ log ∧
      ∀ other, (.unbound, other) ∈ log → other.id ≠ session.id) : Paired (log ++ [event]) := by
  intro before session later split
  rcases List.eq_nil_or_concat later with none | ⟨rest, final, some⟩
  · subst none
    obtain ⟨same, event⟩ := List.append_inj' split rfl
    rw [← same]
    exact last session (List.head_eq_of_cons_eq event)
  · subst some
    refine paired before session rest ?_
    have split : log ++ [event] = (before ++ (.unbound, session) :: rest) ++ [final] := by
      rw [split, List.append_assoc, List.cons_append, List.concat_eq_append]
    exact (List.append_inj' split rfl).1

/-- Every step of a history meets the condition of its callback. -/
def ReportsThroughout (state : State) (history : List Callback) : Prop :=
  ∀ before callback later, history = before ++ callback :: later →
    callback.Reports (state.run before)

theorem ReportsThroughout.of_append {state : State} {before later : List Callback}
    (reports : ReportsThroughout state (before ++ later)) : ReportsThroughout state before := by
  intro first callback rest same
  refine reports first callback (rest ++ later) ?_
  rw [same, List.append_assoc, List.cons_append]

/-- A bind that is registered was brought up by a callback of its own listener. -/
theorem bound_of_mem_binds (inboundMaxMps : Nat) (action : ThrottleAction)
    (inboundResponseTimer : Duration) (history : List Callback) (entry : BindSession)
    (member : entry ∈ ((State.new inboundMaxMps action inboundResponseTimer).run history).binds) :
    ∃ listener, .smscBound listener entry.smsc.value ∈ history ∧
      listener.bindName = entry.name := by
  have live : (entry.name, entry.smsc.value) ∈ liveSmscs history := by
    rw [← binds_eq_liveSmscs inboundMaxMps action inboundResponseTimer]
    exact List.mem_map_of_mem member
  obtain ⟨callback, bound, shown⟩ := List.mem_filterMap.mp live
  cases callback with
  | smscBound listener smsc =>
    obtain ⟨named, same⟩ := Prod.mk.inj (Option.some.inj shown)
    rw [← same]
    exact ⟨listener, (stillBound_sublist history).subset bound, named⟩
  | esmeBound esme => cases shown
  | esmeUnbound sessionId => cases shown
  | smscUnbound listener sessionId => cases shown

section Events

variable (inboundMaxMps : Nat) (action : ThrottleAction) (inboundResponseTimer : Duration)

/-- In a history with distinct ids, on the listeners of the sessions, a callback meets its
condition exactly when the `Session` of its unbound event is a registered one. -/
theorem reports_iff_of_history (before later : List Callback) (callback : Callback)
    (distinct : DistinctIds (before ++ callback :: later))
    (own : OnOwnListener (before ++ callback :: later)) :
    let state := (State.new inboundMaxMps action inboundResponseTimer).run before
    callback.Reports state ↔ ∀ session, (state.callback callback).2 = some (.unbound, session) →
      session ∈ state.sessions := by
  intro state
  refine callback.reports_iff state ?_ ?_
  · refine bindSide.roster_nodup _ rfl before ?_
    rw [DistinctIds, List.filterMap_append] at distinct
    exact (List.nodup_append.mp distinct).1
  · rintro listener sessionId rfl entry member same
    obtain ⟨bound, brought, named⟩ := bound_of_mem_binds inboundMaxMps action
      inboundResponseTimer before entry member
    rw [← named]
    refine (own bound entry.smsc.value listener (List.mem_append_left _ brought) ?_).symm
    rw [same]
    exact List.mem_append_right _ List.mem_cons_self

/-- While every callback meets its condition, the log is paired, and a registered session has
its bound event in the log and no unbound event. -/
theorem paired_of_reports (history : List Callback) (distinct : DistinctIds history)
    (own : OnOwnListener history)
    (reports : ReportsThroughout (State.new inboundMaxMps action inboundResponseTimer) history) :
    let start := State.new inboundMaxMps action inboundResponseTimer
    Paired (start.dispatched history) ∧
      ∀ session ∈ (start.run history).sessions, (.bound, session) ∈ start.dispatched history ∧
        ∀ other, (.unbound, other) ∈ start.dispatched history → other.id ≠ session.id := by
  intro start
  induction history using List.reverseRecOn with
  | nil =>
    exact ⟨fun before session later split => by simp [State.dispatched] at split,
      fun session member => by cases member⟩
  | append_singleton history callback inductionHypothesis =>
    have carried := (reports_iff_of_history inboundMaxMps action inboundResponseTimer history []
      callback distinct own).mp (reports history callback [] rfl)
    have distinctBefore : DistinctIds history := by
      rw [DistinctIds, List.filterMap_append] at distinct
      exact (List.nodup_append.mp distinct).1
    have ownBefore : OnOwnListener history := fun bound smsc unbound brought taken =>
      own bound smsc unbound (List.mem_append_left _ brought) (List.mem_append_left _ taken)
    obtain ⟨paired, registered⟩ := inductionHypothesis distinctBefore ownBefore reports.of_append
    rw [start.dispatched_concat, start.run_concat]
    rcases (start.run history).callback_cases callback with
      ⟨brought, bound, event, after⟩ | ⟨id, _, after, taken⟩
    · rw [event]
      refine ⟨paired.concat _ fun session unbound => (by cases unbound), fun session member => ?_⟩
      rcases (after session).mp member with old | new
      · obtain ⟨dispatched, live⟩ := registered session old
        refine ⟨List.mem_append_left _ dispatched, fun other unbound => live other ?_⟩
        refine (List.mem_append.mp unbound).resolve_right fun last => ?_
        cases List.mem_singleton.mp last
      · subst new
        refine ⟨List.mem_append_right _ List.mem_cons_self, fun other unbound same => ?_⟩
        have earlier : (.unbound, other) ∈ start.dispatched history := by
          refine (List.mem_append.mp unbound).resolve_right fun last => ?_
          cases List.mem_singleton.mp last
        obtain ⟨first, rest, split⟩ := List.append_of_mem earlier
        have dispatched : (.bound, other) ∈ start.dispatched history := by
          rw [split]
          exact List.mem_append_left _ (paired first other rest split).1
        have twice := start.boundId_of_dispatched history other dispatched
        rw [DistinctIds, List.filterMap_append, List.nodup_append] at distinct
        refine distinct.2.2 _ twice session.id ?_ same
        rw [List.filterMap_cons_some bound]
        exact List.mem_cons_self
    · rcases taken with ⟨event, _⟩ | ⟨removed, event, named⟩
      · rw [event, Option.toList_none, List.append_nil]
        exact ⟨paired, fun session member => registered session ((after session).mp member).1⟩
      · rw [event]
        have known := registered removed (carried removed event)
        refine ⟨paired.concat _ fun session unbound => ?_, fun session member => ?_⟩
        · cases unbound
          exact known
        · obtain ⟨present, apart⟩ := (after session).mp member
          obtain ⟨dispatched, live⟩ := registered session present
          refine ⟨List.mem_append_left _ dispatched, fun other unbound => ?_⟩
          rcases List.mem_append.mp unbound with old | new
          · exact live other old
          · cases List.mem_singleton.mp new
            rw [named]
            exact apart.symm

/-- The session events of a history are paired exactly when every unbound callback finds what
its event should carry: an inbound one a session that is registered, an outbound one no session
with an address. -/
theorem session_events_paired_iff (history : List Callback) (distinct : DistinctIds history)
    (own : OnOwnListener history) :
    Paired ((State.new inboundMaxMps action inboundResponseTimer).dispatched history) ↔
      ReportsThroughout (State.new inboundMaxMps action inboundResponseTimer) history := by
  refine ⟨fun paired before callback later split => ?_,
    fun reports => (paired_of_reports _ _ _ history distinct own reports).1⟩
  rw [split] at distinct own
  refine (reports_iff_of_history _ _ _ before later callback distinct own).mpr ?_
  intro session event
  have logged : (State.new inboundMaxMps action inboundResponseTimer).dispatched history =
      (State.new inboundMaxMps action inboundResponseTimer).dispatched before ++
        (.unbound, session) ::
          (((State.new inboundMaxMps action inboundResponseTimer).run before).callback
            callback).1.dispatched later := by
    rw [split, State.dispatched_append, State.dispatched, event]
    rfl
  obtain ⟨bound, live⟩ := paired _ session _ logged
  exact State.mem_sessions_of_dispatched _ before session bound live

end Events

/-- A session that binds and unbinds once has its two events paired. -/
theorem session_events_paired_iff_once :
    Paired ((State.new 0 .pace 30).dispatched
      [.esmeBound ⟨"session-1", "alpha", "198.51.100.7:5000", true⟩, .esmeUnbound "session-1"]) := by
  refine (session_events_paired_iff 0 .pace 30 _ (by unfold DistinctIds; decide) ?_).mpr ?_
  · intro bound smsc unbound brought
    simp at brought
  · intro before callback later split
    cases callback with
    | esmeBound esme => trivial
    | smscBound listener smsc => trivial
    | smscUnbound listener sessionId =>
      have member : Callback.smscUnbound listener sessionId ∈
          before ++ .smscUnbound listener sessionId :: later :=
        List.mem_append_right _ List.mem_cons_self
      rw [← split] at member
      simp at member
    | esmeUnbound sessionId =>
      match before, split with
      | [first], split =>
        cases split
        exact ⟨_, List.mem_singleton_self _, rfl⟩
      | first :: second :: third :: rest, split => simp at split

/-- A repeated unbound callback of an inbound session is reported again, and the unbound event
of an outbound session does not carry the address its bound event did. -/
theorem session_events_unpaired :
    let listener : BindListener := ⟨"smsc", 0, 30⟩
    let repeated : List Callback :=
      [.esmeBound ⟨"session-1", "alpha", "198.51.100.7:5000", true⟩, .esmeUnbound "session-1",
        .esmeUnbound "session-1"]
    let dropped : List Callback :=
      [.smscBound listener ⟨"session-2", "peer", "192.0.2.1:2775"⟩,
        .smscUnbound listener "session-2"]
    (DistinctIds repeated ∧ OnOwnListener repeated ∧
      ¬ Paired ((State.new 0 .pace 30).dispatched repeated)) ∧
    (DistinctIds dropped ∧ OnOwnListener dropped ∧
      ¬ Paired ((State.new 0 .pace 30).dispatched dropped)) := by
  intro listener repeated dropped
  refine ⟨⟨by unfold DistinctIds; decide, ?_, fun paired => ?_⟩,
    ⟨by unfold DistinctIds; decide, ?_, fun paired => ?_⟩⟩
  · intro bound smsc unbound brought
    simp [repeated] at brought
  · exact (paired [(.bound, ⟨.esmeServer, "session-1", "alpha", "198.51.100.7:5000"⟩),
      (.unbound, ⟨.esmeServer, "session-1", "alpha", "198.51.100.7:5000"⟩)]
      ⟨.esmeServer, "session-1", "", ""⟩ [] rfl).2
      ⟨.esmeServer, "session-1", "alpha", "198.51.100.7:5000"⟩ (by decide) rfl
  · intro bound smsc unbound brought taken
    simp only [dropped, List.mem_cons, List.not_mem_nil, or_false, Callback.smscBound.injEq,
      Callback.smscUnbound.injEq, reduceCtorEq, false_or] at brought taken
    rw [brought.1, taken.1]
  · have carried := (paired [(.bound, ⟨.bind, "session-2", "smsc", "192.0.2.1:2775"⟩)]
      ⟨.bind, "session-2", "smsc", ""⟩ [] rfl).1
    exact absurd carried (by decide)

end SiphonSmpp
