/-
This file follows the session registry over whole histories of lifecycle
callbacks: inbound and outbound sessions that bind and unbind in any order, an
unbound callback repeated, or made for an id that is not registered. Each
callback changes the registry in one lock section, so a history of callbacks is
a history of lock sections.

The two vectors are rosters (`Lib/Roster.lean`). `Side` says for either one how
a callback changes it, and what holds of a side is proved once for both.
-/

import SiphonSmpp.Lib.Roster
import SiphonSmpp.Registry

namespace SiphonSmpp

/-! ### Callbacks -/

/-- A lifecycle callback of the codec. A bound callback is made with the handle of the session
and the id that the handle carries. -/
inductive Callback where
  | esmeBound (esme : Esme)
  | esmeUnbound (sessionId : String)
  | smscBound (listener : BindListener) (smsc : Smsc)
  | smscUnbound (listener : BindListener) (sessionId : String)
  deriving DecidableEq, Repr

/-- The session a callback brings up. -/
def Callback.boundId : Callback → Option (SourceKind × String)
  | .esmeBound esme => some (.esmeServer, esme.sessionId)
  | .smscBound _ smsc => some (.bind, smsc.sessionId)
  | _ => none

/-- The session a callback takes down. -/
def Callback.unboundId : Callback → Option (SourceKind × String)
  | .esmeUnbound sessionId => some (.esmeServer, sessionId)
  | .smscUnbound _ sessionId => some (.bind, sessionId)
  | _ => none

/-- What a callback does to the registry, with the event it dispatches to the script. -/
def State.callback (state : State) : Callback → State × Option (SessionEvent × Session)
  | .esmeBound esme =>
    let done := state.onEsmeBound esme esme.sessionId
    (done.1, some done.2)
  | .esmeUnbound sessionId =>
    let done := state.onEsmeUnbound sessionId
    (done.1, some done.2)
  | .smscBound listener smsc =>
    let done := state.onSmscBound listener smsc smsc.sessionId
    (done.1, some done.2)
  | .smscUnbound listener sessionId => state.onSmscUnbound listener sessionId

/-- A registry in which nothing was bound yet. -/
def State.new (inboundMaxMps : Nat) (action : ThrottleAction) (inboundResponseTimer : Duration) :
    State :=
  ⟨[], [], inboundMaxMps, action, inboundResponseTimer, 0⟩

def State.run (state : State) (history : List Callback) : State :=
  history.foldl (fun state callback => (state.callback callback).1) state

/-- The events dispatched to `@smpp.on_session` in the course of a history. -/
def State.dispatched (state : State) : List Callback → List (SessionEvent × Session)
  | [] => []
  | callback :: later =>
    (state.callback callback).2.toList ++ (state.callback callback).1.dispatched later

/-- The counts of outbound and inbound sessions, each read under its own lock. -/
def sampleBinds (binds : List BindSession) (esmes : List EsmeSession) : Nat × Nat :=
  (binds.length, esmes.length)

/-- The entry an inbound session is registered with. -/
def State.newEsmeSession (state : State) (esme : Esme) : EsmeSession :=
  ⟨⟨state.nextPtr, esme⟩, newThrottle state.inboundMaxMps (state.nextPtr + 1),
    state.inboundResponseTimer⟩

/-- The entry an outbound session is registered with. -/
def State.newBindSession (state : State) (listener : BindListener) (smsc : Smsc) : BindSession :=
  ⟨listener.bindName, ⟨state.nextPtr, smsc⟩,
    newThrottle listener.maxMsgPerSec (state.nextPtr + 1), listener.responseTimer⟩

theorem State.run_append (state : State) (before later : List Callback) :
    state.run (before ++ later) = (state.run before).run later :=
  List.foldl_append

theorem State.dispatched_append (state : State) (before later : List Callback) :
    state.dispatched (before ++ later) =
      state.dispatched before ++ (state.run before).dispatched later := by
  induction before generalizing state with
  | nil => rfl
  | cons callback rest inductionHypothesis =>
    rw [List.cons_append, State.dispatched, State.dispatched, inductionHypothesis,
      List.append_assoc]
    rfl

theorem newThrottle_isSome_iff (rate ptr : Nat) : (newThrottle rate ptr).isSome ↔ rate ≠ 0 := by
  unfold newThrottle
  split
  · rename_i positive
    exact ⟨fun _ => positive.ne', fun _ => rfl⟩
  · rename_i zero
    exact ⟨nofun, fun nonzero => absurd (Nat.pos_of_ne_zero nonzero) zero⟩

theorem newThrottle_eq_some {rate ptr : Nat} {limiter : LimiterHandle}
    (made : newThrottle rate ptr = some limiter) : limiter = ⟨ptr, rate⟩ := by
  unfold newThrottle at made
  split at made
  · exact (Option.some.inj made).symm
  · cases made

/-- Handles are never given out again. -/
theorem State.nextPtr_le_callback (state : State) (callback : Callback) :
    state.nextPtr ≤ (state.callback callback).1.nextPtr := by
  cases callback with
  | esmeBound esme => exact Nat.le_add_right _ _
  | smscBound listener smsc => exact Nat.le_add_right _ _
  | esmeUnbound sessionId => exact Nat.le_refl _
  | smscUnbound listener sessionId => exact Nat.le_refl _

/-- No session id is bound twice on one side. -/
def DistinctIds (history : List Callback) : Prop := (history.filterMap Callback.boundId).Nodup

/-! ### What should be registered -/

/-- The bound callbacks whose session was not unbound since, in order of binding. -/
def stillBound : List Callback → List Callback
  | [] => []
  | callback :: later =>
    match callback.boundId with
    | none => stillBound later
    | some session =>
      if later.any fun other => other.unboundId == some session then stillBound later
      else callback :: stillBound later

theorem stillBound_sublist (history : List Callback) : (stillBound history).Sublist history := by
  induction history with
  | nil => exact List.Sublist.refl _
  | cons callback later inductionHypothesis =>
    rw [stillBound]
    split
    · exact inductionHypothesis.cons callback
    · split
      · exact inductionHypothesis.cons callback
      · exact inductionHypothesis.cons_cons callback

/-- The inbound sessions that are bound and not yet unbound. -/
def liveEsmes (history : List Callback) : List Esme :=
  (stillBound history).filterMap fun callback => match callback with
    | .esmeBound esme => some esme
    | _ => none

/-- The outbound sessions that are bound and not yet unbound, with the names of their binds. -/
def liveSmscs (history : List Callback) : List (String × Smsc) :=
  (stillBound history).filterMap fun callback => match callback with
    | .smscBound listener smsc => some (listener.bindName, smsc)
    | _ => none

/-! ### The two sides of the registry -/

/-- One vector of the registry: how a callback changes it, with the handle and the session id
of an entry. An entry that joins has a handle that was not used before. -/
structure Side (Entry : Type) where
  kind : SourceKind
  roster : State → List Entry
  sessionId : Entry → String
  ptr : Entry → Nat
  change : State → Callback → Option (Roster.Change Entry String)
  follows : ∀ state callback, roster (state.callback callback).1 =
    ((change state callback).toList).foldl (Roster.apply sessionId) (roster state)
  fresh : ∀ state callback entry, change state callback = some (.join entry) →
    ptr entry = state.nextPtr ∧ state.nextPtr < (state.callback callback).1.nextPtr
  joins : ∀ state callback,
    (Roster.joined (change state callback).toList).map (fun entry => (kind, sessionId entry)) =
      callback.boundId.toList.filter fun session => session.1 == kind
  drops : ∀ state callback left,
    change state callback = some (.leave left) ↔ callback.unboundId = some (kind, left)

def esmeSide : Side EsmeSession where
  kind := .esmeServer
  roster := State.esmes
  sessionId entry := entry.esme.value.sessionId
  ptr entry := entry.esme.ptr
  change state callback := match callback with
    | .esmeBound esme => some (.join (state.newEsmeSession esme))
    | .esmeUnbound sessionId => some (.leave sessionId)
    | _ => none
  follows state callback := by cases callback <;> rfl
  fresh state callback entry joined := by
    cases callback with
    | esmeBound esme =>
      cases joined
      exact ⟨rfl, Nat.lt_add_of_pos_right (by decide)⟩
    | esmeUnbound sessionId => cases joined
    | smscBound listener smsc => cases joined
    | smscUnbound listener sessionId => cases joined
  joins state callback := by cases callback <;> rfl
  drops state callback left := by cases callback <;> simp [Callback.unboundId]

def bindSide : Side BindSession where
  kind := .bind
  roster := State.binds
  sessionId entry := entry.smsc.value.sessionId
  ptr entry := entry.smsc.ptr
  change state callback := match callback with
    | .smscBound listener smsc => some (.join (state.newBindSession listener smsc))
    | .smscUnbound _ sessionId => some (.leave sessionId)
    | _ => none
  follows state callback := by cases callback <;> rfl
  fresh state callback entry joined := by
    cases callback with
    | smscBound listener smsc =>
      cases joined
      exact ⟨rfl, Nat.lt_add_of_pos_right (by decide)⟩
    | smscUnbound listener sessionId => cases joined
    | esmeBound esme => cases joined
    | esmeUnbound sessionId => cases joined
  joins state callback := by cases callback <;> rfl
  drops state callback left := by cases callback <;> simp [Callback.unboundId]

section Sides

variable {Entry : Type} (side : Side Entry) (state : State)

/-- The changes of one side in the course of a history. -/
def Side.changes (side : Side Entry) (state : State) :
    List Callback → List (Roster.Change Entry String)
  | [] => []
  | callback :: later =>
    (side.change state callback).toList ++ side.changes (state.callback callback).1 later

theorem Side.changes_append (before later : List Callback) :
    side.changes state (before ++ later) =
      side.changes state before ++ side.changes (state.run before) later := by
  induction before generalizing state with
  | nil => rfl
  | cons callback rest inductionHypothesis =>
    rw [List.cons_append, Side.changes, Side.changes, inductionHypothesis, List.append_assoc]
    rfl

/-- Running the callbacks is changing the roster. -/
theorem Side.roster_run (history : List Callback) :
    side.roster (state.run history) =
      Roster.after side.sessionId (side.roster state) (side.changes state history) := by
  induction history generalizing state with
  | nil => rfl
  | cons callback later inductionHypothesis =>
    rw [Side.changes, Roster.after, List.foldl_append, ← side.follows]
    exact inductionHypothesis (state.callback callback).1

/-- The sessions that join a side are those its bound callbacks bring up. -/
theorem Side.joined_changes (history : List Callback) :
    (Roster.joined (side.changes state history)).map
        (fun entry => (side.kind, side.sessionId entry)) =
      (history.filterMap Callback.boundId).filter fun session => session.1 == side.kind := by
  induction history generalizing state with
  | nil => rfl
  | cons callback later inductionHypothesis =>
    rw [Side.changes, Roster.joined_append, List.map_append, inductionHypothesis, side.joins]
    cases brought : callback.boundId with
    | none => rw [List.filterMap_cons_none brought]; rfl
    | some session =>
      rw [List.filterMap_cons_some brought, List.filter_cons]
      by_cases own : (session.1 == side.kind) = true
      · rw [if_pos own]
        simp [own]
      · rw [if_neg own]
        simp [own]

theorem Side.joined_nodup (history : List Callback) (distinct : DistinctIds history) :
    ((Roster.joined (side.changes state history)).map side.sessionId).Nodup := by
  have pairs := distinct.filter fun session => session.1 == side.kind
  rw [← side.joined_changes state] at pairs
  refine List.Nodup.of_map (fun sessionId => (side.kind, sessionId)) ?_
  rwa [List.map_map]

/-- A key is dropped on a side exactly by an unbound callback for it. -/
theorem Side.leave_mem_changes (history : List Callback) (left : String) :
    .leave left ∈ side.changes state history ↔
      ∃ callback ∈ history, callback.unboundId = some (side.kind, left) := by
  induction history generalizing state with
  | nil => simp [Side.changes]
  | cons callback later inductionHypothesis =>
    rw [Side.changes, List.mem_append, Option.mem_toList, side.drops, inductionHypothesis]
    simp only [List.mem_cons, exists_eq_or_imp]

/-- The handles given out by a side are above those used before, and no two are the same. -/
theorem Side.ptrs_nodup (history : List Callback) :
    (∀ entry ∈ Roster.joined (side.changes state history), state.nextPtr ≤ side.ptr entry) ∧
      ((Roster.joined (side.changes state history)).map side.ptr).Nodup := by
  induction history generalizing state with
  | nil => exact ⟨nofun, List.nodup_nil⟩
  | cons callback later inductionHypothesis =>
    obtain ⟨above, distinct⟩ := inductionHypothesis (state.callback callback).1
    have grows := state.nextPtr_le_callback callback
    have aboveLater : ∀ entry ∈ Roster.joined (side.changes (state.callback callback).1 later),
        state.nextPtr ≤ side.ptr entry := fun entry member => grows.trans (above entry member)
    rw [Side.changes, Roster.joined_append]
    cases made : side.change state callback with
    | none => exact ⟨aboveLater, distinct⟩
    | some change =>
      cases change with
      | leave left => exact ⟨aboveLater, distinct⟩
      | join entry =>
        obtain ⟨new, grown⟩ := side.fresh state callback entry made
        refine ⟨?_, ?_⟩
        · intro other member
          rcases List.mem_cons.mp member with same | old
          · rw [same, new]
          · exact aboveLater other old
        · refine List.nodup_cons.mpr ⟨?_, distinct⟩
          intro member
          obtain ⟨other, joined, same⟩ := List.mem_map.mp member
          have higher := above other joined
          rw [same, new] at higher
          exact absurd grown (not_lt.mpr higher)

/-- The entry a bound callback registers stays until an unbound callback for its session, and
so does its handle. -/
theorem Side.registered_iff (empty : side.roster state = []) (before later : List Callback)
    (callback : Callback) (entry : Entry)
    (joins : side.change (state.run before) callback = some (.join entry))
    (distinct : DistinctIds (before ++ callback :: later)) :
    (entry ∈ side.roster (state.run (before ++ callback :: later)) ↔
      ¬ ∃ other ∈ later, other.unboundId = some (side.kind, side.sessionId entry)) ∧
    ((∃ other ∈ side.roster (state.run (before ++ callback :: later)),
        side.ptr other = side.ptr entry) ↔
      entry ∈ side.roster (state.run (before ++ callback :: later))) := by
  have changes : side.changes state (before ++ callback :: later) =
      side.changes state before ++ .join entry ::
        side.changes (state.run (before ++ [callback])) later := by
    rw [side.changes_append, Side.changes, joins, state.run_append]
    rfl
  have nodup := side.joined_nodup state _ distinct
  have ptrs := (side.ptrs_nodup state (before ++ callback :: later)).2
  have roster : side.roster (state.run (before ++ callback :: later)) =
      Roster.present side.sessionId (side.changes state (before ++ callback :: later)) := by
    rw [side.roster_run, empty, Roster.after_nil]
  rw [roster]
  refine ⟨?_, fun ⟨other, member, same⟩ => ?_, fun member => ⟨entry, member, rfl⟩⟩
  · rw [changes] at nodup ⊢
    rw [Roster.mem_present_iff _ _ _ _ nodup, side.leave_mem_changes]
  · have joined : entry ∈ Roster.joined (side.changes state (before ++ callback :: later)) := by
      rw [changes, Roster.joined_append]
      exact List.mem_append_right _ List.mem_cons_self
    have otherJoined := (Roster.present_sublist side.sessionId _).subset member
    rwa [List.inj_on_of_nodup_map ptrs otherJoined joined same] at member

/-- A callback that registers nothing on a side adds nothing to what is still bound there. -/
theorem filterMap_stillBound_of_none {View : Type} (brought : Callback → Option View)
    (callback : Callback) (later : List Callback) (nothing : brought callback = none) :
    (stillBound (callback :: later)).filterMap brought = (stillBound later).filterMap brought := by
  rw [stillBound]
  split
  · rfl
  · split
    · rfl
    · rw [List.filterMap_cons_none nothing]

/-- Those present by the changes of a side are the sessions still bound by the callbacks. -/
theorem Side.present_eq_stillBound {View : Type} (view : Entry → View)
    (brought : Callback → Option View)
    (agrees : ∀ state callback, (Roster.joined (side.change state callback).toList).map view =
      (brought callback).toList) (history : List Callback) :
    (Roster.present side.sessionId (side.changes state history)).map view =
      (stillBound history).filterMap brought := by
  induction history generalizing state with
  | nil => rfl
  | cons callback later inductionHypothesis =>
    have shown := agrees state callback
    have brings := side.joins state callback
    rw [Side.changes]
    cases made : side.change state callback with
    | none =>
      rw [made] at shown
      have nobody := Option.toList_eq_nil_iff.mp shown.symm
      rw [filterMap_stillBound_of_none brought callback later nobody]
      exact inductionHypothesis _
    | some change =>
      rw [made] at shown brings
      cases change with
      | leave left =>
        rw [filterMap_stillBound_of_none brought callback later
          (Option.toList_eq_nil_iff.mp shown.symm)]
        exact inductionHypothesis _
      | join entry =>
        have session : callback.boundId = some (side.kind, side.sessionId entry) := by
          cases bound : callback.boundId with
          | none =>
            rw [bound] at brings
            cases brings
          | some other =>
            rw [bound] at brings
            have member : (side.kind, side.sessionId entry) ∈
                (some other).toList.filter fun session => session.1 == side.kind := by
              rw [← brings]
              exact List.mem_cons_self
            rw [List.mem_singleton.mp (List.mem_filter.mp member).1]
        have value : brought callback = some (view entry) := by
          cases found : brought callback with
          | none =>
            rw [found] at shown
            cases shown
          | some other =>
            rw [found] at shown
            exact congrArg some (List.head_eq_of_cons_eq shown).symm
        have dropped : Roster.leaves (side.changes (state.callback callback).1 later)
            (side.sessionId entry) =
            later.any fun other => other.unboundId == some (side.kind, side.sessionId entry) := by
          rw [Bool.eq_iff_iff, Roster.leaves_iff, side.leave_mem_changes, List.any_eq_true]
          simp only [beq_iff_eq]
        show (Roster.present side.sessionId (.join entry :: side.changes _ later)).map view = _
        rw [Roster.present, dropped, stillBound, session]
        dsimp only
        split
        · exact inductionHypothesis _
        · rw [List.filterMap_cons_some value, List.map_cons, inductionHypothesis]

/-- The sessions of a side are those still bound, in order of binding. -/
theorem Side.roster_eq_stillBound {View : Type} (view : Entry → View)
    (brought : Callback → Option View)
    (agrees : ∀ state callback, (Roster.joined (side.change state callback).toList).map view =
      (brought callback).toList) (empty : side.roster state = []) (history : List Callback) :
    (side.roster (state.run history)).map view = (stillBound history).filterMap brought := by
  rw [side.roster_run, empty, Roster.after_nil]
  exact side.present_eq_stillBound state view brought agrees history

/-- No session is registered twice. -/
theorem Side.roster_nodup (empty : side.roster state = []) (history : List Callback)
    (distinct : DistinctIds history) :
    ((side.roster (state.run history)).map side.sessionId).Nodup := by
  rw [side.roster_run, empty, Roster.after_nil]
  exact Roster.present_nodup _ _ _ (side.joined_nodup state history distinct)

end Sides

/-! ### The registry over a history -/

/-- No callback changes the settings of the server. -/
theorem State.run_inboundMaxMps (state : State) (history : List Callback) :
    (state.run history).inboundMaxMps = state.inboundMaxMps := by
  induction history generalizing state with
  | nil => rfl
  | cons callback later inductionHypothesis =>
    have kept : (state.callback callback).1.inboundMaxMps = state.inboundMaxMps := by
      cases callback <;> rfl
    exact (inductionHypothesis _).trans kept

theorem esmeGone_iff (esmes : List EsmeSession) (esme : Arc Esme) :
    esmeGone esmes esme = true ↔ ¬ ∃ entry ∈ esmes, entry.esme.ptr = esme.ptr := by
  rw [← esmeGone_eq_false_iff, Bool.not_eq_false]

theorem bindGone_iff (binds : List BindSession) (smsc : Arc Smsc) :
    bindGone binds smsc = true ↔ ¬ ∃ entry ∈ binds, entry.smsc.ptr = smsc.ptr := by
  rw [← bindGone_eq_false_iff, Bool.not_eq_false]

/-- With distinct ids, a session id resolves to the one entry that carries it. -/
theorem esmeHandle_eq_ok_iff (state : State) (distinct : (state.esmes.map esmeSide.sessionId).Nodup)
    (sessionId : String) (esme : Arc Esme) (responseTimer : Duration) :
    esmeHandle state sessionId = .ok (esme, responseTimer) ↔
      ∃ entry ∈ state.esmes, entry.esme.value.sessionId = sessionId ∧ entry.esme = esme ∧
        entry.responseTimer = responseTimer := by
  have search := Roster.find_eq_some_iff esmeSide.sessionId state.esmes distinct
  unfold esmeHandle
  split
  · rename_i found resolved
    obtain ⟨member, same⟩ := (search found sessionId).mp resolved
    constructor
    · intro given
      cases given
      exact ⟨found, member, same, rfl, rfl⟩
    · rintro ⟨entry, present, named, rfl, rfl⟩
      have other := (search entry sessionId).mpr ⟨present, named⟩
      rw [Option.some.inj (resolved.symm.trans other)]
  · rename_i missing
    refine ⟨nofun, ?_⟩
    rintro ⟨entry, present, named, _⟩
    cases missing.symm.trans ((search entry sessionId).mpr ⟨present, named⟩)

/-- A bind name fails to resolve exactly when no session of that name is registered. -/
theorem bindHandle_eq_error_iff (state : State) (bind : String) :
    (∃ error, bindHandle state bind = .error error) ↔ ∀ entry ∈ state.binds, entry.name ≠ bind := by
  unfold bindHandle
  split
  · rename_i entry found
    have named : entry.name = bind := by simpa using List.find?_some found
    exact ⟨nofun, fun none => absurd named (none entry (List.mem_of_find?_eq_some found))⟩
  · rename_i missing
    refine ⟨fun _ entry member named => ?_, fun _ => ⟨_, rfl⟩⟩
    exact List.find?_eq_none.mp missing entry member (beq_iff_eq.mpr named)

/-- An inbound session is taken down by its unbound callback. -/
theorem unboundId_esmeServer_iff (sessionId : String) (later : List Callback) :
    (∃ callback ∈ later, callback.unboundId = some (.esmeServer, sessionId)) ↔
      .esmeUnbound sessionId ∈ later := by
  constructor
  · rintro ⟨callback, member, same⟩
    cases callback <;> cases same
    exact member
  · intro member
    exact ⟨_, member, rfl⟩

/-- An outbound session is taken down by an unbound callback of any listener. -/
theorem unboundId_bind_iff (sessionId : String) (later : List Callback) :
    (∃ callback ∈ later, callback.unboundId = some (.bind, sessionId)) ↔
      ∃ listener, .smscUnbound listener sessionId ∈ later := by
  constructor
  · rintro ⟨callback, member, same⟩
    cases callback <;> cases same
    exact ⟨_, member⟩
  · rintro ⟨listener, member⟩
    exact ⟨_, member, rfl⟩

section Histories

variable (inboundMaxMps : Nat) (action : ThrottleAction) (inboundResponseTimer : Duration)
  (history : List Callback)

theorem esmes_eq_liveEsmes :
    ((State.new inboundMaxMps action inboundResponseTimer).run history).esmes.map
      (fun entry => entry.esme.value) = liveEsmes history :=
  esmeSide.roster_eq_stillBound _ (fun entry => entry.esme.value) _
    (fun _ callback => by cases callback <;> rfl) rfl history

theorem binds_eq_liveSmscs :
    ((State.new inboundMaxMps action inboundResponseTimer).run history).binds.map
      (fun entry => (entry.name, entry.smsc.value)) = liveSmscs history :=
  bindSide.roster_eq_stillBound _ (fun entry => (entry.name, entry.smsc.value)) _
    (fun _ callback => by cases callback <;> rfl) rfl history

/-- After any history of callbacks with distinct session ids, the two vectors hold exactly the
sessions that are bound and not yet unbound, each once and in order of binding. The entry a
bound callback appends has a limiter exactly when the cap that applies is not zero, and it stays
as it is until an unbound callback for its session; from then on, and only from then on, its
handle is gone. A session id resolves to the entry that carries it, a bind name fails to resolve
exactly when no session of that name is registered, and a sample reports the counts its two
reads found. -/
theorem registry_holds_bound_sessions (distinct : DistinctIds history) :
    let start := State.new inboundMaxMps action inboundResponseTimer
    let state := start.run history
    (state.esmes.map (fun entry => entry.esme.value) = liveEsmes history ∧
      (state.esmes.map fun entry => entry.esme.value.sessionId).Nodup) ∧
    (state.binds.map (fun entry => (entry.name, entry.smsc.value)) = liveSmscs history ∧
      (state.binds.map fun entry => entry.smsc.value.sessionId).Nodup) ∧
    (∀ before esme later, history = before ++ .esmeBound esme :: later →
      let entry := (start.run before).newEsmeSession esme
      ((start.run before).callback (.esmeBound esme)).1.esmes = (start.run before).esmes ++ [entry] ∧
      (entry.throttle.isSome ↔ inboundMaxMps ≠ 0) ∧
      (entry ∈ state.esmes ↔ .esmeUnbound esme.sessionId ∉ later) ∧
      (esmeGone state.esmes entry.esme = true ↔ .esmeUnbound esme.sessionId ∈ later)) ∧
    (∀ before listener smsc later, history = before ++ .smscBound listener smsc :: later →
      let entry := (start.run before).newBindSession listener smsc
      ((start.run before).callback (.smscBound listener smsc)).1.binds =
        (start.run before).binds ++ [entry] ∧
      (entry.throttle.isSome ↔ listener.maxMsgPerSec ≠ 0) ∧
      (entry ∈ state.binds ↔ ∀ other, .smscUnbound other smsc.sessionId ∉ later) ∧
      (bindGone state.binds entry.smsc = true ↔
        ∃ other, .smscUnbound other smsc.sessionId ∈ later)) ∧
    (∀ sessionId esme responseTimer,
      esmeHandle state sessionId = .ok (esme, responseTimer) ↔
        ∃ entry ∈ state.esmes, entry.esme.value.sessionId = sessionId ∧ entry.esme = esme ∧
          entry.responseTimer = responseTimer) ∧
    (∀ bind, (∃ error, bindHandle state bind = .error error) ↔
      ∀ entry ∈ state.binds, entry.name ≠ bind) ∧
    ∀ later, sampleBinds state.binds (start.run (history ++ later)).esmes =
      ((liveSmscs history).length, (liveEsmes (history ++ later)).length) := by
  intro start state
  have esmeNodup := esmeSide.roster_nodup start rfl history distinct
  have bindNodup := bindSide.roster_nodup start rfl history distinct
  have esmesLive := esmes_eq_liveEsmes inboundMaxMps action inboundResponseTimer
  have bindsLive := binds_eq_liveSmscs inboundMaxMps action inboundResponseTimer history
  refine ⟨⟨esmesLive history, esmeNodup⟩, ⟨bindsLive, bindNodup⟩, ?_, ?_,
    esmeHandle_eq_ok_iff state esmeNodup, bindHandle_eq_error_iff state, fun later => ?_⟩
  · rintro before esme later same
    have registered := esmeSide.registered_iff start rfl before later (.esmeBound esme) _ rfl
      (same ▸ distinct)
    rw [← same] at registered
    obtain ⟨stays, handle⟩ := registered
    have stays := stays.trans (not_congr (unboundId_esmeServer_iff _ later))
    refine ⟨rfl, ?_, stays, ?_⟩
    · have cap : (start.run before).inboundMaxMps = inboundMaxMps :=
        start.run_inboundMaxMps before
      rw [← cap]
      exact newThrottle_isSome_iff _ _
    · rw [esmeGone_iff]
      exact (not_congr (handle.trans stays)).trans not_not
  · rintro before listener smsc later same
    have registered := bindSide.registered_iff start rfl before later (.smscBound listener smsc) _
      rfl (same ▸ distinct)
    rw [← same] at registered
    obtain ⟨stays, handle⟩ := registered
    have stays := stays.trans (not_congr (unboundId_bind_iff _ later))
    refine ⟨rfl, newThrottle_isSome_iff _ _, stays.trans not_exists, ?_⟩
    rw [bindGone_iff]
    exact (not_congr (handle.trans stays)).trans not_not
  · rw [sampleBinds, ← bindsLive, ← esmesLive (history ++ later), List.length_map, List.length_map]

end Histories

/-- Of two inbound sessions and one outbound bind, one inbound session is unbound twice: the
other one and the bind stay. -/
theorem registry_holds_bound_sessions_mixed :
    let first : Esme := ⟨"session-1", "alpha", "198.51.100.7:5000", true⟩
    let second : Esme := ⟨"session-2", "beta", "198.51.100.8:5000", true⟩
    let state := (State.new 10 .pace 30).run
      [.esmeBound first, .smscBound ⟨"smsc", 0, 30⟩ ⟨"session-3", "peer", "192.0.2.1:2775"⟩,
        .esmeBound second, .esmeUnbound "session-1", .esmeUnbound "session-1"]
    state.esmes.map (fun entry => entry.esme.value) = [second] ∧
      esmeGone state.esmes ((State.new 10 .pace 30).newEsmeSession first).esme = true := by
  intro first second state
  have holds := registry_holds_bound_sessions 10 .pace 30
    [.esmeBound first, .smscBound ⟨"smsc", 0, 30⟩ ⟨"session-3", "peer", "192.0.2.1:2775"⟩,
      .esmeBound second, .esmeUnbound "session-1", .esmeUnbound "session-1"]
    (by unfold DistinctIds; decide)
  exact ⟨holds.1.1, ((holds.2.2.1 [] first _ rfl).2.2.2).mpr (by decide)⟩

end SiphonSmpp
