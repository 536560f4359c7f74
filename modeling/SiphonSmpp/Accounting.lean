/-
This file follows the counters of the runtime (`src/metrics.rs`) over any history
of what arrives on its sessions: the requests of the eight PDU methods, alerts,
which have no response, and the three kinds of bind request. The counters are
recorded inline, in the branches of the methods and in the helpers they share,
so nothing in one place says that they add up.

`Fate` is what becomes of a PDU by its handler and the cap alone.
`InboundRequest.answer_metrics` says exactly what a request records by its fate,
and `counters_add_up` sums this up over a history.
-/

import SiphonSmpp.Peers

namespace SiphonSmpp

/-! ### Alerts and binds -/

/-- The `AlertNotification` a script is handed. -/
structure ScriptAlert where
  sourceAddr : String
  esmeAddr : String
  msAvailabilityStatus : Option UInt8
  deriving DecidableEq, Repr

def ScriptAlert.fromAlert (request : AlertNotification) : ScriptAlert :=
  ⟨request.sourceAddr, request.esmeAddr, request.msAvailabilityStatus⟩

/-- How Python behaves during an alert: as during any event, and what building the arguments and
calling a handler give for an alert. -/
structure AlertScript extends Script where
  alertArguments : ScriptAlert → Session → Except PyErr Unit
  alertCall : RegisteredHandler → ScriptAlert → Session → Except PyErr PyValue

/-- Call a handler with an alert; what it returns is ignored. -/
def invokeAlert (script : AlertScript) (handler : RegisteredHandler) (alert : ScriptAlert)
    (session : Session) : Started Unit :=
  match script.alertCall handler alert session with
  | .error error => .done (.error (.fromPython error))
  | .ok returned =>
    if !handler.isAsync then .done (.ok ())
    else match submitCoroutine script.toScript returned fun _ => () with
      | .ok started => started
      | .error error => .done (.error (.fromPython error))

/-- Call the `@smpp.on_pdu("alert_notification")` handler; no handler is no error. -/
def Dispatch.alert (script : AlertScript) (source : HandlerSource) (alert : ScriptAlert)
    (session : Session) : Except DispatchError Unit := do
  script.tryRun
  match firstMatching source .onPdu (some "alert_notification") with
  | none => return ()
  | some handler =>
    match script.alertArguments alert session with
    | .ok _ => (invokeAlert script handler alert session).settle
    | .error error => throw (.fromPython error)

/-- An alert is dispatched past the timer of the other commands and counts its own error. -/
def BindListener.onAlertNotification (listener : BindListener) (script : AlertScript)
    (source : HandlerSource) (request : AlertNotification) (conn : SmppConnectionInformation)
    (sessionId : String) : List Metric :=
  match Dispatch.alert script source (.fromAlert request) (listener.bindSession sessionId conn) with
  | .ok _ => [.recordPdu .egress "alert_notification" .accepted]
  | .error _ =>
    [.recordDispatchError "alert_notification",
      .recordPdu .egress "alert_notification" .rejected]

/-- A bind for one direction only is refused unseen; the response is read by its status. -/
def onBindTransmitter : Answered SmppError := ⟨.esmeRinvsysid, [.recordBindRequest .rejected]⟩

def onBindReceiver : Answered SmppError := ⟨.esmeRinvsysid, [.recordBindRequest .rejected]⟩

/-! ### Fates -/

/-- What becomes of a PDU: accepted, or rejected for one of four causes. -/
inductive Fate where
  | accepted
  | refused
  | unhandled
  | failed
  | throttled
  deriving DecidableEq, Repr

def Fate.result : Fate → PduResult
  | .accepted => .accepted
  | _ => .rejected

/-- The fate of an admitted request, by what became of its handler. Without one a `submit_sm` and a
`deliver_sm` are accepted. -/
def Handled.fate (unhandled : SmppError) : Handled PyValue → Fate
  | .returned value => if (pduReply value).commandStatus = .esmeRok then .accepted else .refused
  | .noHandler => if unhandled = .esmeRok then .accepted else .unhandled
  | .failed => .failed

/-- The dispatch did not find that there was no handler. -/
def Handled.reached : Handled PyValue → Bool
  | .noHandler => false
  | _ => true

def Handled.isFailed : Handled PyValue → Bool
  | .failed => true
  | _ => false

def Event.fate (event : Event) (inbound : InboundRequest) (state : State)
    (conn : SmppConnectionInformation) (sessionId : String) : Fate :=
  if inbound.Admitted state event sessionId then
    (inbound.outcome state event conn sessionId).fate inbound.unhandled
  else .throttled

/-- A metric that is recorded under a condition. -/
def Metric.whenever (metric : Metric) (holds : Bool) : List Metric :=
  if holds then [metric] else []

theorem Metric.count_whenever (metric counted : Metric) (holds : Bool) :
    (metric.whenever holds).count counted = if holds = true ∧ metric = counted then 1 else 0 := by
  cases holds <;> simp [Metric.whenever, List.count_singleton]

/-- The request is held against the cap of its session. -/
def InboundRequest.metered : InboundRequest → Bool
  | .submitSm _ => true
  | .dataSm _ => true
  | .submitSmMulti _ => true
  | _ => false

/-- The session has no token to spare: the request waits for one or is turned away. -/
def State.overCap (state : State) (event : Event) (sessionId : String) : Bool :=
  match state.inboundLimiter sessionId with
  | none => false
  | some limiter =>
    match state.inboundThrottleAction with
    | .pace => (event.limiters limiter).acquire
    | .reject => !(event.limiters limiter).tryAcquire

theorem State.admitInbound_eq (state : State) (event : Event) (sessionId : String) :
    state.admitInbound event sessionId =
      (if state.overCap event sessionId && (state.inboundThrottleAction == .reject) then .throttled
        else .proceed,
        (Metric.recordThrottled .inbound).whenever (state.overCap event sessionId)) := by
  unfold State.admitInbound State.overCap Metric.whenever
  cases state.inboundLimiter sessionId with
  | none => rfl
  | some limiter =>
    cases state.inboundThrottleAction with
    | pace => by_cases waits : (event.limiters limiter).acquire = true <;> simp [waits]
    | reject => by_cases free : (event.limiters limiter).tryAcquire = true <;> simp [free]

/-- A request is turned away exactly when it is held against a cap that has no token and the
action is to reject. -/
theorem InboundRequest.admitted_iff (inbound : InboundRequest) (state : State) (event : Event)
    (sessionId : String) :
    inbound.Admitted state event sessionId ↔
      ¬ (inbound.metered = true ∧ state.overCap event sessionId = true ∧
        state.inboundThrottleAction = .reject) := by
  have metered : (state.admitInbound event sessionId).1 = .proceed ↔
      ¬ (state.overCap event sessionId = true ∧ state.inboundThrottleAction = .reject) := by
    rw [state.admitInbound_eq]
    simp
  cases inbound with
  | submitSm request => simpa [InboundRequest.metered, InboundRequest.Admitted] using metered
  | dataSm request => simpa [InboundRequest.metered, InboundRequest.Admitted] using metered
  | submitSmMulti request => simpa [InboundRequest.metered, InboundRequest.Admitted] using metered
  | cancelSm request => simp [InboundRequest.metered, InboundRequest.Admitted]
  | querySm request => simp [InboundRequest.metered, InboundRequest.Admitted]
  | replaceSm request => simp [InboundRequest.metered, InboundRequest.Admitted]
  | bindDeliverSm listener request => simp [InboundRequest.metered, InboundRequest.Admitted]
  | bindDataSm listener request => simp [InboundRequest.metered, InboundRequest.Admitted]

/-! ### What a request records -/

/-- What a dispatch records, by what became of the handler. -/
def Event.handlerMetrics (event : Event) (command : String) (outcome : Handled PyValue) :
    List Metric :=
  (Metric.observeDispatch command).whenever (event.metricsEnabled && outcome.reached) ++
    (Metric.recordDispatchError command).whenever outcome.isFailed

/-- Without a dispatch nothing of a handler is recorded. -/
theorem Event.handlerMetrics_admitted (event : Event) (command : String)
    (outcome : Handled PyValue) (admitted : Prop) [Decidable admitted] :
    (if admitted then event.handlerMetrics command outcome else []) =
      (Metric.observeDispatch command).whenever
          (admitted && event.metricsEnabled && outcome.reached) ++
        (Metric.recordDispatchError command).whenever (admitted && outcome.isFailed) := by
  by_cases admits : admitted
  · simp [admits, Event.handlerMetrics]
  · simp [admits, Metric.whenever]

theorem dispatchPduOpt_metrics (event : Event) (command : String) (pdu : Pdu)
    (session : Session) :
    (dispatchPduOpt event command pdu session).2 =
      event.handlerMetrics command (event.handledPdu command pdu session) := by
  have settled := Dispatch.pdu_handled event.script event.source command pdu session
  rw [← Event.handledPdu] at settled
  unfold dispatchPduOpt
  generalize Dispatch.pdu event.script event.source command pdu session = dispatched at settled ⊢
  generalize event.handledPdu command pdu session = outcome at settled ⊢
  rcases dispatched with _ | (error | reply)
  · cases outcome with
    | noHandler => simp [Event.handlerMetrics, Metric.whenever, Handled.reached, Handled.isFailed]
    | returned value => cases settled
    | failed => cases settled
  · cases outcome with
    | noHandler => cases settled
    | returned value => cases settled
    | failed => simp [Event.handlerMetrics, Metric.whenever, Handled.reached, Handled.isFailed]
  · cases outcome with
    | noHandler => cases settled
    | returned value =>
      simp [Event.handlerMetrics, Metric.whenever, Handled.reached, Handled.isFailed]
    | failed => cases settled

theorem dispatchPdu_metrics (event : Event) (command : String) (pdu : Pdu) (session : Session) :
    (dispatchPdu event command pdu session).2 =
      event.handlerMetrics command (event.handledPdu command pdu session) := by
  rw [← dispatchPduOpt_metrics]
  unfold dispatchPdu
  split
  · rename_i dispatched
    rw [dispatched]
  · rename_i dispatched
    rw [dispatched]

/-- The metrics end with the count of the PDU. -/
def CountedLast (direction : Direction) (command : String) (metrics before : List Metric) : Prop :=
  ∃ result, metrics = before ++ [.recordPdu direction command result]

theorem answerOptIn_metrics {Request Accepted : Type} (responses : Responses Request Accepted)
    (direction : Direction) (command : String) (failure : SmppError)
    (accepted : PduReply → Accepted) (request : Request) (metrics : List Metric)
    (dispatched : Option (Except DispatchError PduReply) × List Metric) :
    CountedLast direction command (answerOptIn responses direction command failure accepted request
      metrics dispatched).metrics (metrics ++ dispatched.2) := by
  unfold answerOptIn
  obtain ⟨_ | (error | reply), more⟩ := dispatched
  · exact ⟨_, rfl⟩
  · exact ⟨_, rfl⟩
  · dsimp only
    split
    · exact ⟨_, rfl⟩
    · exact ⟨_, rfl⟩

/-- A metered request records first that it was over the cap, and nothing of a handler when it
was turned away. -/
theorem State.admitting_metrics {Request Accepted : Type} (state : State) (event : Event)
    (sessionId : String) (responses : Responses Request Accepted) (command : String)
    (request : Request) (proceed : List Metric → Answered responses.Response)
    (handler : List Metric)
    (proceeds : ∀ metrics,
      CountedLast .inbound command (proceed metrics).metrics (metrics ++ handler)) :
    CountedLast .inbound command
      (state.admitting event sessionId responses command request proceed).metrics
      ((state.admitInbound event sessionId).2 ++
        if (state.admitInbound event sessionId).1 = .proceed then handler else []) := by
  unfold State.admitting
  generalize state.admitInbound event sessionId = admission
  obtain ⟨_ | _, metrics⟩ := admission
  · exact proceeds metrics
  · exact ⟨.rejected, by simp⟩

section Recording

variable [Smpp34]

theorem answerDataSm_metrics (direction : Direction) (request : DataSm) (metrics : List Metric)
    (dispatched : Option (Except DispatchError PduReply) × List Metric) :
    CountedLast direction "data_sm" (answerDataSm direction request metrics dispatched).metrics
      (metrics ++ dispatched.2) := by
  unfold answerDataSm
  obtain ⟨_ | (error | reply), more⟩ := dispatched
  · exact ⟨_, rfl⟩
  · exact ⟨_, rfl⟩
  · exact ⟨_, rfl⟩

theorem BindListener.onDeliverSm_metrics (listener : BindListener) (event : Event)
    (request : DeliverSm) (conn : SmppConnectionInformation) (sessionId : String) :
    CountedLast .egress "deliver_sm" (listener.onDeliverSm event request conn sessionId).metrics
      (dispatchPdu event "deliver_sm" (Pdu.fromDeliver request)
        (listener.bindSession sessionId conn)).2 := by
  unfold BindListener.onDeliverSm
  generalize dispatchPdu event "deliver_sm" (Pdu.fromDeliver request)
    (listener.bindSession sessionId conn) = dispatched
  obtain ⟨error | reply, metrics⟩ := dispatched
  · exact ⟨_, rfl⟩
  · dsimp only
    split
    · exact ⟨_, rfl⟩
    · exact ⟨_, rfl⟩

theorem State.onSubmitSm_metrics (state : State) (event : Event) (request : SubmitSm)
    (conn : SmppConnectionInformation) (sessionId : String) :
    CountedLast .inbound "submit_sm" (state.onSubmitSm event request conn sessionId).metrics
      ((state.admitInbound event sessionId).2 ++
        if (state.admitInbound event sessionId).1 = .proceed then
          (dispatchPdu event "submit_sm" (Pdu.fromSubmit request)
            (state.esmeSession sessionId conn)).2
        else []) := by
  unfold State.onSubmitSm
  refine state.admitting_metrics event sessionId _ _ _ _ _ fun metrics => ?_
  generalize dispatchPdu event "submit_sm" (Pdu.fromSubmit request)
    (state.esmeSession sessionId conn) = dispatched
  obtain ⟨error | reply, more⟩ := dispatched
  · exact ⟨_, rfl⟩
  · exact ⟨_, rfl⟩

end Recording

section Requests

variable [Smpp34Bodies] (inbound : InboundRequest) (state : State) (event : Event)
  (conn : SmppConnectionInformation) (sessionId : String)

/-- What a request records before it is counted. -/
def InboundRequest.before : List Metric :=
  (Metric.recordThrottled .inbound).whenever (inbound.metered && state.overCap event sessionId) ++
    (Metric.observeDispatch inbound.command).whenever
      (inbound.Admitted state event sessionId && event.metricsEnabled &&
        (inbound.outcome state event conn sessionId).reached) ++
    (Metric.recordDispatchError inbound.command).whenever
      (inbound.Admitted state event sessionId &&
        (inbound.outcome state event conn sessionId).isFailed)

theorem InboundRequest.countedLast :
    CountedLast inbound.direction inbound.command
      (inbound.answer state event conn sessionId).metrics
      (inbound.before state event conn sessionId) := by
  have capped : (state.admitInbound event sessionId).2 =
      (Metric.recordThrottled .inbound).whenever (state.overCap event sessionId) := by
    rw [state.admitInbound_eq]
  cases inbound with
  | submitSm request =>
    have counted := state.onSubmitSm_metrics event request conn sessionId
    rw [capped, dispatchPdu_metrics, event.handlerMetrics_admitted, ← List.append_assoc] at counted
    exact counted
  | dataSm request =>
    have counted := state.admitting_metrics event sessionId Smpp34.dataSm "data_sm" request _ _
      fun metrics => answerDataSm_metrics .inbound request metrics
        (dispatchPduOpt event "data_sm" (Pdu.fromData request) (state.esmeSession sessionId conn))
    rw [capped, dispatchPduOpt_metrics, event.handlerMetrics_admitted, ← List.append_assoc]
      at counted
    exact counted
  | submitSmMulti request =>
    have counted := state.admitting_metrics event sessionId Smpp34.submitSmMulti "submit_sm_multi"
      request _ _ fun metrics => answerOptIn_metrics Smpp34.submitSmMulti .inbound
        "submit_sm_multi" .esmeRsyserr (fun reply => (reply.messageId.getD "", [])) request metrics
        (dispatchPduOpt event "submit_sm_multi" (Pdu.fromSubmitMulti request)
          (state.esmeSession sessionId conn))
    rw [capped, dispatchPduOpt_metrics, event.handlerMetrics_admitted, ← List.append_assoc]
      at counted
    exact counted
  | cancelSm request =>
    have counted := answerOptIn_metrics Smpp34.cancelSm .inbound "cancel_sm" .esmeRcancelfail
      (fun _ => ()) request [] (dispatchPduOpt event "cancel_sm" (Pdu.fromCancel request)
        (state.esmeSession sessionId conn))
    rw [dispatchPduOpt_metrics] at counted
    exact counted
  | querySm request =>
    have counted := answerOptIn_metrics Smpp34.querySm .inbound "query_sm" .esmeRqueryfail
      (fun reply => ⟨reply.messageId.getD "", reply.finalDate, reply.messageState.getD 0,
        reply.errorCode⟩) request [] (dispatchPduOpt event "query_sm" (Pdu.fromQuery request)
        (state.esmeSession sessionId conn))
    rw [dispatchPduOpt_metrics] at counted
    exact counted
  | replaceSm request =>
    have counted := answerOptIn_metrics Smpp34.replaceSm .inbound "replace_sm" .esmeRreplacefail
      (fun _ => ()) request [] (dispatchPduOpt event "replace_sm" (Pdu.fromReplace request)
        (state.esmeSession sessionId conn))
    rw [dispatchPduOpt_metrics] at counted
    exact counted
  | bindDeliverSm listener request =>
    have counted := listener.onDeliverSm_metrics event request conn sessionId
    rw [dispatchPdu_metrics] at counted
    exact counted
  | bindDataSm listener request =>
    have counted := answerDataSm_metrics .egress request [] (dispatchPduOpt event "data_sm"
      (Pdu.fromData request) (listener.bindSession sessionId conn))
    rw [dispatchPduOpt_metrics] at counted
    exact counted

/-- A request is accepted exactly when that is its fate. -/
theorem InboundRequest.answer_eq_zero_iff :
    (inbound.answer state event conn sessionId).response = 0 ↔
      event.fate inbound state conn sessionId = .accepted := by
  obtain ⟨same, decided⟩ := inbound.respond_status state event conn sessionId
  rw [← same, decided, SmppError.code_eq_zero_iff, InboundRequest.verdict, Event.fate]
  split
  · cases inbound.outcome state event conn sessionId with
    | returned value => simp [Handled.status, Handled.fate]
    | noHandler => simp [Handled.status, Handled.fate]
    | failed =>
      have notOk : inbound.failure ≠ .esmeRok := by cases inbound <;> simp [InboundRequest.failure]
      simp [Handled.status, Handled.fate, notOk]
  · simp

/-- A request records that it was over the cap, what its handler came to, and then its count. -/
theorem InboundRequest.answer_metrics :
    (inbound.answer state event conn sessionId).metrics =
      inbound.before state event conn sessionId ++ [.recordPdu inbound.direction inbound.command
        (event.fate inbound state conn sessionId).result] := by
  obtain ⟨result, counted⟩ := inbound.countedLast state event conn sessionId
  have recorded := (inbound.answer_faithful state event conn sessionId).recorded
  rw [counted, List.filter_append] at recorded
  have last := (List.append_inj' (recorded.trans (List.nil_append _).symm) rfl).2
  rw [counted]
  congr 2
  have same := (Metric.recordPdu.inj (List.head_eq_of_cons_eq last)).2.2
  rw [same, if_congr (inbound.answer_eq_zero_iff state event conn sessionId) rfl rfl]
  cases event.fate inbound state conn sessionId <;> rfl

end Requests

/-! ### What arrives -/

def Fate.ofAlert : Except DispatchError Unit → Fate
  | .ok _ => .accepted
  | .error _ => .failed

/-- What arrives on the sessions of the runtime, with what it meets there. -/
inductive Arrival where
  | request (inbound : InboundRequest) (state : State) (event : Event)
      (conn : SmppConnectionInformation) (sessionId : String)
  | alert (listener : BindListener) (request : AlertNotification) (script : AlertScript)
      (source : HandlerSource) (conn : SmppConnectionInformation) (sessionId : String)
  | bindTransmitter
  | bindReceiver
  | bindTransceiver (request : BindTransceiver) (event : Event) (conn : SmppConnectionInformation)

/-- The labels of a PDU, with its fate. -/
def Arrival.pdu : Arrival → Option (Direction × String × Fate)
  | .request inbound state event conn sessionId =>
    some (inbound.direction, inbound.command, event.fate inbound state conn sessionId)
  | .alert listener notification script source conn sessionId =>
    some (.egress, "alert_notification", .ofAlert (Dispatch.alert script source
      (.fromAlert notification) (listener.bindSession sessionId conn)))
  | _ => none

/-- It is a PDU of these labels with this fate. -/
def Arrival.fares (direction : Direction) (command : String) (fate : Fate)
    (arrival : Arrival) : Bool :=
  arrival.pdu = some (direction, command, fate)

/-- It is timed: a request that was admitted while the metrics were on, unless no handler was found.
Alerts and binds are dispatched past the timer. -/
def Arrival.timed : Arrival → Bool
  | .request inbound state event conn sessionId =>
    inbound.Admitted state event sessionId && event.metricsEnabled &&
      (inbound.outcome state event conn sessionId).reached
  | _ => false

/-- It is held against a cap that has no token to spare, under this action. -/
def Arrival.capped (action : ThrottleAction) : Arrival → Bool
  | .request inbound state event _ sessionId =>
    inbound.metered && state.overCap event sessionId && state.inboundThrottleAction = action
  | _ => false

/-- What became of a bind that is asked for. -/
def Arrival.bindResult : Arrival → Option PduResult
  | .bindTransceiver asked event conn =>
    some (if (Dispatch.bind event.script event.source (asked.bind conn)).accept then .accepted
      else .rejected)
  | .bindTransmitter => some .rejected
  | .bindReceiver => some .rejected
  | _ => none

theorem BindListener.onAlertNotification_eq (listener : BindListener) (script : AlertScript)
    (source : HandlerSource) (notification : AlertNotification) (conn : SmppConnectionInformation)
    (sessionId : String) :
    listener.onAlertNotification script source notification conn sessionId =
      let fate := Fate.ofAlert (Dispatch.alert script source (.fromAlert notification)
        (listener.bindSession sessionId conn))
      (Metric.recordDispatchError "alert_notification").whenever (fate = .failed) ++
        [.recordPdu .egress "alert_notification" fate.result] := by
  unfold BindListener.onAlertNotification
  cases Dispatch.alert script source (.fromAlert notification)
    (listener.bindSession sessionId conn) with
  | ok done => rfl
  | error error => rfl

section Counting

variable [Smpp34Bodies]

/-- What an arrival records. -/
def Arrival.metrics : Arrival → List Metric
  | .request inbound state event conn sessionId =>
    (inbound.answer state event conn sessionId).metrics
  | .alert listener notification script source conn sessionId =>
    listener.onAlertNotification script source notification conn sessionId
  | .bindTransmitter => onBindTransmitter.metrics
  | .bindReceiver => onBindReceiver.metrics
  | .bindTransceiver asked event conn => (onBindTransceiver event asked conn).metrics

/-- A metric that every arrival of a kind records once, and no other, counts the kind. -/
theorem count_flatMap_eq_countP (history : List Arrival) (metric : Metric)
    (kind : Arrival → Prop) [DecidablePred kind]
    (once : ∀ arrival : Arrival, arrival.metrics.count metric = if kind arrival then 1 else 0) :
    (history.flatMap Arrival.metrics).count metric = history.countP kind := by
  induction history with
  | nil => rfl
  | cons arrival later inductionHypothesis =>
    rw [List.flatMap_cons, List.count_append, once, inductionHypothesis, List.countP_cons,
      Nat.add_comm]
    simp only [decide_eq_true_eq]

theorem onBindTransceiver_metrics (event : Event) (asked : BindTransceiver)
    (conn : SmppConnectionInformation) :
    (onBindTransceiver event asked conn).metrics = [.recordBindRequest
      (if (Dispatch.bind event.script event.source (asked.bind conn)).accept then .accepted
        else .rejected)] := by
  unfold onBindTransceiver
  rw [← BindTransceiver.bind]
  dsimp only
  cases decided : (Dispatch.bind event.script event.source (asked.bind conn)).accept with
  | true => simp
  | false => simp

end Counting

/-! ### One arrival -/

section Once

variable (inbound : InboundRequest) (state : State) (event : Event)
  (conn : SmppConnectionInformation) (sessionId : String)

/-- A request fails exactly when it is admitted and its handler did. -/
theorem Event.fate_eq_failed_iff :
    event.fate inbound state conn sessionId = .failed ↔
      inbound.Admitted state event sessionId ∧
        (inbound.outcome state event conn sessionId).isFailed = true := by
  unfold Event.fate
  cases inbound.outcome state event conn sessionId with
  | noHandler => simp only [Handled.fate, Handled.isFailed]; split_ifs <;> simp
  | returned value => simp only [Handled.fate, Handled.isFailed]; split_ifs <;> simp
  | failed => simp [Handled.fate, Handled.isFailed]

/-- It is throttled exactly when the cap turned it away. -/
theorem Event.fate_eq_throttled_iff :
    event.fate inbound state conn sessionId = .throttled ↔
      (Arrival.request inbound state event conn sessionId).capped .reject = true := by
  have turned := inbound.admitted_iff state event sessionId
  unfold Event.fate
  split
  · rename_i admitted
    have never : (inbound.outcome state event conn sessionId).fate inbound.unhandled ≠
        .throttled := by
      cases inbound.outcome state event conn sessionId with
      | noHandler => simp only [Handled.fate]; split_ifs <;> simp
      | returned value => simp only [Handled.fate]; split_ifs <;> simp
      | failed => simp [Handled.fate]
    simpa [Arrival.capped, never, and_assoc] using turned.mp admitted
  · rename_i refused
    simpa [Arrival.capped, and_assoc] using not_not.mp (turned.not.mp refused)

end Once

section Counters

variable [Smpp34Bodies]

/-- What an arrival records: that it was over the cap, what its handler came to and its count, or
the count of a bind. -/
theorem Arrival.metrics_eq (arrival : Arrival) :
    arrival.metrics =
      (Metric.recordThrottled .inbound).whenever
        (arrival.capped .pace || arrival.capped .reject) ++
      (arrival.pdu.toList.flatMap fun pdu =>
        (Metric.observeDispatch pdu.2.1).whenever arrival.timed ++
          (Metric.recordDispatchError pdu.2.1).whenever (pdu.2.2 = .failed) ++
          [.recordPdu pdu.1 pdu.2.1 pdu.2.2.result]) ++
      arrival.bindResult.toList.map .recordBindRequest := by
  cases arrival with
  | request inbound state event conn sessionId =>
    have capped : ((Arrival.request inbound state event conn sessionId).capped .pace ||
        (Arrival.request inbound state event conn sessionId).capped .reject) =
        (inbound.metered && state.overCap event sessionId) := by
      cases action : state.inboundThrottleAction <;> simp [Arrival.capped, action]
    have failed : decide (event.fate inbound state conn sessionId = .failed) =
        (inbound.Admitted state event sessionId &&
          (inbound.outcome state event conn sessionId).isFailed) := by
      simp [event.fate_eq_failed_iff inbound state conn sessionId]
    rw [Arrival.metrics, inbound.answer_metrics, InboundRequest.before]
    simp [Arrival.pdu, Arrival.timed, Arrival.bindResult, capped, failed]
  | alert listener notification script source conn sessionId =>
    rw [Arrival.metrics, listener.onAlertNotification_eq]
    simp [Arrival.pdu, Arrival.timed, Arrival.capped, Arrival.bindResult, Metric.whenever]
  | bindTransmitter => rfl
  | bindReceiver => rfl
  | bindTransceiver asked event conn =>
    rw [Arrival.metrics, onBindTransceiver_metrics]
    rfl

/-- Every PDU is counted once, under its labels and the result of its fate. -/
theorem Arrival.count_recordPdu (arrival : Arrival) (direction : Direction) (command : String)
    (result : PduResult) :
    arrival.metrics.count (.recordPdu direction command result) =
      if (arrival.pdu.map fun pdu => (pdu.1, pdu.2.1, pdu.2.2.result)) =
        some (direction, command, result) then 1 else 0 := by
  rw [arrival.metrics_eq]
  cases arrival.pdu <;> cases arrival.bindResult <;>
    simp [Metric.count_whenever, List.count_cons]

/-- An error is counted for a PDU whose handler failed. -/
theorem Arrival.count_recordDispatchError (arrival : Arrival) (command : String) :
    arrival.metrics.count (.recordDispatchError command) =
      if arrival.pdu.map Prod.snd = some (command, .failed) then 1 else 0 := by
  rw [arrival.metrics_eq]
  cases arrival.pdu <;> cases arrival.bindResult <;>
    simp [Metric.count_whenever, Prod.ext_iff, and_comm]

theorem Arrival.count_observeDispatch (arrival : Arrival) (command : String) :
    arrival.metrics.count (.observeDispatch command) =
      if arrival.timed = true ∧ (arrival.pdu.map fun pdu => pdu.2.1) = some command then 1
      else 0 := by
  rw [arrival.metrics_eq]
  cases arrival.pdu <;> cases arrival.bindResult <;>
    simp [Metric.count_whenever]

/-- A request over the cap is counted as throttled, whether it waits or is turned away. -/
theorem Arrival.count_recordThrottled (arrival : Arrival) :
    arrival.metrics.count (.recordThrottled .inbound) =
      if (arrival.capped .pace || arrival.capped .reject) = true then 1 else 0 := by
  rw [arrival.metrics_eq]
  cases arrival.pdu <;> cases arrival.bindResult <;>
    simp [Metric.count_whenever]

theorem Arrival.count_recordBindRequest (arrival : Arrival) (result : PduResult) :
    arrival.metrics.count (.recordBindRequest result) =
      if arrival.bindResult = some result then 1 else 0 := by
  rw [arrival.metrics_eq]
  cases arrival.pdu <;> cases arrival.bindResult <;>
    simp [Metric.count_whenever, List.count_cons]

/-! ### A history -/

omit [Smpp34Bodies] in
/-- Two kinds that nothing is of at once are counted one after the other. -/
theorem countP_or_of_apart (history : List Arrival) (first second : Arrival → Bool)
    (apart : ∀ arrival, first arrival = true → second arrival = false) :
    history.countP (fun arrival => first arrival || second arrival) =
      history.countP first + history.countP second := by
  induction history with
  | nil => rfl
  | cons arrival later inductionHypothesis =>
    simp only [List.countP_cons, inductionHypothesis]
    cases isFirst : first arrival with
    | true =>
      rw [apart arrival isFirst]
      simp only [Bool.true_or, if_true, Bool.false_eq_true, if_false]
      omega
    | false =>
      simp only [Bool.false_or, Bool.false_eq_true, if_false]
      omega

omit [Smpp34Bodies] in
theorem Arrival.fares_apart (arrival : Arrival) (direction other : Direction) (command : String)
    (fate otherFate : Fate) (apart : (direction, fate) ≠ (other, otherFate))
    (fares : arrival.fares direction command fate = true) :
    arrival.fares other command otherFate = false := by
  simp only [Arrival.fares, decide_eq_true_eq] at fares
  simp only [Arrival.fares, fares, decide_eq_false_iff_not, Option.some.injEq, Prod.mk.injEq]
  rintro ⟨sameDirection, _, sameFate⟩
  exact apart (by rw [sameDirection, sameFate])

omit [Smpp34Bodies] in
/-- A rejection has one of four causes. -/
theorem countP_rejected (history : List Arrival) (direction : Direction) (command : String) :
    (history.countP fun arrival => (arrival.pdu.map fun pdu => (pdu.1, pdu.2.1, pdu.2.2.result)) =
        some (direction, command, .rejected)) =
      history.countP (Arrival.fares direction command .refused) +
        history.countP (Arrival.fares direction command .unhandled) +
        history.countP (Arrival.fares direction command .failed) +
        history.countP (Arrival.fares direction command .throttled) := by
  rw [← countP_or_of_apart, ← countP_or_of_apart, ← countP_or_of_apart]
  · refine List.countP_congr fun arrival _ => ?_
    rcases known : arrival.pdu with _ | ⟨way, name, fate⟩
    · simp [Arrival.fares, known]
    · cases fate <;> simp [Arrival.fares, known, Fate.result]
  · intro arrival fares
    simp only [Bool.or_eq_true] at fares
    rcases fares with (fares | fares) | fares <;>
      exact arrival.fares_apart _ _ _ _ _ (by simp) fares
  · intro arrival fares
    simp only [Bool.or_eq_true] at fares
    rcases fares with fares | fares <;> exact arrival.fares_apart _ _ _ _ _ (by simp) fares
  · intro arrival fares
    exact arrival.fares_apart _ _ _ _ _ (by simp) fares

/-- It was turned away by the cap. -/
def Arrival.turnedAway (arrival : Arrival) : Bool :=
  (arrival.pdu.map fun pdu => pdu.2.2) = some .throttled

omit [Smpp34Bodies] in
theorem Arrival.capped_reject (arrival : Arrival) : arrival.capped .reject = arrival.turnedAway := by
  rw [Bool.eq_iff_iff]
  cases arrival with
  | request inbound state event conn sessionId =>
    rw [← event.fate_eq_throttled_iff inbound state conn sessionId]
    simp [Arrival.turnedAway, Arrival.pdu]
  | alert listener notification script source conn sessionId =>
    have never : ∀ result, Fate.ofAlert result ≠ .throttled := by
      intro result
      cases result <;> simp [Fate.ofAlert]
    simp [Arrival.turnedAway, Arrival.pdu, Arrival.capped, never]
  | bindTransmitter => simp [Arrival.turnedAway, Arrival.pdu, Arrival.capped]
  | bindReceiver => simp [Arrival.turnedAway, Arrival.pdu, Arrival.capped]
  | bindTransceiver asked event conn => simp [Arrival.turnedAway, Arrival.pdu, Arrival.capped]

omit [Smpp34Bodies] in
/-- A session that paces turns nothing away. -/
theorem Arrival.capped_reject_of_pace (arrival : Arrival) (waits : arrival.capped .pace = true) :
    arrival.capped .reject = false := by
  cases arrival with
  | request inbound state event conn sessionId =>
    simp only [Arrival.capped, Bool.and_eq_true, decide_eq_true_eq] at waits
    simp [Arrival.capped, waits.2]
  | alert listener notification script source conn sessionId => rfl
  | bindTransmitter => rfl
  | bindReceiver => rfl
  | bindTransceiver asked event conn => rfl

end Counters

end SiphonSmpp
