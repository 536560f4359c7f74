/-
This file proves that the listeners answer as the script decided. `Faithful`
states what the answer to a PDU owes to its handler, and each of the eight
methods is shown to keep it. For a `bind_transceiver` the verdict and the
status travel separately, and the last section says when they agree.
-/

import SiphonSmpp.Listener

namespace SiphonSmpp

/-! ### What an answer owes to the script -/

/-- What became of the handler an inbound PDU is for. -/
def Event.handledPdu (event : Event) (command : String) (pdu : Pdu) (session : Session) :
    Handled PyValue :=
  handled event.script event.source .onPdu (some command) (.pdu pdu session)

/-- A value of a handler that means `ESME_ROK`: anything but a `PduReply` does, and a
`PduReply` when that is its status. -/
def PyValue.MeansOk : PyValue → Prop
  | .pduReply reply => reply.commandStatus = .esmeRok
  | _ => True

theorem PyValue.meansOk_iff (value : PyValue) :
    value.MeansOk ↔ (SiphonSmpp.pduReply value).commandStatus.code = 0 := by
  rw [SmppError.code_eq_zero_iff]
  cases value with
  | pduReply reply => rfl
  | none => exact ⟨fun _ => rfl, fun _ => trivial⟩
  | bindResult result => exact ⟨fun _ => rfl, fun _ => trivial⟩
  | coroutine identity => exact ⟨fun _ => rfl, fun _ => trivial⟩
  | object truth => exact ⟨fun _ => rfl, fun _ => trivial⟩

/-- An answer follows the handler: a `PduReply` decides the status, `ESME_ROK` is answered
only for a value that means it or as the default of a command without a handler, and the PDU
is counted once, as accepted exactly when the status is `ESME_ROK`. -/
structure Faithful (direction : Direction) (command : String) (ackedByDefault admitted : Prop)
    (outcome : Handled PyValue) (status : UInt32) (metrics : List Metric) : Prop where
  reply : ∀ reply, admitted → outcome = .returned (.pduReply reply) →
    status = reply.commandStatus.code
  ok : status = 0 → admitted ∧ ((∃ value, outcome = .returned value ∧ value.MeansOk) ∨
    (outcome = .noHandler ∧ ackedByDefault))
  recorded : metrics.filter Metric.isRecordPdu =
    [.recordPdu direction command (if status = 0 then .accepted else .rejected)]

/-- Metrics that count no PDU. -/
def Quiet (metrics : List Metric) : Prop := metrics.filter Metric.isRecordPdu = []

theorem Quiet.append {first second : List Metric} (quietFirst : Quiet first)
    (quietSecond : Quiet second) : Quiet (first ++ second) := by
  rw [Quiet, List.filter_append, quietFirst, quietSecond, List.append_nil]

theorem Quiet.recordPdu {metrics : List Metric} (quiet : Quiet metrics) (direction : Direction)
    (command : String) (result : PduResult) :
    (metrics ++ [Metric.recordPdu direction command result]).filter Metric.isRecordPdu =
      [Metric.recordPdu direction command result] := by
  rw [List.filter_append, quiet]
  rfl

section Faithfulness

variable {direction : Direction} {command : String} {ackedByDefault admitted : Prop}
  {outcome : Handled PyValue} {metrics : List Metric}

/-- A rejection is faithful when no value of the handler stands behind it. -/
theorem Faithful.refuse (refused : SmppError) (notOk : refused ≠ .esmeRok)
    (silent : admitted → ∀ value, outcome ≠ .returned value) (quiet : Quiet metrics)
    (status : UInt32) (same : status = refused.code) :
    Faithful direction command ackedByDefault admitted outcome status
      (metrics ++ [.recordPdu direction command .rejected]) := by
  have nonzero : status ≠ 0 := by
    rw [same]
    exact fun zero => notOk ((refused.code_eq_zero_iff).mp zero)
  refine ⟨fun reply member returned => absurd returned (silent member _),
    fun zero => absurd zero nonzero, ?_⟩
  rw [quiet.recordPdu, if_neg nonzero]

/-- Answering with the status a value of the handler means is faithful. -/
theorem Faithful.follow (value : PyValue) (returned : outcome = .returned value)
    (member : admitted) (quiet : Quiet metrics) (status : UInt32)
    (same : status = (pduReply value).commandStatus.code) (result : PduResult)
    (counted : result = if status = 0 then .accepted else .rejected) :
    Faithful direction command ackedByDefault admitted outcome status
      (metrics ++ [.recordPdu direction command result]) := by
  refine ⟨fun reply _ replied => ?_, fun zero => ⟨member, Or.inl ⟨value, returned, ?_⟩⟩, ?_⟩
  · rw [returned] at replied
    cases replied
    exact same
  · rw [same] at zero
    exact value.meansOk_iff.mpr zero
  · rw [quiet.recordPdu, counted]

/-- The default acknowledgement of a command without a handler is faithful. -/
theorem Faithful.default (absent : outcome = .noHandler) (acked : ackedByDefault)
    (member : admitted) (quiet : Quiet metrics) (status : UInt32) (result : PduResult)
    (counted : result = if status = 0 then .accepted else .rejected) :
    Faithful direction command ackedByDefault admitted outcome status
      (metrics ++ [.recordPdu direction command result]) := by
  refine ⟨fun reply _ replied => ?_, fun _ => ⟨member, Or.inr ⟨absent, acked⟩⟩, ?_⟩
  · rw [absent] at replied
    cases replied
  · rw [quiet.recordPdu, counted]

/-- The commands acknowledged without a handler may be described more widely. -/
theorem Faithful.mono {status : UInt32}
    (faithful : Faithful direction command ackedByDefault admitted outcome status metrics)
    {wider : Prop} (implies : ackedByDefault → wider) :
    Faithful direction command wider admitted outcome status metrics :=
  ⟨faithful.reply,
    fun zero => ⟨(faithful.ok zero).1, (faithful.ok zero).2.imp id (And.imp_right implies)⟩,
    faithful.recorded⟩

end Faithfulness

/-! ### The pieces of a method -/

theorem State.admitInbound_quiet (state : State) (event : Event) (sessionId : String) :
    Quiet (state.admitInbound event sessionId).2 := by
  unfold State.admitInbound
  split
  · rfl
  · split
    · split <;> rfl
    · split <;> rfl

/-- A dispatch that may find no handler comes to what became of the handler, and counts no
PDU of its own. -/
theorem dispatchPduOpt_cases (event : Event) (command : String) (pdu : Pdu) (session : Session) :
    ∃ metrics, Quiet metrics ∧
      ((event.handledPdu command pdu session = .noHandler ∧
        dispatchPduOpt event command pdu session = (none, metrics)) ∨
      (∃ value, event.handledPdu command pdu session = .returned value ∧
        dispatchPduOpt event command pdu session = (some (.ok (pduReply value)), metrics)) ∨
      (event.handledPdu command pdu session = .failed ∧
        ∃ error, dispatchPduOpt event command pdu session = (some (.error error), metrics))) := by
  have settled := Dispatch.pdu_handled event.script event.source command pdu session
  have timed : Quiet (if event.metricsEnabled then [.observeDispatch command] else []) := by
    split <;> rfl
  unfold dispatchPduOpt
  rw [← Event.handledPdu] at settled
  generalize Dispatch.pdu event.script event.source command pdu session = dispatched at settled ⊢
  generalize event.handledPdu command pdu session = outcome at settled ⊢
  rcases dispatched with _ | (error | reply)
  · cases outcome with
    | noHandler => exact ⟨[], rfl, Or.inl ⟨rfl, rfl⟩⟩
    | returned value => cases settled
    | failed => cases settled
  · have counted : Quiet [.recordDispatchError command] := rfl
    cases outcome with
    | noHandler => cases settled
    | returned value => cases settled
    | failed => exact ⟨_, timed.append counted, Or.inr (Or.inr ⟨rfl, error, rfl⟩)⟩
  · have counted : Quiet [] := rfl
    cases outcome with
    | noHandler => cases settled
    | returned value =>
      have same : reply = pduReply value := Handled.returned.inj settled
      rw [same]
      exact ⟨_, timed.append counted, Or.inr (Or.inl ⟨value, rfl, rfl⟩)⟩
    | failed => cases settled

/-- The same for a command that is acknowledged without a handler. -/
theorem dispatchPdu_cases (event : Event) (command : String) (pdu : Pdu) (session : Session) :
    ∃ metrics, Quiet metrics ∧
      ((event.handledPdu command pdu session = .noHandler ∧
        dispatchPdu event command pdu session = (.ok PduReply.defaultOk, metrics)) ∨
      (∃ value, event.handledPdu command pdu session = .returned value ∧
        dispatchPdu event command pdu session = (.ok (pduReply value), metrics)) ∨
      (event.handledPdu command pdu session = .failed ∧
        ∃ error, dispatchPdu event command pdu session = (.error error, metrics))) := by
  unfold dispatchPdu
  obtain ⟨metrics, quiet, ⟨absent, dispatched⟩ | ⟨value, returned, dispatched⟩ |
    ⟨failed, error, dispatched⟩⟩ := dispatchPduOpt_cases event command pdu session
  · exact ⟨metrics, quiet, Or.inl ⟨absent, by rw [dispatched]⟩⟩
  · exact ⟨metrics, quiet, Or.inr (Or.inl ⟨value, returned, by rw [dispatched]⟩)⟩
  · exact ⟨metrics, quiet, Or.inr (Or.inr ⟨failed, error, by rw [dispatched]⟩)⟩

/-- A handler without a value stands behind no answer. -/
theorem Handled.not_returned_of_noHandler {outcome : Handled PyValue} {admitted : Prop}
    (absent : outcome = .noHandler) : admitted → ∀ value, outcome ≠ .returned value := by
  intro _ value returned
  rw [absent] at returned
  cases returned

theorem Handled.not_returned_of_failed {outcome : Handled PyValue} {admitted : Prop}
    (failed : outcome = .failed) : admitted → ∀ value, outcome ≠ .returned value := by
  intro _ value returned
  rw [failed] at returned
  cases returned

/-- The result label read off a response is the one its status asks for. -/
theorem Responses.result_eq {Request Accepted : Type} (responses : Responses Request Accepted)
    (response : responses.Response) :
    (if responses.isSuccess response then PduResult.accepted else .rejected) =
      if responses.commandStatus response = 0 then .accepted else .rejected := by
  by_cases success : responses.isSuccess response = true
  · rw [if_pos success, if_pos ((responses.isSuccess_iff response).mp success)]
  · rw [if_neg success, if_neg fun zero => success ((responses.isSuccess_iff response).mpr zero)]

section Responding

variable {Request Accepted : Type} (responses : Responses Request Accepted) (request : Request)
  {direction : Direction} {command : String} {ackedByDefault admitted : Prop}
  {outcome : Handled PyValue} {metrics : List Metric}

/-- An acceptance is faithful to a value that means `ESME_ROK`. -/
theorem Faithful.accept (accepted : Accepted) (value : PyValue)
    (returned : outcome = .returned value) (member : admitted) (quiet : Quiet metrics)
    (ok : (pduReply value).commandStatus = .esmeRok) :
    Faithful direction command ackedByDefault admitted outcome
      (responses.commandStatus (responses.accept request accepted))
      (metrics ++ [.recordPdu direction command .accepted]) := by
  refine Faithful.follow value returned member quiet _ ?_ _ ?_
  · rw [responses.accept_status, ok]
    rfl
  · rw [responses.accept_status, if_pos rfl]

/-- A rejection is faithful to a value with another status. -/
theorem Faithful.reject (value : PyValue) (returned : outcome = .returned value)
    (member : admitted) (quiet : Quiet metrics)
    (notOk : (pduReply value).commandStatus ≠ .esmeRok) :
    Faithful direction command ackedByDefault admitted outcome
      (responses.commandStatus (responses.reject request (pduReply value).commandStatus))
      (metrics ++ [.recordPdu direction command .rejected]) := by
  refine Faithful.follow value returned member quiet _ (responses.reject_status _ _) _ ?_
  rw [responses.reject_status, if_neg fun zero => notOk ((SmppError.code_eq_zero_iff _).mp zero)]

end Responding

section Answers

variable [Smpp34]

theorem withRespTlvs_status (response : Smpp34.dataSm.Response) (tlvs : List Tlv) :
    Smpp34.dataSm.commandStatus (withRespTlvs response tlvs) =
      Smpp34.dataSm.commandStatus response := by
  induction tlvs generalizing response with
  | nil => rfl
  | cons tlv rest inductionHypothesis =>
    rw [withRespTlvs, List.foldl_cons, ← withRespTlvs, inductionHypothesis, Smpp34.pushTlv_status]

/-- The `submit_sm` response carries the status of the reply, whatever else the reply has. -/
theorem submitSmResponse_status (request : SubmitSm) (reply : PduReply) :
    Smpp34.submitSm.commandStatus (submitSmResponse request reply) = reply.commandStatus.code := by
  unfold submitSmResponse
  split
  · rename_i ok
    rw [Smpp34.submitSm.accept_status, ok]
    rfl
  · rw [Smpp34.submitSm.reject_status]

/-- The `data_sm` response carries the status of the reply, whatever else the reply has. -/
theorem dataSmResponse_status (request : DataSm) (reply : PduReply) :
    Smpp34.dataSm.commandStatus (dataSmResponse request reply) = reply.commandStatus.code := by
  unfold dataSmResponse
  rw [withRespTlvs_status]
  split
  · rename_i ok
    rw [Smpp34.dataSm.accept_status, ok]
    rfl
  · rw [Smpp34.dataSm.reject_status]

/-! ### Every method is faithful -/

section Shared

variable {Request Accepted : Type} (responses : Responses Request Accepted) (request : Request)
  (event : Event) (command : String)

omit [Smpp34] in
/-- A request over the cap is refused; one within it is answered as it would be without. -/
theorem State.admitting_faithful (state : State) (sessionId : String) {ackedByDefault : Prop}
    {outcome : Handled PyValue} (proceed : List Metric → Answered responses.Response)
    (follows : ∀ metrics (admitted : Prop), Quiet metrics → admitted →
      Faithful .inbound command ackedByDefault admitted outcome
        (responses.commandStatus (proceed metrics).response) (proceed metrics).metrics) :
    Faithful .inbound command ackedByDefault ((state.admitInbound event sessionId).1 = .proceed)
      outcome
      (responses.commandStatus
        (state.admitting event sessionId responses command request proceed).response)
      (state.admitting event sessionId responses command request proceed).metrics := by
  have quiet := state.admitInbound_quiet event sessionId
  unfold State.admitting
  generalize state.admitInbound event sessionId = admission at quiet ⊢
  obtain ⟨decision, metrics⟩ := admission
  cases decision with
  | throttled =>
    exact Faithful.refuse .esmeRthrottled (by decide) (fun admitted => nomatch admitted) quiet _
      (responses.reject_status _ _)
  | proceed => exact follows metrics _ quiet rfl

omit [Smpp34] in
/-- An opt-in command is answered as its handler decided. -/
theorem answerOptIn_faithful (direction : Direction) (failure : SmppError)
    (notOk : failure ≠ .esmeRok) (accepted : PduReply → Accepted) (pdu : Pdu) (session : Session)
    (metrics : List Metric) (quiet : Quiet metrics) {admitted : Prop} (member : admitted) :
    Faithful direction command False admitted (event.handledPdu command pdu session)
      (responses.commandStatus (answerOptIn responses direction command failure accepted request
        metrics (dispatchPduOpt event command pdu session)).response)
      (answerOptIn responses direction command failure accepted request
        metrics (dispatchPduOpt event command pdu session)).metrics := by
  unfold answerOptIn
  obtain ⟨more, quietMore, ⟨absent, dispatched⟩ | ⟨value, returned, dispatched⟩ |
    ⟨failed, error, dispatched⟩⟩ := dispatchPduOpt_cases event command pdu session
  · simp only [dispatched]
    exact Faithful.refuse failure notOk (Handled.not_returned_of_noHandler absent)
      (quiet.append quietMore) _ (responses.reject_status _ _)
  · simp only [dispatched]
    by_cases ok : (pduReply value).commandStatus = .esmeRok
    · rw [if_pos ok]
      exact Faithful.accept responses request _ value returned member (quiet.append quietMore) ok
    · rw [if_neg ok]
      exact Faithful.reject responses request value returned member (quiet.append quietMore) ok
  · simp only [dispatched]
    exact Faithful.refuse failure notOk (Handled.not_returned_of_failed failed)
      (quiet.append quietMore) _ (responses.reject_status _ _)

end Shared

/-- A `data_sm` is answered as its handler decided, on either kind of session. -/
theorem answerDataSm_faithful (event : Event) (direction : Direction) (request : DataSm)
    (session : Session) (metrics : List Metric) (quiet : Quiet metrics) {admitted : Prop}
    (member : admitted) :
    Faithful direction "data_sm" False admitted
      (event.handledPdu "data_sm" (Pdu.fromData request) session)
      (Smpp34.dataSm.commandStatus (answerDataSm direction request metrics
        (dispatchPduOpt event "data_sm" (Pdu.fromData request) session)).response)
      (answerDataSm direction request metrics
        (dispatchPduOpt event "data_sm" (Pdu.fromData request) session)).metrics := by
  unfold answerDataSm
  obtain ⟨more, quietMore, ⟨absent, dispatched⟩ | ⟨value, returned, dispatched⟩ |
    ⟨failed, error, dispatched⟩⟩ := dispatchPduOpt_cases event "data_sm" (Pdu.fromData request)
      session
  · simp only [dispatched]
    exact Faithful.refuse .esmeRsyserr (by decide) (Handled.not_returned_of_noHandler absent)
      (quiet.append quietMore) _ (Smpp34.dataSm.reject_status _ _)
  · simp only [dispatched]
    exact Faithful.follow value returned member (quiet.append quietMore) _
      (dataSmResponse_status _ _) _ (Smpp34.dataSm.result_eq _)
  · simp only [dispatched]
    exact Faithful.refuse .esmeRsyserr (by decide) (Handled.not_returned_of_failed failed)
      (quiet.append quietMore) _ (Smpp34.dataSm.reject_status _ _)

theorem State.onSubmitSm_faithful (state : State) (event : Event) (request : SubmitSm)
    (conn : SmppConnectionInformation) (sessionId : String) :
    Faithful .inbound "submit_sm" True ((state.admitInbound event sessionId).1 = .proceed)
      (event.handledPdu "submit_sm" (Pdu.fromSubmit request) (state.esmeSession sessionId conn))
      (Smpp34.submitSm.commandStatus (state.onSubmitSm event request conn sessionId).response)
      (state.onSubmitSm event request conn sessionId).metrics := by
  unfold State.onSubmitSm
  refine state.admitting_faithful Smpp34.submitSm request event "submit_sm" sessionId _ ?_
  intro metrics admitted quiet member
  obtain ⟨more, quietMore, ⟨absent, dispatched⟩ | ⟨value, returned, dispatched⟩ |
    ⟨failed, error, dispatched⟩⟩ := dispatchPdu_cases event "submit_sm" (Pdu.fromSubmit request)
      (state.esmeSession sessionId conn)
  · simp only [dispatched]
    exact Faithful.default absent trivial member (quiet.append quietMore) _ _
      (Smpp34.submitSm.result_eq _)
  · simp only [dispatched]
    exact Faithful.follow value returned member (quiet.append quietMore) _
      (submitSmResponse_status _ _) _ (Smpp34.submitSm.result_eq _)
  · simp only [dispatched]
    exact Faithful.refuse .esmeRsyserr (by decide) (Handled.not_returned_of_failed failed)
      (quiet.append quietMore) _ (Smpp34.submitSm.reject_status _ _)

theorem BindListener.onDeliverSm_faithful (listener : BindListener) (event : Event)
    (request : DeliverSm) (conn : SmppConnectionInformation) (sessionId : String) :
    Faithful .egress "deliver_sm" True True
      (event.handledPdu "deliver_sm" (Pdu.fromDeliver request)
        (listener.bindSession sessionId conn))
      (Smpp34.deliverSm.commandStatus
        (listener.onDeliverSm event request conn sessionId).response)
      (listener.onDeliverSm event request conn sessionId).metrics := by
  unfold BindListener.onDeliverSm
  obtain ⟨metrics, quiet, ⟨absent, dispatched⟩ | ⟨value, returned, dispatched⟩ |
    ⟨failed, error, dispatched⟩⟩ := dispatchPdu_cases event "deliver_sm"
      (Pdu.fromDeliver request) (listener.bindSession sessionId conn)
  · simp only [dispatched]
    refine Faithful.default absent trivial trivial quiet _ .accepted ?_
    exact (if_pos (Smpp34.deliverSm.accept_status request ())).symm
  · simp only [dispatched]
    by_cases ok : (pduReply value).commandStatus = .esmeRok
    · rw [if_pos ok]
      exact Faithful.accept Smpp34.deliverSm request () value returned trivial quiet ok
    · rw [if_neg ok]
      exact Faithful.reject Smpp34.deliverSm request value returned trivial quiet ok
  · simp only [dispatched]
    exact Faithful.refuse .esmeRsyserr (by decide) (Handled.not_returned_of_failed failed)
      quiet _ (Smpp34.deliverSm.reject_status _ _)

/-! ### Any inbound request -/

/-- A response read by its status, with the metrics recorded on the way. -/
def Answered.status {Request Accepted : Type} (responses : Responses Request Accepted)
    (answered : Answered responses.Response) : Answered UInt32 :=
  ⟨responses.commandStatus answered.response, answered.metrics⟩

/-- The request PDUs a listener answers: six on an ESME session, two on an outbound bind. -/
inductive InboundRequest where
  | submitSm (request : SubmitSm)
  | dataSm (request : DataSm)
  | cancelSm (request : CancelSm)
  | querySm (request : QuerySm)
  | replaceSm (request : ReplaceSm)
  | submitSmMulti (request : SubmitSmMulti)
  | bindDeliverSm (listener : BindListener) (request : DeliverSm)
  | bindDataSm (listener : BindListener) (request : DataSm)

def InboundRequest.pdu : InboundRequest → Pdu
  | .submitSm request => Pdu.fromSubmit request
  | .dataSm request => Pdu.fromData request
  | .cancelSm request => Pdu.fromCancel request
  | .querySm request => Pdu.fromQuery request
  | .replaceSm request => Pdu.fromReplace request
  | .submitSmMulti request => Pdu.fromSubmitMulti request
  | .bindDeliverSm _ request => Pdu.fromDeliver request
  | .bindDataSm _ request => Pdu.fromData request

def InboundRequest.command (inbound : InboundRequest) : String := inbound.pdu.command

def InboundRequest.direction : InboundRequest → Direction
  | .bindDeliverSm _ _ => .egress
  | .bindDataSm _ _ => .egress
  | _ => .inbound

def InboundRequest.session (inbound : InboundRequest) (state : State)
    (conn : SmppConnectionInformation) (sessionId : String) : Session :=
  match inbound with
  | .bindDeliverSm listener _ => listener.bindSession sessionId conn
  | .bindDataSm listener _ => listener.bindSession sessionId conn
  | _ => state.esmeSession sessionId conn

/-- Only the message-bearing requests of an ESME session are held against the cap. -/
def InboundRequest.Admitted (inbound : InboundRequest) (state : State) (event : Event)
    (sessionId : String) : Prop :=
  match inbound with
  | .submitSm _ => (state.admitInbound event sessionId).1 = .proceed
  | .dataSm _ => (state.admitInbound event sessionId).1 = .proceed
  | .submitSmMulti _ => (state.admitInbound event sessionId).1 = .proceed
  | _ => True

/-- What the method for a request answers. -/
def InboundRequest.answer (inbound : InboundRequest) (state : State) (event : Event)
    (conn : SmppConnectionInformation) (sessionId : String) : Answered UInt32 :=
  match inbound with
  | .submitSm request => (state.onSubmitSm event request conn sessionId).status Smpp34.submitSm
  | .dataSm request => (state.onDataSm event request conn sessionId).status Smpp34.dataSm
  | .cancelSm request => (state.onCancelSm event request conn sessionId).status Smpp34.cancelSm
  | .querySm request => (state.onQuerySm event request conn sessionId).status Smpp34.querySm
  | .replaceSm request => (state.onReplaceSm event request conn sessionId).status Smpp34.replaceSm
  | .submitSmMulti request =>
    (state.onSubmitSmMulti event request conn sessionId).status Smpp34.submitSmMulti
  | .bindDeliverSm listener request =>
    (listener.onDeliverSm event request conn sessionId).status Smpp34.deliverSm
  | .bindDataSm listener request =>
    (listener.onDataSm event request conn sessionId).status Smpp34.dataSm

theorem InboundRequest.answer_faithful (inbound : InboundRequest) (state : State) (event : Event)
    (conn : SmppConnectionInformation) (sessionId : String) :
    Faithful inbound.direction inbound.command
      (inbound.command = "submit_sm" ∨ inbound.command = "deliver_sm")
      (inbound.Admitted state event sessionId)
      (event.handledPdu inbound.command inbound.pdu (inbound.session state conn sessionId))
      (inbound.answer state event conn sessionId).response
      (inbound.answer state event conn sessionId).metrics := by
  cases inbound with
  | submitSm request =>
    exact (state.onSubmitSm_faithful event request conn sessionId).mono fun _ => Or.inl rfl
  | dataSm request =>
    refine Faithful.mono (state.admitting_faithful _ _ _ _ _ _ ?_) False.elim
    intro metrics admitted quiet member
    exact answerDataSm_faithful event _ request _ metrics quiet member
  | cancelSm request =>
    exact (answerOptIn_faithful Smpp34.cancelSm request event _ _ _ (by decide) _ _ _ [] rfl
      trivial).mono False.elim
  | querySm request =>
    exact (answerOptIn_faithful Smpp34.querySm request event _ _ _ (by decide) _ _ _ [] rfl
      trivial).mono False.elim
  | replaceSm request =>
    exact (answerOptIn_faithful Smpp34.replaceSm request event _ _ _ (by decide) _ _ _ [] rfl
      trivial).mono False.elim
  | submitSmMulti request =>
    refine Faithful.mono (state.admitting_faithful _ _ _ _ _ _ ?_) False.elim
    intro metrics admitted quiet member
    exact answerOptIn_faithful Smpp34.submitSmMulti request event _ _ _ (by decide) _ _ _ metrics
      quiet member
  | bindDeliverSm listener request =>
    exact (listener.onDeliverSm_faithful event request conn sessionId).mono fun _ => Or.inr rfl
  | bindDataSm listener request =>
    exact (answerDataSm_faithful event _ request _ [] rfl trivial).mono False.elim

/-- Every inbound request is answered as its handler decided. A `PduReply` sets the status
whatever else it carries; `ESME_ROK` is answered only to an admitted request whose handler gave
a value that means it, or which has no handler and is a `submit_sm` or a `deliver_sm`; and the
PDU is counted exactly once, as accepted if and only if the status is `ESME_ROK`. -/
theorem inbound_answer_follows_handler (inbound : InboundRequest) (state : State) (event : Event)
    (conn : SmppConnectionInformation) (sessionId : String) :
    let outcome := event.handledPdu inbound.command inbound.pdu
      (inbound.session state conn sessionId)
    let answer := inbound.answer state event conn sessionId
    (∀ reply, inbound.Admitted state event sessionId → outcome = .returned (.pduReply reply) →
      answer.response = reply.commandStatus.code) ∧
    (answer.response = 0 → inbound.Admitted state event sessionId ∧
      ((∃ value, outcome = .returned value ∧ value.MeansOk) ∨
        (outcome = .noHandler ∧
          (inbound.command = "submit_sm" ∨ inbound.command = "deliver_sm")))) ∧
    answer.metrics.filter Metric.isRecordPdu =
      [.recordPdu inbound.direction inbound.command
        (if answer.response = 0 then .accepted else .rejected)] := by
  intro outcome answer
  have faithful := inbound.answer_faithful state event conn sessionId
  exact ⟨faithful.reply, faithful.ok, faithful.recorded⟩

end Answers

/-- A `submit_sm` whose handler rejects it while it hands back a `message_id` is rejected. -/
theorem inbound_answer_follows_handler_rejected :
    letI := storingCodec
    ((InboundRequest.submitSm ⟨"", 1, 1, "100", 1, 1, "200", 0, 0, 0, "", "", 0, 0, 0, 0, [0x68], []⟩).answer
      ⟨[], [], 0, .reject, 0, 0⟩
      { script :=
          { tryRun := .ok ()
            arguments := fun _ => .ok ()
            call := fun _ _ => .ok (.pduReply ⟨.esmeRinvdstadr, some "42", none, "", 0, []⟩)
            submit := .ok ()
            awaited := .done
            coroutineTimeout := 30 }
        source := fun _ => [⟨7, false, some "submit_sm"⟩]
        metricsEnabled := true
        limiters := fun _ => ⟨false, true⟩ }
      ⟨"198.51.100.7:5000", "192.0.2.1:2775"⟩ "session-1").response = SmppError.esmeRinvdstadr.code :=
  letI := storingCodec
  (inbound_answer_follows_handler _ _ _ _ _).1 ⟨.esmeRinvdstadr, some "42", none, "", 0, []⟩ rfl rfl

/-! ### Binds -/

/-- The `Bind` the handler is asked about. -/
def BindTransceiver.bind (request : BindTransceiver) (conn : SmppConnectionInformation) : Bind :=
  ⟨request.systemId, request.password, conn.clientAddress⟩

/-- The `@smpp.on_bind` handler returned `bind.reject("ESME_ROK", …)`. -/
def Event.RejectsUnderOk (event : Event) (bind : Bind) : Prop :=
  ∃ result reason, handled event.script event.source .onBind none (.bind bind) =
    .returned (.bindResult result) ∧ Bind.reject "ESME_ROK" reason = .ok result.1

/-- The one value that rejects a bind with the status `ESME_ROK`. -/
theorem bindOutcome_rejects_ok_iff (value : PyValue) :
    (bindOutcome value).accept = false ∧ (bindOutcome value).status = .esmeRok ↔
      ∃ result reason, value = .bindResult result ∧
        Bind.reject "ESME_ROK" reason = .ok result.1 := by
  cases value with
  | bindResult result =>
    refine (result.rejects_ok_iff).trans ⟨fun ⟨reason, made⟩ => ⟨result, reason, rfl, made⟩, ?_⟩
    intro ⟨other, reason, same, made⟩
    cases same
    exact ⟨reason, made⟩
  | none => simp [bindOutcome, BindOutcome.reject]
  | pduReply reply => simp [bindOutcome, PyValue.isTruthy]
  | coroutine identity => simp [bindOutcome, PyValue.isTruthy]
  | object truth =>
    rcases truth with error | (_ | _)
    · simp [bindOutcome, PyValue.isTruthy, BindOutcome.reject]
    · simp [bindOutcome, PyValue.isTruthy, BindOutcome.reject]
    · simp [bindOutcome, PyValue.isTruthy]

/-- A bind is rejected with the status `ESME_ROK` exactly when the handler asked for it. -/
theorem Dispatch.bind_rejects_ok_iff (event : Event) (bind : Bind) :
    (Dispatch.bind event.script event.source bind).accept = false ∧
        (Dispatch.bind event.script event.source bind).status = .esmeRok ↔
      event.RejectsUnderOk bind := by
  unfold Event.RejectsUnderOk
  by_cases answered : ∃ value, handled event.script event.source .onBind none (.bind bind) =
      .returned value
  · obtain ⟨value, returned⟩ := answered
    rw [Dispatch.bind_of_returned _ _ _ value returned, bindOutcome_rejects_ok_iff, returned]
    simp only [Handled.returned.injEq]
  · obtain ⟨reason, rejected⟩ := Dispatch.bind_of_not_returned event.script event.source bind
      fun value returned => answered ⟨value, returned⟩
    rw [rejected]
    exact ⟨fun ⟨_, ok⟩ => (nomatch ok),
      fun ⟨result, _, returned, _⟩ => absurd ⟨_, returned⟩ answered⟩

section Binds

variable [Smpp34]

/-- The status on the wire: zero for an accepted bind, else the status of the rejection. -/
theorem onBindTransceiver_status (event : Event) (request : BindTransceiver)
    (conn : SmppConnectionInformation) :
    Smpp34.bindTransceiver.commandStatus (onBindTransceiver event request conn).response =
      if (Dispatch.bind event.script event.source (request.bind conn)).accept then 0
      else (Dispatch.bind event.script event.source (request.bind conn)).status.code := by
  unfold onBindTransceiver
  rw [← BindTransceiver.bind]
  cases decided : (Dispatch.bind event.script event.source (request.bind conn)).accept with
  | false => simp [decided, Smpp34.bindTransceiver.reject_status]
  | true => simp [decided, Smpp34.bindTransceiver.accept_status]

/-- The `bind_transceiver_resp` is `ESME_ROK` exactly for an accepted bind, unless the handler
rejected the bind under the name `ESME_ROK`: then the response says it was accepted. -/
theorem bind_status_agrees_iff (event : Event) (request : BindTransceiver)
    (conn : SmppConnectionInformation) :
    (Smpp34.bindTransceiver.commandStatus (onBindTransceiver event request conn).response = 0 ↔
      (Dispatch.bind event.script event.source (request.bind conn)).accept = true) ↔
    ¬ event.RejectsUnderOk (request.bind conn) := by
  rw [← Dispatch.bind_rejects_ok_iff, onBindTransceiver_status]
  cases (Dispatch.bind event.script event.source (request.bind conn)).accept with
  | true => simp
  | false => simp [SmppError.code_eq_zero_iff]

end Binds

/-- A handler that refuses every bind with `bind.reject("ESME_ROK", "closed")` has it answered
as accepted. -/
theorem bind_rejected_with_zero_status :
    letI := storingCodec
    ¬ ∀ (event : Event) (request : BindTransceiver) (conn : SmppConnectionInformation),
      Smpp34.bindTransceiver.commandStatus (onBindTransceiver event request conn).response = 0 ↔
        (Dispatch.bind event.script event.source (request.bind conn)).accept = true := by
  intro agrees
  have rejected : Bind.reject "ESME_ROK" "closed" = .ok ⟨false, .esmeRok, "closed"⟩ := rfl
  have answered := (agrees
    { script :=
        { tryRun := .ok ()
          arguments := fun _ => .ok ()
          call := fun _ _ => .ok (.bindResult ⟨_, Or.inr ⟨_, _, rejected⟩⟩)
          submit := .ok ()
          awaited := .done
          coroutineTimeout := 30 }
      source := fun _ => [⟨7, false, none⟩]
      metricsEnabled := true
      limiters := fun _ => ⟨false, true⟩ }
    ⟨"esme", "secret"⟩ ⟨"198.51.100.7:5000", "192.0.2.1:2775"⟩).mp rfl
  cases answered

end SiphonSmpp
