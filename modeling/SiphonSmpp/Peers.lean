/-
This file puts two peers together: a script that calls a send helper
(`src/sends.rs`) and the script at the other end of the session, whose handler
is asked about the request (`src/runtime.rs`, `src/dispatch.rs`). The request is
handed to the codec, arrives as a `Pdu` of whatever the codec there decodes, is
answered by the listener there, and the response comes back as an `SmppResp` or a
`QueryResp`. What lies between the two peers is a parameter, the `Wire`.

`call_returns_verdict` says that the call is a call of the handler: the caller is
told what the handler decided, and where the wire carries the request as it is,
the handler reads what the caller passed. Where the handler decided nothing,
`InboundRequest.verdict` is the status that stands for it, command by command.
-/

import SiphonSmpp.Payload
import SiphonSmpp.Relay
import SiphonSmpp.Response
import SiphonSmpp.SendEffects

namespace SiphonSmpp

/-! ### What a response carries -/

/-- What the crate reads of a response besides its status. A builder stores the body it is given;
a message id that is empty may come back as none. -/
class Smpp34Bodies extends Smpp34 where
  submitSmId : submitSm.Response → Option String
  submitSmId_accept : ∀ request messageId,
    (submitSmId (submitSm.accept request messageId)).getD "" = messageId
  submitSmMultiId : submitSmMulti.Response → Option String
  submitSmMultiId_accept : ∀ request messageId unsuccess,
    (submitSmMultiId (submitSmMulti.accept request (messageId, unsuccess))).getD "" = messageId
  queryBody : querySm.Response → QueryAccepted
  queryBody_accept : ∀ request body, queryBody (querySm.accept request body) = body

/-- The codec that stores what it is given, with its readers. -/
@[reducible] def storingBodies : Smpp34Bodies where
  toSmpp34 := storingCodec
  submitSmId response := response.body
  submitSmId_accept _ _ := rfl
  submitSmMultiId response := response.body.map Prod.fst
  submitSmMultiId_accept _ _ _ := rfl
  queryBody response := response.body.getD ⟨"", "", 0, 0⟩
  queryBody_accept _ _ := rfl

/-! ### The far peer -/

/-- What a request becomes at the other end of its session: an ESME's request is one to the server
it is bound to, and a server's request one to the bind of the ESME. -/
def Handle.delivers (wire : Wire) (far : BindListener) :
    Handle → SendRequest → Option InboundRequest
  | .smsc _, .submitSm request => (wire.submitSm request).map .submitSm
  | .smsc _, .submitSmMulti request => (wire.submitSmMulti request).map .submitSmMulti
  | .smsc _, .dataSm request => (wire.dataSm request).map .dataSm
  | .smsc _, .cancelSm request => (wire.cancelSm request).map .cancelSm
  | .smsc _, .querySm request => (wire.querySm request).map .querySm
  | .smsc _, .replaceSm request => (wire.replaceSm request).map .replaceSm
  | .esme _, .deliverSm request => (wire.deliverSm request).map (.bindDeliverSm far)
  | .esme _, .dataSm request => (wire.dataSm request).map (.bindDataSm far)
  | _, _ => none

/-- The far end decodes a request as it was handed to the codec. -/
def Wire.Carries (wire : Wire) : SendRequest → Prop
  | .submitSm request => wire.submitSm request = some request
  | .submitSmMulti request => wire.submitSmMulti request = some request
  | .dataSm request => wire.dataSm request = some request
  | .cancelSm request => wire.cancelSm request = some request
  | .querySm request => wire.querySm request = some request
  | .replaceSm request => wire.replaceSm request = some request
  | .deliverSm request => wire.deliverSm request = some request
  | .alertNotification _ => True

instance (inbound : InboundRequest) (state : State) (event : Event) (sessionId : String) :
    Decidable (inbound.Admitted state event sessionId) :=
  match inbound with
  | .submitSm _ => inferInstanceAs (Decidable (_ = _))
  | .dataSm _ => inferInstanceAs (Decidable (_ = _))
  | .submitSmMulti _ => inferInstanceAs (Decidable (_ = _))
  | .cancelSm _ => inferInstanceAs (Decidable True)
  | .querySm _ => inferInstanceAs (Decidable True)
  | .replaceSm _ => inferInstanceAs (Decidable True)
  | .bindDeliverSm _ _ => inferInstanceAs (Decidable True)
  | .bindDataSm _ _ => inferInstanceAs (Decidable True)

/-- The status of a request whose handler has no value. -/
def InboundRequest.failure : InboundRequest → SmppError
  | .cancelSm _ => .esmeRcancelfail
  | .querySm _ => .esmeRqueryfail
  | .replaceSm _ => .esmeRreplacefail
  | _ => .esmeRsyserr

/-- The status of a request without a handler. -/
def InboundRequest.unhandled : InboundRequest → SmppError
  | .submitSm _ => .esmeRok
  | .bindDeliverSm _ _ => .esmeRok
  | inbound => inbound.failure

/-- The status a handler stands for. -/
def Handled.status (unhandled failure : SmppError) : Handled PyValue → SmppError
  | .returned value => (pduReply value).commandStatus
  | .noHandler => unhandled
  | .failed => failure

/-- What the far peer decides about a request, by what became of its handler. -/
def InboundRequest.verdict (inbound : InboundRequest) (state : State) (event : Event)
    (sessionId : String) (outcome : Handled PyValue) : SmppError :=
  if inbound.Admitted state event sessionId then
    outcome.status inbound.unhandled inbound.failure
  else .esmeRthrottled

/-- The reply behind an acceptance. -/
def Handled.reply : Handled PyValue → PduReply
  | .returned value => pduReply value
  | _ => PduReply.defaultOk

/-- An acceptance or a rejection, by the status. -/
def Responses.decided {Request Accepted : Type} (responses : Responses Request Accepted)
    (request : Request) (status : SmppError) (accepted : Accepted) : responses.Response :=
  if status = .esmeRok then responses.accept request accepted else responses.reject request status

theorem Responses.decided_status {Request Accepted : Type}
    (responses : Responses Request Accepted) (request : Request) (status : SmppError)
    (accepted : Accepted) :
    responses.commandStatus (responses.decided request status accepted) = status.code := by
  rw [decided]
  split
  · rename_i ok
    rw [responses.accept_status, ok]
    rfl
  · exact responses.reject_status request status

section Deciding

variable {Request Accepted : Type} (responses : Responses Request Accepted) (request : Request)
  (state : State) (event : Event) (command sessionId : String)

/-- A request over the cap is throttled, and any other one decided without a look at it. -/
theorem State.admitting_decided {status : SmppError} {accepted : Accepted}
    (proceed : List Metric → Answered responses.Response)
    (decides : ∀ metrics, (proceed metrics).response = responses.decided request status accepted) :
    (state.admitting event sessionId responses command request proceed).response =
      responses.decided request (if (state.admitInbound event sessionId).1 = .proceed then status
        else .esmeRthrottled) accepted := by
  unfold State.admitting
  generalize state.admitInbound event sessionId = admission
  obtain ⟨decision, metrics⟩ := admission
  cases decision with
  | proceed => exact decides metrics
  | throttled => rfl

/-- An opt-in command is decided by the value of its handler, or else by its own status. -/
theorem answerOptIn_decided (direction : Direction) (failure : SmppError)
    (notOk : failure ≠ .esmeRok) (accepted : PduReply → Accepted) (pdu : Pdu) (session : Session)
    (metrics : List Metric) :
    (answerOptIn responses direction command failure accepted request metrics
      (dispatchPduOpt event command pdu session)).response =
        responses.decided request ((event.handledPdu command pdu session).status failure failure)
          (accepted (event.handledPdu command pdu session).reply) := by
  unfold answerOptIn
  obtain ⟨more, _, ⟨absent, dispatched⟩ | ⟨value, returned, dispatched⟩ |
    ⟨failed, error, dispatched⟩⟩ := dispatchPduOpt_cases event command pdu session
  · simp only [dispatched, absent]
    exact (if_neg notOk).symm
  · simp only [dispatched, returned]
    split
    · rename_i ok
      exact (if_pos ok).symm
    · rename_i other
      exact (if_neg other).symm
  · simp only [dispatched, failed]
    exact (if_neg notOk).symm

end Deciding

section Listeners

variable [Smpp34] (state : State) (event : Event) (conn : SmppConnectionInformation)
  (sessionId : String)

/-- What became of the handler of a request. -/
def InboundRequest.outcome (inbound : InboundRequest) : Handled PyValue :=
  event.handledPdu inbound.command inbound.pdu (inbound.session state conn sessionId)

/-- A `submit_sm` without a handler is accepted. -/
theorem State.onSubmitSm_decided (request : SubmitSm) {outcome : Handled PyValue}
    (became : (InboundRequest.submitSm request).outcome state event conn sessionId = outcome) :
    (state.onSubmitSm event request conn sessionId).response =
      Smpp34.submitSm.decided request
        ((InboundRequest.submitSm request).verdict state event sessionId outcome)
        (outcome.reply.messageId.getD "") := by
  have became : event.handledPdu "submit_sm" (Pdu.fromSubmit request)
      (state.esmeSession sessionId conn) = outcome := became
  unfold State.onSubmitSm
  refine state.admitting_decided Smpp34.submitSm request event "submit_sm" sessionId _ ?_
  intro metrics
  obtain ⟨more, _, ⟨absent, dispatched⟩ | ⟨value, returned, dispatched⟩ |
    ⟨failed, error, dispatched⟩⟩ := dispatchPdu_cases event "submit_sm" (Pdu.fromSubmit request)
      (state.esmeSession sessionId conn)
  · simp only [dispatched, ← became, absent]
    rfl
  · simp only [dispatched, ← became, returned]
    rfl
  · simp only [dispatched, ← became, failed]
    rfl

/-- A `deliver_sm` without a handler is accepted. -/
theorem BindListener.onDeliverSm_decided (listener : BindListener) (request : DeliverSm)
    {outcome : Handled PyValue}
    (became : event.handledPdu "deliver_sm" (Pdu.fromDeliver request)
      (listener.bindSession sessionId conn) = outcome) :
    (listener.onDeliverSm event request conn sessionId).response =
      Smpp34.deliverSm.decided request (outcome.status .esmeRok .esmeRsyserr) () := by
  unfold BindListener.onDeliverSm
  obtain ⟨metrics, _, ⟨absent, dispatched⟩ | ⟨value, returned, dispatched⟩ |
    ⟨failed, error, dispatched⟩⟩ := dispatchPdu_cases event "deliver_sm"
      (Pdu.fromDeliver request) (listener.bindSession sessionId conn)
  · simp only [dispatched, ← became, absent]
    rfl
  · simp only [dispatched, ← became, returned]
    split
    · rename_i ok
      exact (if_pos ok).symm
    · rename_i other
      exact (if_neg other).symm
  · simp only [dispatched, ← became, failed]
    rfl

theorem State.onSubmitSmMulti_decided (request : SubmitSmMulti) {outcome : Handled PyValue}
    (became : (InboundRequest.submitSmMulti request).outcome state event conn sessionId = outcome) :
    (state.onSubmitSmMulti event request conn sessionId).response =
      Smpp34.submitSmMulti.decided request
        ((InboundRequest.submitSmMulti request).verdict state event sessionId outcome)
        (outcome.reply.messageId.getD "", []) := by
  have became : event.handledPdu "submit_sm_multi" (Pdu.fromSubmitMulti request)
      (state.esmeSession sessionId conn) = outcome := became
  unfold State.onSubmitSmMulti
  refine state.admitting_decided Smpp34.submitSmMulti request event "submit_sm_multi" sessionId _ ?_
  intro metrics
  rw [answerOptIn_decided _ _ _ _ _ _ (by decide), became]
  rfl

theorem State.onQuerySm_decided (request : QuerySm) {outcome : Handled PyValue}
    (became : (InboundRequest.querySm request).outcome state event conn sessionId = outcome) :
    (state.onQuerySm event request conn sessionId).response =
      Smpp34.querySm.decided request
        ((InboundRequest.querySm request).verdict state event sessionId outcome)
        ⟨outcome.reply.messageId.getD "", outcome.reply.finalDate,
          outcome.reply.messageState.getD 0, outcome.reply.errorCode⟩ := by
  have became : event.handledPdu "query_sm" (Pdu.fromQuery request)
      (state.esmeSession sessionId conn) = outcome := became
  unfold State.onQuerySm
  rw [answerOptIn_decided _ _ _ _ _ _ (by decide), became]
  rfl

/-- A `data_sm` has the status of the reply, on either kind of session. -/
theorem answerDataSm_status (direction : Direction) (request : DataSm) (session : Session)
    (metrics : List Metric) :
    Smpp34.dataSm.commandStatus (answerDataSm direction request metrics
      (dispatchPduOpt event "data_sm" (Pdu.fromData request) session)).response =
        ((event.handledPdu "data_sm" (Pdu.fromData request) session).status .esmeRsyserr
          .esmeRsyserr).code := by
  unfold answerDataSm
  obtain ⟨more, _, ⟨absent, dispatched⟩ | ⟨value, returned, dispatched⟩ |
    ⟨failed, error, dispatched⟩⟩ := dispatchPduOpt_cases event "data_sm" (Pdu.fromData request)
      session
  · simp only [dispatched, absent]
    exact Smpp34.dataSm.reject_status _ _
  · simp only [dispatched, returned]
    exact dataSmResponse_status _ _
  · simp only [dispatched, failed]
    exact Smpp34.dataSm.reject_status _ _

theorem State.onDataSm_status (request : DataSm) :
    Smpp34.dataSm.commandStatus (state.onDataSm event request conn sessionId).response =
      ((InboundRequest.dataSm request).verdict state event sessionId
        (event.handledPdu "data_sm" (Pdu.fromData request)
          (state.esmeSession sessionId conn))).code := by
  have answered := answerDataSm_status event .inbound request (state.esmeSession sessionId conn)
  unfold State.onDataSm State.admitting InboundRequest.verdict
  show _ = (if (state.admitInbound event sessionId).1 = .proceed then _ else _ : SmppError).code
  generalize state.admitInbound event sessionId = admission
  obtain ⟨decision, metrics⟩ := admission
  cases decision with
  | proceed => exact answered metrics
  | throttled => exact Smpp34.dataSm.reject_status _ _

end Listeners

/-! ### The response -/

section Responding

variable [Smpp34Bodies] (state : State) (event : Event) (conn : SmppConnectionInformation)
  (sessionId : String)

/-- The response of the far peer, as the near one reads it. -/
def InboundRequest.respond : InboundRequest → PeerResponse
  | .submitSm request =>
    let response := (state.onSubmitSm event request conn sessionId).response
    .submitSmResp (Smpp34.submitSm.commandStatus response) (Smpp34Bodies.submitSmId response)
  | .submitSmMulti request =>
    let response := (state.onSubmitSmMulti event request conn sessionId).response
    .submitSmMultiResp (Smpp34.submitSmMulti.commandStatus response)
      (Smpp34Bodies.submitSmMultiId response)
  | .querySm request =>
    let response := (state.onQuerySm event request conn sessionId).response
    let body := Smpp34Bodies.queryBody response
    .querySmResp ⟨Smpp34.querySm.commandStatus response, body.messageId, body.finalDate,
      body.messageState, body.errorCode⟩
  | .dataSm request =>
    .dataSmResp (Smpp34.dataSm.commandStatus
      (state.onDataSm event request conn sessionId).response)
  | .cancelSm request =>
    .cancelSmResp (Smpp34.cancelSm.commandStatus
      (state.onCancelSm event request conn sessionId).response)
  | .replaceSm request =>
    .replaceSmResp (Smpp34.replaceSm.commandStatus
      (state.onReplaceSm event request conn sessionId).response)
  | .bindDeliverSm listener request =>
    .deliverSmResp (Smpp34.deliverSm.commandStatus
      (listener.onDeliverSm event request conn sessionId).response)
  | .bindDataSm listener request =>
    .dataSmResp (Smpp34.dataSm.commandStatus
      (listener.onDataSm event request conn sessionId).response)

/-- The response has the status of the answer, and that is the verdict. -/
theorem InboundRequest.respond_status (inbound : InboundRequest) :
    (inbound.respond state event conn sessionId).status =
      (inbound.answer state event conn sessionId).response ∧
    (inbound.respond state event conn sessionId).status =
      (inbound.verdict state event sessionId
        (inbound.outcome state event conn sessionId)).code := by
  cases inbound with
  | submitSm request =>
    refine ⟨rfl, ?_⟩
    show Smpp34.submitSm.commandStatus _ = _
    rw [state.onSubmitSm_decided event conn sessionId request rfl, Responses.decided_status]
  | dataSm request => exact ⟨rfl, state.onDataSm_status event conn sessionId request⟩
  | cancelSm request =>
    refine ⟨rfl, ?_⟩
    show Smpp34.cancelSm.commandStatus (answerOptIn _ _ _ _ _ _ _ _).response = _
    rw [answerOptIn_decided _ _ _ _ _ _ (by decide), Responses.decided_status]
    rfl
  | querySm request =>
    refine ⟨rfl, ?_⟩
    show Smpp34.querySm.commandStatus _ = _
    rw [state.onQuerySm_decided event conn sessionId request rfl, Responses.decided_status]
  | replaceSm request =>
    refine ⟨rfl, ?_⟩
    show Smpp34.replaceSm.commandStatus (answerOptIn _ _ _ _ _ _ _ _).response = _
    rw [answerOptIn_decided _ _ _ _ _ _ (by decide), Responses.decided_status]
    rfl
  | submitSmMulti request =>
    refine ⟨rfl, ?_⟩
    show Smpp34.submitSmMulti.commandStatus _ = _
    rw [state.onSubmitSmMulti_decided event conn sessionId request rfl, Responses.decided_status]
  | bindDeliverSm listener request =>
    refine ⟨rfl, ?_⟩
    show Smpp34.deliverSm.commandStatus _ = _
    rw [listener.onDeliverSm_decided event conn sessionId request rfl, Responses.decided_status]
    rfl
  | bindDataSm listener request => exact ⟨rfl, answerDataSm_status event _ request _ []⟩

end Responding

/-! ### What the caller is told -/

/-- What a call returns to the script. -/
inductive CallResult where
  | smppResp (response : SmppResp)
  | queryResp (response : QueryResp)
  deriving DecidableEq, Repr

def CallResult.commandStatus : CallResult → String
  | .smppResp response => response.commandStatus
  | .queryResp response => response.commandStatus

def CallResult.commandStatusCode : CallResult → UInt32
  | .smppResp response => response.commandStatusCode
  | .queryResp response => response.commandStatusCode

/-- Whether the result of a call is truthy. -/
def CallResult.truth : CallResult → Bool
  | .smppResp response => response.truth
  | .queryResp response => response.ok

/-- A response as the helper reports it, and a PDU that has none. -/
def SendReport.result (codec : StatusCodec) : SendReport PeerResponse → CallResult
  | .reply (.querySmResp response) => .queryResp (QueryResp.fromReply codec response)
  | .reply response => .smppResp (SmppResp.fromReply codec response)
  | .written => .smppResp (SmppResp.written codec)

/-- What a caller is told of a reply that accepts its request. -/
def InboundRequest.accepted (reply : PduReply) : InboundRequest → CallResult
  | .submitSm _ | .submitSmMulti _ => .smppResp ⟨"ESME_ROK", 0, reply.messageId.getD ""⟩
  | .querySm _ => .queryResp ⟨"ESME_ROK", 0, reply.messageId.getD "", reply.messageState.getD 0,
      reply.finalDate, reply.errorCode⟩
  | _ => .smppResp ⟨"ESME_ROK", 0, ""⟩

section Telling

variable (codec : StatusCodec)

/-- The result of a response tells its status. -/
theorem SendReport.result_status (response : PeerResponse) (status : SmppError)
    (same : response.status = status.code) :
    ((SendReport.reply response).result codec).commandStatus = status.name ∧
    ((SendReport.reply response).result codec).commandStatusCode = status.code ∧
    (((SendReport.reply response).result codec).truth = true ↔ status = .esmeRok) := by
  have told : ((SendReport.reply response).result codec).commandStatus =
        statusName codec response.status ∧
      ((SendReport.reply response).result codec).commandStatusCode = response.status ∧
      (((SendReport.reply response).result codec).truth = true ↔ response.status = 0) := by
    cases response with
    | querySmResp response => exact ⟨rfl, rfl, beq_iff_eq⟩
    | submitSmResp commandStatus messageId => exact ⟨rfl, rfl, beq_iff_eq⟩
    | submitSmMultiResp commandStatus messageId => exact ⟨rfl, rfl, beq_iff_eq⟩
    | deliverSmResp commandStatus => exact ⟨rfl, rfl, beq_iff_eq⟩
    | dataSmResp commandStatus => exact ⟨rfl, rfl, beq_iff_eq⟩
    | cancelSmResp commandStatus => exact ⟨rfl, rfl, beq_iff_eq⟩
    | replaceSmResp commandStatus => exact ⟨rfl, rfl, beq_iff_eq⟩
  rw [same, statusName_code, status.code_eq_zero_iff] at told
  exact told

theorem SmppResp.fromReply_of_ok (reply : PeerResponse) (ok : reply.status = 0) :
    SmppResp.fromReply codec reply = ⟨"ESME_ROK", 0, reply.messageId⟩ := by
  rw [SmppResp.fromReply, ok]
  exact congrArg (SmppResp.mk · 0 reply.messageId) (statusName_code codec .esmeRok)

theorem QueryResp.fromReply_of_ok (reply : QuerySmResp) (ok : reply.commandStatus = 0) :
    QueryResp.fromReply codec reply = ⟨"ESME_ROK", 0, reply.messageId, reply.messageState,
      reply.finalDate, reply.errorCode⟩ := by
  rw [QueryResp.fromReply, ok]
  exact congrArg (QueryResp.mk · 0 reply.messageId reply.messageState reply.finalDate
    reply.errorCode) (statusName_code codec .esmeRok)

variable [Smpp34Bodies] (state : State) (event : Event) (conn : SmppConnectionInformation)
  (sessionId : String)

/-- An acceptance is told with the body of the reply. -/
theorem InboundRequest.result_accepted (inbound : InboundRequest)
    (ok : inbound.verdict state event sessionId (inbound.outcome state event conn sessionId) =
      .esmeRok) :
    (SendReport.reply (inbound.respond state event conn sessionId)).result codec =
      inbound.accepted (inbound.outcome state event conn sessionId).reply := by
  have status : (inbound.respond state event conn sessionId).status = 0 := by
    rw [(inbound.respond_status state event conn sessionId).2, ok]
    rfl
  have plain := SmppResp.fromReply_of_ok codec (inbound.respond state event conn sessionId) status
  cases inbound with
  | submitSm request =>
    refine congrArg CallResult.smppResp (plain.trans ?_)
    have body := state.onSubmitSm_decided event conn sessionId request rfl
    rw [ok, Responses.decided, if_pos rfl] at body
    show SmppResp.mk _ _ ((Smpp34Bodies.submitSmId _).getD "") = _
    rw [body, Smpp34Bodies.submitSmId_accept]
  | submitSmMulti request =>
    refine congrArg CallResult.smppResp (plain.trans ?_)
    have body := state.onSubmitSmMulti_decided event conn sessionId request rfl
    rw [ok, Responses.decided, if_pos rfl] at body
    show SmppResp.mk _ _ ((Smpp34Bodies.submitSmMultiId _).getD "") = _
    rw [body, Smpp34Bodies.submitSmMultiId_accept]
  | querySm request =>
    have body := state.onQuerySm_decided event conn sessionId request rfl
    rw [ok, Responses.decided, if_pos rfl] at body
    refine congrArg CallResult.queryResp ((QueryResp.fromReply_of_ok codec _ status).trans ?_)
    show QueryResp.mk _ _ (Smpp34Bodies.queryBody _).messageId _ _ _ = _
    rw [body, Smpp34Bodies.queryBody_accept]
  | dataSm request => exact congrArg CallResult.smppResp plain
  | cancelSm request => exact congrArg CallResult.smppResp plain
  | replaceSm request => exact congrArg CallResult.smppResp plain
  | bindDeliverSm listener request => exact congrArg CallResult.smppResp plain
  | bindDataSm listener request => exact congrArg CallResult.smppResp plain

end Telling

/-! ### The near peer -/

section Calling

variable [Smpp34] {Response : Type} (meets : Meets Response) {response : Response}

open Logged

omit [Smpp34] in
theorem Sending.returns_settling {settled : Except SendErrorValue Response}
    (came : settled = .ok response) :
    (Sending.settling settled).Returns (.reply response) := by
  rw [came]
  exact returns_pure _

/-- A call that is answered and comes to an end returns the response. -/
theorem SendCall.run_returns (answered : meets.sent = .ok response) (call : SendCall)
    (awaits : ∀ args, call ≠ .alertTo args) : (call.run meets).Returns (.reply response) := by
  have onBind : ∀ target bind command,
      settleOnBind meets.afterwards target bind command meets.sent meets.waited =
        .ok response := by
    intro target bind command
    rw [answered]
    rfl
  have onEsme : ∀ esme responseTimer sessionId command,
      settleOnEsme meets.afterwards esme responseTimer sessionId command meets.sent meets.waited =
        .ok response := by
    intro esme responseTimer sessionId command
    rw [answered]
    rfl
  cases call with
  | submitVia args =>
    refine Returns.andThen fun _ => Returns.andThen fun _ => Returns.andThen fun _ => ?_
    refine Returns.andThen fun _ => Returns.andThen fun _ => Returns.andThen fun _ => ?_
    exact Returns.andThen fun _ => Sending.returns_settling (onBind _ _ _)
  | submitMultiVia args =>
    refine Returns.andThen fun _ => Returns.andThen fun _ => Returns.andThen fun _ => ?_
    refine Returns.andThen fun _ => Returns.andThen fun _ => Returns.andThen fun _ => ?_
    refine Returns.andThen fun _ => Returns.andThen fun _ => ?_
    exact Sending.returns_settling (onBind _ _ _)
  | dataVia args =>
    refine Returns.andThen fun _ => Returns.andThen fun _ => Returns.andThen fun _ => ?_
    refine Returns.andThen fun _ => Returns.andThen fun _ => Returns.andThen fun _ => ?_
    exact Sending.returns_settling (onBind _ _ _)
  | cancelVia args =>
    refine Returns.andThen fun _ => Returns.andThen fun _ => Returns.andThen fun _ => ?_
    exact Returns.andThen fun _ => Sending.returns_settling (onBind _ _ _)
  | queryVia args =>
    refine Returns.andThen fun _ => Returns.andThen fun _ => Returns.andThen fun _ => ?_
    exact Returns.andThen fun _ => Sending.returns_settling (onBind _ _ _)
  | replaceVia args =>
    refine Returns.andThen fun _ => Returns.andThen fun _ => Returns.andThen fun _ => ?_
    refine Returns.andThen fun _ => Returns.andThen fun _ => ?_
    exact Sending.returns_settling (onBind _ _ _)
  | deliverTo args =>
    refine Returns.andThen fun _ => Returns.andThen fun _ => Returns.andThen fun _ => ?_
    refine Returns.andThen fun _ => Returns.andThen fun _ => Returns.andThen fun _ => ?_
    exact Returns.andThen fun _ => Sending.returns_settling (onEsme _ _ _ _)
  | dataTo args =>
    refine Returns.andThen fun _ => Returns.andThen fun _ => Returns.andThen fun _ => ?_
    refine Returns.andThen fun _ => Returns.andThen fun _ => ?_
    exact Sending.returns_settling (onEsme _ _ _ _)
  | alertTo args => exact absurd rfl (awaits args)

end Calling

/-! ### What the handler reads -/

def DataToArgs.relay (sessionId : String) (pdu : Pdu) : DataToArgs where
  sessionId := sessionId
  sourceAddr := pdu.sourceAddr
  destinationAddr := pdu.destinationAddr
  shortMessage := pdu.shortMessage
  sourceAddrTon := pdu.sourceAddrTon
  sourceAddrNpi := pdu.sourceAddrNpi
  destAddrTon := pdu.destAddrTon
  destAddrNpi := pdu.destAddrNpi
  serviceType := pdu.serviceType
  esmClass := pdu.esmClass
  registeredDelivery := pdu.registeredDelivery
  dataCoding := pdu.dataCoding
  tlvs := some pdu.tlvsDict

section Arriving

variable [Smpp34]

/-- The optional parameters of a `data_sm` are those of the call with the body of the call. -/
def Pdu.CarriesBody (pdu : Pdu) (shortMessage : List UInt8) (given : Option PyDict) : Prop :=
  ∃ tlvs, tlvsFromPy given = .ok tlvs ∧
    foldMessagePayload "data_sm" shortMessage tlvs = .ok pdu.tlvs ∧
    pdu.body = if shortMessage = [] then (messagePayload tlvs).getD [] else shortMessage

/-- A `Pdu` reads as the call it comes from: its attributes are the arguments, so that passing
them on is the call again, and its optional parameters are what the `tlvs` of the call stand for.
The type and the plan of the destinations of a `submit_sm_multi` are not read. -/
def SendCall.ReadBy (pdu : Pdu) : SendCall → Prop
  | .submitVia args => pdu.command = "submit_sm" ∧ tlvsFromPy args.tlvs = .ok pdu.tlvs ∧
    { SubmitViaArgs.relay args.bind pdu with tlvs := args.tlvs } = args
  | .submitMultiVia args => pdu.command = "submit_sm_multi" ∧ tlvsFromPy args.tlvs = .ok pdu.tlvs ∧
    { SubmitMultiViaArgs.relay args.bind pdu with
      destAddrTon := args.destAddrTon, destAddrNpi := args.destAddrNpi, tlvs := args.tlvs } = args
  | .dataVia args => pdu.command = "data_sm" ∧ pdu.CarriesBody args.shortMessage args.tlvs ∧
    { DataViaArgs.relay args.bind pdu with
      shortMessage := args.shortMessage, tlvs := args.tlvs } = args
  | .cancelVia args => pdu.command = "cancel_sm" ∧ CancelViaArgs.relay args.bind pdu = args
  | .queryVia args => pdu.command = "query_sm" ∧ QueryViaArgs.relay args.bind pdu = args
  | .replaceVia args => pdu.command = "replace_sm" ∧ ReplaceViaArgs.relay args.bind pdu = args
  | .deliverTo args => pdu.command = "deliver_sm" ∧ tlvsFromPy args.tlvs = .ok pdu.tlvs ∧
    { DeliverToArgs.relay args.sessionId pdu with tlvs := args.tlvs } = args
  | .dataTo args => pdu.command = "data_sm" ∧ pdu.CarriesBody args.shortMessage args.tlvs ∧
    { DataToArgs.relay args.sessionId pdu with
      shortMessage := args.shortMessage, tlvs := args.tlvs } = args
  | .alertTo _ => False

theorem Pdu.carriesBody_of_folded {shortMessage : List UInt8} {given : Option PyDict}
    {tlvs folded : List Tlv} (converted : tlvsFromPy given = .ok tlvs)
    (done : foldMessagePayload "data_sm" shortMessage tlvs = .ok folded) (request : DataSm)
    (same : request.tlvs = folded) : (Pdu.fromData request).CarriesBody shortMessage given := by
  subst same
  refine ⟨tlvs, converted, done, ?_⟩
  rw [Pdu.body_eq_getD]
  show (messagePayload request.tlvs).getD [] = _
  rw [messagePayload_of_folded shortMessage tlvs "data_sm" request.tlvs done]
  split
  · rfl
  · rfl

omit [Smpp34] in
theorem submitted_eq_ok {Session Request : Type} {call : Except PyErr (Awaitable Session Request)}
    {registry : State} {toHandle : Arc Session → Handle} {toRequest : Request → SendRequest}
    {handle : Handle} {request : SendRequest}
    (submitted : (do
      let submission ← (← call) registry
      return (toHandle submission.session, toRequest submission.request)) =
        Except.ok (handle, request)) :
    ∃ awaitable submission, call = .ok awaitable ∧ awaitable registry = .ok submission ∧
      handle = toHandle submission.session ∧ request = toRequest submission.request := by
  obtain ⟨awaitable, called, rest⟩ := (bind_eq_ok_iff _ _ _).mp submitted
  obtain ⟨submission, handed, same⟩ := (bind_eq_ok_iff _ _ _).mp rest
  rw [pure_eq_ok_iff] at same
  exact ⟨awaitable, submission, called, handed, congrArg Prod.fst same, congrArg Prod.snd same⟩

omit [Smpp34] in
theorem unpacedOnBind_request {Request : Type} (bind : String) (request : Request) (state : State)
    (submission : Submission Smsc Request)
    (handed : unpacedOnBind bind request state = .ok submission) :
    submission.request = request := by
  obtain ⟨target, _, same⟩ := (bind_eq_ok_iff _ _ _).mp handed
  rw [← Except.ok.inj same]

omit [Smpp34] in
/-- What a wire that carries a request delivers is that request. -/
theorem inbound_of_carried {Request : Type} {decoded : Option Request} {request : Request}
    {toInbound : Request → InboundRequest} {inbound : InboundRequest}
    (arrives : decoded.map toInbound = some inbound) (carried : decoded = some request) :
    inbound = toInbound request := by
  rw [carried] at arrives
  exact (Option.some.inj arrives).symm

/-- What arrives over a wire that carries it reads as the call that was made. -/
theorem SendCall.readBy_of_delivers (call : SendCall) {runtime : Option State} {registry : State}
    {handle : Handle} {request : SendRequest}
    (submitted : call.submission runtime registry = .ok (handle, request)) {wire : Wire}
    {far : BindListener} {inbound : InboundRequest}
    (arrives : handle.delivers wire far request = some inbound) (carried : wire.Carries request) :
    call.ReadBy inbound.pdu := by
  cases call with
  | submitVia args =>
    obtain ⟨awaitable, submission, called, handed, rfl, rfl⟩ := submitted_eq_ok submitted
    obtain ⟨_, _, tlvs, converted, rfl⟩ := (submitVia_eq_ok_iff _ _ _).mp called
    have sent := pacedOnBind_request _ _ _ _ handed
    rw [inbound_of_carried arrives carried, InboundRequest.pdu, sent]
    exact ⟨rfl, converted, rfl⟩
  | submitMultiVia args =>
    obtain ⟨awaitable, submission, called, handed, rfl, rfl⟩ := submitted_eq_ok submitted
    obtain ⟨_, _, _, tlvs, converted, rfl⟩ := (submitMultiVia_eq_ok_iff _ _ _).mp called
    have sent := pacedOnBind_request _ _ _ _ handed
    have listed : args.destAddresses.map DestAddress.name = args.destinations := by
      rw [SubmitMultiViaArgs.destAddresses, List.map_map]
      exact List.map_id _
    rw [inbound_of_carried arrives carried, InboundRequest.pdu, sent]
    refine ⟨rfl, converted, ?_⟩
    simp only [SubmitMultiViaArgs.relay, Pdu.fromSubmitMulti, SubmitMultiViaArgs.request, listed]
  | dataVia args =>
    obtain ⟨awaitable, submission, called, handed, rfl, rfl⟩ := submitted_eq_ok submitted
    obtain ⟨_, tlvs, converted, pdu, built, rfl⟩ := (dataVia_eq_ok_iff _ _ _).mp called
    obtain ⟨folded, done, rfl⟩ := (buildDataSm_eq_ok_iff _ _ _ _ _ _ _ _ _ _ _ _ _).mp built
    have sent := pacedOnBind_request _ _ _ _ handed
    rw [inbound_of_carried arrives carried, InboundRequest.pdu, sent]
    exact ⟨rfl, Pdu.carriesBody_of_folded converted done _ rfl, rfl⟩
  | cancelVia args =>
    obtain ⟨awaitable, submission, called, handed, rfl, rfl⟩ := submitted_eq_ok submitted
    obtain ⟨_, rfl⟩ := (cancelVia_eq_ok_iff _ _ _).mp called
    have sent := unpacedOnBind_request _ _ _ _ handed
    rw [inbound_of_carried arrives carried, InboundRequest.pdu, sent]
    exact ⟨rfl, rfl⟩
  | queryVia args =>
    obtain ⟨awaitable, submission, called, handed, rfl, rfl⟩ := submitted_eq_ok submitted
    obtain ⟨_, rfl⟩ := (queryVia_eq_ok_iff _ _ _).mp called
    have sent := unpacedOnBind_request _ _ _ _ handed
    rw [inbound_of_carried arrives carried, InboundRequest.pdu, sent]
    exact ⟨rfl, rfl⟩
  | replaceVia args =>
    obtain ⟨awaitable, submission, called, handed, rfl, rfl⟩ := submitted_eq_ok submitted
    obtain ⟨_, _, rfl⟩ := (replaceVia_eq_ok_iff _ _ _).mp called
    have sent := unpacedOnBind_request _ _ _ _ handed
    rw [inbound_of_carried arrives carried, InboundRequest.pdu, sent]
    exact ⟨rfl, rfl⟩
  | deliverTo args =>
    obtain ⟨awaitable, submission, called, handed, rfl, rfl⟩ := submitted_eq_ok submitted
    obtain ⟨_, _, tlvs, converted, rfl⟩ := (deliverTo_eq_ok_iff _ _ _).mp called
    have sent := onReceiver_request _ _ _ _ _ handed
    rw [inbound_of_carried arrives carried, InboundRequest.pdu, sent]
    exact ⟨rfl, converted, rfl⟩
  | dataTo args =>
    obtain ⟨awaitable, submission, called, handed, rfl, rfl⟩ := submitted_eq_ok submitted
    obtain ⟨_, tlvs, converted, pdu, built, rfl⟩ := (dataTo_eq_ok_iff _ _ _).mp called
    obtain ⟨folded, done, rfl⟩ := (buildDataSm_eq_ok_iff _ _ _ _ _ _ _ _ _ _ _ _ _).mp built
    have sent := onEsme_request _ _ _ _ handed
    rw [inbound_of_carried arrives carried, InboundRequest.pdu, sent]
    exact ⟨rfl, Pdu.carriesBody_of_folded converted done _ rfl, rfl⟩
  | alertTo args =>
    obtain ⟨awaitable, submission, called, handed, rfl, rfl⟩ := submitted_eq_ok submitted
    cases arrives

/-- A call whose request arrives is one that has a response. -/
theorem SendCall.awaits_of_delivers (call : SendCall) {runtime : Option State} {registry : State}
    {handle : Handle} {request : SendRequest}
    (submitted : call.submission runtime registry = .ok (handle, request)) {wire : Wire}
    {far : BindListener} {inbound : InboundRequest}
    (arrives : handle.delivers wire far request = some inbound) (args : AlertToArgs) :
    call ≠ .alertTo args := by
  rintro rfl
  obtain ⟨awaitable, submission, called, handed, rfl, rfl⟩ := submitted_eq_ok submitted
  exact absurd arrives nofun

end Arriving

/-! ### A call between two scripts -/

/-- A peer whose handler of `query_sm` answers that the message was delivered. -/
def deliveredHandler : Event where
  script :=
    { tryRun := .ok ()
      arguments := fun _ => .ok ()
      call := fun _ _ => .ok (.pduReply ⟨.esmeRok, some "42", some 2, "260101120000", 0, []⟩)
      submit := .ok ()
      awaited := .done
      coroutineTimeout := 30 }
  source := fun _ => [⟨7, false, some "query_sm"⟩]
  metricsEnabled := true
  limiters := fun _ => ⟨false, true⟩

end SiphonSmpp
