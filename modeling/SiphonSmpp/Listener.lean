/-
This file models the listeners that answer inbound requests (`src/runtime.rs`):
the six PDU methods of an ESME session, the two of an outbound bind, and the
`bind_transceiver` method. Each returns the one response it built together with
the metrics it recorded on the way.

Every PDU method decides the same way, with its own default for a command
without a handler: over the cap, no handler, a reply with `ESME_ROK`, a reply
with another status, no reply at all. The opt-in commands differ in nothing but
their names, statuses and accepted bodies, and so do the two `data_sm` methods.
-/

import SiphonSmpp.Dispatch
import SiphonSmpp.Registry

namespace SiphonSmpp

/-! ### Metrics -/

/-- The `direction` label. -/
inductive Direction where
  | inbound
  | egress
  deriving DecidableEq, Repr

/-- The `result` label. -/
inductive PduResult where
  | accepted
  | rejected
  deriving DecidableEq, Repr

/-- The metric calls a listener makes. -/
inductive Metric where
  | recordPdu (direction : Direction) (command : String) (result : PduResult)
  | recordThrottled (direction : Direction)
  | observeDispatch (command : String)
  | recordDispatchError (command : String)
  | recordBindRequest (result : PduResult)
  deriving DecidableEq, Repr

def Metric.isRecordPdu : Metric → Bool
  | .recordPdu _ _ _ => true
  | _ => false

/-- A response together with the metrics recorded while it was made. -/
structure Answered (Response : Type) where
  response : Response
  metrics : List Metric

/-! ### Events -/

/-- What a limiter answers to a call: whether `acquire` had to wait before it was granted
its token, and whether `try_acquire` was granted one. -/
structure LimiterAnswer where
  acquire : Bool
  tryAcquire : Bool
  deriving DecidableEq, Repr

/-- What an inbound request meets: the script, the registered handlers, whether the metrics
engine is up, and what the limiters answer. -/
structure Event where
  script : Script
  source : HandlerSource
  metricsEnabled : Bool
  limiters : LimiterHandle → LimiterAnswer

inductive InboundAdmit where
  | proceed
  | throttled
  deriving DecidableEq, Repr

/-- Admit or throttle an inbound message against the limiter of its session. -/
def State.admitInbound (state : State) (event : Event) (sessionId : String) :
    InboundAdmit × List Metric :=
  match state.inboundLimiter sessionId with
  | none => (.proceed, [])
  | some limiter =>
    match state.inboundThrottleAction with
    | .pace =>
      if (event.limiters limiter).acquire then (.proceed, [.recordThrottled .inbound])
      else (.proceed, [])
    | .reject =>
      if (event.limiters limiter).tryAcquire then (.proceed, [])
      else (.throttled, [.recordThrottled .inbound])

/-- Dispatch a PDU, timing the handler and counting a failed one. -/
def dispatchPduOpt (event : Event) (command : String) (pdu : Pdu) (session : Session) :
    Option (Except DispatchError PduReply) × List Metric :=
  match Dispatch.pdu event.script event.source command pdu session with
  | none => (none, [])
  | some result =>
    (some result,
      (if event.metricsEnabled then [.observeDispatch command] else []) ++
        match result with
        | .error _ => [.recordDispatchError command]
        | .ok _ => [])

/-- Dispatch a PDU of an always-acknowledged command: no handler means `ESME_ROK`. -/
def dispatchPdu (event : Event) (command : String) (pdu : Pdu) (session : Session) :
    Except DispatchError PduReply × List Metric :=
  match dispatchPduOpt event command pdu session with
  | (some result, metrics) => (result, metrics)
  | (none, metrics) => (.ok PduReply.defaultOk, metrics)

section Listeners

variable [Smpp34]

/-! ### Responses -/

def withRespTlvs (response : Smpp34.dataSm.Response) (tlvs : List Tlv) :
    Smpp34.dataSm.Response :=
  tlvs.foldl Smpp34.pushTlv response

def submitSmResponse (request : SubmitSm) (reply : PduReply) : Smpp34.submitSm.Response :=
  if reply.commandStatus = .esmeRok then
    Smpp34.submitSm.accept request (reply.messageId.getD "")
  else
    Smpp34.submitSm.reject request reply.commandStatus

def dataSmResponse (request : DataSm) (reply : PduReply) : Smpp34.dataSm.Response :=
  let response :=
    if reply.commandStatus = .esmeRok then
      Smpp34.dataSm.accept request (reply.messageId.getD "")
    else
      Smpp34.dataSm.reject request reply.commandStatus
  withRespTlvs response reply.tlvs

/-! ### The decisions the methods share -/

/-- Hold a request against the cap of its session before it is dispatched. -/
def State.admitting {Request Accepted : Type} (state : State) (event : Event) (sessionId : String)
    (responses : Responses Request Accepted) (command : String) (request : Request)
    (proceed : List Metric → Answered responses.Response) : Answered responses.Response :=
  match state.admitInbound event sessionId with
  | (.throttled, metrics) =>
    ⟨responses.reject request .esmeRthrottled,
      metrics ++ [.recordPdu .inbound command .rejected]⟩
  | (.proceed, metrics) => proceed metrics

/-- Answer a command that is rejected with a status of its own when it has no handler or the
handler gave no reply. -/
def answerOptIn {Request Accepted : Type} (responses : Responses Request Accepted)
    (direction : Direction) (command : String) (failure : SmppError)
    (accepted : PduReply → Accepted) (request : Request) (metrics : List Metric)
    (dispatched : Option (Except DispatchError PduReply) × List Metric) :
    Answered responses.Response :=
  match dispatched with
  | (none, more) =>
    ⟨responses.reject request failure,
      metrics ++ more ++ [.recordPdu direction command .rejected]⟩
  | (some (.ok reply), more) =>
    if reply.commandStatus = .esmeRok then
      ⟨responses.accept request (accepted reply),
        metrics ++ more ++ [.recordPdu direction command .accepted]⟩
    else
      ⟨responses.reject request reply.commandStatus,
        metrics ++ more ++ [.recordPdu direction command .rejected]⟩
  | (some (.error _), more) =>
    ⟨responses.reject request failure,
      metrics ++ more ++ [.recordPdu direction command .rejected]⟩

/-- Answer a `data_sm`, on either kind of session: the response is built from the reply first
and counted by its status. -/
def answerDataSm (direction : Direction) (request : DataSm) (metrics : List Metric)
    (dispatched : Option (Except DispatchError PduReply) × List Metric) :
    Answered Smpp34.dataSm.Response :=
  match dispatched with
  | (none, more) =>
    ⟨Smpp34.dataSm.reject request .esmeRsyserr,
      metrics ++ more ++ [.recordPdu direction "data_sm" .rejected]⟩
  | (some (.ok reply), more) =>
    let response := dataSmResponse request reply
    let result := if Smpp34.dataSm.isSuccess response then .accepted else .rejected
    ⟨response, metrics ++ more ++ [.recordPdu direction "data_sm" result]⟩
  | (some (.error _), more) =>
    ⟨Smpp34.dataSm.reject request .esmeRsyserr,
      metrics ++ more ++ [.recordPdu direction "data_sm" .rejected]⟩

/-! ### The methods of an ESME session -/

/-- A `submit_sm` is acknowledged without a handler. -/
def State.onSubmitSm (state : State) (event : Event) (request : SubmitSm)
    (conn : SmppConnectionInformation) (sessionId : String) :
    Answered Smpp34.submitSm.Response :=
  state.admitting event sessionId Smpp34.submitSm "submit_sm" request fun metrics =>
    match dispatchPdu event "submit_sm" (Pdu.fromSubmit request)
      (state.esmeSession sessionId conn) with
    | (.ok reply, more) =>
      let response := submitSmResponse request reply
      let result := if Smpp34.submitSm.isSuccess response then .accepted else .rejected
      ⟨response, metrics ++ more ++ [.recordPdu .inbound "submit_sm" result]⟩
    | (.error _, more) =>
      ⟨Smpp34.submitSm.reject request .esmeRsyserr,
        metrics ++ more ++ [.recordPdu .inbound "submit_sm" .rejected]⟩

def State.onDataSm (state : State) (event : Event) (request : DataSm)
    (conn : SmppConnectionInformation) (sessionId : String) :
    Answered Smpp34.dataSm.Response :=
  state.admitting event sessionId Smpp34.dataSm "data_sm" request fun metrics =>
    answerDataSm .inbound request metrics
      (dispatchPduOpt event "data_sm" (Pdu.fromData request) (state.esmeSession sessionId conn))

def State.onCancelSm (state : State) (event : Event) (request : CancelSm)
    (conn : SmppConnectionInformation) (sessionId : String) :
    Answered Smpp34.cancelSm.Response :=
  answerOptIn Smpp34.cancelSm .inbound "cancel_sm" .esmeRcancelfail (fun _ => ()) request []
    (dispatchPduOpt event "cancel_sm" (Pdu.fromCancel request) (state.esmeSession sessionId conn))

def State.onQuerySm (state : State) (event : Event) (request : QuerySm)
    (conn : SmppConnectionInformation) (sessionId : String) :
    Answered Smpp34.querySm.Response :=
  answerOptIn Smpp34.querySm .inbound "query_sm" .esmeRqueryfail
    (fun reply =>
      ⟨reply.messageId.getD "", reply.finalDate, reply.messageState.getD 0, reply.errorCode⟩)
    request []
    (dispatchPduOpt event "query_sm" (Pdu.fromQuery request) (state.esmeSession sessionId conn))

def State.onReplaceSm (state : State) (event : Event) (request : ReplaceSm)
    (conn : SmppConnectionInformation) (sessionId : String) :
    Answered Smpp34.replaceSm.Response :=
  answerOptIn Smpp34.replaceSm .inbound "replace_sm" .esmeRreplacefail (fun _ => ()) request []
    (dispatchPduOpt event "replace_sm" (Pdu.fromReplace request)
      (state.esmeSession sessionId conn))

/-- A `submit_sm_multi` is accepted with no destination listed as unsuccessful. -/
def State.onSubmitSmMulti (state : State) (event : Event) (request : SubmitSmMulti)
    (conn : SmppConnectionInformation) (sessionId : String) :
    Answered Smpp34.submitSmMulti.Response :=
  state.admitting event sessionId Smpp34.submitSmMulti "submit_sm_multi" request fun metrics =>
    answerOptIn Smpp34.submitSmMulti .inbound "submit_sm_multi" .esmeRsyserr
      (fun reply => (reply.messageId.getD "", [])) request metrics
      (dispatchPduOpt event "submit_sm_multi" (Pdu.fromSubmitMulti request)
        (state.esmeSession sessionId conn))

/-! ### The methods of an outbound bind -/

/-- A `deliver_sm` is acknowledged without a handler. -/
def BindListener.onDeliverSm (listener : BindListener) (event : Event) (request : DeliverSm)
    (conn : SmppConnectionInformation) (sessionId : String) :
    Answered Smpp34.deliverSm.Response :=
  match dispatchPdu event "deliver_sm" (Pdu.fromDeliver request)
    (listener.bindSession sessionId conn) with
  | (.ok reply, metrics) =>
    if reply.commandStatus = .esmeRok then
      ⟨Smpp34.deliverSm.accept request (),
        metrics ++ [.recordPdu .egress "deliver_sm" .accepted]⟩
    else
      ⟨Smpp34.deliverSm.reject request reply.commandStatus,
        metrics ++ [.recordPdu .egress "deliver_sm" .rejected]⟩
  | (.error _, metrics) =>
    ⟨Smpp34.deliverSm.reject request .esmeRsyserr,
      metrics ++ [.recordPdu .egress "deliver_sm" .rejected]⟩

def BindListener.onDataSm (listener : BindListener) (event : Event) (request : DataSm)
    (conn : SmppConnectionInformation) (sessionId : String) :
    Answered Smpp34.dataSm.Response :=
  answerDataSm .egress request []
    (dispatchPduOpt event "data_sm" (Pdu.fromData request) (listener.bindSession sessionId conn))

/-! ### Inbound binds -/

def onBindTransceiver (event : Event) (request : BindTransceiver)
    (conn : SmppConnectionInformation) : Answered Smpp34.bindTransceiver.Response :=
  let bind : Bind := ⟨request.systemId, request.password, conn.clientAddress⟩
  let outcome := Dispatch.bind event.script event.source bind
  if !outcome.accept then
    ⟨Smpp34.bindTransceiver.reject request outcome.status, [.recordBindRequest .rejected]⟩
  else
    ⟨Smpp34.bindTransceiver.accept request (request.systemId, some 0x34),
      [.recordBindRequest .accepted]⟩

end Listeners

end SiphonSmpp
