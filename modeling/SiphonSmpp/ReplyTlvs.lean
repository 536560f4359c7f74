/-
This file follows the optional parameters of a reply from the call that built it
to the response that is sent. A script builds a reply with `pdu.reply(...)` or
with `PduReply(...)`; of the responses only `data_sm_resp` is given the
parameters. `Pdu::reply` therefore refuses them off the `data_sm` path, but the
`PduReply` constructor does not know the command it will answer.
-/

import SiphonSmpp.Answer

namespace SiphonSmpp

/-! ### The optional parameters of a response -/

/-- Reads the optional parameters of one response type, of which its builders set none. -/
structure ResponseTlvs {Request Accepted : Type} (responses : Responses Request Accepted) where
  read : responses.Response → List Tlv
  accept_none : ∀ request accepted, read (responses.accept request accepted) = []
  reject_none : ∀ request status, read (responses.reject request status) = []

/-- The readers of the responses a listener sends; `push_tlv` puts a parameter last. -/
class Smpp34Tlvs extends Smpp34 where
  submitSmTlvs : ResponseTlvs submitSm
  dataSmTlvs : ResponseTlvs dataSm
  cancelSmTlvs : ResponseTlvs cancelSm
  querySmTlvs : ResponseTlvs querySm
  replaceSmTlvs : ResponseTlvs replaceSm
  submitSmMultiTlvs : ResponseTlvs submitSmMulti
  deliverSmTlvs : ResponseTlvs deliverSm
  pushTlv_read : ∀ response tlv,
    dataSmTlvs.read (pushTlv response tlv) = dataSmTlvs.read response ++ [tlv]

/-- The reader of the responses that store what they are given. -/
def storedTlvs (Request Accepted : Type) : ResponseTlvs (storedResponses Request Accepted) where
  read response := response.tlvs
  accept_none _ _ := rfl
  reject_none _ _ := rfl

/-- The codec that stores what it is given, with its readers. -/
@[reducible] def storingTlvs : Smpp34Tlvs where
  toSmpp34 := storingCodec
  submitSmTlvs := storedTlvs SubmitSm String
  dataSmTlvs := storedTlvs DataSm String
  cancelSmTlvs := storedTlvs CancelSm Unit
  querySmTlvs := storedTlvs QuerySm QueryAccepted
  replaceSmTlvs := storedTlvs ReplaceSm Unit
  submitSmMultiTlvs := storedTlvs SubmitSmMulti (String × List (DestAddress × UInt32))
  deliverSmTlvs := storedTlvs DeliverSm Unit
  pushTlv_read _ _ := rfl

/-! ### The calls that build a reply -/

/-- The two calls that take `tlvs=`: the `reply` method of a `Pdu` the script holds, and the
constructor. -/
inductive ReplyCall where
  | reply (pdu : Pdu) (commandStatus : String) (messageId : Option String)
    (tlvs : Option PyDict)
  | new (commandStatus : String) (messageId : Option String) (tlvs : Option PyDict)

def ReplyCall.commandStatus : ReplyCall → String
  | .reply _ commandStatus _ _ => commandStatus
  | .new commandStatus _ _ => commandStatus

def ReplyCall.tlvs : ReplyCall → Option PyDict
  | .reply _ _ _ tlvs => tlvs
  | .new _ _ tlvs => tlvs

def ReplyCall.build [Smpp34] : ReplyCall → Except PyErr PduReply
  | .reply pdu commandStatus messageId tlvs => pdu.reply commandStatus messageId tlvs
  | .new commandStatus messageId tlvs => PduReply.new commandStatus messageId tlvs

/-- The call is made on a `Pdu` whose response has no optional parameters. -/
def ReplyCall.OnPlainPdu : ReplyCall → Prop
  | .reply pdu _ _ _ => pdu.command ≠ "data_sm"
  | .new _ _ _ => False

/-- The arguments of the call stand for a status and for optional parameters. -/
def ReplyCall.Converts [Smpp34] (call : ReplyCall) : Prop :=
  (∃ status, parseSmppStatus call.commandStatus = .ok status) ∧
    ∃ tlvs, tlvsFromPy call.tlvs = .ok tlvs

section Building

variable [Smpp34]

theorem converted_eq_nil_iff (dict : Option PyDict) (tlvs : List Tlv)
    (done : tlvsFromPy dict = .ok tlvs) : tlvs = [] ↔ dictItems dict = [] := by
  have converted := converted_of_tlvsFromPy dict tlvs done
  rw [List.eq_nil_iff_forall_not_mem, List.eq_nil_iff_forall_not_mem]
  constructor
  · intro none item member
    obtain ⟨tlv, encodes⟩ := converted.encodes item member
    exact none tlv ((converted.mem_iff tlv).mpr ⟨item, member, encodes⟩)
  · intro none tlv member
    obtain ⟨item, listed, _⟩ := (converted.mem_iff tlv).mp member
    exact none item listed

/-- A call builds a reply with optional parameters exactly when its arguments convert, there are
some, and it was not made on a `Pdu` whose response has none. -/
theorem ReplyCall.builds_tlvs_iff (call : ReplyCall) :
    (∃ reply, call.build = .ok reply ∧ reply.tlvs ≠ []) ↔
      call.Converts ∧ dictItems call.tlvs ≠ [] ∧ ¬ call.OnPlainPdu := by
  constructor
  · rintro ⟨reply, built, some⟩
    cases call with
    | reply pdu commandStatus messageId given =>
      obtain ⟨status, parsed, next⟩ := (bind_eq_ok_iff _ _ _).mp built
      obtain ⟨tlvs, converted, next⟩ := (bind_eq_ok_iff _ _ _).mp next
      obtain ⟨allowed, done⟩ := (ite_throw_eq_ok_iff _ _ _ _).mp next
      cases (pure_eq_ok_iff _ _).mp done
      refine ⟨⟨⟨status, parsed⟩, tlvs, converted⟩, ?_, fun plain => allowed ⟨some, plain⟩⟩
      exact fun none => some ((converted_eq_nil_iff given tlvs converted).mpr none)
    | new commandStatus messageId given =>
      obtain ⟨status, parsed, next⟩ := (bind_eq_ok_iff _ _ _).mp built
      obtain ⟨tlvs, converted, done⟩ := (bind_eq_ok_iff _ _ _).mp next
      cases (pure_eq_ok_iff _ _).mp done
      refine ⟨⟨⟨status, parsed⟩, tlvs, converted⟩, ?_, id⟩
      exact fun none => some ((converted_eq_nil_iff given tlvs converted).mpr none)
  · rintro ⟨⟨⟨status, parsed⟩, tlvs, converted⟩, listed, notPlain⟩
    have some : tlvs ≠ [] := fun none => listed ((converted_eq_nil_iff _ _ converted).mp none)
    cases call with
    | reply pdu commandStatus messageId given =>
      refine ⟨⟨status, messageId, none, "", 0, tlvs⟩, ?_, some⟩
      refine (bind_eq_ok_iff _ _ _).mpr ⟨status, parsed, ?_⟩
      refine (bind_eq_ok_iff _ _ _).mpr ⟨tlvs, converted, ?_⟩
      exact (ite_throw_eq_ok_iff _ _ _ _).mpr ⟨fun refused => notPlain refused.2, rfl⟩
    | new commandStatus messageId given =>
      refine ⟨⟨status, messageId, none, "", 0, tlvs⟩, ?_, some⟩
      refine (bind_eq_ok_iff _ _ _).mpr ⟨status, parsed, ?_⟩
      exact (bind_eq_ok_iff _ _ _).mpr ⟨tlvs, converted, rfl⟩

end Building

/-! ### The response that is sent -/

section Sent

variable [Smpp34Tlvs]

/-- The optional parameters of the response to a request. -/
def InboundRequest.responseTlvs (inbound : InboundRequest) (state : State) (event : Event)
    (conn : SmppConnectionInformation) (sessionId : String) : List Tlv :=
  match inbound with
  | .submitSm request =>
    Smpp34Tlvs.submitSmTlvs.read (state.onSubmitSm event request conn sessionId).response
  | .dataSm request =>
    Smpp34Tlvs.dataSmTlvs.read (state.onDataSm event request conn sessionId).response
  | .cancelSm request =>
    Smpp34Tlvs.cancelSmTlvs.read (state.onCancelSm event request conn sessionId).response
  | .querySm request =>
    Smpp34Tlvs.querySmTlvs.read (state.onQuerySm event request conn sessionId).response
  | .replaceSm request =>
    Smpp34Tlvs.replaceSmTlvs.read (state.onReplaceSm event request conn sessionId).response
  | .submitSmMulti request =>
    Smpp34Tlvs.submitSmMultiTlvs.read
      (state.onSubmitSmMulti event request conn sessionId).response
  | .bindDeliverSm listener request =>
    Smpp34Tlvs.deliverSmTlvs.read (listener.onDeliverSm event request conn sessionId).response
  | .bindDataSm listener request =>
    Smpp34Tlvs.dataSmTlvs.read (listener.onDataSm event request conn sessionId).response

theorem withRespTlvs_read (response : Smpp34.dataSm.Response) (tlvs : List Tlv) :
    Smpp34Tlvs.dataSmTlvs.read (withRespTlvs response tlvs) =
      Smpp34Tlvs.dataSmTlvs.read response ++ tlvs := by
  induction tlvs generalizing response with
  | nil => exact (List.append_nil _).symm
  | cons tlv rest inductionHypothesis =>
    rw [withRespTlvs, List.foldl_cons, ← withRespTlvs, inductionHypothesis,
      Smpp34Tlvs.pushTlv_read, List.append_assoc, List.singleton_append]

/-- A `data_sm` response carries the parameters of its reply, whatever its status. -/
theorem dataSmResponse_read (request : DataSm) (reply : PduReply) :
    Smpp34Tlvs.dataSmTlvs.read (dataSmResponse request reply) = reply.tlvs := by
  unfold dataSmResponse
  rw [withRespTlvs_read]
  split
  · rw [Smpp34Tlvs.dataSmTlvs.accept_none, List.nil_append]
  · rw [Smpp34Tlvs.dataSmTlvs.reject_none, List.nil_append]

section Plain

variable {Request Accepted : Type} {responses : Responses Request Accepted}
  (tlvs : ResponseTlvs responses) (request : Request)

omit [Smpp34Tlvs] in
theorem State.admitting_read (state : State) (event : Event) (sessionId command : String)
    (proceed : List Metric → Answered responses.Response)
    (none : ∀ metrics, tlvs.read (proceed metrics).response = []) :
    tlvs.read (state.admitting event sessionId responses command request proceed).response =
      [] := by
  unfold State.admitting
  split
  · exact tlvs.reject_none _ _
  · exact none _

omit [Smpp34Tlvs] in
theorem answerOptIn_read (direction : Direction) (command : String) (failure : SmppError)
    (accepted : PduReply → Accepted) (metrics : List Metric)
    (dispatched : Option (Except DispatchError PduReply) × List Metric) :
    tlvs.read (answerOptIn responses direction command failure accepted request metrics
      dispatched).response = [] := by
  unfold answerOptIn
  split
  · exact tlvs.reject_none _ _
  · split
    · exact tlvs.accept_none _ _
    · exact tlvs.reject_none _ _
  · exact tlvs.reject_none _ _

end Plain

theorem State.onSubmitSm_read (state : State) (event : Event) (request : SubmitSm)
    (conn : SmppConnectionInformation) (sessionId : String) :
    Smpp34Tlvs.submitSmTlvs.read (state.onSubmitSm event request conn sessionId).response = [] := by
  refine State.admitting_read Smpp34Tlvs.submitSmTlvs request state event sessionId _ _ ?_
  intro metrics
  dsimp only
  split
  · unfold submitSmResponse
    split
    · exact Smpp34Tlvs.submitSmTlvs.accept_none _ _
    · exact Smpp34Tlvs.submitSmTlvs.reject_none _ _
  · exact Smpp34Tlvs.submitSmTlvs.reject_none _ _

theorem BindListener.onDeliverSm_read (listener : BindListener) (event : Event)
    (request : DeliverSm) (conn : SmppConnectionInformation) (sessionId : String) :
    Smpp34Tlvs.deliverSmTlvs.read
      (listener.onDeliverSm event request conn sessionId).response = [] := by
  unfold BindListener.onDeliverSm
  split
  · split
    · exact Smpp34Tlvs.deliverSmTlvs.accept_none _ _
    · exact Smpp34Tlvs.deliverSmTlvs.reject_none _ _
  · exact Smpp34Tlvs.deliverSmTlvs.reject_none _ _

/-- No response but a `data_sm_resp` carries optional parameters, whatever the handler did. -/
theorem InboundRequest.responseTlvs_eq_nil (inbound : InboundRequest) (state : State)
    (event : Event) (conn : SmppConnectionInformation) (sessionId : String)
    (plain : inbound.command ≠ "data_sm") :
    inbound.responseTlvs state event conn sessionId = [] := by
  cases inbound with
  | submitSm request => exact state.onSubmitSm_read event request conn sessionId
  | dataSm request => exact absurd rfl plain
  | cancelSm request => exact answerOptIn_read Smpp34Tlvs.cancelSmTlvs request _ _ _ _ _ _
  | querySm request => exact answerOptIn_read Smpp34Tlvs.querySmTlvs request _ _ _ _ _ _
  | replaceSm request => exact answerOptIn_read Smpp34Tlvs.replaceSmTlvs request _ _ _ _ _ _
  | submitSmMulti request =>
    refine State.admitting_read Smpp34Tlvs.submitSmMultiTlvs request state event sessionId _ _ ?_
    intro metrics
    exact answerOptIn_read Smpp34Tlvs.submitSmMultiTlvs request _ _ _ _ _ _
  | bindDeliverSm listener request => exact listener.onDeliverSm_read event request conn sessionId
  | bindDataSm listener request => exact absurd rfl plain

/-- An admitted `data_sm` is answered with the parameters of the reply its handler returned. -/
theorem InboundRequest.responseTlvs_dataSm (inbound : InboundRequest) (state : State)
    (event : Event) (conn : SmppConnectionInformation) (sessionId : String)
    (dataSm : inbound.command = "data_sm") (admitted : inbound.Admitted state event sessionId)
    (reply : PduReply)
    (returned : event.handledPdu inbound.command inbound.pdu
      (inbound.session state conn sessionId) = .returned (.pduReply reply)) :
    inbound.responseTlvs state event conn sessionId = reply.tlvs := by
  have answered : ∀ direction request session metrics,
      event.handledPdu "data_sm" (Pdu.fromData request) session = .returned (.pduReply reply) →
      Smpp34Tlvs.dataSmTlvs.read (answerDataSm direction request metrics
        (dispatchPduOpt event "data_sm" (Pdu.fromData request) session)).response = reply.tlvs := by
    intro direction request session metrics handled
    obtain ⟨more, _, ⟨absent, _⟩ | ⟨value, returned, dispatched⟩ | ⟨failed, _⟩⟩ :=
      dispatchPduOpt_cases event "data_sm" (Pdu.fromData request) session
    · rw [handled] at absent
      cases absent
    · rw [handled] at returned
      cases returned
      rw [dispatched]
      exact dataSmResponse_read request reply
    · rw [handled] at failed
      cases failed
  cases inbound with
  | dataSm request =>
    show Smpp34Tlvs.dataSmTlvs.read (state.onDataSm event request conn sessionId).response = _
    unfold State.onDataSm State.admitting
    have proceeds : (state.admitInbound event sessionId).1 = .proceed := admitted
    split
    · rename_i metrics throttled
      rw [throttled] at proceeds
      cases proceeds
    · exact answered _ request _ _ returned
  | bindDataSm listener request => exact answered _ request _ _ returned
  | submitSm request => exact absurd dataSm (show "submit_sm" ≠ "data_sm" by decide)
  | cancelSm request => exact absurd dataSm (show "cancel_sm" ≠ "data_sm" by decide)
  | querySm request => exact absurd dataSm (show "query_sm" ≠ "data_sm" by decide)
  | replaceSm request => exact absurd dataSm (show "replace_sm" ≠ "data_sm" by decide)
  | submitSmMulti request => exact absurd dataSm (show "submit_sm_multi" ≠ "data_sm" by decide)
  | bindDeliverSm listener request => exact absurd dataSm (show "deliver_sm" ≠ "data_sm" by decide)

/-- When the handler of an admitted request returns the reply a call built, its optional
parameters are all sent, or the call raises, exactly if the command is `data_sm`, the call gave
none, its arguments do not convert, or it was made on a `Pdu` whose response has none. -/
theorem reply_tlvs_sent_iff (inbound : InboundRequest) (state : State) (event : Event)
    (conn : SmppConnectionInformation) (sessionId : String) (call : ReplyCall)
    (admitted : inbound.Admitted state event sessionId)
    (returns : ∀ reply, call.build = .ok reply →
      event.handledPdu inbound.command inbound.pdu (inbound.session state conn sessionId) =
        .returned (.pduReply reply)) :
    (∀ reply, call.build = .ok reply → reply.tlvs ≠ [] →
      inbound.responseTlvs state event conn sessionId = reply.tlvs) ↔
    inbound.command = "data_sm" ∨ dictItems call.tlvs = [] ∨ ¬ call.Converts ∨
      call.OnPlainPdu := by
  have builds := call.builds_tlvs_iff
  constructor
  · intro sent
    by_contra lost
    rw [not_or, not_or, not_or, not_not] at lost
    obtain ⟨plain, listed, converts, notPlain⟩ := lost
    obtain ⟨reply, built, some⟩ := builds.mpr ⟨converts, listed, notPlain⟩
    have whole := sent reply built some
    rw [inbound.responseTlvs_eq_nil state event conn sessionId plain] at whole
    exact some whole.symm
  · rintro (dataSm | other) reply built some
    · exact inbound.responseTlvs_dataSm state event conn sessionId dataSm admitted reply
        (returns reply built)
    · obtain ⟨converts, listed, notPlain⟩ := builds.mp ⟨reply, built, some⟩
      rcases other with none | (refused | plain)
      · exact absurd none listed
      · exact absurd converts refused
      · exact absurd plain notPlain

end Sent

/-- An event whose one registered handler returns a given reply. -/
def replyingEvent (command : String) (reply : PduReply) : Event where
  script :=
    { tryRun := .ok ()
      arguments := fun _ => .ok ()
      call := fun _ _ => .ok (.pduReply reply)
      submit := .ok ()
      awaited := .done
      coroutineTimeout := 30 }
  source _ := [⟨7, false, some command⟩]
  metricsEnabled := true
  limiters _ := ⟨false, true⟩

/-- The reason of a failure, as a script gives it. -/
def failureReason : PyDict := OrderedDict.empty.setItem (.int 0x0425) (.bytes [1])

/-- A `data_sm` is refused with the reason of the failure, which reaches the peer. -/
theorem reply_tlvs_sent_dataSm :
    letI := storingTlvs
    let request : DataSm := ⟨"", 1, 1, "100", 1, 1, "200", 0, 0, 0, []⟩
    let reply : PduReply := ⟨.esmeRdeliveryfailure, none, none, "", 0, [⟨0x0425, [1]⟩]⟩
    (InboundRequest.dataSm request).responseTlvs ⟨[], [], 0, .reject, 0, 0⟩
      (replyingEvent "data_sm" reply) ⟨"198.51.100.7:5000", "192.0.2.1:2775"⟩ "session-1" =
        [⟨0x0425, [1]⟩] := by
  let := storingTlvs
  intro request reply
  let call := ReplyCall.reply (Pdu.fromData request) "ESME_RDELIVERYFAILURE" none
    (some failureReason)
  have built : call.build = .ok reply := by rfl
  have admitted : (InboundRequest.dataSm request).Admitted ⟨[], [], 0, .reject, 0, 0⟩
      (replyingEvent "data_sm" reply) "session-1" := by rfl
  refine (reply_tlvs_sent_iff (.dataSm request) _ (replyingEvent "data_sm" reply)
    ⟨"198.51.100.7:5000", "192.0.2.1:2775"⟩ "session-1" call admitted ?_).mpr (Or.inl rfl) reply
    built (List.cons_ne_nil _ _)
  intro other made
  rw [built] at made
  cases made
  rfl

/-- The constructor takes the same reason for a `submit_sm`, and the response has none. -/
theorem reply_tlvs_dropped :
    letI := storingTlvs
    let request : SubmitSm :=
      ⟨"", 1, 1, "100", 1, 1, "200", 0, 0, 0, "", "", 0, 0, 0, 0, [0x68], []⟩
    let reply : PduReply := ⟨.esmeRsubmitfail, none, none, "", 0, [⟨0x0425, [1]⟩]⟩
    PduReply.new "ESME_RSUBMITFAIL" none (some failureReason) = .ok reply ∧
    (InboundRequest.submitSm request).Admitted ⟨[], [], 0, .reject, 0, 0⟩
      (replyingEvent "submit_sm" reply) "session-1" ∧
    (replyingEvent "submit_sm" reply).handledPdu "submit_sm" (Pdu.fromSubmit request)
      ⟨.esmeServer, "session-1", "", "198.51.100.7:5000"⟩ = .returned (.pduReply reply) ∧
    (InboundRequest.submitSm request).responseTlvs ⟨[], [], 0, .reject, 0, 0⟩
      (replyingEvent "submit_sm" reply) ⟨"198.51.100.7:5000", "192.0.2.1:2775"⟩ "session-1" = [] ∧
    reply.tlvs ≠ [] :=
  ⟨by rfl, by rfl, by rfl, by rfl, List.cons_ne_nil _ _⟩

end SiphonSmpp
