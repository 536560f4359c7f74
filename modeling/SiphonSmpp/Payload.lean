/-
This file follows a message body, and the other optional parameters, from the
arguments of a send helper to the PDU that is handed to the codec and on to the
`Pdu` a receiver builds from it. A body may be given as `short_message` or as
the `message_payload` parameter; a `data_sm` has room for the second only. The
first section is the way of a `data_sm`, the second says when a helper lets a
body through twice, the third when a parameter is too long for its length field.
-/

import SiphonSmpp.Sends
import SiphonSmpp.TlvIntegers

namespace SiphonSmpp

/-! ### The body of a `data_sm` -/

section DataSm

variable [Smpp34] (serviceType : String) (sourceAddrTon sourceAddrNpi : UInt8)
  (sourceAddr : String) (destAddrTon destAddrNpi : UInt8) (destinationAddr : String)
  (esmClass registeredDelivery dataCoding : UInt8) (shortMessage : List UInt8) (tlvs : List Tlv)

theorem buildDataSm_eq_ok_iff (request : DataSm) :
    buildDataSm serviceType sourceAddrTon sourceAddrNpi sourceAddr destAddrTon destAddrNpi
        destinationAddr esmClass registeredDelivery dataCoding shortMessage tlvs = .ok request ↔
      ∃ folded, foldMessagePayload "data_sm" shortMessage tlvs = .ok folded ∧
        request = ⟨serviceType, sourceAddrTon, sourceAddrNpi, sourceAddr, destAddrTon, destAddrNpi,
          destinationAddr, esmClass, registeredDelivery, dataCoding, folded⟩ := by
  simp only [buildDataSm, bind_eq_ok_iff, pure_eq_ok_iff]

/-- A body is refused exactly when it was given both ways. -/
theorem foldMessagePayload_eq_error_iff (command : String) :
    (∃ error, foldMessagePayload command shortMessage tlvs = .error error) ↔
      shortMessage ≠ [] ∧ messagePayload tlvs ≠ none := by
  unfold foldMessagePayload
  cases shortMessage with
  | nil => simp
  | cons octet rest =>
    cases messagePayload tlvs with
    | none => simp
    | some payload => simp

/-- What the parameters of a folded body read back as. -/
theorem messagePayload_of_folded (command : String) (folded : List Tlv)
    (done : foldMessagePayload command shortMessage tlvs = .ok folded) :
    messagePayload folded =
      if shortMessage = [] then messagePayload tlvs else some shortMessage := by
  rcases (foldMessagePayload_eq_ok_iff command shortMessage tlvs folded).mp done with
    ⟨empty, same⟩ | ⟨given, absent, same⟩
  · rw [if_pos empty, same]
  · rw [if_neg given, same, messagePayload_append tlvs shortMessage absent]

/-- A `data_sm` body survives the crate end to end: building fails exactly when the body was
given both ways; otherwise the `Pdu` read back from the built request has its mandatory fields,
reports the body it was given by either way, has no `short_message`, and has the parameters it
was given in their order with the folded body after them. -/
theorem dataSm_body_survives :
    ((∃ error, buildDataSm serviceType sourceAddrTon sourceAddrNpi sourceAddr destAddrTon
        destAddrNpi destinationAddr esmClass registeredDelivery dataCoding shortMessage tlvs =
          .error error) ↔
      shortMessage ≠ [] ∧ messagePayload tlvs ≠ none) ∧
    ∀ request, buildDataSm serviceType sourceAddrTon sourceAddrNpi sourceAddr destAddrTon
        destAddrNpi destinationAddr esmClass registeredDelivery dataCoding shortMessage tlvs =
          .ok request →
      ((Pdu.fromData request).serviceType = serviceType ∧
        (Pdu.fromData request).sourceAddrTon = sourceAddrTon ∧
        (Pdu.fromData request).sourceAddrNpi = sourceAddrNpi ∧
        (Pdu.fromData request).sourceAddr = sourceAddr ∧
        (Pdu.fromData request).destAddrTon = destAddrTon ∧
        (Pdu.fromData request).destAddrNpi = destAddrNpi ∧
        (Pdu.fromData request).destinationAddr = destinationAddr ∧
        (Pdu.fromData request).esmClass = esmClass ∧
        (Pdu.fromData request).registeredDelivery = registeredDelivery ∧
        (Pdu.fromData request).dataCoding = dataCoding) ∧
      (Pdu.fromData request).body =
        (if shortMessage = [] then (messagePayload tlvs).getD [] else shortMessage) ∧
      (Pdu.fromData request).shortMessage = [] ∧
      (Pdu.fromData request).tlvs =
        tlvs ++ (if shortMessage = [] then [] else [⟨messagePayloadTag, shortMessage⟩]) := by
  constructor
  · rw [← foldMessagePayload_eq_error_iff shortMessage tlvs "data_sm"]
    unfold buildDataSm
    cases foldMessagePayload "data_sm" shortMessage tlvs with
    | error problem => exact ⟨fun _ => ⟨problem, rfl⟩, fun _ => ⟨problem, rfl⟩⟩
    | ok folded => exact ⟨nofun, nofun⟩
  · intro request built
    obtain ⟨folded, done, same⟩ := (buildDataSm_eq_ok_iff _ _ _ _ _ _ _ _ _ _ _ _ request).mp built
    subst same
    refine ⟨⟨rfl, rfl, rfl, rfl, rfl, rfl, rfl, rfl, rfl, rfl⟩, ?_, rfl, ?_⟩
    · have payload := messagePayload_of_folded shortMessage tlvs "data_sm" folded done
      rw [Pdu.body_eq_getD]
      show (messagePayload folded).getD [] = _
      rw [payload]
      split
      · rfl
      · rfl
    · show folded = _
      rcases (foldMessagePayload_eq_ok_iff "data_sm" shortMessage tlvs folded).mp done with
        ⟨empty, same⟩ | ⟨given, _, same⟩
      · rw [if_pos empty, List.append_nil, same]
      · rw [if_neg given, same]

end DataSm

/-- A body of two octets, sent beside a vendor parameter, is read back as it was given. -/
theorem dataSm_body_survives_beside_vendor_parameter :
    letI := storingCodec
    (Pdu.fromData ⟨"", 1, 1, "100", 1, 1, "200", 0, 0, 0,
      [⟨0x1400, [0x01]⟩, ⟨0x0424, [0x68, 0x69]⟩]⟩).body = [0x68, 0x69] :=
  letI := storingCodec
  ((dataSm_body_survives "" 1 1 "100" 1 1 "200" 0 0 0 [0x68, 0x69] [⟨0x1400, [0x01]⟩]).2 _ rfl).2.1

/-! ### Message-bearing calls -/

/-- A call of a helper that sends a message. -/
inductive MessageCall where
  | submitVia (args : SubmitViaArgs)
  | submitMultiVia (args : SubmitMultiViaArgs)
  | deliverTo (args : DeliverToArgs)
  | dataVia (args : DataViaArgs)
  | dataTo (args : DataToArgs)

def MessageCall.shortMessage : MessageCall → List UInt8
  | .submitVia args => args.shortMessage
  | .submitMultiVia args => args.shortMessage
  | .deliverTo args => args.shortMessage
  | .dataVia args => args.shortMessage
  | .dataTo args => args.shortMessage

def MessageCall.tlvs : MessageCall → Option PyDict
  | .submitVia args => args.tlvs
  | .submitMultiVia args => args.tlvs
  | .deliverTo args => args.tlvs
  | .dataVia args => args.tlvs
  | .dataTo args => args.tlvs

/-- The calls that send a `data_sm`. -/
def MessageCall.isData : MessageCall → Bool
  | .dataVia _ => true
  | .dataTo _ => true
  | _ => false

/-- A message-bearing request as it is handed to the codec. -/
inductive MessageRequest where
  | submitSm (request : SubmitSm)
  | submitSmMulti (request : SubmitSmMulti)
  | deliverSm (request : DeliverSm)
  | dataSm (request : DataSm)
  deriving DecidableEq, Repr

/-- The `Pdu` a receiver of the request builds. -/
def MessageRequest.received : MessageRequest → Pdu
  | .submitSm request => Pdu.fromSubmit request
  | .submitSmMulti request => Pdu.fromSubmitMulti request
  | .deliverSm request => Pdu.fromDeliver request
  | .dataSm request => Pdu.fromData request

/-- The `short_message` field; a `data_sm` has none. -/
def MessageRequest.shortMessage : MessageRequest → List UInt8
  | .submitSm request => request.shortMessage
  | .submitSmMulti request => request.shortMessage
  | .deliverSm request => request.shortMessage
  | .dataSm _ => []

def MessageRequest.tlvs : MessageRequest → List Tlv
  | .submitSm request => request.tlvs
  | .submitSmMulti request => request.tlvs
  | .deliverSm request => request.tlvs
  | .dataSm request => request.tlvs

theorem MessageRequest.received_body (request : MessageRequest) :
    request.received.body = (messagePayload request.tlvs).getD request.shortMessage := by
  cases request <;> exact Pdu.body_eq_getD _

section Messages

variable [Smpp34]

/-- The request a call hands to the codec when it is awaited. -/
def MessageCall.handed (call : MessageCall) (runtime : Option State) (state : State) :
    Except PyErr MessageRequest :=
  match call with
  | .submitVia args => do return .submitSm (← (← SiphonSmpp.submitVia runtime args) state).request
  | .submitMultiVia args => do
    return .submitSmMulti (← (← SiphonSmpp.submitMultiVia runtime args) state).request
  | .deliverTo args => do return .deliverSm (← (← SiphonSmpp.deliverTo runtime args) state).request
  | .dataVia args => do return .dataSm (← (← SiphonSmpp.dataVia runtime args) state).request
  | .dataTo args => do return .dataSm (← (← SiphonSmpp.dataTo runtime args) state).request

/-- How a request came from its call: a `data_sm` carries the body folded into the converted
parameters, the other requests carry both as they were given. -/
def MessageCall.Carries (call : MessageCall) (request : MessageRequest) : Prop :=
  ∃ tlvs, tlvsFromPy call.tlvs = .ok tlvs ∧
    if call.isData then
      request.shortMessage = [] ∧
        foldMessagePayload "data_sm" call.shortMessage tlvs = .ok request.tlvs
    else request.shortMessage = call.shortMessage ∧ request.tlvs = tlvs

theorem MessageCall.carries_of_handed (call : MessageCall) (runtime : Option State)
    (state : State) (request : MessageRequest) (handed : call.handed runtime state = .ok request) :
    call.Carries request := by
  cases call with
  | submitVia args =>
    obtain ⟨awaitable, called, submission, awaited, same⟩ :=
      (awaited_eq_ok_iff _ state MessageRequest.submitSm request).mp handed
    obtain ⟨_, _, tlvs, converted, built⟩ := (submitVia_eq_ok_iff _ _ _).mp called
    rw [built] at awaited
    rw [same, pacedOnBind_request _ _ _ _ awaited]
    exact ⟨tlvs, converted, rfl, rfl⟩
  | submitMultiVia args =>
    obtain ⟨awaitable, called, submission, awaited, same⟩ :=
      (awaited_eq_ok_iff _ state MessageRequest.submitSmMulti request).mp handed
    obtain ⟨_, _, _, tlvs, converted, built⟩ := (submitMultiVia_eq_ok_iff _ _ _).mp called
    rw [built] at awaited
    rw [same, pacedOnBind_request _ _ _ _ awaited]
    exact ⟨tlvs, converted, rfl, rfl⟩
  | deliverTo args =>
    obtain ⟨awaitable, called, submission, awaited, same⟩ :=
      (awaited_eq_ok_iff _ state MessageRequest.deliverSm request).mp handed
    obtain ⟨_, _, tlvs, converted, built⟩ := (deliverTo_eq_ok_iff _ _ _).mp called
    rw [built] at awaited
    rw [same, onReceiver_request _ _ _ _ _ awaited]
    exact ⟨tlvs, converted, rfl, rfl⟩
  | dataVia args =>
    obtain ⟨awaitable, called, submission, awaited, same⟩ :=
      (awaited_eq_ok_iff _ state MessageRequest.dataSm request).mp handed
    obtain ⟨_, tlvs, converted, pdu, made, built⟩ := (dataVia_eq_ok_iff _ _ _).mp called
    obtain ⟨folded, done, fields⟩ := (buildDataSm_eq_ok_iff _ _ _ _ _ _ _ _ _ _ _ _ _).mp made
    rw [built] at awaited
    rw [same, pacedOnBind_request _ _ _ _ awaited, fields]
    exact ⟨tlvs, converted, rfl, done⟩
  | dataTo args =>
    obtain ⟨awaitable, called, submission, awaited, same⟩ :=
      (awaited_eq_ok_iff _ state MessageRequest.dataSm request).mp handed
    obtain ⟨_, tlvs, converted, pdu, made, built⟩ := (dataTo_eq_ok_iff _ _ _).mp called
    obtain ⟨folded, done, fields⟩ := (buildDataSm_eq_ok_iff _ _ _ _ _ _ _ _ _ _ _ _ _).mp made
    rw [built] at awaited
    rw [same, onEsme_request _ _ _ _ awaited, fields]
    exact ⟨tlvs, converted, rfl, done⟩

/-! ### A body given both ways -/

/-- A body the script supplied: a non-empty `short_message`, or the value under a key that
stands for `message_payload`. -/
def MessageCall.Supplies (call : MessageCall) (body : List UInt8) : Prop :=
  (call.shortMessage ≠ [] ∧ body = call.shortMessage) ∨
    ∃ item ∈ dictItems call.tlvs, Encodes item ⟨messagePayloadTag, body⟩

/-- The request holds a body in both places. -/
def MessageRequest.HoldsBoth (request : MessageRequest) : Prop :=
  request.shortMessage ≠ [] ∧ messagePayload request.tlvs ≠ none

/-- A call for another request than a `data_sm` that gives a non-empty `short_message` next to
a key that stands for `message_payload`. -/
def MessageCall.GivesBodyTwice (call : MessageCall) : Prop :=
  call.isData = false ∧ call.shortMessage ≠ [] ∧
    ∃ item ∈ dictItems call.tlvs, tagFromPy item.1 = .ok messagePayloadTag

theorem Converted.messagePayload_eq_some_iff {items : List (PyKey × PyObject)} {tlvs : List Tlv}
    (converted : Converted items tlvs) (body : List UInt8) :
    messagePayload tlvs = some body ↔ ∃ item ∈ items, Encodes item ⟨messagePayloadTag, body⟩ := by
  rw [SiphonSmpp.messagePayload_eq_some_iff tlvs converted.distinct, converted.mem_iff]

theorem Converted.messagePayload_ne_none_iff {items : List (PyKey × PyObject)} {tlvs : List Tlv}
    (converted : Converted items tlvs) :
    messagePayload tlvs ≠ none ↔ ∃ item ∈ items, tagFromPy item.1 = .ok messagePayloadTag := by
  rw [Option.ne_none_iff_exists']
  constructor
  · intro ⟨body, found⟩
    obtain ⟨item, member, encodes⟩ := (converted.messagePayload_eq_some_iff body).mp found
    exact ⟨item, member, encodes.1⟩
  · intro ⟨item, member, resolved⟩
    obtain ⟨⟨tag, value⟩, encodes⟩ := converted.encodes item member
    have same : tag = messagePayloadTag := Except.ok.inj (encodes.1.symm.trans resolved)
    subst same
    exact ⟨value, (converted.messagePayload_eq_some_iff value).mpr ⟨item, member, encodes⟩⟩

/-- What a receiver reads off a request, in terms of the call: the converted `message_payload`
before the `short_message`; both can be there only for a request other than a `data_sm`. -/
theorem MessageCall.Carries.body_eq {call : MessageCall} {request : MessageRequest}
    (carries : call.Carries request) :
    ∃ tlvs, Converted (dictItems call.tlvs) tlvs ∧
      request.received.body = (messagePayload tlvs).getD call.shortMessage ∧
      (request.HoldsBoth ↔
        call.isData = false ∧ call.shortMessage ≠ [] ∧ messagePayload tlvs ≠ none) ∧
      (call.isData = true → call.shortMessage = [] ∨ messagePayload tlvs = none) := by
  obtain ⟨tlvs, done, rest⟩ := carries
  refine ⟨tlvs, converted_of_tlvsFromPy call.tlvs tlvs done, ?_⟩
  rw [request.received_body, MessageRequest.HoldsBoth]
  cases data : call.isData with
  | false =>
    rw [data, if_neg Bool.false_ne_true] at rest
    obtain ⟨sameBody, sameTlvs⟩ := rest
    rw [sameBody, sameTlvs]
    exact ⟨rfl, ⟨fun both => ⟨rfl, both⟩, fun both => both.2⟩, nofun⟩
  | true =>
    rw [data, if_pos rfl] at rest
    obtain ⟨empty, folded⟩ := rest
    rw [messagePayload_of_folded _ _ _ _ folded, empty]
    refine ⟨?_, ⟨fun both => absurd rfl both.1, nofun⟩, fun _ => ?_⟩
    · rcases (foldMessagePayload_eq_ok_iff _ _ _ _).mp folded with ⟨none, _⟩ | ⟨given, absent, _⟩
      · rw [if_pos none, none]
      · rw [if_neg given, absent]
        rfl
    · rcases (foldMessagePayload_eq_ok_iff _ _ _ _).mp folded with ⟨none, _⟩ | ⟨given, absent, _⟩
      · exact Or.inl none
      · exact Or.inr absent

/-- The request handed to the codec holds its body in one place, and a receiver reads off it
the whole of what the script supplied, exactly when the call did not give a body twice to a
helper other than `data_via` and `data_to`. -/
theorem message_body_whole_iff (call : MessageCall) (runtime : Option State) (state : State)
    (request : MessageRequest) (handed : call.handed runtime state = .ok request) :
    (¬ request.HoldsBoth ∧ (∀ body, call.Supplies body → request.received.body = body) ∧
      ((∀ body, ¬ call.Supplies body) → request.received.body = [])) ↔
    ¬ call.GivesBodyTwice := by
  obtain ⟨tlvs, converted, body, both, refused⟩ :=
    (call.carries_of_handed runtime state request handed).body_eq
  have twice : request.HoldsBoth ↔ call.GivesBodyTwice := by
    rw [both, converted.messagePayload_ne_none_iff, MessageCall.GivesBodyTwice]
  rw [← twice]
  refine ⟨fun whole => whole.1, fun single => ⟨single, ?_⟩⟩
  have oneWay : call.shortMessage = [] ∨ messagePayload tlvs = none := by
    cases data : call.isData with
    | true => exact refused data
    | false =>
      rw [both] at single
      by_contra given
      rw [not_or] at given
      exact single ⟨data, given⟩
  rw [body]
  constructor
  · intro supplied supplies
    rcases supplies with ⟨given, same⟩ | found
    · rw [oneWay.resolve_left given, same]
      rfl
    · rw [(converted.messagePayload_eq_some_iff supplied).mpr found]
      rfl
  · intro nothing
    have empty : call.shortMessage = [] := by
      by_contra given
      exact nothing call.shortMessage (Or.inl ⟨given, rfl⟩)
    have absent : messagePayload tlvs = none := by
      by_contra given
      obtain ⟨value, found⟩ := Option.ne_none_iff_exists'.mp given
      exact nothing value (Or.inr ((converted.messagePayload_eq_some_iff value).mp found))
    rw [empty, absent]
    rfl

end Messages

/-- A body given as `short_message` alone reaches the receiver. -/
theorem message_body_whole_short_message :
    letI := storingCodec
    (MessageRequest.submitSm ⟨"", 1, 1, "100", 1, 1, "200", 0, 0, 0, "", "", 0, 0, 0, 0,
      [0x68, 0x69], []⟩).received.body = [0x68, 0x69] :=
  letI := storingCodec
  ((message_body_whole_iff (.submitVia
    { bind := "smsc", sourceAddr := "100", destinationAddr := "200", shortMessage := [0x68, 0x69] })
    (some boundState) boundState _ rfl).mpr fun twice => by
      obtain ⟨_, _, item, member, _⟩ := twice
      cases member).2.1 [0x68, 0x69] (Or.inl ⟨List.cons_ne_nil _ _, rfl⟩)

/-- `submit_via(short_message=b"hi", tlvs={0x0424: b"yo"})` is accepted, carries both bodies and
is read as `b"yo"`. -/
theorem message_body_dropped :
    letI := storingCodec
    ¬ ∀ (call : MessageCall) (runtime : Option State) (state : State) (request : MessageRequest),
      call.handed runtime state = .ok request →
        ¬ request.HoldsBoth ∧ ∀ body, call.Supplies body → request.received.body = body := by
  intro claimed
  have handed := claimed (.submitVia
    { bind := "smsc", sourceAddr := "100", destinationAddr := "200", shortMessage := [0x68, 0x69]
      tlvs := some (OrderedDict.empty.setItem (.int 0x0424) (.bytes [0x79, 0x6F])) })
    (some boundState) boundState _ rfl
  exact handed.1 ⟨List.cons_ne_nil _ _, Option.some_ne_none _⟩

/-! ### The length of a parameter -/

/-- The most octets the 16-bit length field of a parameter can announce. -/
def tlvLengthMax : Nat := 65535

/-- A dictionary value whose octets fit a parameter: `bytes` up to the limit, a `str` whose
UTF-8 form leaves room for the closing NUL. An integer always fits. -/
def PyObject.FitsTlv : PyObject → Prop
  | .bytes octets => octets.length ≤ tlvLengthMax
  | .bytearray octets => octets.length ≤ tlvLengthMax
  | .str text => ∀ plain, text.toCow = .ok plain → plain.toUTF8.size + 1 ≤ tlvLengthMax
  | _ => True

section Lengths

variable [Smpp34]

theorem intToBytes_length_le (tag : UInt16) (number : Int) (value : List UInt8)
    (encoded : intToBytes tag number = .ok value) : value.length ≤ 4 := by
  obtain ⟨width, typed, _, _, rfl⟩ := (intToBytes_eq_ok_iff tag number value).mp encoded
  rw [BigEndian.length_ofNat]
  exact intWidth_le typed

/-- A value encodes to octets that fit exactly when it does. -/
theorem valueToBytes_length_le_iff (tag : UInt16) (object : PyObject) (value : List UInt8)
    (encoded : valueToBytes tag object = .ok value) :
    value.length ≤ tlvLengthMax ↔ object.FitsTlv := by
  have small : ∀ number, intToBytes tag number = .ok value → value.length ≤ tlvLengthMax :=
    fun number done => (intToBytes_length_le tag number value done).trans (by decide)
  cases object with
  | bytes octets =>
    cases encoded
    rfl
  | bytearray octets =>
    cases encoded
    rfl
  | str text =>
    obtain ⟨plain, converted, same⟩ := (bind_eq_ok_iff _ _ _).mp encoded
    rw [← Except.ok.inj same, List.length_append]
    show plain.toUTF8.size + 1 ≤ tlvLengthMax ↔ _
    refine ⟨fun fits other done => ?_, fun fits => fits plain converted⟩
    rw [converted] at done
    rw [← Except.ok.inj done]
    exact fits
  | int number => exact ⟨fun _ => trivial, fun _ => small number encoded⟩
  | bool flag => exact ⟨fun _ => trivial, fun _ => small _ encoded⟩
  | other typeName => cases encoded

/-- Converted parameters fit exactly when the values of the dictionary do. -/
theorem Converted.lengths_iff {items : List (PyKey × PyObject)} {tlvs : List Tlv}
    (converted : Converted items tlvs) :
    (∀ tlv ∈ tlvs, tlv.value.length ≤ tlvLengthMax) ↔ ∀ item ∈ items, item.2.FitsTlv := by
  constructor
  · intro fits item member
    obtain ⟨tlv, encodes⟩ := converted.encodes item member
    rw [← valueToBytes_length_le_iff tlv.tag item.2 tlv.value encodes.2]
    exact fits tlv ((converted.mem_iff tlv).mpr ⟨item, member, encodes⟩)
  · intro fits tlv member
    obtain ⟨item, present, encodes⟩ := (converted.mem_iff tlv).mp member
    rw [valueToBytes_length_le_iff tlv.tag item.2 tlv.value encodes.2]
    exact fits item present

/-- A call whose optional parameters end up with the codec: a message helper, or a reply. -/
inductive TlvCall where
  | message (call : MessageCall)
  | reply (pdu : Pdu) (commandStatus : String) (messageId : Option String) (tlvs : Option PyDict)
  | pduReply (commandStatus : String) (messageId : Option String) (tlvs : Option PyDict)

def TlvCall.tlvs : TlvCall → Option PyDict
  | .message call => call.tlvs
  | .reply _ _ _ tlvs => tlvs
  | .pduReply _ _ tlvs => tlvs

/-- The body a call folds into a parameter. -/
def TlvCall.foldedBody : TlvCall → List UInt8
  | .message call => if call.isData then call.shortMessage else []
  | _ => []

/-- The parameters a call hands over. -/
def TlvCall.handed (call : TlvCall) (runtime : Option State) (state : State) :
    Except PyErr (List Tlv) :=
  match call with
  | .message call => do return (← call.handed runtime state).tlvs
  | .reply pdu commandStatus messageId tlvs => do
    return (← pdu.reply commandStatus messageId tlvs).tlvs
  | .pduReply commandStatus messageId tlvs => do
    return (← PduReply.new commandStatus messageId tlvs).tlvs

/-- The parameters of a call are the converted ones, with the folded body after them. -/
theorem TlvCall.handed_eq (call : TlvCall) (runtime : Option State) (state : State)
    (tlvs : List Tlv) (handed : call.handed runtime state = .ok tlvs) :
    ∃ converted, Converted (dictItems call.tlvs) converted ∧
      tlvs = converted ++
        (if call.foldedBody = [] then [] else [⟨messagePayloadTag, call.foldedBody⟩]) := by
  cases call with
  | message call =>
    obtain ⟨request, made, same⟩ := (bind_eq_ok_iff _ _ _).mp handed
    obtain ⟨converted, done, rest⟩ := call.carries_of_handed runtime state request made
    refine ⟨converted, converted_of_tlvsFromPy call.tlvs converted done, ?_⟩
    rw [← Except.ok.inj same, TlvCall.foldedBody]
    cases data : call.isData with
    | false =>
      rw [data, if_neg Bool.false_ne_true] at rest
      rw [if_neg Bool.false_ne_true, if_pos rfl, List.append_nil, rest.2]
    | true =>
      rw [data, if_pos rfl] at rest
      rw [if_pos rfl]
      rcases (foldMessagePayload_eq_ok_iff _ _ _ _).mp rest.2 with ⟨empty, kept⟩ | ⟨given, _, kept⟩
      · rw [if_pos empty, List.append_nil, kept]
      · rw [if_neg given, kept]
  | reply pdu commandStatus messageId tlvs =>
    simp only [TlvCall.handed, Pdu.reply, bind_eq_ok_iff, pure_eq_ok_iff, ite_throw_eq_ok_iff]
      at handed
    obtain ⟨reply, ⟨status, _, converted, done, _, made⟩, same⟩ := handed
    refine ⟨converted, converted_of_tlvsFromPy _ converted done, ?_⟩
    rw [same, made]
    exact (List.append_nil _).symm
  | pduReply commandStatus messageId tlvs =>
    simp only [TlvCall.handed, PduReply.new, bind_eq_ok_iff, pure_eq_ok_iff] at handed
    obtain ⟨reply, ⟨status, _, converted, done, made⟩, same⟩ := handed
    refine ⟨converted, converted_of_tlvsFromPy _ converted done, ?_⟩
    rw [same, made]
    exact (List.append_nil _).symm

/-- Every parameter handed to the codec has a length its length field can announce exactly
when every value of the dictionary does, and the body a `data_sm` call folds. -/
theorem tlv_lengths_fit_iff (call : TlvCall) (runtime : Option State) (state : State)
    (tlvs : List Tlv) (handed : call.handed runtime state = .ok tlvs) :
    (∀ tlv ∈ tlvs, tlv.value.length ≤ tlvLengthMax) ↔
      (∀ item ∈ dictItems call.tlvs, item.2.FitsTlv) ∧ call.foldedBody.length ≤ tlvLengthMax := by
  obtain ⟨converted, known, same⟩ := call.handed_eq runtime state tlvs handed
  rw [same, ← known.lengths_iff, List.forall_mem_append]
  refine and_congr_right fun _ => ?_
  split
  · rename_i empty
    rw [empty]
    exact ⟨fun _ => Nat.zero_le _, fun _ tlv member => nomatch member⟩
  · rw [List.forall_mem_singleton]

end Lengths

/-- A call with a short body and a short parameter hands over parameters that fit. -/
theorem tlv_lengths_fit_short_payload :
    letI := storingCodec
    (([⟨0x1400, [0x01]⟩, ⟨0x0424, [0x68, 0x69]⟩] : List Tlv).all
      fun tlv => tlv.value.length ≤ tlvLengthMax) = true :=
  letI := storingCodec
  have fits := (tlv_lengths_fit_iff (.message (.dataVia
    { bind := "smsc", sourceAddr := "100", destinationAddr := "200", shortMessage := [0x68, 0x69]
      tlvs := some (OrderedDict.empty.setItem (.int 0x1400) (.bytes [0x01])) }))
    (some boundState) boundState _ rfl).mpr
    ⟨fun item member => by
      rw [List.mem_singleton.mp member]
      exact (by decide : (1 : Nat) ≤ 65535), by decide⟩
  List.all_eq_true.mpr fun tlv member => decide_eq_true (fits tlv member)

/-- `data_via` takes a `short_message` of 65536 octets and hands it over as one parameter. -/
theorem tlv_length_wraps :
    letI := storingCodec
    ¬ ∀ (call : TlvCall) (runtime : Option State) (state : State) (tlvs : List Tlv),
      call.handed runtime state = .ok tlvs → ∀ tlv ∈ tlvs, tlv.value.length ≤ tlvLengthMax := by
  intro claimed
  have fits := claimed (.message (.dataVia
    { bind := "smsc", sourceAddr := "100", destinationAddr := "200"
      shortMessage := List.replicate 65536 0x41 }))
    (some boundState) boundState [⟨0x0424, List.replicate 65536 0x41⟩] rfl
    ⟨0x0424, List.replicate 65536 0x41⟩ List.mem_cons_self
  rw [List.length_replicate] at fits
  exact absurd fits (by decide)

end SiphonSmpp
