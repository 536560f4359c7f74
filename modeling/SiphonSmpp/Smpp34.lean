/-
This file states what the crate takes from its codec, `smpp34`, which is not
part of the repository. A request PDU is the record of the fields the crate
reads and writes, without its header; the length octet in front of a
`short_message` is a function of it. A response PDU stays abstract: the crate
only builds one with `accept` or `reject` and reads its `command_status`, so
the class `Smpp34` asks for exactly these operations with the documented
status of each, next to the codec's table of optional-parameter names.
-/

import Mathlib.Data.List.Basic

namespace SiphonSmpp

/-! ### Command status -/

/-- The `SmppError` enumeration, the statuses of Table 5-2. -/
inductive SmppError where
  | esmeRok | esmeRinvmsglen | esmeRinvcmdlen | esmeRinvcmdid | esmeRinvbndsts | esmeRalybnd
  | esmeRinvprtflg | esmeRinvregdlvflg | esmeRsyserr | esmeRinvsrcadr | esmeRinvdstadr
  | esmeRinvmsgid | esmeRbindfail | esmeRinvpaswd | esmeRinvsysid | esmeRcancelfail
  | esmeRreplacefail | esmeRmsgqful | esmeRinvsertyp | esmeRinvnumdests | esmeRinvdlname
  | esmeRinvdestflag | esmeRinvsubrep | esmeRinvesmclass | esmeRcntsubdl | esmeRsubmitfail
  | esmeRinvsrcton | esmeRinvsrcnpi | esmeRinvdstton | esmeRinvdstnpi | esmeRinvsystyp
  | esmeRinvrepflag | esmeRinvnummsgs | esmeRthrottled | esmeRinvsched | esmeRinvexpiry
  | esmeRinvdftmsgid | esmeRxTAppn | esmeRxPAppn | esmeRxRAppn | esmeRqueryfail
  | esmeRinvoptparstream | esmeRoptparnotallwd | esmeRinvparlen | esmeRmissingoptparam
  | esmeRinvoptparamval | esmeRdeliveryfailure | esmeRunknownerr
  deriving DecidableEq, Repr

/-- The status as it stands in a PDU header (`SmppError as u32`). -/
def SmppError.code : SmppError → UInt32
  | .esmeRok => 0x00000000
  | .esmeRinvmsglen => 0x00000001
  | .esmeRinvcmdlen => 0x00000002
  | .esmeRinvcmdid => 0x00000003
  | .esmeRinvbndsts => 0x00000004
  | .esmeRalybnd => 0x00000005
  | .esmeRinvprtflg => 0x00000006
  | .esmeRinvregdlvflg => 0x00000007
  | .esmeRsyserr => 0x00000008
  | .esmeRinvsrcadr => 0x0000000A
  | .esmeRinvdstadr => 0x0000000B
  | .esmeRinvmsgid => 0x0000000C
  | .esmeRbindfail => 0x0000000D
  | .esmeRinvpaswd => 0x0000000E
  | .esmeRinvsysid => 0x0000000F
  | .esmeRcancelfail => 0x00000011
  | .esmeRreplacefail => 0x00000013
  | .esmeRmsgqful => 0x00000014
  | .esmeRinvsertyp => 0x00000015
  | .esmeRinvnumdests => 0x00000033
  | .esmeRinvdlname => 0x00000034
  | .esmeRinvdestflag => 0x00000040
  | .esmeRinvsubrep => 0x00000042
  | .esmeRinvesmclass => 0x00000043
  | .esmeRcntsubdl => 0x00000044
  | .esmeRsubmitfail => 0x00000045
  | .esmeRinvsrcton => 0x00000048
  | .esmeRinvsrcnpi => 0x00000049
  | .esmeRinvdstton => 0x00000050
  | .esmeRinvdstnpi => 0x00000051
  | .esmeRinvsystyp => 0x00000053
  | .esmeRinvrepflag => 0x00000054
  | .esmeRinvnummsgs => 0x00000055
  | .esmeRthrottled => 0x00000058
  | .esmeRinvsched => 0x00000061
  | .esmeRinvexpiry => 0x00000062
  | .esmeRinvdftmsgid => 0x00000063
  | .esmeRxTAppn => 0x00000064
  | .esmeRxPAppn => 0x00000065
  | .esmeRxRAppn => 0x00000066
  | .esmeRqueryfail => 0x00000067
  | .esmeRinvoptparstream => 0x000000C0
  | .esmeRoptparnotallwd => 0x000000C1
  | .esmeRinvparlen => 0x000000C2
  | .esmeRmissingoptparam => 0x000000C3
  | .esmeRinvoptparamval => 0x000000C4
  | .esmeRdeliveryfailure => 0x000000FE
  | .esmeRunknownerr => 0x000000FF

theorem SmppError.code_eq_zero_iff (status : SmppError) : status.code = 0 ↔ status = .esmeRok := by
  cases status <;> decide

/-! ### Optional parameters -/

/-- One optional parameter: its 16-bit tag and its value. -/
structure Tlv where
  tag : UInt16
  value : List UInt8
  deriving DecidableEq, Repr

/-- The `TlvTag` variants the crate names. -/
inductive TlvTag where
  | destAddrSubunit | destNetworkType | destBearerType | destTelematicsId | sourceAddrSubunit
  | sourceNetworkType | sourceBearerType | sourceTelematicsId | qosTimeToLive | payloadType
  | msMsgWaitFacilities | privacyIndicator | userMessageReference | userResponseCode | sourcePort
  | destinationPort | sarMsgRefNum | languageIndicator | sarTotalSegments | sarSegmentSeqnum
  | scInterfaceVersion | callbackNumPresInd | numberOfMessages | dpfResult | setDpf
  | msAvailabilityStatus | deliveryFailureReason | moreMessagesToSend | messageStateTlv
  | ussdServiceOp | displayTime | smsSignal | msValidity | itsReplyType | messagePayload
  deriving DecidableEq, Repr

/-- The tag of `message_payload`. -/
def messagePayloadTag : UInt16 := 0x0424

/-- `TlvList::get_tlv_raw`: the first optional parameter with the tag. -/
def getTlvRaw (tlvs : List Tlv) (tag : UInt16) : Option Tlv :=
  tlvs.find? fun tlv => tlv.tag == tag

/-- `TlvList::message_payload`. -/
def messagePayload (tlvs : List Tlv) : Option (List UInt8) :=
  (getTlvRaw tlvs messagePayloadTag).map Tlv.value

/-- A `message_payload` put last is the one that is read when there was none. -/
theorem messagePayload_append (tlvs : List Tlv) (body : List UInt8)
    (absent : messagePayload tlvs = none) :
    messagePayload (tlvs ++ [⟨messagePayloadTag, body⟩]) = some body := by
  rw [messagePayload, Option.map_eq_none_iff, getTlvRaw] at absent
  simp [messagePayload, getTlvRaw, List.find?_append, absent]

/-- With each tag at most once, the `message_payload` is the parameter of that tag. -/
theorem messagePayload_eq_some_iff (tlvs : List Tlv) (distinct : (tlvs.map Tlv.tag).Nodup)
    (body : List UInt8) :
    messagePayload tlvs = some body ↔ ⟨messagePayloadTag, body⟩ ∈ tlvs := by
  induction tlvs with
  | nil => simp [messagePayload, getTlvRaw]
  | cons tlv rest inductionHypothesis =>
    rw [List.map_cons, List.nodup_cons] at distinct
    have stepped : messagePayload (tlv :: rest) =
        if tlv.tag = messagePayloadTag then some tlv.value else messagePayload rest := by
      by_cases found : tlv.tag = messagePayloadTag
      · simp [messagePayload, getTlvRaw, found]
      · simp [messagePayload, getTlvRaw, found]
    rw [stepped, List.mem_cons]
    split
    · rename_i found
      have absent : (⟨messagePayloadTag, body⟩ : Tlv) ∉ rest := fun member =>
        distinct.1 (found ▸ List.mem_map_of_mem member)
      simp only [Option.some.injEq, absent, or_false]
      exact ⟨fun same => by rw [← found, ← same], fun same => by rw [← same]⟩
    · rename_i other
      rw [inductionHypothesis distinct.2]
      refine ⟨Or.inr, fun member => member.resolve_left fun same => other ?_⟩
      rw [← same]

/-! ### Request PDUs -/

/-- The length octet in front of a `short_message`. -/
def smLength (shortMessage : List UInt8) : UInt8 := UInt8.ofNat shortMessage.length

structure SubmitSm where
  serviceType : String
  sourceAddrTon : UInt8
  sourceAddrNpi : UInt8
  sourceAddr : String
  destAddrTon : UInt8
  destAddrNpi : UInt8
  destinationAddr : String
  esmClass : UInt8
  protocolId : UInt8
  priorityFlag : UInt8
  scheduleDeliveryTime : String
  validityPeriod : String
  registeredDelivery : UInt8
  replaceIfPresentFlag : UInt8
  dataCoding : UInt8
  smDefaultMsgId : UInt8
  shortMessage : List UInt8
  tlvs : List Tlv
  deriving DecidableEq, Repr

/-- A `deliver_sm` has the layout of a `submit_sm`. -/
structure DeliverSm where
  serviceType : String
  sourceAddrTon : UInt8
  sourceAddrNpi : UInt8
  sourceAddr : String
  destAddrTon : UInt8
  destAddrNpi : UInt8
  destinationAddr : String
  esmClass : UInt8
  protocolId : UInt8
  priorityFlag : UInt8
  scheduleDeliveryTime : String
  validityPeriod : String
  registeredDelivery : UInt8
  replaceIfPresentFlag : UInt8
  dataCoding : UInt8
  smDefaultMsgId : UInt8
  shortMessage : List UInt8
  tlvs : List Tlv
  deriving DecidableEq, Repr

/-- A `data_sm` has no `short_message` field: its body is an optional parameter. -/
structure DataSm where
  serviceType : String
  sourceAddrTon : UInt8
  sourceAddrNpi : UInt8
  sourceAddr : String
  destAddrTon : UInt8
  destAddrNpi : UInt8
  destinationAddr : String
  esmClass : UInt8
  registeredDelivery : UInt8
  dataCoding : UInt8
  tlvs : List Tlv
  deriving DecidableEq, Repr

structure CancelSm where
  serviceType : String
  messageId : String
  sourceAddrTon : UInt8
  sourceAddrNpi : UInt8
  sourceAddr : String
  destAddrTon : UInt8
  destAddrNpi : UInt8
  destinationAddr : String
  deriving DecidableEq, Repr

structure QuerySm where
  messageId : String
  sourceAddrTon : UInt8
  sourceAddrNpi : UInt8
  sourceAddr : String
  deriving DecidableEq, Repr

structure ReplaceSm where
  messageId : String
  sourceAddrTon : UInt8
  sourceAddrNpi : UInt8
  sourceAddr : String
  scheduleDeliveryTime : String
  validityPeriod : String
  registeredDelivery : UInt8
  smDefaultMsgId : UInt8
  shortMessage : List UInt8
  deriving DecidableEq, Repr

/-- One destination of a `submit_sm_multi`. -/
inductive DestAddress where
  | sme (destAddrTon destAddrNpi : UInt8) (destinationAddr : String)
  | distributionList (dlName : String)
  deriving DecidableEq, Repr

structure SubmitSmMulti where
  serviceType : String
  sourceAddrTon : UInt8
  sourceAddrNpi : UInt8
  sourceAddr : String
  destAddresses : List DestAddress
  esmClass : UInt8
  protocolId : UInt8
  priorityFlag : UInt8
  scheduleDeliveryTime : String
  validityPeriod : String
  registeredDelivery : UInt8
  replaceIfPresentFlag : UInt8
  dataCoding : UInt8
  smDefaultMsgId : UInt8
  shortMessage : List UInt8
  tlvs : List Tlv
  deriving DecidableEq, Repr

structure BindTransceiver where
  systemId : String
  password : String
  deriving DecidableEq, Repr

/-- The addresses of the connection a PDU arrived on. -/
structure SmppConnectionInformation where
  clientAddress : String
  serverAddress : String
  deriving DecidableEq, Repr

/-! ### Responses and the codec -/

/-- The response builders of one request type: `accept` takes what an `ESME_ROK` response
carries, `reject` a status. -/
structure Responses (Request Accepted : Type) where
  Response : Type
  accept : Request → Accepted → Response
  reject : Request → SmppError → Response
  commandStatus : Response → UInt32
  isSuccess : Response → Bool
  accept_status : ∀ request accepted, commandStatus (accept request accepted) = 0
  reject_status : ∀ request status, commandStatus (reject request status) = status.code
  isSuccess_iff : ∀ response, isSuccess response = true ↔ commandStatus response = 0

/-- What an `ESME_ROK` `query_sm_resp` carries. -/
structure QueryAccepted where
  messageId : String
  finalDate : String
  messageState : UInt8
  errorCode : UInt8
  deriving DecidableEq, Repr

/-- The operations of `smpp34` the crate is built on. `tagNames` is `TlvTag::ALL` with each
tag read as its number, `tagCode` the number of a named variant. -/
class Smpp34 where
  tagNames : List (String × UInt16)
  tagCode : TlvTag → UInt16
  tagCode_messagePayload : tagCode .messagePayload = messagePayloadTag
  submitSm : Responses SubmitSm String
  dataSm : Responses DataSm String
  pushTlv : dataSm.Response → Tlv → dataSm.Response
  pushTlv_status : ∀ response tlv,
    dataSm.commandStatus (pushTlv response tlv) = dataSm.commandStatus response
  cancelSm : Responses CancelSm Unit
  querySm : Responses QuerySm QueryAccepted
  replaceSm : Responses ReplaceSm Unit
  UnsuccessSme : Type
  submitSmMulti : Responses SubmitSmMulti (String × List UnsuccessSme)
  deliverSm : Responses DeliverSm Unit
  bindTransceiver : Responses BindTransceiver (String × Option UInt8)

/-- What the far end of a session decodes of a request that was encoded and sent, if it decodes it
at all. -/
structure Wire where
  submitSm : SubmitSm → Option SubmitSm
  submitSmMulti : SubmitSmMulti → Option SubmitSmMulti
  dataSm : DataSm → Option DataSm
  cancelSm : CancelSm → Option CancelSm
  querySm : QuerySm → Option QuerySm
  replaceSm : ReplaceSm → Option ReplaceSm
  deliverSm : DeliverSm → Option DeliverSm

/-! ### A codec that stores what it is given -/

/-- A wire that carries every request as it is. -/
def Wire.plain : Wire := ⟨some, some, some, some, some, some, some⟩

/-- A response kept as its status and its accepted body. -/
structure StoredResponse (Accepted : Type) where
  status : UInt32
  body : Option Accepted
  tlvs : List Tlv
  deriving Repr

/-- The builders that store their arguments. -/
def storedResponses (Request Accepted : Type) : Responses Request Accepted where
  Response := StoredResponse Accepted
  accept _ accepted := ⟨0, some accepted, []⟩
  reject _ status := ⟨status.code, none, []⟩
  commandStatus response := response.status
  isSuccess response := response.status == 0
  accept_status _ _ := rfl
  reject_status _ _ := rfl
  isSuccess_iff response := by simp only [beq_iff_eq]

/-- The optional parameters of SMPP 3.4 section 5.3.2 with their tags. -/
def specTagNames : List (String × UInt16) :=
  [("DEST_ADDR_SUBUNIT", 0x0005), ("DEST_NETWORK_TYPE", 0x0006), ("DEST_BEARER_TYPE", 0x0007),
   ("DEST_TELEMATICS_ID", 0x0008), ("SOURCE_ADDR_SUBUNIT", 0x000D),
   ("SOURCE_NETWORK_TYPE", 0x000E), ("SOURCE_BEARER_TYPE", 0x000F),
   ("SOURCE_TELEMATICS_ID", 0x0010), ("QOS_TIME_TO_LIVE", 0x0017), ("PAYLOAD_TYPE", 0x0019),
   ("ADDITIONAL_STATUS_INFO_TEXT", 0x001D), ("RECEIPTED_MESSAGE_ID", 0x001E),
   ("MS_MSG_WAIT_FACILITIES", 0x0030), ("PRIVACY_INDICATOR", 0x0201),
   ("SOURCE_SUBADDRESS", 0x0202), ("DEST_SUBADDRESS", 0x0203),
   ("USER_MESSAGE_REFERENCE", 0x0204), ("USER_RESPONSE_CODE", 0x0205), ("SOURCE_PORT", 0x020A),
   ("DESTINATION_PORT", 0x020B), ("SAR_MSG_REF_NUM", 0x020C), ("LANGUAGE_INDICATOR", 0x020D),
   ("SAR_TOTAL_SEGMENTS", 0x020E), ("SAR_SEGMENT_SEQNUM", 0x020F),
   ("SC_INTERFACE_VERSION", 0x0210), ("CALLBACK_NUM_PRES_IND", 0x0302),
   ("CALLBACK_NUM_ATAG", 0x0303), ("NUMBER_OF_MESSAGES", 0x0304), ("CALLBACK_NUM", 0x0381),
   ("DPF_RESULT", 0x0420), ("SET_DPF", 0x0421), ("MS_AVAILABILITY_STATUS", 0x0422),
   ("NETWORK_ERROR_CODE", 0x0423), ("MESSAGE_PAYLOAD", 0x0424),
   ("DELIVERY_FAILURE_REASON", 0x0425), ("MORE_MESSAGES_TO_SEND", 0x0426),
   ("MESSAGE_STATE", 0x0427), ("USSD_SERVICE_OP", 0x0501), ("DISPLAY_TIME", 0x1201),
   ("SMS_SIGNAL", 0x1203), ("MS_VALIDITY", 0x1204), ("ALERT_ON_MESSAGE_DELIVERY", 0x130C),
   ("ITS_REPLY_TYPE", 0x1380), ("ITS_SESSION_INFO", 0x1383)]

/-- The tags of the named variants in SMPP 3.4 section 5.3.2. -/
def specTagCode : TlvTag → UInt16
  | .destAddrSubunit => 0x0005
  | .destNetworkType => 0x0006
  | .destBearerType => 0x0007
  | .destTelematicsId => 0x0008
  | .sourceAddrSubunit => 0x000D
  | .sourceNetworkType => 0x000E
  | .sourceBearerType => 0x000F
  | .sourceTelematicsId => 0x0010
  | .qosTimeToLive => 0x0017
  | .payloadType => 0x0019
  | .msMsgWaitFacilities => 0x0030
  | .privacyIndicator => 0x0201
  | .userMessageReference => 0x0204
  | .userResponseCode => 0x0205
  | .sourcePort => 0x020A
  | .destinationPort => 0x020B
  | .sarMsgRefNum => 0x020C
  | .languageIndicator => 0x020D
  | .sarTotalSegments => 0x020E
  | .sarSegmentSeqnum => 0x020F
  | .scInterfaceVersion => 0x0210
  | .callbackNumPresInd => 0x0302
  | .numberOfMessages => 0x0304
  | .dpfResult => 0x0420
  | .setDpf => 0x0421
  | .msAvailabilityStatus => 0x0422
  | .deliveryFailureReason => 0x0425
  | .moreMessagesToSend => 0x0426
  | .messageStateTlv => 0x0427
  | .ussdServiceOp => 0x0501
  | .displayTime => 0x1201
  | .smsSignal => 0x1203
  | .msValidity => 0x1204
  | .itsReplyType => 0x1380
  | .messagePayload => 0x0424

/-- The codec that stores what it is given, with the tags of the specification. -/
@[reducible] def storingCodec : Smpp34 where
  tagNames := specTagNames
  tagCode := specTagCode
  tagCode_messagePayload := rfl
  submitSm := storedResponses SubmitSm String
  dataSm := storedResponses DataSm String
  pushTlv response tlv := { response with tlvs := response.tlvs ++ [tlv] }
  pushTlv_status _ _ := rfl
  cancelSm := storedResponses CancelSm Unit
  querySm := storedResponses QuerySm QueryAccepted
  replaceSm := storedResponses ReplaceSm Unit
  UnsuccessSme := DestAddress × UInt32
  submitSmMulti := storedResponses SubmitSmMulti (String × List (DestAddress × UInt32))
  deliverSm := storedResponses DeliverSm Unit
  bindTransceiver := storedResponses BindTransceiver (String × Option UInt8)

end SiphonSmpp
