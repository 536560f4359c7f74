/-
This file models the nine send helpers (`src/sends.rs`) up to the point where a
request is handed to the codec. A call checks its arguments at once and returns
an awaitable; the awaitable resolves its target in the registry, waits for the
bind's limiter if the helper is paced, and hands the codec its request. What a
script may leave out of a call has the default of the helper's signature.
-/

import SiphonSmpp.Registry

namespace SiphonSmpp

/-! ### Arguments -/

structure SubmitViaArgs where
  bind : String
  sourceAddr : String
  destinationAddr : String
  shortMessage : List UInt8
  sourceAddrTon : UInt8 := 1
  sourceAddrNpi : UInt8 := 1
  destAddrTon : UInt8 := 1
  destAddrNpi : UInt8 := 1
  serviceType : String := ""
  esmClass : UInt8 := 0
  protocolId : UInt8 := 0
  priorityFlag : UInt8 := 0
  scheduleDeliveryTime : String := ""
  validityPeriod : String := ""
  registeredDelivery : UInt8 := 0
  replaceIfPresentFlag : UInt8 := 0
  dataCoding : UInt8 := 0
  smDefaultMsgId : UInt8 := 0
  tlvs : Option PyDict := none

structure SubmitMultiViaArgs where
  bind : String
  sourceAddr : String
  destinations : List String
  shortMessage : List UInt8
  sourceAddrTon : UInt8 := 1
  sourceAddrNpi : UInt8 := 1
  destAddrTon : UInt8 := 1
  destAddrNpi : UInt8 := 1
  serviceType : String := ""
  esmClass : UInt8 := 0
  protocolId : UInt8 := 0
  priorityFlag : UInt8 := 0
  scheduleDeliveryTime : String := ""
  validityPeriod : String := ""
  registeredDelivery : UInt8 := 0
  replaceIfPresentFlag : UInt8 := 0
  dataCoding : UInt8 := 0
  smDefaultMsgId : UInt8 := 0
  tlvs : Option PyDict := none

structure DataViaArgs where
  bind : String
  sourceAddr : String
  destinationAddr : String
  shortMessage : List UInt8 := []
  sourceAddrTon : UInt8 := 1
  sourceAddrNpi : UInt8 := 1
  destAddrTon : UInt8 := 1
  destAddrNpi : UInt8 := 1
  serviceType : String := ""
  esmClass : UInt8 := 0
  registeredDelivery : UInt8 := 0
  dataCoding : UInt8 := 0
  tlvs : Option PyDict := none

structure CancelViaArgs where
  bind : String
  messageId : String
  sourceAddr : String := ""
  destinationAddr : String := ""
  serviceType : String := ""
  sourceAddrTon : UInt8 := 1
  sourceAddrNpi : UInt8 := 1
  destAddrTon : UInt8 := 1
  destAddrNpi : UInt8 := 1
  deriving DecidableEq, Repr

structure QueryViaArgs where
  bind : String
  messageId : String
  sourceAddr : String := ""
  sourceAddrTon : UInt8 := 1
  sourceAddrNpi : UInt8 := 1
  deriving DecidableEq, Repr

structure ReplaceViaArgs where
  bind : String
  messageId : String
  sourceAddr : String := ""
  sourceAddrTon : UInt8 := 1
  sourceAddrNpi : UInt8 := 1
  scheduleDeliveryTime : String := ""
  validityPeriod : String := ""
  registeredDelivery : UInt8 := 0
  smDefaultMsgId : UInt8 := 0
  shortMessage : List UInt8 := []
  deriving DecidableEq, Repr

structure DeliverToArgs where
  sessionId : String
  sourceAddr : String
  destinationAddr : String
  shortMessage : List UInt8
  sourceAddrTon : UInt8 := 1
  sourceAddrNpi : UInt8 := 1
  destAddrTon : UInt8 := 1
  destAddrNpi : UInt8 := 1
  serviceType : String := ""
  esmClass : UInt8 := 0
  protocolId : UInt8 := 0
  priorityFlag : UInt8 := 0
  scheduleDeliveryTime : String := ""
  validityPeriod : String := ""
  registeredDelivery : UInt8 := 0
  replaceIfPresentFlag : UInt8 := 0
  dataCoding : UInt8 := 0
  smDefaultMsgId : UInt8 := 0
  tlvs : Option PyDict := none

structure DataToArgs where
  sessionId : String
  sourceAddr : String
  destinationAddr : String
  shortMessage : List UInt8 := []
  sourceAddrTon : UInt8 := 1
  sourceAddrNpi : UInt8 := 1
  destAddrTon : UInt8 := 1
  destAddrNpi : UInt8 := 1
  serviceType : String := ""
  esmClass : UInt8 := 0
  registeredDelivery : UInt8 := 0
  dataCoding : UInt8 := 0
  tlvs : Option PyDict := none

structure AlertToArgs where
  sessionId : String
  sourceAddr : String
  esmeAddr : String
  sourceAddrTon : UInt8 := 1
  sourceAddrNpi : UInt8 := 1
  esmeAddrTon : UInt8 := 1
  esmeAddrNpi : UInt8 := 1
  msAvailabilityStatus : Option UInt8 := none
  deriving DecidableEq, Repr

/-! ### The requests built from the arguments -/

def SubmitViaArgs.request (args : SubmitViaArgs) (tlvs : List Tlv) : SubmitSm where
  serviceType := args.serviceType
  sourceAddrTon := args.sourceAddrTon
  sourceAddrNpi := args.sourceAddrNpi
  sourceAddr := args.sourceAddr
  destAddrTon := args.destAddrTon
  destAddrNpi := args.destAddrNpi
  destinationAddr := args.destinationAddr
  esmClass := args.esmClass
  protocolId := args.protocolId
  priorityFlag := args.priorityFlag
  scheduleDeliveryTime := args.scheduleDeliveryTime
  validityPeriod := args.validityPeriod
  registeredDelivery := args.registeredDelivery
  replaceIfPresentFlag := args.replaceIfPresentFlag
  dataCoding := args.dataCoding
  smDefaultMsgId := args.smDefaultMsgId
  shortMessage := args.shortMessage
  tlvs := tlvs

/-- The destinations of a `submit_multi_via` call: every address an SME under the one TON and
NPI of the call. -/
def SubmitMultiViaArgs.destAddresses (args : SubmitMultiViaArgs) : List DestAddress :=
  args.destinations.map fun destinationAddr =>
    DestAddress.sme args.destAddrTon args.destAddrNpi destinationAddr

def SubmitMultiViaArgs.request (args : SubmitMultiViaArgs) (destAddresses : List DestAddress)
    (tlvs : List Tlv) : SubmitSmMulti where
  serviceType := args.serviceType
  sourceAddrTon := args.sourceAddrTon
  sourceAddrNpi := args.sourceAddrNpi
  sourceAddr := args.sourceAddr
  destAddresses := destAddresses
  esmClass := args.esmClass
  protocolId := args.protocolId
  priorityFlag := args.priorityFlag
  scheduleDeliveryTime := args.scheduleDeliveryTime
  validityPeriod := args.validityPeriod
  registeredDelivery := args.registeredDelivery
  replaceIfPresentFlag := args.replaceIfPresentFlag
  dataCoding := args.dataCoding
  smDefaultMsgId := args.smDefaultMsgId
  shortMessage := args.shortMessage
  tlvs := tlvs

def DeliverToArgs.request (args : DeliverToArgs) (tlvs : List Tlv) : DeliverSm where
  serviceType := args.serviceType
  sourceAddrTon := args.sourceAddrTon
  sourceAddrNpi := args.sourceAddrNpi
  sourceAddr := args.sourceAddr
  destAddrTon := args.destAddrTon
  destAddrNpi := args.destAddrNpi
  destinationAddr := args.destinationAddr
  esmClass := args.esmClass
  protocolId := args.protocolId
  priorityFlag := args.priorityFlag
  scheduleDeliveryTime := args.scheduleDeliveryTime
  validityPeriod := args.validityPeriod
  registeredDelivery := args.registeredDelivery
  replaceIfPresentFlag := args.replaceIfPresentFlag
  dataCoding := args.dataCoding
  smDefaultMsgId := args.smDefaultMsgId
  shortMessage := args.shortMessage
  tlvs := tlvs

def CancelViaArgs.request (args : CancelViaArgs) : CancelSm where
  serviceType := args.serviceType
  messageId := args.messageId
  sourceAddrTon := args.sourceAddrTon
  sourceAddrNpi := args.sourceAddrNpi
  sourceAddr := args.sourceAddr
  destAddrTon := args.destAddrTon
  destAddrNpi := args.destAddrNpi
  destinationAddr := args.destinationAddr

def QueryViaArgs.request (args : QueryViaArgs) : QuerySm where
  messageId := args.messageId
  sourceAddrTon := args.sourceAddrTon
  sourceAddrNpi := args.sourceAddrNpi
  sourceAddr := args.sourceAddr

def ReplaceViaArgs.request (args : ReplaceViaArgs) : ReplaceSm where
  messageId := args.messageId
  sourceAddrTon := args.sourceAddrTon
  sourceAddrNpi := args.sourceAddrNpi
  sourceAddr := args.sourceAddr
  scheduleDeliveryTime := args.scheduleDeliveryTime
  validityPeriod := args.validityPeriod
  registeredDelivery := args.registeredDelivery
  smDefaultMsgId := args.smDefaultMsgId
  shortMessage := args.shortMessage

/-! ### Checks -/

def requireState (runtime : Option State) : Except PyErr Unit :=
  match runtime with
  | some _ => .ok ()
  | none => .error ⟨.runtimeError,
      "siphon-smpp runtime not started — the SMPP task is not registered"⟩

/-- The most octets a `short_message` field holds. -/
def shortMessageMax : Nat := 254

def checkShortMessage (command : String) (len : Nat) (payloadAvailable : Bool) :
    Except PyErr Unit :=
  if len ≤ shortMessageMax then .ok ()
  else
    let hint :=
      if payloadAvailable then
        " — send it as tlvs=\x7b\"MESSAGE_PAYLOAD\": …\x7d with short_message=b\"\" instead"
      else ""
    .error ⟨.valueError, command ++ " short_message is " ++ toString len ++
      " bytes, over the SMPP 3.4 " ++ toString shortMessageMax ++ "-byte limit" ++ hint⟩

/-! ### Handing over a request -/

/-- A request as it is handed to a session: the limiter waited for first, the response timer
it is settled with, and the request. -/
structure Submission (Session Request : Type) where
  session : Arc Session
  paced : Option LimiterHandle
  responseTimer : Duration
  request : Request
  deriving DecidableEq, Repr

/-- What awaiting a call does against the registry it finds. -/
abbrev Awaitable (Session Request : Type) := State → Except PyErr (Submission Session Request)

section Awaiting

variable {Request : Type}

/-- Resolve a bind and pace the request against its limiter. -/
def pacedOnBind (bind : String) (request : Request) : Awaitable Smsc Request := fun state => do
  let target ← bindHandle state bind
  return ⟨target.smsc, target.throttle, target.responseTimer, request⟩

/-- Resolve a bind; a management request is not paced. -/
def unpacedOnBind (bind : String) (request : Request) : Awaitable Smsc Request := fun state => do
  let target ← bindHandle state bind
  return ⟨target.smsc, none, target.responseTimer, request⟩

/-- Resolve an ESME session, whatever it was bound as. -/
def onEsme (sessionId : String) (request : Request) : Awaitable Esme Request := fun state => do
  let (esme, responseTimer) ← esmeHandle state sessionId
  return ⟨esme, none, responseTimer, request⟩

/-- Resolve an ESME session that can receive. -/
def onReceiver (sessionId command : String) (request : Request) : Awaitable Esme Request :=
  fun state => do
    let (esme, responseTimer) ← esmeHandle state sessionId
    if !esme.value.canReceive then
      throw ⟨.runtimeError, "esme session " ++ debugText sessionId ++
        " is not RX/TRX — cannot " ++ command⟩
    return ⟨esme, none, responseTimer, request⟩

end Awaiting

/-! ### The helpers -/

section Helpers

variable [Smpp34] (runtime : Option State)

/-- Put a body into the `message_payload` parameter; a body given both ways is refused. -/
def foldMessagePayload (command : String) (shortMessage : List UInt8) (tlvs : List Tlv) :
    Except PyErr (List Tlv) :=
  if shortMessage.isEmpty then .ok tlvs
  else if (messagePayload tlvs).isSome then
    .error ⟨.valueError, command ++ ": pass the body either as short_message= or as " ++
      "tlvs=\x7b\"MESSAGE_PAYLOAD\": …\x7d, not both"⟩
  else .ok (tlvs ++ [⟨Smpp34.tagCode .messagePayload, shortMessage⟩])

def buildDataSm (serviceType : String) (sourceAddrTon sourceAddrNpi : UInt8) (sourceAddr : String)
    (destAddrTon destAddrNpi : UInt8) (destinationAddr : String)
    (esmClass registeredDelivery dataCoding : UInt8) (shortMessage : List UInt8)
    (tlvs : List Tlv) : Except PyErr DataSm := do
  let tlvs ← foldMessagePayload "data_sm" shortMessage tlvs
  return ⟨serviceType, sourceAddrTon, sourceAddrNpi, sourceAddr, destAddrTon, destAddrNpi,
    destinationAddr, esmClass, registeredDelivery, dataCoding, tlvs⟩

def submitVia (args : SubmitViaArgs) : Except PyErr (Awaitable Smsc SubmitSm) := do
  requireState runtime
  checkShortMessage "submit_sm" args.shortMessage.length true
  let tlvs ← tlvsFromPy args.tlvs
  return pacedOnBind args.bind (args.request tlvs)

def submitMultiVia (args : SubmitMultiViaArgs) :
    Except PyErr (Awaitable Smsc SubmitSmMulti) := do
  requireState runtime
  checkShortMessage "submit_sm_multi" args.shortMessage.length true
  let tlvs ← tlvsFromPy args.tlvs
  let destAddresses := args.destAddresses
  if destAddresses.length > 254 then
    throw ⟨.valueError, "submit_sm_multi addresses " ++ toString destAddresses.length ++
      " destinations, over the SMPP 3.4 limit of 254"⟩
  return pacedOnBind args.bind (args.request destAddresses tlvs)

def dataVia (args : DataViaArgs) : Except PyErr (Awaitable Smsc DataSm) := do
  requireState runtime
  let pdu ← buildDataSm args.serviceType args.sourceAddrTon args.sourceAddrNpi args.sourceAddr
    args.destAddrTon args.destAddrNpi args.destinationAddr args.esmClass args.registeredDelivery
    args.dataCoding args.shortMessage (← tlvsFromPy args.tlvs)
  return pacedOnBind args.bind pdu

def cancelVia (args : CancelViaArgs) : Except PyErr (Awaitable Smsc CancelSm) := do
  requireState runtime
  return unpacedOnBind args.bind args.request

def queryVia (args : QueryViaArgs) : Except PyErr (Awaitable Smsc QuerySm) := do
  requireState runtime
  return unpacedOnBind args.bind args.request

def replaceVia (args : ReplaceViaArgs) : Except PyErr (Awaitable Smsc ReplaceSm) := do
  requireState runtime
  checkShortMessage "replace_sm" args.shortMessage.length false
  return unpacedOnBind args.bind args.request

def deliverTo (args : DeliverToArgs) : Except PyErr (Awaitable Esme DeliverSm) := do
  requireState runtime
  checkShortMessage "deliver_sm" args.shortMessage.length true
  let tlvs ← tlvsFromPy args.tlvs
  return onReceiver args.sessionId "deliver_sm" (args.request tlvs)

def dataTo (args : DataToArgs) : Except PyErr (Awaitable Esme DataSm) := do
  requireState runtime
  let pdu ← buildDataSm args.serviceType args.sourceAddrTon args.sourceAddrNpi args.sourceAddr
    args.destAddrTon args.destAddrNpi args.destinationAddr args.esmClass args.registeredDelivery
    args.dataCoding args.shortMessage (← tlvsFromPy args.tlvs)
  return onEsme args.sessionId pdu

end Helpers

/-- An `alert_notification`: its parameters as they are handed to the codec. -/
structure AlertNotification where
  sourceAddrTon : UInt8
  sourceAddrNpi : UInt8
  sourceAddr : String
  esmeAddrTon : UInt8
  esmeAddrNpi : UInt8
  esmeAddr : String
  msAvailabilityStatus : Option UInt8
  deriving DecidableEq, Repr

def alertTo (runtime : Option State) (args : AlertToArgs) :
    Except PyErr (Awaitable Esme AlertNotification) := do
  requireState runtime
  return onReceiver args.sessionId "alert_notification"
    { sourceAddrTon := args.sourceAddrTon
      sourceAddrNpi := args.sourceAddrNpi
      sourceAddr := args.sourceAddr
      esmeAddrTon := args.esmeAddrTon
      esmeAddrNpi := args.esmeAddrNpi
      esmeAddr := args.esmeAddr
      msAvailabilityStatus := args.msAvailabilityStatus }

/-- A registry with the bind `"smsc"` up and a receiving ESME session. -/
def boundState : State where
  binds := [⟨"smsc", ⟨0, ⟨"session-1", "peer", "192.0.2.1:2775"⟩⟩, none, 30⟩]
  esmes := [⟨⟨2, ⟨"session-2", "esme", "198.51.100.7:5000", true⟩⟩, none, 30⟩]
  inboundMaxMps := 0
  inboundThrottleAction := .pace
  inboundResponseTimer := 30
  nextPtr := 4

/-! ### What the checks let through -/

theorem requireState_eq_ok_iff (runtime : Option State) (done : Unit) :
    requireState runtime = .ok done ↔ runtime.isSome := by
  cases runtime with
  | none => exact ⟨nofun, nofun⟩
  | some state => exact ⟨fun _ => rfl, fun _ => rfl⟩

theorem checkShortMessage_eq_ok_iff (command : String) (len : Nat) (payloadAvailable : Bool)
    (done : Unit) :
    checkShortMessage command len payloadAvailable = .ok done ↔ len ≤ shortMessageMax := by
  unfold checkShortMessage
  split
  · rename_i fits
    exact ⟨fun _ => fits, fun _ => rfl⟩
  · rename_i long
    exact ⟨nofun, fun fits => absurd fits long⟩

/-- A call hands over a request when its checks pass and its target resolves. -/
theorem awaited_eq_ok_iff {Session Request Handed : Type}
    (call : Except PyErr (Awaitable Session Request)) (state : State) (wrap : Request → Handed)
    (handed : Handed) :
    (do return wrap (← (← call) state).request) = Except.ok handed ↔
      ∃ awaitable, call = .ok awaitable ∧
        ∃ submission, awaitable state = .ok submission ∧ handed = wrap submission.request := by
  simp only [bind_eq_ok_iff, pure_eq_ok_iff]

/-- Resolving a target does not touch the request. -/
theorem pacedOnBind_request {Request : Type} (bind : String) (request : Request) (state : State)
    (submission : Submission Smsc Request)
    (handed : pacedOnBind bind request state = .ok submission) : submission.request = request := by
  obtain ⟨target, _, same⟩ := (bind_eq_ok_iff _ _ _).mp handed
  rw [← Except.ok.inj same]

theorem onEsme_request {Request : Type} (sessionId : String) (request : Request) (state : State)
    (submission : Submission Esme Request)
    (handed : onEsme sessionId request state = .ok submission) : submission.request = request := by
  obtain ⟨target, _, same⟩ := (bind_eq_ok_iff _ _ _).mp handed
  rw [← Except.ok.inj same]

theorem onReceiver_request {Request : Type} (sessionId command : String) (request : Request)
    (state : State) (submission : Submission Esme Request)
    (handed : onReceiver sessionId command request state = .ok submission) :
    submission.request = request := by
  obtain ⟨⟨esme, responseTimer⟩, _, rest⟩ := (bind_eq_ok_iff _ _ _).mp handed
  obtain ⟨_, same⟩ := (ite_throw_eq_ok_iff _ _ _ _).mp rest
  rw [← Except.ok.inj same]

section Calls

variable [Smpp34] (runtime : Option State)

/-- A body is folded when there is none to fold, or none in the parameters yet. -/
theorem foldMessagePayload_eq_ok_iff (command : String) (shortMessage : List UInt8)
    (tlvs folded : List Tlv) :
    foldMessagePayload command shortMessage tlvs = .ok folded ↔
      (shortMessage = [] ∧ folded = tlvs) ∨
      (shortMessage ≠ [] ∧ messagePayload tlvs = none ∧
        folded = tlvs ++ [⟨messagePayloadTag, shortMessage⟩]) := by
  unfold foldMessagePayload
  rw [Smpp34.tagCode_messagePayload]
  cases shortMessage with
  | nil => simp [eq_comm]
  | cons octet rest =>
    cases messagePayload tlvs with
    | none => simp [eq_comm]
    | some payload => simp

theorem submitVia_eq_ok_iff (args : SubmitViaArgs) (awaitable : Awaitable Smsc SubmitSm) :
    submitVia runtime args = .ok awaitable ↔
      runtime.isSome ∧ args.shortMessage.length ≤ shortMessageMax ∧
      ∃ tlvs, tlvsFromPy args.tlvs = .ok tlvs ∧
        awaitable = pacedOnBind args.bind (args.request tlvs) := by
  simp only [submitVia, bind_eq_ok_iff, pure_eq_ok_iff, requireState_eq_ok_iff,
    checkShortMessage_eq_ok_iff, exists_const]

theorem deliverTo_eq_ok_iff (args : DeliverToArgs) (awaitable : Awaitable Esme DeliverSm) :
    deliverTo runtime args = .ok awaitable ↔
      runtime.isSome ∧ args.shortMessage.length ≤ shortMessageMax ∧
      ∃ tlvs, tlvsFromPy args.tlvs = .ok tlvs ∧
        awaitable = onReceiver args.sessionId "deliver_sm" (args.request tlvs) := by
  simp only [deliverTo, bind_eq_ok_iff, pure_eq_ok_iff, requireState_eq_ok_iff,
    checkShortMessage_eq_ok_iff, exists_const]

theorem submitMultiVia_eq_ok_iff (args : SubmitMultiViaArgs)
    (awaitable : Awaitable Smsc SubmitSmMulti) :
    submitMultiVia runtime args = .ok awaitable ↔
      runtime.isSome ∧ args.shortMessage.length ≤ shortMessageMax ∧
      args.destinations.length ≤ 254 ∧
      ∃ tlvs, tlvsFromPy args.tlvs = .ok tlvs ∧
        awaitable = pacedOnBind args.bind (args.request args.destAddresses tlvs) := by
  have count : args.destAddresses.length = args.destinations.length := List.length_map _
  simp only [submitMultiVia, ite_throw_eq_ok_iff, bind_eq_ok_iff, pure_eq_ok_iff,
    requireState_eq_ok_iff, checkShortMessage_eq_ok_iff, exists_const, count, not_lt, gt_iff_lt,
    exists_and_left, and_left_comm]

theorem dataVia_eq_ok_iff (args : DataViaArgs) (awaitable : Awaitable Smsc DataSm) :
    dataVia runtime args = .ok awaitable ↔
      runtime.isSome ∧ ∃ tlvs, tlvsFromPy args.tlvs = .ok tlvs ∧
        ∃ pdu, buildDataSm args.serviceType args.sourceAddrTon args.sourceAddrNpi args.sourceAddr
          args.destAddrTon args.destAddrNpi args.destinationAddr args.esmClass
          args.registeredDelivery args.dataCoding args.shortMessage tlvs = .ok pdu ∧
          awaitable = pacedOnBind args.bind pdu := by
  simp only [dataVia, bind_eq_ok_iff, pure_eq_ok_iff, requireState_eq_ok_iff, exists_const]

theorem dataTo_eq_ok_iff (args : DataToArgs) (awaitable : Awaitable Esme DataSm) :
    dataTo runtime args = .ok awaitable ↔
      runtime.isSome ∧ ∃ tlvs, tlvsFromPy args.tlvs = .ok tlvs ∧
        ∃ pdu, buildDataSm args.serviceType args.sourceAddrTon args.sourceAddrNpi args.sourceAddr
          args.destAddrTon args.destAddrNpi args.destinationAddr args.esmClass
          args.registeredDelivery args.dataCoding args.shortMessage tlvs = .ok pdu ∧
          awaitable = onEsme args.sessionId pdu := by
  simp only [dataTo, bind_eq_ok_iff, pure_eq_ok_iff, requireState_eq_ok_iff, exists_const]

end Calls

theorem cancelVia_eq_ok_iff (runtime : Option State) (args : CancelViaArgs)
    (awaitable : Awaitable Smsc CancelSm) :
    cancelVia runtime args = .ok awaitable ↔
      runtime.isSome ∧ awaitable = unpacedOnBind args.bind args.request := by
  simp only [cancelVia, bind_eq_ok_iff, pure_eq_ok_iff, requireState_eq_ok_iff, exists_const]

theorem queryVia_eq_ok_iff (runtime : Option State) (args : QueryViaArgs)
    (awaitable : Awaitable Smsc QuerySm) :
    queryVia runtime args = .ok awaitable ↔
      runtime.isSome ∧ awaitable = unpacedOnBind args.bind args.request := by
  simp only [queryVia, bind_eq_ok_iff, pure_eq_ok_iff, requireState_eq_ok_iff, exists_const]

theorem replaceVia_eq_ok_iff (runtime : Option State) (args : ReplaceViaArgs)
    (awaitable : Awaitable Smsc ReplaceSm) :
    replaceVia runtime args = .ok awaitable ↔
      runtime.isSome ∧ args.shortMessage.length ≤ shortMessageMax ∧
        awaitable = unpacedOnBind args.bind args.request := by
  simp only [replaceVia, bind_eq_ok_iff, pure_eq_ok_iff, requireState_eq_ok_iff,
    checkShortMessage_eq_ok_iff, exists_const]

end SiphonSmpp
