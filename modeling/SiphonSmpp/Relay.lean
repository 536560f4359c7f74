/-
This file proves what survives a relay: a script passes every attribute of an
inbound `Pdu` to the helper that sends the same request, with
`short_message=pdu.short_message` and `tlvs=pdu.tlvs` where the helper takes
them. Six requests come out as they came in. A `submit_sm_multi` does not: its
destinations pass through a list of strings, which has no place for the kind
and the numbering plan of an entry.
-/

import SiphonSmpp.Sends

namespace SiphonSmpp

/-! ### The call a relay makes -/

def SubmitViaArgs.relay (bind : String) (pdu : Pdu) : SubmitViaArgs where
  bind := bind
  sourceAddr := pdu.sourceAddr
  destinationAddr := pdu.destinationAddr
  shortMessage := pdu.shortMessage
  sourceAddrTon := pdu.sourceAddrTon
  sourceAddrNpi := pdu.sourceAddrNpi
  destAddrTon := pdu.destAddrTon
  destAddrNpi := pdu.destAddrNpi
  serviceType := pdu.serviceType
  esmClass := pdu.esmClass
  protocolId := pdu.protocolId
  priorityFlag := pdu.priorityFlag
  scheduleDeliveryTime := pdu.scheduleDeliveryTime
  validityPeriod := pdu.validityPeriod
  registeredDelivery := pdu.registeredDelivery
  replaceIfPresentFlag := pdu.replaceIfPresentFlag
  dataCoding := pdu.dataCoding
  smDefaultMsgId := pdu.smDefaultMsgId
  tlvs := some pdu.tlvsDict

def DeliverToArgs.relay (sessionId : String) (pdu : Pdu) : DeliverToArgs where
  sessionId := sessionId
  sourceAddr := pdu.sourceAddr
  destinationAddr := pdu.destinationAddr
  shortMessage := pdu.shortMessage
  sourceAddrTon := pdu.sourceAddrTon
  sourceAddrNpi := pdu.sourceAddrNpi
  destAddrTon := pdu.destAddrTon
  destAddrNpi := pdu.destAddrNpi
  serviceType := pdu.serviceType
  esmClass := pdu.esmClass
  protocolId := pdu.protocolId
  priorityFlag := pdu.priorityFlag
  scheduleDeliveryTime := pdu.scheduleDeliveryTime
  validityPeriod := pdu.validityPeriod
  registeredDelivery := pdu.registeredDelivery
  replaceIfPresentFlag := pdu.replaceIfPresentFlag
  dataCoding := pdu.dataCoding
  smDefaultMsgId := pdu.smDefaultMsgId
  tlvs := some pdu.tlvsDict

def DataViaArgs.relay (bind : String) (pdu : Pdu) : DataViaArgs where
  bind := bind
  sourceAddr := pdu.sourceAddr
  destinationAddr := pdu.destinationAddr
  shortMessage := pdu.shortMessage
  sourceAddrTon := pdu.sourceAddrTon
  sourceAddrNpi := pdu.sourceAddrNpi
  destAddrTon := pdu.destAddrTon
  destAddrNpi := pdu.destAddrNpi
  serviceType := pdu.serviceType
  esmClass := pdu.esmClass
  registeredDelivery := pdu.registeredDelivery
  dataCoding := pdu.dataCoding
  tlvs := some pdu.tlvsDict

def CancelViaArgs.relay (bind : String) (pdu : Pdu) : CancelViaArgs where
  bind := bind
  messageId := pdu.messageId
  sourceAddr := pdu.sourceAddr
  destinationAddr := pdu.destinationAddr
  serviceType := pdu.serviceType
  sourceAddrTon := pdu.sourceAddrTon
  sourceAddrNpi := pdu.sourceAddrNpi
  destAddrTon := pdu.destAddrTon
  destAddrNpi := pdu.destAddrNpi

def QueryViaArgs.relay (bind : String) (pdu : Pdu) : QueryViaArgs where
  bind := bind
  messageId := pdu.messageId
  sourceAddr := pdu.sourceAddr
  sourceAddrTon := pdu.sourceAddrTon
  sourceAddrNpi := pdu.sourceAddrNpi

def ReplaceViaArgs.relay (bind : String) (pdu : Pdu) : ReplaceViaArgs where
  bind := bind
  messageId := pdu.messageId
  sourceAddr := pdu.sourceAddr
  sourceAddrTon := pdu.sourceAddrTon
  sourceAddrNpi := pdu.sourceAddrNpi
  scheduleDeliveryTime := pdu.scheduleDeliveryTime
  validityPeriod := pdu.validityPeriod
  registeredDelivery := pdu.registeredDelivery
  smDefaultMsgId := pdu.smDefaultMsgId
  shortMessage := pdu.shortMessage

def SubmitMultiViaArgs.relay (bind : String) (pdu : Pdu) : SubmitMultiViaArgs where
  bind := bind
  sourceAddr := pdu.sourceAddr
  destinations := pdu.destinations
  shortMessage := pdu.shortMessage
  sourceAddrTon := pdu.sourceAddrTon
  sourceAddrNpi := pdu.sourceAddrNpi
  destAddrTon := pdu.destAddrTon
  destAddrNpi := pdu.destAddrNpi
  serviceType := pdu.serviceType
  esmClass := pdu.esmClass
  protocolId := pdu.protocolId
  priorityFlag := pdu.priorityFlag
  scheduleDeliveryTime := pdu.scheduleDeliveryTime
  validityPeriod := pdu.validityPeriod
  registeredDelivery := pdu.registeredDelivery
  replaceIfPresentFlag := pdu.replaceIfPresentFlag
  dataCoding := pdu.dataCoding
  smDefaultMsgId := pdu.smDefaultMsgId
  tlvs := some pdu.tlvsDict

/-! ### The relayed requests -/

/-- A request whose relay has a helper of its own that takes every field. -/
inductive RelayRequest where
  | submitSm (request : SubmitSm)
  | deliverSm (request : DeliverSm)
  | dataSm (request : DataSm)
  | cancelSm (request : CancelSm)
  | querySm (request : QuerySm)
  | replaceSm (request : ReplaceSm)
  deriving DecidableEq, Repr

/-- The `Pdu` a script sees for the request. -/
def RelayRequest.pdu : RelayRequest → Pdu
  | .submitSm request => Pdu.fromSubmit request
  | .deliverSm request => Pdu.fromDeliver request
  | .dataSm request => Pdu.fromData request
  | .cancelSm request => Pdu.fromCancel request
  | .querySm request => Pdu.fromQuery request
  | .replaceSm request => Pdu.fromReplace request

section Relay

variable [Smpp34]

/-- The request the relay hands to the codec. `target` names the bind, or the session of a
`deliver_sm`. -/
def RelayRequest.relay (request : RelayRequest) (runtime : Option State) (state : State)
    (target : String) : Except PyErr RelayRequest :=
  match request with
  | .submitSm _ => do
    return .submitSm (← (← submitVia runtime (.relay target request.pdu)) state).request
  | .deliverSm _ => do
    return .deliverSm (← (← deliverTo runtime (.relay target request.pdu)) state).request
  | .dataSm _ => do
    return .dataSm (← (← dataVia runtime (.relay target request.pdu)) state).request
  | .cancelSm _ => do
    return .cancelSm (← (← cancelVia runtime (.relay target request.pdu)) state).request
  | .querySm _ => do
    return .querySm (← (← queryVia runtime (.relay target request.pdu)) state).request
  | .replaceSm _ => do
    return .replaceSm (← (← replaceVia runtime (.relay target request.pdu)) state).request

end Relay

/-- The target of the relay is bound; a `deliver_sm` also needs a session that can receive. -/
def RelayRequest.Resolves (request : RelayRequest) (state : State) (target : String) : Prop :=
  match request with
  | .deliverSm _ => ∃ esme responseTimer,
      esmeHandle state target = .ok (esme, responseTimer) ∧ esme.value.canReceive = true
  | _ => ∃ found, bindHandle state target = .ok found

/-! ### Resolving a target that is bound -/

section Resolved

variable {Request : Type} (request : Request) (state : State)

theorem pacedOnBind_of_resolved (bind : String) (target : BindTarget)
    (resolved : bindHandle state bind = .ok target) :
    pacedOnBind bind request state =
      .ok ⟨target.smsc, target.throttle, target.responseTimer, request⟩ := by
  rw [pacedOnBind, resolved]
  rfl

theorem unpacedOnBind_of_resolved (bind : String) (target : BindTarget)
    (resolved : bindHandle state bind = .ok target) :
    unpacedOnBind bind request state =
      .ok ⟨target.smsc, none, target.responseTimer, request⟩ := by
  rw [unpacedOnBind, resolved]
  rfl

theorem onReceiver_of_resolved (sessionId command : String) (esme : Arc Esme)
    (responseTimer : Duration) (resolved : esmeHandle state sessionId = .ok (esme, responseTimer))
    (receives : esme.value.canReceive = true) :
    onReceiver sessionId command request state = .ok ⟨esme, none, responseTimer, request⟩ := by
  have passes : ¬ (!esme.value.canReceive) = true := by
    rw [receives]
    exact Bool.false_ne_true
  simp only [onReceiver, resolved, bind_eq_ok_iff, ite_throw_eq_ok_iff, pure_eq_ok_iff]
  exact ⟨_, rfl, passes, rfl⟩

end Resolved

section Lossless

variable [Smpp34]

/-- Relaying is lossless: a request whose `short_message` is at most 254 octets and whose tags
are pairwise distinct is handed to the codec as it came in. -/
theorem relay_is_lossless (request : RelayRequest)
    (short : request.pdu.shortMessage.length ≤ 254)
    (distinct : (request.pdu.tlvs.map Tlv.tag).Nodup) (runtime : Option State)
    (started : runtime.isSome) (state : State) (target : String)
    (resolves : request.Resolves state target) :
    request.relay runtime state target = .ok request := by
  have tlvs : tlvsFromPy (some request.pdu.tlvsDict) = .ok request.pdu.tlvs :=
    tlvsFromPy_tlvsToPy request.pdu.tlvs distinct
  cases request with
  | submitSm request =>
    obtain ⟨found, resolved⟩ := resolves
    have called := (submitVia_eq_ok_iff runtime (.relay target (Pdu.fromSubmit request)) _).mpr
      ⟨started, short, _, tlvs, rfl⟩
    have handed := pacedOnBind_of_resolved request state target found resolved
    exact (awaited_eq_ok_iff _ state RelayRequest.submitSm _).mpr ⟨_, called, _, handed, rfl⟩
  | deliverSm request =>
    obtain ⟨esme, responseTimer, resolved, receives⟩ := resolves
    have called := (deliverTo_eq_ok_iff runtime (.relay target (Pdu.fromDeliver request)) _).mpr
      ⟨started, short, _, tlvs, rfl⟩
    have handed := onReceiver_of_resolved request state target "deliver_sm" esme responseTimer
      resolved receives
    exact (awaited_eq_ok_iff _ state RelayRequest.deliverSm _).mpr ⟨_, called, _, handed, rfl⟩
  | dataSm request =>
    obtain ⟨found, resolved⟩ := resolves
    have called := (dataVia_eq_ok_iff runtime (.relay target (Pdu.fromData request)) _).mpr
      ⟨started, _, tlvs, _, rfl, rfl⟩
    have handed := pacedOnBind_of_resolved request state target found resolved
    exact (awaited_eq_ok_iff _ state RelayRequest.dataSm _).mpr ⟨_, called, _, handed, rfl⟩
  | cancelSm request =>
    obtain ⟨found, resolved⟩ := resolves
    have called := (cancelVia_eq_ok_iff runtime (.relay target (Pdu.fromCancel request)) _).mpr
      ⟨started, rfl⟩
    have handed := unpacedOnBind_of_resolved request state target found resolved
    exact (awaited_eq_ok_iff _ state RelayRequest.cancelSm _).mpr ⟨_, called, _, handed, rfl⟩
  | querySm request =>
    obtain ⟨found, resolved⟩ := resolves
    have called := (queryVia_eq_ok_iff runtime (.relay target (Pdu.fromQuery request)) _).mpr
      ⟨started, rfl⟩
    have handed := unpacedOnBind_of_resolved request state target found resolved
    exact (awaited_eq_ok_iff _ state RelayRequest.querySm _).mpr ⟨_, called, _, handed, rfl⟩
  | replaceSm request =>
    obtain ⟨found, resolved⟩ := resolves
    have called := (replaceVia_eq_ok_iff runtime (.relay target (Pdu.fromReplace request)) _).mpr
      ⟨started, short, rfl⟩
    have handed := unpacedOnBind_of_resolved request state target found resolved
    exact (awaited_eq_ok_iff _ state RelayRequest.replaceSm _).mpr ⟨_, called, _, handed, rfl⟩

end Lossless

/-- A scheduled `submit_sm` with two parameters, out of their numeric order. -/
theorem relay_is_lossless_scheduled :
    letI := storingCodec
    (RelayRequest.submitSm ⟨"CMT", 5, 0, "shop", 1, 1, "15550101", 3, 0, 1, "000001000000000R",
        "000003000000000R", 1, 0, 8, 0, [0x00, 0x68], [⟨0x1400, [0x01]⟩, ⟨0x020C, [0x00, 0x2A]⟩]⟩).relay
      (some boundState) boundState "smsc" =
    .ok (.submitSm ⟨"CMT", 5, 0, "shop", 1, 1, "15550101", 3, 0, 1, "000001000000000R",
        "000003000000000R", 1, 0, 8, 0, [0x00, 0x68],
        [⟨0x1400, [0x01]⟩, ⟨0x020C, [0x00, 0x2A]⟩]⟩) :=
  letI := storingCodec
  relay_is_lossless _ (by decide) (by decide) _ rfl boundState "smsc" ⟨_, rfl⟩

/-! ### The destinations of a relayed `submit_sm_multi` -/

section Multi

variable [Smpp34]

/-- The request the relay of a `submit_sm_multi` hands to the codec. -/
def SubmitSmMulti.relay (request : SubmitSmMulti) (runtime : Option State) (state : State)
    (bind : String) : Except PyErr SubmitSmMulti := do
  return (← (← submitMultiVia runtime (.relay bind (Pdu.fromSubmitMulti request))) state).request

omit [Smpp34] in
/-- The destinations a relay rebuilds: SMEs under the names the originals were listed as, with
the TON and NPI of the `Pdu`, which are zero. -/
theorem relay_destAddresses (bind : String) (request : SubmitSmMulti) :
    (SubmitMultiViaArgs.relay bind (Pdu.fromSubmitMulti request)).destAddresses =
      request.destAddresses.map fun destination => .sme 0 0 destination.name := by
  show (request.destAddresses.map DestAddress.name).map _ = _
  rw [List.map_map]
  rfl

omit [Smpp34] in
theorem map_sme_eq_self_iff (destinations : List DestAddress) :
    (destinations.map fun destination => DestAddress.sme 0 0 destination.name) = destinations ↔
      ∀ destination ∈ destinations, ∃ address, destination = .sme 0 0 address := by
  have pointwise : (destinations.map fun destination => DestAddress.sme 0 0 destination.name) =
      destinations.map id ↔ ∀ destination ∈ destinations, .sme 0 0 destination.name = destination :=
    List.map_inj_left
  rw [List.map_id] at pointwise
  rw [pointwise]
  refine forall₂_congr fun destination _ => ⟨fun same => ⟨_, same.symm⟩, ?_⟩
  intro ⟨address, same⟩
  rw [same]
  rfl

/-- A relayed `submit_sm_multi` with at most 254 destinations is accepted when its
`short_message` is at most 254 octets. What it hands to the codec has the original's
destinations in number and order, each an SME under the original's address or list name with
TON and NPI zero; so the list is the original one exactly when all of its entries were such. -/
theorem relayed_multi_destinations (request : SubmitSmMulti)
    (few : request.destAddresses.length ≤ 254) (runtime : Option State)
    (started : runtime.isSome) (state : State) (bind : String) (target : BindTarget)
    (resolved : bindHandle state bind = .ok target) :
    ((∃ relayed, request.relay runtime state bind = .ok relayed) ↔
      request.shortMessage.length ≤ 254) ∧
    ∀ relayed, request.relay runtime state bind = .ok relayed →
      relayed.destAddresses.length = request.destAddresses.length ∧
      relayed.destAddresses = (request.destAddresses.map fun destination =>
        .sme 0 0 destination.name) ∧
      (relayed.destAddresses = request.destAddresses ↔
        ∀ destination ∈ request.destAddresses, ∃ address, destination = .sme 0 0 address) := by
  have count : (SubmitMultiViaArgs.relay bind (Pdu.fromSubmitMulti request)).destinations.length =
      request.destAddresses.length := List.length_map _
  simp only [SubmitSmMulti.relay, bind_eq_ok_iff, pure_eq_ok_iff, submitMultiVia_eq_ok_iff, count]
  constructor
  · constructor
    · intro ⟨relayed, awaitable, ⟨_, short, _⟩, _⟩
      exact short
    · intro short
      obtain ⟨tlvs, converted⟩ := tlvsFromPy_tlvsToPy_succeeds request.tlvs
      exact ⟨_, _, ⟨started, short, few, tlvs, converted, rfl⟩, _,
        pacedOnBind_of_resolved _ state bind target resolved, rfl⟩
  · intro relayed ⟨awaitable, ⟨_, _, _, tlvs, _, built⟩, submission, awaited, same⟩
    rw [built] at awaited
    have destinations : relayed.destAddresses =
        request.destAddresses.map fun destination => .sme 0 0 destination.name := by
      rw [same, pacedOnBind_request _ _ _ _ awaited]
      exact relay_destAddresses bind request
    rw [destinations, List.length_map]
    exact ⟨rfl, rfl, map_sme_eq_self_iff request.destAddresses⟩

end Multi

/-- Two entries without a numbering plan are relayed as they were. -/
theorem relayed_multi_destinations_plain :
    letI := storingCodec
    ∃ relayed, SubmitSmMulti.relay ⟨"", 1, 1, "100", [.sme 0 0 "15550101", .sme 0 0 "15550102"],
        0, 0, 0, "", "", 0, 0, 0, 0, [0x68], []⟩ (some boundState) boundState "smsc" = .ok relayed ∧
      relayed.destAddresses = [.sme 0 0 "15550101", .sme 0 0 "15550102"] :=
  letI := storingCodec
  have relays := relayed_multi_destinations ⟨"", 1, 1, "100",
    [.sme 0 0 "15550101", .sme 0 0 "15550102"], 0, 0, 0, "", "", 0, 0, 0, 0, [0x68], []⟩
    (by decide) (some boundState) rfl boundState "smsc" _ rfl
  let ⟨relayed, done⟩ := relays.1.mpr (by decide)
  ⟨relayed, done, (relays.2 relayed done).2.1⟩

/-- An international SME and a distribution list: the relay turns both into SMEs without a
numbering plan. -/
theorem relayed_multi_loses_kind_and_plan :
    letI := storingCodec
    ¬ ∀ (request relayed : SubmitSmMulti) (runtime : Option State) (state : State) (bind : String),
      request.destAddresses.length ≤ 254 → request.relay runtime state bind = .ok relayed →
        relayed.destAddresses = request.destAddresses := by
  intro claimed
  have same := claimed ⟨"", 1, 1, "100",
    [.sme 1 1 "15550101", .distributionList "vip"], 0, 0, 0, "", "", 0, 0, 0, 0, [0x68], []⟩ _
    (some boundState) boundState "smsc" (by decide) rfl
  cases same

end SiphonSmpp
