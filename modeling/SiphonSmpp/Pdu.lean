/-
This file models the objects a script handles (`src/pyclasses.rs`): the `Pdu`
record every inbound request is decoded into, with the message body it
reports, the `PduReply` a handler answers with, and the `Bind` request with the
`BindResult` a handler returns for it. A `BindResult` reaches the runtime only
from `bind.accept()` or `bind.reject(...)`, which `ScriptBindResult` records.
-/

import SiphonSmpp.Tlv

namespace SiphonSmpp

/-! ### The inbound PDU -/

/-- The attributes a script reads off an inbound request, whatever its command. -/
structure Pdu where
  command : String
  messageId : String
  serviceType : String
  sourceAddrTon : UInt8
  sourceAddrNpi : UInt8
  sourceAddr : String
  destAddrTon : UInt8
  destAddrNpi : UInt8
  destinationAddr : String
  esmClass : UInt8
  protocolId : UInt8
  priorityFlag : UInt8
  scheduleDeliveryTime : String
  validityPeriod : String
  registeredDelivery : UInt8
  replaceIfPresentFlag : UInt8
  dataCoding : UInt8
  smDefaultMsgId : UInt8
  smLength : UInt8
  destinations : List String
  shortMessage : List UInt8
  tlvs : List Tlv
  deriving DecidableEq, Repr

/-- The message body: the `message_payload` parameter when there is one, else the
`short_message` field. -/
def Pdu.body (pdu : Pdu) : List UInt8 :=
  match messagePayload pdu.tlvs with
  | some payload => payload
  | none => pdu.shortMessage

theorem Pdu.body_eq_getD (pdu : Pdu) :
    pdu.body = (messagePayload pdu.tlvs).getD pdu.shortMessage := by
  unfold Pdu.body
  cases messagePayload pdu.tlvs <;> rfl

/-- `pdu.tlvs` as a script sees it. -/
def Pdu.tlvsDict (pdu : Pdu) : PyDict := tlvsToPy pdu.tlvs

def Pdu.fromSubmit (request : SubmitSm) : Pdu where
  command := "submit_sm"
  messageId := ""
  serviceType := request.serviceType
  sourceAddrTon := request.sourceAddrTon
  sourceAddrNpi := request.sourceAddrNpi
  sourceAddr := request.sourceAddr
  destAddrTon := request.destAddrTon
  destAddrNpi := request.destAddrNpi
  destinationAddr := request.destinationAddr
  esmClass := request.esmClass
  protocolId := request.protocolId
  priorityFlag := request.priorityFlag
  scheduleDeliveryTime := request.scheduleDeliveryTime
  validityPeriod := request.validityPeriod
  registeredDelivery := request.registeredDelivery
  replaceIfPresentFlag := request.replaceIfPresentFlag
  dataCoding := request.dataCoding
  smDefaultMsgId := request.smDefaultMsgId
  smLength := SiphonSmpp.smLength request.shortMessage
  destinations := []
  shortMessage := request.shortMessage
  tlvs := request.tlvs

def Pdu.fromDeliver (request : DeliverSm) : Pdu where
  command := "deliver_sm"
  messageId := ""
  serviceType := request.serviceType
  sourceAddrTon := request.sourceAddrTon
  sourceAddrNpi := request.sourceAddrNpi
  sourceAddr := request.sourceAddr
  destAddrTon := request.destAddrTon
  destAddrNpi := request.destAddrNpi
  destinationAddr := request.destinationAddr
  esmClass := request.esmClass
  protocolId := request.protocolId
  priorityFlag := request.priorityFlag
  scheduleDeliveryTime := request.scheduleDeliveryTime
  validityPeriod := request.validityPeriod
  registeredDelivery := request.registeredDelivery
  replaceIfPresentFlag := request.replaceIfPresentFlag
  dataCoding := request.dataCoding
  smDefaultMsgId := request.smDefaultMsgId
  smLength := SiphonSmpp.smLength request.shortMessage
  destinations := []
  shortMessage := request.shortMessage
  tlvs := request.tlvs

/-- A `data_sm` has no `short_message`: the attribute stays empty and the body is read from the
optional parameters. -/
def Pdu.fromData (request : DataSm) : Pdu where
  command := "data_sm"
  messageId := ""
  serviceType := request.serviceType
  sourceAddrTon := request.sourceAddrTon
  sourceAddrNpi := request.sourceAddrNpi
  sourceAddr := request.sourceAddr
  destAddrTon := request.destAddrTon
  destAddrNpi := request.destAddrNpi
  destinationAddr := request.destinationAddr
  esmClass := request.esmClass
  protocolId := 0
  priorityFlag := 0
  scheduleDeliveryTime := ""
  validityPeriod := ""
  registeredDelivery := request.registeredDelivery
  replaceIfPresentFlag := 0
  dataCoding := request.dataCoding
  smDefaultMsgId := 0
  smLength := 0
  destinations := []
  shortMessage := []
  tlvs := request.tlvs

def Pdu.fromCancel (request : CancelSm) : Pdu where
  command := "cancel_sm"
  messageId := request.messageId
  serviceType := request.serviceType
  sourceAddrTon := request.sourceAddrTon
  sourceAddrNpi := request.sourceAddrNpi
  sourceAddr := request.sourceAddr
  destAddrTon := request.destAddrTon
  destAddrNpi := request.destAddrNpi
  destinationAddr := request.destinationAddr
  esmClass := 0
  protocolId := 0
  priorityFlag := 0
  scheduleDeliveryTime := ""
  validityPeriod := ""
  registeredDelivery := 0
  replaceIfPresentFlag := 0
  dataCoding := 0
  smDefaultMsgId := 0
  smLength := 0
  destinations := []
  shortMessage := []
  tlvs := []

def Pdu.fromQuery (request : QuerySm) : Pdu where
  command := "query_sm"
  messageId := request.messageId
  serviceType := ""
  sourceAddrTon := request.sourceAddrTon
  sourceAddrNpi := request.sourceAddrNpi
  sourceAddr := request.sourceAddr
  destAddrTon := 0
  destAddrNpi := 0
  destinationAddr := ""
  esmClass := 0
  protocolId := 0
  priorityFlag := 0
  scheduleDeliveryTime := ""
  validityPeriod := ""
  registeredDelivery := 0
  replaceIfPresentFlag := 0
  dataCoding := 0
  smDefaultMsgId := 0
  smLength := 0
  destinations := []
  shortMessage := []
  tlvs := []

def Pdu.fromReplace (request : ReplaceSm) : Pdu where
  command := "replace_sm"
  messageId := request.messageId
  serviceType := ""
  sourceAddrTon := request.sourceAddrTon
  sourceAddrNpi := request.sourceAddrNpi
  sourceAddr := request.sourceAddr
  destAddrTon := 0
  destAddrNpi := 0
  destinationAddr := ""
  esmClass := 0
  protocolId := 0
  priorityFlag := 0
  scheduleDeliveryTime := request.scheduleDeliveryTime
  validityPeriod := request.validityPeriod
  registeredDelivery := request.registeredDelivery
  replaceIfPresentFlag := 0
  dataCoding := 0
  smDefaultMsgId := request.smDefaultMsgId
  smLength := SiphonSmpp.smLength request.shortMessage
  destinations := []
  shortMessage := request.shortMessage
  tlvs := []

/-- The string a destination of a `submit_sm_multi` is listed as. -/
def DestAddress.name : DestAddress → String
  | .sme _ _ destinationAddr => destinationAddr
  | .distributionList dlName => dlName

/-- A `submit_sm_multi` lists its destinations as strings and leaves `destination_addr` empty. -/
def Pdu.fromSubmitMulti (request : SubmitSmMulti) : Pdu where
  command := "submit_sm_multi"
  messageId := ""
  serviceType := request.serviceType
  sourceAddrTon := request.sourceAddrTon
  sourceAddrNpi := request.sourceAddrNpi
  sourceAddr := request.sourceAddr
  destAddrTon := 0
  destAddrNpi := 0
  destinationAddr := ""
  esmClass := request.esmClass
  protocolId := request.protocolId
  priorityFlag := request.priorityFlag
  scheduleDeliveryTime := request.scheduleDeliveryTime
  validityPeriod := request.validityPeriod
  registeredDelivery := request.registeredDelivery
  replaceIfPresentFlag := request.replaceIfPresentFlag
  dataCoding := request.dataCoding
  smDefaultMsgId := request.smDefaultMsgId
  smLength := SiphonSmpp.smLength request.shortMessage
  destinations := request.destAddresses.map DestAddress.name
  shortMessage := request.shortMessage
  tlvs := request.tlvs

/-! ### Status names -/

/-- The status names a script may use, with their statuses. -/
def smppStatusNames : List (String × SmppError) :=
  [("ESME_ROK", .esmeRok), ("ESME_RINVMSGLEN", .esmeRinvmsglen),
   ("ESME_RINVCMDLEN", .esmeRinvcmdlen), ("ESME_RINVCMDID", .esmeRinvcmdid),
   ("ESME_RINVBNDSTS", .esmeRinvbndsts), ("ESME_RALYBND", .esmeRalybnd),
   ("ESME_RINVPRTFLG", .esmeRinvprtflg), ("ESME_RINVREGDLVFLG", .esmeRinvregdlvflg),
   ("ESME_RSYSERR", .esmeRsyserr), ("ESME_RINVSRCADR", .esmeRinvsrcadr),
   ("ESME_RINVDSTADR", .esmeRinvdstadr), ("ESME_RINVMSGID", .esmeRinvmsgid),
   ("ESME_RBINDFAIL", .esmeRbindfail), ("ESME_RINVPASWD", .esmeRinvpaswd),
   ("ESME_RINVSYSID", .esmeRinvsysid), ("ESME_RCANCELFAIL", .esmeRcancelfail),
   ("ESME_RREPLACEFAIL", .esmeRreplacefail), ("ESME_RMSGQFUL", .esmeRmsgqful),
   ("ESME_RINVSERTYP", .esmeRinvsertyp), ("ESME_RINVNUMDESTS", .esmeRinvnumdests),
   ("ESME_RINVDLNAME", .esmeRinvdlname), ("ESME_RINVDESTFLAG", .esmeRinvdestflag),
   ("ESME_RINVSUBREP", .esmeRinvsubrep), ("ESME_RINVESMCLASS", .esmeRinvesmclass),
   ("ESME_RCNTSUBDL", .esmeRcntsubdl), ("ESME_RSUBMITFAIL", .esmeRsubmitfail),
   ("ESME_RINVSRCTON", .esmeRinvsrcton), ("ESME_RINVSRCNPI", .esmeRinvsrcnpi),
   ("ESME_RINVDSTTON", .esmeRinvdstton), ("ESME_RINVDSTNPI", .esmeRinvdstnpi),
   ("ESME_RINVSYSTYP", .esmeRinvsystyp), ("ESME_RINVREPFLAG", .esmeRinvrepflag),
   ("ESME_RINVNUMMSGS", .esmeRinvnummsgs), ("ESME_RTHROTTLED", .esmeRthrottled),
   ("ESME_RINVSCHED", .esmeRinvsched), ("ESME_RINVEXPIRY", .esmeRinvexpiry),
   ("ESME_RINVDFTMSGID", .esmeRinvdftmsgid), ("ESME_RX_T_APPN", .esmeRxTAppn),
   ("ESME_RX_P_APPN", .esmeRxPAppn), ("ESME_RX_R_APPN", .esmeRxRAppn),
   ("ESME_RQUERYFAIL", .esmeRqueryfail), ("ESME_RINVOPTPARSTREAM", .esmeRinvoptparstream),
   ("ESME_ROPTPARNOTALLWD", .esmeRoptparnotallwd), ("ESME_RINVPARLEN", .esmeRinvparlen),
   ("ESME_RMISSINGOPTPARAM", .esmeRmissingoptparam),
   ("ESME_RINVOPTPARAMVAL", .esmeRinvoptparamval),
   ("ESME_RDELIVERYFAILURE", .esmeRdeliveryfailure), ("ESME_RUNKNOWNERR", .esmeRunknownerr)]

def parseSmppStatus (name : String) : Except PyErr SmppError :=
  match smppStatusNames.lookup name with
  | some status => .ok status
  | none => .error ⟨.valueError, "unknown SMPP status: " ++ debugText name⟩

/-! ### Replies -/

structure PduReply where
  commandStatus : SmppError
  messageId : Option String
  messageState : Option UInt8
  finalDate : String
  errorCode : UInt8
  tlvs : List Tlv
  deriving DecidableEq, Repr

def PduReply.defaultOk : PduReply := ⟨.esmeRok, none, none, "", 0, []⟩

section Replies

variable [Smpp34]

/-- The `PduReply(...)` constructor. -/
def PduReply.new (commandStatus : String) (messageId : Option String) (tlvs : Option PyDict) :
    Except PyErr PduReply := do
  let status ← parseSmppStatus commandStatus
  let tlvs ← tlvsFromPy tlvs
  return ⟨status, messageId, none, "", 0, tlvs⟩

/-- `pdu.reply(...)`: optional parameters are accepted on the `data_sm` path only. -/
def Pdu.reply (pdu : Pdu) (commandStatus : String) (messageId : Option String)
    (tlvs : Option PyDict) : Except PyErr PduReply := do
  let status ← parseSmppStatus commandStatus
  let tlvs ← tlvsFromPy tlvs
  if tlvs ≠ [] ∧ pdu.command ≠ "data_sm" then
    throw ⟨.valueError, "reply(tlvs=…) is only supported on the data_sm path — " ++
      pdu.command ++ "_resp has no optional parameters in SMPP 3.4"⟩
  return ⟨status, messageId, none, "", 0, tlvs⟩

end Replies

/-- `pdu.reply_query(...)`. -/
def Pdu.replyQuery (pdu : Pdu) (messageState : UInt8) (messageId : Option String)
    (finalDate : String) (errorCode : UInt8) : PduReply :=
  ⟨.esmeRok, messageId.or (some pdu.messageId), some messageState, finalDate, errorCode, []⟩

/-! ### Bind requests -/

structure Bind where
  systemId : String
  password : String
  clientAddr : String
  deriving DecidableEq, Repr

structure BindResult where
  accept : Bool
  status : SmppError
  reason : String
  deriving DecidableEq, Repr

def Bind.accept : BindResult := ⟨true, .esmeRok, ""⟩

def Bind.reject (status reason : String) : Except PyErr BindResult := do
  let status ← parseSmppStatus status
  return ⟨false, status, reason⟩

/-- A script obtains a `BindResult` from `bind.accept()` or `bind.reject(...)` only. -/
def BindResult.FromScript (result : BindResult) : Prop :=
  result = Bind.accept ∨ ∃ status reason, Bind.reject status reason = .ok result

/-- The `BindResult` values a script can return. -/
abbrev ScriptBindResult := {result : BindResult // result.FromScript}

/-- The one name that stands for `ESME_ROK` is its own. -/
theorem parseSmppStatus_esmeRok_iff (name : String) :
    parseSmppStatus name = .ok .esmeRok ↔ name = "ESME_ROK" := by
  constructor
  · intro parsed
    rw [parseSmppStatus] at parsed
    split at parsed
    · rename_i status found
      cases parsed
      have named : ∀ entry ∈ smppStatusNames, entry.2 = .esmeRok → entry.1 = "ESME_ROK" := by
        decide
      obtain ⟨before, after, table, _⟩ := List.lookup_eq_some_iff.mp found
      refine named (name, .esmeRok) ?_ rfl
      rw [table]
      exact List.mem_append_right _ List.mem_cons_self
    · cases parsed
  · rintro rfl
    rfl

/-- A rejection that carries `ESME_ROK` is a rejection under that name. -/
theorem ScriptBindResult.rejects_ok_iff (result : ScriptBindResult) :
    result.1.accept = false ∧ result.1.status = .esmeRok ↔
      ∃ reason, Bind.reject "ESME_ROK" reason = .ok result.1 := by
  constructor
  · rintro ⟨rejected, ok⟩
    rcases result.2 with accepted | ⟨status, reason, made⟩
    · rw [accepted] at rejected
      cases rejected
    · obtain ⟨parsedStatus, parsed, same⟩ := (bind_eq_ok_iff _ _ _).mp made
      have fields : result.1 = ⟨false, parsedStatus, reason⟩ := (pure_eq_ok_iff _ _).mp same
      rw [fields] at ok
      subst ok
      rw [parseSmppStatus_esmeRok_iff] at parsed
      exact ⟨reason, congrArg Except.ok fields.symm⟩
  · rintro ⟨reason, made⟩
    have same : (⟨false, .esmeRok, reason⟩ : BindResult) = result.1 := Except.ok.inj made
    rw [← same]
    exact ⟨rfl, rfl⟩

/-! ### Sessions -/

/-- Which side delivered a PDU. -/
inductive SourceKind where
  | bind
  | esmeServer
  deriving DecidableEq, Repr

structure Session where
  kind : SourceKind
  sessionId : String
  systemId : String
  clientAddr : String
  deriving DecidableEq, Repr

end SiphonSmpp
