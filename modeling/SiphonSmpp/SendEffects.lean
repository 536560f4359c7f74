/-
This file proves that the nine send helpers (`src/sends.rs`) are all or nothing
and never trip an assertion of the codec.

The helpers are written out here statement by statement, with what each
statement does to the rest of the system in the log: a lock section of the
limiter, a PDU that is put together, a PDU that is handed to a session. What is
checked when the function is called and what is checked when its awaitable runs
is in the source's order, which differs from helper to helper. `Sends.lean` has
the same helpers as functions from their arguments to the request; a call raises
here exactly when it fails there.
-/

import Mathlib.Logic.Function.Basic
import SiphonSmpp.Lib.Logged
import SiphonSmpp.Sends
import SiphonSmpp.Settlement

namespace SiphonSmpp

/-! ### What a call does -/

/-- A PDU a send helper puts together. -/
inductive SendRequest where
  | submitSm (request : SubmitSm)
  | submitSmMulti (request : SubmitSmMulti)
  | dataSm (request : DataSm)
  | cancelSm (request : CancelSm)
  | querySm (request : QuerySm)
  | replaceSm (request : ReplaceSm)
  | deliverSm (request : DeliverSm)
  | alertNotification (request : AlertNotification)
  deriving DecidableEq, Repr

/-- What the constructors of the codec assert of the values they are given. -/
def SendRequest.WithinLimits : SendRequest → Prop
  | .submitSm request => request.shortMessage.length ≤ 254
  | .submitSmMulti request =>
    request.shortMessage.length ≤ 254 ∧ request.destAddresses.length ≤ 254
  | .replaceSm request => request.shortMessage.length ≤ 254
  | .deliverSm request => request.shortMessage.length ≤ 254
  | _ => True

instance : DecidablePred SendRequest.WithinLimits
  | .submitSm request => inferInstanceAs (Decidable (request.shortMessage.length ≤ 254))
  | .submitSmMulti request => inferInstanceAs (Decidable
      (request.shortMessage.length ≤ 254 ∧ request.destAddresses.length ≤ 254))
  | .dataSm _ => inferInstanceAs (Decidable True)
  | .cancelSm _ => inferInstanceAs (Decidable True)
  | .querySm _ => inferInstanceAs (Decidable True)
  | .replaceSm request => inferInstanceAs (Decidable (request.shortMessage.length ≤ 254))
  | .deliverSm request => inferInstanceAs (Decidable (request.shortMessage.length ≤ 254))
  | .alertNotification _ => inferInstanceAs (Decidable True)

inductive SendEffect where
  | locked (limiter : LimiterHandle) (after : Bucket)
  | recordThrottled
  | constructing (request : SendRequest)
  | handed (session : Handle) (request : SendRequest)
  deriving DecidableEq, Repr

/-- Why a call has no result: it raised for its arguments or its target, the peer did not answer
(`SmppSendError`), the codec panicked, or it still waits for its turn. -/
inductive SendFault where
  | raised (error : PyErr)
  | unanswered (error : SendErrorValue)
  | panicked
  | waiting
  deriving DecidableEq, Repr

/-- What a call returns: the response of the peer, or that the PDU was written. -/
inductive SendReport (Response : Type) where
  | reply (response : Response)
  | written
  deriving DecidableEq, Repr

abbrev Sending := Logged SendEffect SendFault

/-- What a call meets: the runtime when it is made, the registry when its awaitable resolves the
target, the bucket and the instant of every lock section of `acquire`, what the codec returns,
how long that took, and the registry when the failure is classified. -/
structure Meets (Response : Type) where
  runtime : Option State
  registry : State
  passes : List (Bucket × Instant)
  sent : Except SmppError Response
  waited : Duration
  afterwards : State

namespace Sending

variable {Value : Type}

/-- The `?` on a check. -/
def raising (checked : Except PyErr Value) : Sending Value := Logged.check .raised checked

/-- `RateLimiter::acquire`, over the lock sections it goes through. -/
def acquire (limiter : LimiterHandle) : List (Bucket × Instant) → Bool → Sending Bool
  | [], _ => Logged.fail .waiting
  | (bucket, now) :: later, waited => do
    let pass := bucket.acquirePass now
    Logged.log (.locked limiter pass.1)
    if pass.2 = .granted then return waited else acquire limiter later true

/-- Pace a request against the limiter of its bind, if it has one. -/
def pace (passes : List (Bucket × Instant)) : Option LimiterHandle → Sending Unit
  | none => pure ()
  | some limiter => do
    let waited ← acquire limiter passes false
    if waited then Logged.log .recordThrottled else pure ()

/-- A constructor of the codec, which asserts its limits. -/
def construct (request : SendRequest) : Sending Unit := do
  Logged.log (.constructing request)
  if request.WithinLimits then pure () else Logged.fail .panicked

def handOver (session : Handle) (request : SendRequest) : Sending Unit :=
  Logged.log (.handed session request)

/-- The response of the peer, or the `SmppSendError` of a request without one. -/
def settling (settled : Except SendErrorValue Value) : Sending (SendReport Value) := do
  return .reply (← Logged.check .unanswered settled)

end Sending

/-! ### The helpers, statement by statement -/

namespace Sending

section Helpers

variable {Response : Type} (meets : Meets Response)

def submitVia [Smpp34] (args : SubmitViaArgs) : Sending (SendReport Response) := do
  raising (requireState meets.runtime)
  raising (checkShortMessage "submit_sm" args.shortMessage.length true)
  let tlvs ← raising (tlvsFromPy args.tlvs)
  let target ← raising (bindHandle meets.registry args.bind)
  pace meets.passes target.throttle
  construct (.submitSm (args.request tlvs))
  handOver (.smsc target.smsc) (.submitSm (args.request tlvs))
  settling (settleOnBind meets.afterwards target args.bind "submit_sm" meets.sent meets.waited)

def submitMultiVia [Smpp34] (args : SubmitMultiViaArgs) : Sending (SendReport Response) := do
  raising (requireState meets.runtime)
  raising (checkShortMessage "submit_sm_multi" args.shortMessage.length true)
  let tlvs ← raising (tlvsFromPy args.tlvs)
  let destAddresses := args.destAddresses
  raising (if destAddresses.length > 254 then
    .error ⟨.valueError, "submit_sm_multi addresses " ++ toString destAddresses.length ++
      " destinations, over the SMPP 3.4 limit of 254"⟩ else .ok ())
  let target ← raising (bindHandle meets.registry args.bind)
  pace meets.passes target.throttle
  construct (.submitSmMulti (args.request destAddresses tlvs))
  handOver (.smsc target.smsc) (.submitSmMulti (args.request destAddresses tlvs))
  settling (settleOnBind meets.afterwards target args.bind "submit_sm_multi" meets.sent
    meets.waited)

/-- The `data_sm` both data helpers build, before they look for their target. -/
def buildDataSm [Smpp34] (serviceType : String) (sourceAddrTon sourceAddrNpi : UInt8)
    (sourceAddr : String) (destAddrTon destAddrNpi : UInt8) (destinationAddr : String)
    (esmClass registeredDelivery dataCoding : UInt8) (shortMessage : List UInt8)
    (tlvs : List Tlv) : Sending DataSm := do
  let tlvs ← raising (foldMessagePayload "data_sm" shortMessage tlvs)
  let pdu : DataSm := ⟨serviceType, sourceAddrTon, sourceAddrNpi, sourceAddr, destAddrTon,
    destAddrNpi, destinationAddr, esmClass, registeredDelivery, dataCoding, tlvs⟩
  construct (.dataSm pdu)
  return pdu

def dataVia [Smpp34] (args : DataViaArgs) : Sending (SendReport Response) := do
  raising (requireState meets.runtime)
  let tlvs ← raising (tlvsFromPy args.tlvs)
  let pdu ← buildDataSm args.serviceType args.sourceAddrTon args.sourceAddrNpi args.sourceAddr
    args.destAddrTon args.destAddrNpi args.destinationAddr args.esmClass args.registeredDelivery
    args.dataCoding args.shortMessage tlvs
  let target ← raising (bindHandle meets.registry args.bind)
  pace meets.passes target.throttle
  handOver (.smsc target.smsc) (.dataSm pdu)
  settling (settleOnBind meets.afterwards target args.bind "data_sm" meets.sent meets.waited)

def cancelVia (args : CancelViaArgs) : Sending (SendReport Response) := do
  raising (requireState meets.runtime)
  let target ← raising (bindHandle meets.registry args.bind)
  construct (.cancelSm args.request)
  handOver (.smsc target.smsc) (.cancelSm args.request)
  settling (settleOnBind meets.afterwards target args.bind "cancel_sm" meets.sent meets.waited)

def queryVia (args : QueryViaArgs) : Sending (SendReport Response) := do
  raising (requireState meets.runtime)
  let target ← raising (bindHandle meets.registry args.bind)
  construct (.querySm args.request)
  handOver (.smsc target.smsc) (.querySm args.request)
  settling (settleOnBind meets.afterwards target args.bind "query_sm" meets.sent meets.waited)

def replaceVia (args : ReplaceViaArgs) : Sending (SendReport Response) := do
  raising (requireState meets.runtime)
  raising (checkShortMessage "replace_sm" args.shortMessage.length false)
  let target ← raising (bindHandle meets.registry args.bind)
  construct (.replaceSm args.request)
  handOver (.smsc target.smsc) (.replaceSm args.request)
  settling (settleOnBind meets.afterwards target args.bind "replace_sm" meets.sent meets.waited)

/-- The check of `deliver_to` and `alert_to` that the session was bound to receive. -/
def requireReceiver (esme : Arc Esme) (sessionId command : String) : Except PyErr Unit :=
  if !esme.value.canReceive then
    .error ⟨.runtimeError, "esme session " ++ debugText sessionId ++
      " is not RX/TRX — cannot " ++ command⟩
  else .ok ()

def deliverTo [Smpp34] (args : DeliverToArgs) : Sending (SendReport Response) := do
  raising (requireState meets.runtime)
  raising (checkShortMessage "deliver_sm" args.shortMessage.length true)
  let tlvs ← raising (tlvsFromPy args.tlvs)
  let (esme, responseTimer) ← raising (esmeHandle meets.registry args.sessionId)
  raising (requireReceiver esme args.sessionId "deliver_sm")
  construct (.deliverSm (args.request tlvs))
  handOver (.esme esme) (.deliverSm (args.request tlvs))
  settling (settleOnEsme meets.afterwards esme responseTimer args.sessionId "deliver_sm"
    meets.sent meets.waited)

def dataTo [Smpp34] (args : DataToArgs) : Sending (SendReport Response) := do
  raising (requireState meets.runtime)
  let tlvs ← raising (tlvsFromPy args.tlvs)
  let pdu ← buildDataSm args.serviceType args.sourceAddrTon args.sourceAddrNpi args.sourceAddr
    args.destAddrTon args.destAddrNpi args.destinationAddr args.esmClass args.registeredDelivery
    args.dataCoding args.shortMessage tlvs
  let (esme, responseTimer) ← raising (esmeHandle meets.registry args.sessionId)
  handOver (.esme esme) (.dataSm pdu)
  settling (settleOnEsme meets.afterwards esme responseTimer args.sessionId "data_sm" meets.sent
    meets.waited)

/-- An `alert_notification` has no response to settle. -/
def alertTo (args : AlertToArgs) : Sending (SendReport Response) := do
  raising (requireState meets.runtime)
  let (esme, _) ← raising (esmeHandle meets.registry args.sessionId)
  raising (requireReceiver esme args.sessionId "alert_notification")
  let request : SendRequest := .alertNotification
    { sourceAddrTon := args.sourceAddrTon
      sourceAddrNpi := args.sourceAddrNpi
      sourceAddr := args.sourceAddr
      esmeAddrTon := args.esmeAddrTon
      esmeAddrNpi := args.esmeAddrNpi
      esmeAddr := args.esmeAddr
      msAvailabilityStatus := args.msAvailabilityStatus }
  construct request
  handOver (.esme esme) request
  return .written

end Helpers

/-! ### What the statements do -/

open Logged

/-- The world sees the buckets and the PDUs that are handed over. -/
def visible : SendEffect → Prop
  | .locked _ _ => True
  | .handed _ _ => True
  | .recordThrottled => False
  | .constructing _ => False

/-- A constructor is only called within its limits. -/
def proper : SendEffect → Prop
  | .constructing request => request.WithinLimits
  | _ => True

def refuses : SendFault → Prop
  | .raised _ => True
  | _ => False

/-- A call refuses with an exception for its arguments or its target. -/
def contract : Contract SendEffect SendFault where
  refuses := refuses
  crashes fault := fault = .panicked
  visible := visible
  proper := proper

section Statements

variable {Value : Type}

theorem prepares_raising (checked : Except PyErr Value) : contract.Prepares (raising checked) := by
  refine Contract.prepares_check fun error => ?_
  exact SendFault.noConfusion

/-- A contract that lets a call wait for its turn. -/
structure AllowsPacing (promised : Contract SendEffect SendFault) : Prop where
  accepts : ¬ promised.refuses .waiting
  safe : ¬ promised.crashes .waiting
  locked : ∀ limiter after, promised.proper (.locked limiter after)
  recordThrottled : promised.proper .recordThrottled

theorem commits_acquire {promised : Contract SendEffect SendFault} (allows : AllowsPacing promised)
    (limiter : LimiterHandle) (passes : List (Bucket × Instant)) (waited : Bool) :
    promised.Commits (acquire limiter passes waited) := by
  induction passes generalizing waited with
  | nil => exact Contract.commits_fail allows.accepts allows.safe
  | cons pass later inductionHypothesis =>
    obtain ⟨bucket, now⟩ := pass
    rw [acquire]
    refine (Contract.commits_log (allows.locked limiter _)).bind fun _ _ => ?_
    split
    · exact Contract.commits_pure waited
    · exact inductionHypothesis true

theorem commits_pace {promised : Contract SendEffect SendFault} (allows : AllowsPacing promised)
    (passes : List (Bucket × Instant)) (throttle : Option LimiterHandle) :
    promised.Commits (pace passes throttle) := by
  cases throttle with
  | none => exact Contract.commits_pure ()
  | some limiter =>
    refine (commits_acquire allows limiter passes false).bind fun waited _ => ?_
    split
    · exact Contract.commits_log allows.recordThrottled
    · exact Contract.commits_pure ()

theorem allowsPacing_contract : AllowsPacing contract :=
  ⟨id, SendFault.noConfusion, fun _ _ => trivial, trivial⟩

/-- Within its limits a constructor just constructs. -/
theorem construct_eq {request : SendRequest} (limits : request.WithinLimits) :
    construct request = (log (.constructing request) : Sending Unit) := by
  rw [construct, if_pos limits]
  rfl

theorem commits_construct {request : SendRequest} (limits : request.WithinLimits) :
    contract.Commits (construct request) := by
  rw [construct_eq limits]
  exact Contract.commits_log limits

theorem prepares_construct {request : SendRequest} (limits : request.WithinLimits) :
    contract.Prepares (construct request) := by
  rw [construct_eq limits]
  exact Contract.prepares_log id limits

theorem commits_handOver (session : Handle) (request : SendRequest) :
    contract.Commits (handOver session request) :=
  Contract.commits_log trivial

theorem commits_settling {promised : Contract SendEffect SendFault}
    (accepts : ∀ error, ¬ promised.refuses (.unanswered error))
    (safe : ∀ error, ¬ promised.crashes (.unanswered error))
    (settled : Except SendErrorValue Value) : promised.Commits (settling settled) :=
  (Contract.commits_check accepts safe).bind fun _ _ => Contract.commits_pure _

theorem settles (settled : Except SendErrorValue Value) : contract.Commits (settling settled) :=
  commits_settling (fun _ => id) (fun _ => SendFault.noConfusion) settled

/-- The last statements of a helper: the PDU is put together, handed over and settled. -/
theorem commits_sent (session : Handle) {request : SendRequest} (limits : request.WithinLimits)
    {settle : Sending Value} (commits : contract.Commits settle) :
    contract.Commits (do construct request; handOver session request; settle) :=
  (commits_construct limits).bind fun _ _ => (commits_handOver session request).bind fun _ _ =>
    commits

theorem shortMessage_fits {command : String} {len : Nat} {payloadAvailable : Bool} {done : Unit}
    (passed : (raising (checkShortMessage command len payloadAvailable)).outcome = .ok done) :
    len ≤ 254 :=
  (checkShortMessage_eq_ok_iff _ _ _ _).mp (check_ok passed)

end Statements

/-! ### Every helper checks before it acts -/

section AllOrNothing

variable {Response : Type} (meets : Meets Response)

theorem submitVia_allOrNothing [Smpp34] (args : SubmitViaArgs) :
    contract.AllOrNothing (submitVia meets args) := by
  refine (prepares_raising _).bind fun _ _ => ?_
  refine (prepares_raising _).bind fun _ fits => ?_
  refine (prepares_raising _).bind fun tlvs _ => ?_
  refine (prepares_raising _).bind fun target _ => ?_
  have limits : (SendRequest.submitSm (args.request tlvs)).WithinLimits := shortMessage_fits fits
  refine Contract.Commits.allOrNothing ((commits_pace allowsPacing_contract _ _).bind fun _ _ => ?_)
  exact commits_sent _ limits (settles _)

theorem submitMultiVia_allOrNothing [Smpp34] (args : SubmitMultiViaArgs) :
    contract.AllOrNothing (submitMultiVia meets args) := by
  refine (prepares_raising _).bind fun _ _ => ?_
  refine (prepares_raising _).bind fun _ fits => ?_
  refine (prepares_raising _).bind fun tlvs _ => ?_
  refine (prepares_raising _).bind fun _ counted => ?_
  refine (prepares_raising _).bind fun target _ => ?_
  have few : args.destAddresses.length ≤ 254 := by
    by_contra many
    have raised := check_ok counted
    rw [if_pos (not_le.mp many)] at raised
    cases raised
  have limits : (SendRequest.submitSmMulti (args.request args.destAddresses tlvs)).WithinLimits :=
    ⟨shortMessage_fits fits, few⟩
  refine Contract.Commits.allOrNothing ((commits_pace allowsPacing_contract _ _).bind fun _ _ => ?_)
  exact commits_sent _ limits (settles _)

theorem prepares_buildDataSm [Smpp34] (serviceType : String) (sourceAddrTon sourceAddrNpi : UInt8)
    (sourceAddr : String) (destAddrTon destAddrNpi : UInt8) (destinationAddr : String)
    (esmClass registeredDelivery dataCoding : UInt8) (shortMessage : List UInt8)
    (tlvs : List Tlv) :
    contract.Prepares (buildDataSm serviceType sourceAddrTon sourceAddrNpi sourceAddr destAddrTon
      destAddrNpi destinationAddr esmClass registeredDelivery dataCoding shortMessage tlvs) := by
  refine (prepares_raising _).andThen fun folded _ => ?_
  refine (prepares_construct ?_).andThen fun _ _ => Contract.prepares_pure _
  exact trivial

theorem dataVia_allOrNothing [Smpp34] (args : DataViaArgs) :
    contract.AllOrNothing (dataVia meets args) := by
  refine (prepares_raising _).bind fun _ _ => ?_
  refine (prepares_raising _).bind fun tlvs _ => ?_
  refine (prepares_buildDataSm _ _ _ _ _ _ _ _ _ _ _ _).bind fun pdu _ => ?_
  refine (prepares_raising _).bind fun target _ => ?_
  refine Contract.Commits.allOrNothing ((commits_pace allowsPacing_contract _ _).bind fun _ _ => ?_)
  exact (commits_handOver _ _).bind fun _ _ => settles _

theorem cancelVia_allOrNothing (args : CancelViaArgs) :
    contract.AllOrNothing (cancelVia meets args) := by
  refine (prepares_raising _).bind fun _ _ => ?_
  refine (prepares_raising _).bind fun target _ => ?_
  have limits : (SendRequest.cancelSm args.request).WithinLimits := trivial
  exact (commits_sent _ limits (settles _)).allOrNothing

theorem queryVia_allOrNothing (args : QueryViaArgs) :
    contract.AllOrNothing (queryVia meets args) := by
  refine (prepares_raising _).bind fun _ _ => ?_
  refine (prepares_raising _).bind fun target _ => ?_
  have limits : (SendRequest.querySm args.request).WithinLimits := trivial
  exact (commits_sent _ limits (settles _)).allOrNothing

theorem replaceVia_allOrNothing (args : ReplaceViaArgs) :
    contract.AllOrNothing (replaceVia meets args) := by
  refine (prepares_raising _).bind fun _ _ => ?_
  refine (prepares_raising _).bind fun _ fits => ?_
  refine (prepares_raising _).bind fun target _ => ?_
  have limits : (SendRequest.replaceSm args.request).WithinLimits := shortMessage_fits fits
  exact (commits_sent _ limits (settles _)).allOrNothing

theorem deliverTo_allOrNothing [Smpp34] (args : DeliverToArgs) :
    contract.AllOrNothing (deliverTo meets args) := by
  refine (prepares_raising _).bind fun _ _ => ?_
  refine (prepares_raising _).bind fun _ fits => ?_
  refine (prepares_raising _).bind fun tlvs _ => ?_
  refine (prepares_raising _).bind fun ⟨esme, responseTimer⟩ _ => ?_
  refine (prepares_raising _).bind fun _ _ => ?_
  have limits : (SendRequest.deliverSm (args.request tlvs)).WithinLimits := shortMessage_fits fits
  exact (commits_sent _ limits (settles _)).allOrNothing

theorem dataTo_allOrNothing [Smpp34] (args : DataToArgs) :
    contract.AllOrNothing (dataTo meets args) := by
  refine (prepares_raising _).bind fun _ _ => ?_
  refine (prepares_raising _).bind fun tlvs _ => ?_
  refine (prepares_buildDataSm _ _ _ _ _ _ _ _ _ _ _ _).bind fun pdu _ => ?_
  refine (prepares_raising _).bind fun ⟨esme, responseTimer⟩ _ => ?_
  refine Contract.Commits.allOrNothing ?_
  exact (commits_handOver _ _).bind fun _ _ => settles _

theorem alertTo_allOrNothing (args : AlertToArgs) :
    contract.AllOrNothing (alertTo meets args) := by
  refine (prepares_raising _).bind fun _ _ => ?_
  refine (prepares_raising _).bind fun ⟨esme, _⟩ _ => ?_
  refine (prepares_raising _).bind fun _ _ => ?_
  refine Contract.Commits.allOrNothing (commits_sent _ ?_ (Contract.commits_pure _))
  exact trivial

end AllOrNothing

end Sending

/-! ### All or nothing -/

/-- A call of one of the nine helpers. -/
inductive SendCall where
  | submitVia (args : SubmitViaArgs)
  | submitMultiVia (args : SubmitMultiViaArgs)
  | dataVia (args : DataViaArgs)
  | cancelVia (args : CancelViaArgs)
  | queryVia (args : QueryViaArgs)
  | replaceVia (args : ReplaceViaArgs)
  | deliverTo (args : DeliverToArgs)
  | dataTo (args : DataToArgs)
  | alertTo (args : AlertToArgs)

def SendCall.run [Smpp34] {Response : Type} (call : SendCall) (meets : Meets Response) :
    Sending (SendReport Response) :=
  match call with
  | .submitVia args => Sending.submitVia meets args
  | .submitMultiVia args => Sending.submitMultiVia meets args
  | .dataVia args => Sending.dataVia meets args
  | .cancelVia args => Sending.cancelVia meets args
  | .queryVia args => Sending.queryVia meets args
  | .replaceVia args => Sending.replaceVia meets args
  | .deliverTo args => Sending.deliverTo meets args
  | .dataTo args => Sending.dataTo meets args
  | .alertTo args => Sending.alertTo meets args

theorem SendCall.run_allOrNothing [Smpp34] {Response : Type} (call : SendCall)
    (meets : Meets Response) : Sending.contract.AllOrNothing (call.run meets) := by
  cases call with
  | submitVia args => exact Sending.submitVia_allOrNothing meets args
  | submitMultiVia args => exact Sending.submitMultiVia_allOrNothing meets args
  | dataVia args => exact Sending.dataVia_allOrNothing meets args
  | cancelVia args => exact Sending.cancelVia_allOrNothing meets args
  | queryVia args => exact Sending.queryVia_allOrNothing meets args
  | replaceVia args => exact Sending.replaceVia_allOrNothing meets args
  | deliverTo args => exact Sending.deliverTo_allOrNothing meets args
  | dataTo args => exact Sending.dataTo_allOrNothing meets args
  | alertTo args => exact Sending.alertTo_allOrNothing meets args

/-! ### The calls of `Sends.lean` -/

/-- The session and the request of a call, or the exception it raises. -/
def SendCall.submission [Smpp34] (call : SendCall) (runtime : Option State) (registry : State) :
    Except PyErr (Handle × SendRequest) :=
  match call with
  | .submitVia args => do
    let submission ← (← SiphonSmpp.submitVia runtime args) registry
    return (.smsc submission.session, .submitSm submission.request)
  | .submitMultiVia args => do
    let submission ← (← SiphonSmpp.submitMultiVia runtime args) registry
    return (.smsc submission.session, .submitSmMulti submission.request)
  | .dataVia args => do
    let submission ← (← SiphonSmpp.dataVia runtime args) registry
    return (.smsc submission.session, .dataSm submission.request)
  | .cancelVia args => do
    let submission ← (← SiphonSmpp.cancelVia runtime args) registry
    return (.smsc submission.session, .cancelSm submission.request)
  | .queryVia args => do
    let submission ← (← SiphonSmpp.queryVia runtime args) registry
    return (.smsc submission.session, .querySm submission.request)
  | .replaceVia args => do
    let submission ← (← SiphonSmpp.replaceVia runtime args) registry
    return (.smsc submission.session, .replaceSm submission.request)
  | .deliverTo args => do
    let submission ← (← SiphonSmpp.deliverTo runtime args) registry
    return (.esme submission.session, .deliverSm submission.request)
  | .dataTo args => do
    let submission ← (← SiphonSmpp.dataTo runtime args) registry
    return (.esme submission.session, .dataSm submission.request)
  | .alertTo args => do
    let submission ← (← SiphonSmpp.alertTo runtime args) registry
    return (.esme submission.session, .alertNotification submission.request)

/-- A program raises what a call fails with, and hands over nothing but its request. -/
structure Follows {Value : Type} (program : Sending Value)
    (submission : Except PyErr (Handle × SendRequest)) : Prop where
  raises : ∀ error, program.outcome = .error (.raised error) ↔ submission = .error error
  hands : ∀ session request, .handed session request ∈ program.effects →
    submission = .ok (session, request)

/-- What a statement does that neither raises nor hands over. -/
def quietly : Logged.Contract SendEffect SendFault where
  refuses := Sending.refuses
  crashes _ := False
  visible _ := False
  proper effect := match effect with
    | .handed _ _ => False
    | _ => True

namespace Follows

variable {Value Checked : Type} {submission : Except PyErr (Handle × SendRequest)}

theorem raising {checked : Except PyErr Checked} {next : Checked → Sending Value}
    {rest : Checked → Except PyErr (Handle × SendRequest)}
    (follows : ∀ value, checked = .ok value → Follows (next value) (rest value)) :
    Follows (Sending.raising checked >>= next) (checked >>= rest) := by
  cases checked with
  | error raised =>
    refine ⟨fun error => ⟨fun same => ?_, fun same => ?_⟩,
      fun _ _ member => absurd member List.not_mem_nil⟩
    · cases same
      rfl
    · cases same
      rfl
  | ok value =>
    have later := follows value rfl
    exact ⟨later.raises, later.hands⟩

theorem guarded {condition : Prop} [Decidable condition] {error : PyErr} {next : Sending Value}
    {skipped : Unit → Except PyErr Checked} {made : Except PyErr Checked}
    {rest : Checked → Except PyErr (Handle × SendRequest)}
    (follows : ¬ condition → Follows next (made >>= rest)) :
    Follows (do Sending.raising (if condition then .error error else .ok ()); next)
      ((if condition then throw error >>= skipped else made) >>= rest) := by
  by_cases refused : condition
  · rw [if_pos refused, if_pos refused]
    show Follows _ (.error error >>= fun done : Unit => skipped done >>= rest)
    exact raising nofun
  · rw [if_neg refused, if_neg refused]
    exact raising fun _ _ => follows refused

theorem construct {request : SendRequest} {next : Sending Value}
    (limits : request.WithinLimits) (follows : Follows next submission) :
    Follows (do Sending.construct request; next) submission := by
  rw [Sending.construct_eq limits]
  refine ⟨follows.raises, fun session handed member => ?_⟩
  rcases List.mem_cons.mp member with same | later
  · cases same
  · exact follows.hands session handed later

/-- A call that was accepted raises nothing any more. -/
theorem of_commits {program : Sending Value} (commits : quietly.Commits program)
    (session : Handle) (request : SendRequest) : Follows program (.ok (session, request)) := by
  refine ⟨fun error => ⟨fun raised => ?_, nofun⟩, fun other handed member => ?_⟩
  · exact absurd trivial (commits.accepts _ raised)
  · exact absurd (commits.proper _ member) id

theorem quiet {first : Sending Checked} {next : Checked → Sending Value} {session : Handle}
    {request : SendRequest} (commits : quietly.Commits first)
    (follows : ∀ value, Follows (next value) (.ok (session, request))) :
    Follows (first >>= next) (.ok (session, request)) := by
  cases reached : first.outcome with
  | error fault =>
    have stopped : quietly.Commits (⟨.error fault, first.effects⟩ : Sending Value) := by
      refine ⟨fun other same => ?_, commits.proper, fun _ _ => id⟩
      exact Except.error.inj same ▸ commits.accepts fault reached
    rw [Logged.bind_of_error reached]
    exact of_commits stopped session request
  | ok value =>
    rw [Logged.bind_of_ok reached]
    refine ⟨(follows value).raises, fun other handed member => ?_⟩
    rcases List.mem_append.mp member with early | later
    · exact absurd (commits.proper _ early) id
    · exact (follows value).hands other handed later

theorem handOver (session : Handle) (request : SendRequest) {settle : Sending Value}
    (commits : quietly.Commits settle) :
    Follows (do Sending.handOver session request; settle) (.ok (session, request)) := by
  have settled := of_commits commits session request
  refine ⟨settled.raises, fun other handed member => ?_⟩
  rcases List.mem_cons.mp member with same | later
  · cases same
    rfl
  · exact settled.hands other handed later

theorem paced {next : Sending Value} {session : Handle} {request : SendRequest}
    (passes : List (Bucket × Instant)) (throttle : Option LimiterHandle)
    (follows : Follows next (.ok (session, request))) :
    Follows (do Sending.pace passes throttle; next) (.ok (session, request)) :=
  quiet (Sending.commits_pace ⟨id, id, fun _ _ => trivial, trivial⟩ passes throttle) fun _ =>
    follows

theorem settled (session : Handle) (request : SendRequest)
    (settles : Except SendErrorValue Value) :
    Follows (do Sending.handOver session request; Sending.settling settles)
      (.ok (session, request)) :=
  handOver session request (Sending.commits_settling (fun _ => id) (fun _ => id) settles)

end Follows

theorem SendCall.run_follows [Smpp34] {Response : Type} (call : SendCall)
    (meets : Meets Response) :
    Follows (call.run meets) (call.submission meets.runtime meets.registry) := by
  cases call with
  | submitVia args =>
    simp only [run, submission, Sending.submitVia, SiphonSmpp.submitVia, pacedOnBind, bind_assoc,
      pure_bind]
    refine Follows.raising fun _ _ => ?_
    refine Follows.raising fun _ passed => ?_
    refine Follows.raising fun tlvs _ => ?_
    refine Follows.raising fun target _ => ?_
    refine Follows.paced _ _ (Follows.construct ?_ (Follows.settled _ _ _))
    exact (checkShortMessage_eq_ok_iff _ _ _ _).mp passed
  | submitMultiVia args =>
    simp only [run, submission, Sending.submitMultiVia, SiphonSmpp.submitMultiVia, bind_assoc]
    refine Follows.raising fun _ _ => ?_
    refine Follows.raising fun _ passed => ?_
    refine Follows.raising fun tlvs _ => ?_
    refine Follows.guarded fun few => ?_
    simp only [pacedOnBind, bind_assoc, pure_bind]
    refine Follows.raising fun target _ => ?_
    refine Follows.paced _ _ (Follows.construct ⟨?_, not_lt.mp few⟩ (Follows.settled _ _ _))
    exact (checkShortMessage_eq_ok_iff _ _ _ _).mp passed
  | dataVia args =>
    simp only [run, submission, Sending.dataVia, SiphonSmpp.dataVia, Sending.buildDataSm,
      SiphonSmpp.buildDataSm, pacedOnBind, bind_assoc, pure_bind]
    refine Follows.raising fun _ _ => ?_
    refine Follows.raising fun tlvs _ => ?_
    refine Follows.raising fun folded _ => ?_
    refine Follows.construct trivial (Follows.raising fun target _ => ?_)
    exact Follows.paced _ _ (Follows.settled _ _ _)
  | cancelVia args =>
    simp only [run, submission, Sending.cancelVia, SiphonSmpp.cancelVia, unpacedOnBind, bind_assoc,
      pure_bind]
    refine Follows.raising fun _ _ => ?_
    refine Follows.raising fun target _ => ?_
    exact Follows.construct trivial (Follows.settled _ _ _)
  | queryVia args =>
    simp only [run, submission, Sending.queryVia, SiphonSmpp.queryVia, unpacedOnBind, bind_assoc,
      pure_bind]
    refine Follows.raising fun _ _ => ?_
    refine Follows.raising fun target _ => ?_
    exact Follows.construct trivial (Follows.settled _ _ _)
  | replaceVia args =>
    simp only [run, submission, Sending.replaceVia, SiphonSmpp.replaceVia, unpacedOnBind,
      bind_assoc, pure_bind]
    refine Follows.raising fun _ _ => ?_
    refine Follows.raising fun _ passed => ?_
    refine Follows.raising fun target _ => ?_
    refine Follows.construct ?_ (Follows.settled _ _ _)
    exact (checkShortMessage_eq_ok_iff _ _ _ _).mp passed
  | deliverTo args =>
    simp only [run, submission, Sending.deliverTo, SiphonSmpp.deliverTo, onReceiver, bind_assoc,
      pure_bind]
    refine Follows.raising fun _ _ => ?_
    refine Follows.raising fun _ passed => ?_
    refine Follows.raising fun tlvs _ => ?_
    refine Follows.raising fun resolved _ => ?_
    obtain ⟨esme, responseTimer⟩ := resolved
    refine Follows.guarded fun _ => ?_
    refine Follows.construct ?_ (Follows.settled _ _ _)
    exact (checkShortMessage_eq_ok_iff _ _ _ _).mp passed
  | dataTo args =>
    simp only [run, submission, Sending.dataTo, SiphonSmpp.dataTo, Sending.buildDataSm,
      SiphonSmpp.buildDataSm, onEsme, bind_assoc, pure_bind]
    refine Follows.raising fun _ _ => ?_
    refine Follows.raising fun tlvs _ => ?_
    refine Follows.raising fun folded _ => ?_
    refine Follows.construct trivial (Follows.raising fun resolved _ => ?_)
    obtain ⟨esme, responseTimer⟩ := resolved
    exact Follows.settled _ _ _
  | alertTo args =>
    simp only [run, submission, Sending.alertTo, SiphonSmpp.alertTo, onReceiver, bind_assoc,
      pure_bind]
    refine Follows.raising fun _ _ => ?_
    refine Follows.raising fun resolved _ => ?_
    obtain ⟨esme, responseTimer⟩ := resolved
    refine Follows.guarded fun _ => ?_
    exact Follows.construct trivial (Follows.handOver _ _ (Logged.Contract.commits_pure _))

/-- What a call can change: the buckets of the limiters and the PDUs handed to the sessions. -/
structure Outside where
  buckets : Nat → Option Bucket
  handed : List (Handle × SendRequest)

def Outside.apply (outside : Outside) : SendEffect → Outside
  | .locked limiter after =>
    { outside with buckets := Function.update outside.buckets limiter.ptr (some after) }
  | .handed session request => { outside with handed := outside.handed ++ [(session, request)] }
  | .recordThrottled => outside
  | .constructing _ => outside

theorem Outside.apply_of_unseen (outside : Outside) {effect : SendEffect}
    (unseen : ¬ Sending.contract.visible effect) : outside.apply effect = outside := by
  cases effect with
  | locked limiter after => exact absurd trivial unseen
  | handed session request => exact absurd trivial unseen
  | recordThrottled => rfl
  | constructing request => rfl

theorem Outside.foldl_of_unseen (outside : Outside) (effects : List SendEffect)
    (unseen : ∀ effect ∈ effects, ¬ Sending.contract.visible effect) :
    effects.foldl Outside.apply outside = outside := by
  induction effects with
  | nil => rfl
  | cons effect later inductionHypothesis =>
    obtain ⟨first, rest⟩ := List.forall_mem_cons.mp unseen
    rw [List.foldl_cons, outside.apply_of_unseen first]
    exact inductionHypothesis rest

/-- The send helpers are all or nothing and never trip an assertion: a call that raises for its
arguments or its target has changed no bucket and handed over no PDU, none panics, and a PDU is
only ever put together from values within the limits of its constructor. -/
theorem sends_all_or_nothing [Smpp34] {Response : Type} (call : SendCall)
    (meets : Meets Response) (outside : Outside) :
    (∀ error, (call.run meets).outcome = .error (.raised error) →
      (call.run meets).effects.foldl Outside.apply outside = outside) ∧
    (call.run meets).outcome ≠ .error .panicked ∧
    ∀ request, .constructing request ∈ (call.run meets).effects → request.WithinLimits := by
  have promised := call.run_allOrNothing meets
  refine ⟨fun error raised => ?_, fun panicked => ?_, fun request constructing => ?_⟩
  · exact outside.foldl_of_unseen _ (promised.unseen _ raised trivial)
  · exact promised.safe _ panicked rfl
  · exact promised.proper _ constructing

end SiphonSmpp
