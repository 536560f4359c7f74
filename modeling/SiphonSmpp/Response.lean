/-
This file models how a peer's response reaches the script (`status_name` and
`Reply` of `src/outcome.rs`, `SmppResp` and `QueryResp` of `src/sends.rs`) and
how a script passes its verdict on. The status is reported twice, as the number
on the wire and as a name; a status outside Table 5-2 has no name and reads as
its hexadecimal literal.

A gateway answers its own client with what the upstream answered. The name a
response reports is the name `pdu.reply` takes, so a relayed verdict is either
the verdict or, outside Table 5-2, an exception, and never another verdict.
-/

import SiphonSmpp.Answer
import SiphonSmpp.Outcome

namespace SiphonSmpp

/-! ### Responses -/

/-- What the crate takes from the status table of the codec: it knows each of its own
statuses by its code. -/
structure StatusCodec where
  fromCommandStatus : UInt32 → SmppError
  fromCommandStatus_code : ∀ error : SmppError, fromCommandStatus error.code = error

/-- A `query_sm_resp`. -/
structure QuerySmResp where
  commandStatus : UInt32
  messageId : String
  finalDate : String
  messageState : UInt8
  errorCode : UInt8

/-- The response PDUs a send helper reports. -/
inductive PeerResponse where
  | submitSmResp (commandStatus : UInt32) (messageId : Option String)
  | submitSmMultiResp (commandStatus : UInt32) (messageId : Option String)
  | querySmResp (response : QuerySmResp)
  | deliverSmResp (commandStatus : UInt32)
  | dataSmResp (commandStatus : UInt32)
  | cancelSmResp (commandStatus : UInt32)
  | replaceSmResp (commandStatus : UInt32)

/-- `Reply::status`. -/
def PeerResponse.status : PeerResponse → UInt32
  | .submitSmResp commandStatus _ => commandStatus
  | .submitSmMultiResp commandStatus _ => commandStatus
  | .querySmResp response => response.commandStatus
  | .deliverSmResp commandStatus => commandStatus
  | .dataSmResp commandStatus => commandStatus
  | .cancelSmResp commandStatus => commandStatus
  | .replaceSmResp commandStatus => commandStatus

/-- `Reply::message_id`: empty for a response that has none. -/
def PeerResponse.messageId : PeerResponse → String
  | .submitSmResp _ messageId => messageId.getD ""
  | .submitSmMultiResp _ messageId => messageId.getD ""
  | .querySmResp response => response.messageId
  | _ => ""

def esmeRthrottled : UInt32 := 0x00000058

def esmeRmsgqful : UInt32 := 0x00000014

def isThrottle (status : UInt32) : Bool := status == esmeRthrottled || status == esmeRmsgqful

section Reporting

variable (codec : StatusCodec)

/-- The name of a status, or its value in hexadecimal outside Table 5-2. -/
def statusName (status : UInt32) : String :=
  let known := codec.fromCommandStatus status
  if known.code = status then known.name else "0x" ++ hexText 8 status.toNat

structure SmppResp where
  commandStatus : String
  commandStatusCode : UInt32
  messageId : String
  deriving DecidableEq, Repr

def SmppResp.fromReply (reply : PeerResponse) : SmppResp where
  commandStatus := statusName codec reply.status
  commandStatusCode := reply.status
  messageId := reply.messageId

/-- An `alert_notification` has no response: that it was written is all there is to report. -/
def SmppResp.written : SmppResp where
  commandStatus := statusName codec SmppError.esmeRok.code
  commandStatusCode := SmppError.esmeRok.code
  messageId := ""

def SmppResp.ok (response : SmppResp) : Bool := response.commandStatusCode == SmppError.esmeRok.code

def SmppResp.throttled (response : SmppResp) : Bool := isThrottle response.commandStatusCode

/-- `SmppResp.__bool__`. -/
def SmppResp.truth (response : SmppResp) : Bool := response.ok

structure QueryResp where
  commandStatus : String
  commandStatusCode : UInt32
  messageId : String
  messageState : UInt8
  finalDate : String
  errorCode : UInt8
  deriving DecidableEq, Repr

def QueryResp.fromReply (reply : QuerySmResp) : QueryResp where
  commandStatus := statusName codec reply.commandStatus
  commandStatusCode := reply.commandStatus
  messageId := reply.messageId
  messageState := reply.messageState
  finalDate := reply.finalDate
  errorCode := reply.errorCode

def QueryResp.ok (response : QueryResp) : Bool :=
  response.commandStatusCode == SmppError.esmeRok.code

def QueryResp.throttled (response : QueryResp) : Bool := isThrottle response.commandStatusCode

/-! ### Hexadecimal renderings -/

/-- The value of an upper-case hexadecimal digit. -/
def hexDigitValue (digit : Char) : Nat :=
  if digit.isDigit then digit.toNat - '0'.toNat else digit.toNat - 'A'.toNat + 10

/-- The number a text of hexadecimal digits stands for. -/
def ofHexDigits (digits : List Char) (sofar : Nat) : Nat :=
  digits.foldl (fun sofar digit => 16 * sofar + hexDigitValue digit) sofar

theorem hexDigitValue_digitChar (digit : Nat) (small : digit < 16) :
    hexDigitValue digit.digitChar.toUpper = digit := by
  have every : ∀ value : Fin 16, hexDigitValue (value : Nat).digitChar.toUpper = value := by decide
  exact every ⟨digit, small⟩

theorem ofHexDigits_toDigits (value : Nat) :
    ofHexDigits ((Nat.toDigits 16 value).map Char.toUpper) 0 = value := by
  induction value using Nat.strongRecOn with
  | ind value inductionHypothesis =>
    rw [Nat.toDigits_eq_if (by decide)]
    split
    · rename_i small
      simp [ofHexDigits, hexDigitValue_digitChar value small]
    · rename_i large
      have shorter : value / 16 < value := by omega
      have last := hexDigitValue_digitChar (value % 16) (Nat.mod_lt _ (by decide))
      have front := inductionHypothesis (value / 16) shorter
      unfold ofHexDigits at front ⊢
      rw [List.map_append, List.foldl_append, front]
      simp only [List.map_cons, List.map_nil, List.foldl_cons, List.foldl_nil, last]
      exact Nat.div_add_mod value 16

/-- The padding in front of a rendering does not change its value. -/
theorem ofHexDigits_zeros (count : Nat) (digits : List Char) :
    ofHexDigits (List.replicate count '0' ++ digits) 0 = ofHexDigits digits 0 := by
  induction count with
  | zero => rfl
  | succ count inductionHypothesis =>
    rw [List.replicate_succ, List.cons_append, ← inductionHypothesis]
    rfl

theorem ofHexDigits_hexText (width value : Nat) :
    ofHexDigits (hexText width value).toList 0 = value := by
  rw [hexText, String.toList_ofList, List.leftpad, ofHexDigits_zeros, ofHexDigits_toDigits]

/-! ### Names of statuses -/

theorem parseSmppStatus_name (error : SmppError) : parseSmppStatus error.name = .ok error := by
  cases error <;> rfl

/-- A hexadecimal literal is the name of no status. -/
theorem parseSmppStatus_hex (status : Nat) :
    parseSmppStatus ("0x" ++ hexText 8 status) =
      .error ⟨.valueError, "unknown SMPP status: " ++ debugText ("0x" ++ hexText 8 status)⟩ := by
  have letters : ∀ entry ∈ smppStatusNames, entry.1.toList.head? = some 'E' := by decide
  have absent : smppStatusNames.lookup ("0x" ++ hexText 8 status) = none := by
    rw [List.lookup_eq_none_iff]
    intro entry listed
    rw [bne_iff_ne]
    rintro same
    have starts := letters entry listed
    rw [← same, String.toList_append] at starts
    exact absurd starts (by simp)
  rw [parseSmppStatus, absent]

theorem statusName_code (error : SmppError) : statusName codec error.code = error.name := by
  rw [statusName, codec.fromCommandStatus_code, if_pos rfl]

theorem statusName_of_unnamed (status : UInt32) (unnamed : ∀ error : SmppError, error.code ≠ status) :
    statusName codec status = "0x" ++ hexText 8 status.toNat := by
  rw [statusName, if_neg (unnamed _)]

/-- The name of a status is read as that status, and as nothing when it has none. -/
theorem parseSmppStatus_statusName (status : UInt32) (error : SmppError) :
    parseSmppStatus (statusName codec status) = .ok error ↔ error.code = status := by
  constructor
  · intro parsed
    by_cases named : ∃ known : SmppError, known.code = status
    · obtain ⟨known, same⟩ := named
      rw [← same, statusName_code, parseSmppStatus_name] at parsed
      rw [← same, Except.ok.inj parsed]
    · rw [statusName_of_unnamed codec status (not_exists.mp named), parseSmppStatus_hex] at parsed
      exact absurd parsed nofun
  · rintro rfl
    rw [statusName_code, parseSmppStatus_name]

/-- Two statuses with one name are one status. -/
theorem statusName_injective : Function.Injective (statusName codec) := by
  intro first second same
  by_cases named : ∃ error : SmppError, error.code = first
  · obtain ⟨error, rfl⟩ := named
    refine (parseSmppStatus_statusName codec second error).mp ?_
    rw [← same]
    exact (parseSmppStatus_statusName codec _ error).mpr rfl
  · have unnamed : ∀ error : SmppError, error.code ≠ second := by
      intro error code
      refine named ⟨error, (parseSmppStatus_statusName codec first error).mp ?_⟩
      rw [same]
      exact (parseSmppStatus_statusName codec second error).mpr code
    rw [statusName_of_unnamed codec first (not_exists.mp named),
      statusName_of_unnamed codec second unnamed] at same
    have digits := congrArg (fun text => ofHexDigits (text.toList.drop 2) 0) same
    simp only [String.toList_append] at digits
    change ofHexDigits (hexText 8 first.toNat).toList 0 =
      ofHexDigits (hexText 8 second.toNat).toList 0 at digits
    rw [ofHexDigits_hexText, ofHexDigits_hexText] at digits
    exact UInt32.toNat_inj.mp digits

/-- The two attributes of a status agree on what a script asks of them. -/
theorem SmppResp.ok_iff (reply : PeerResponse) :
    (SmppResp.fromReply codec reply).ok = true ↔
      (SmppResp.fromReply codec reply).commandStatus = "ESME_ROK" := by
  have named : "ESME_ROK" = statusName codec SmppError.esmeRok.code := by
    rw [statusName_code]
    rfl
  rw [named]
  exact beq_iff_eq.trans (statusName_injective codec).eq_iff.symm

theorem SmppResp.throttled_iff (reply : PeerResponse) :
    (SmppResp.fromReply codec reply).throttled = true ↔
      (SmppResp.fromReply codec reply).commandStatus = "ESME_RTHROTTLED" ∨
        (SmppResp.fromReply codec reply).commandStatus = "ESME_RMSGQFUL" := by
  have throttled : "ESME_RTHROTTLED" = statusName codec SmppError.esmeRthrottled.code := by
    rw [statusName_code]
    rfl
  have full : "ESME_RMSGQFUL" = statusName codec SmppError.esmeRmsgqful.code := by
    rw [statusName_code]
    rfl
  rw [throttled, full]
  refine Bool.or_eq_true_iff.trans (or_congr ?_ ?_)
  · exact beq_iff_eq.trans (statusName_injective codec).eq_iff.symm
  · exact beq_iff_eq.trans (statusName_injective codec).eq_iff.symm

/-! ### Relaying a verdict -/

/-- What becomes of a handler that answers `pdu.reply(command_status=resp.command_status)`: its
reply, or the exception of a status without a name. -/
def SmppResp.relayed [Smpp34] (response : SmppResp) (pdu : Pdu) (messageId : Option String) :
    Handled PyValue :=
  match pdu.reply response.commandStatus messageId none with
  | .ok reply => .returned (.pduReply reply)
  | .error _ => .failed

theorem SmppResp.relayed_of_named [Smpp34] (reply : PeerResponse) (pdu : Pdu)
    (messageId : Option String) (error : SmppError) (named : error.code = reply.status) :
    (SmppResp.fromReply codec reply).relayed pdu messageId =
      .returned (.pduReply ⟨error, messageId, none, "", 0, []⟩) := by
  have parsed := (parseSmppStatus_statusName codec reply.status error).mpr named
  unfold SmppResp.relayed Pdu.reply SmppResp.fromReply
  rw [parsed]
  rfl

theorem SmppResp.relayed_of_unnamed [Smpp34] (reply : PeerResponse) (pdu : Pdu)
    (messageId : Option String) (unnamed : ∀ error : SmppError, error.code ≠ reply.status) :
    (SmppResp.fromReply codec reply).relayed pdu messageId = .failed := by
  unfold SmppResp.relayed Pdu.reply SmppResp.fromReply
  rw [statusName_of_unnamed codec _ unnamed, parseSmppStatus_hex]
  rfl

/-- A relayed verdict is the verdict. Where the handler of an admitted request answers with the
status name another peer's response reported to it, the request is answered with that peer's
status when it is one of Table 5-2, and is rejected when it is not; so it is accepted exactly when
the peer accepted, and no two statuses of a peer read alike to the script. -/
theorem relayed_verdict [Smpp34] (reply : PeerResponse) (inbound : InboundRequest) (state : State)
    (event : Event) (conn : SmppConnectionInformation) (sessionId : String)
    (messageId : Option String) (admitted : inbound.Admitted state event sessionId)
    (relays : event.handledPdu inbound.command inbound.pdu (inbound.session state conn sessionId) =
      (SmppResp.fromReply codec reply).relayed inbound.pdu messageId) :
    let answer := (inbound.answer state event conn sessionId).response
    ((∃ error : SmppError, error.code = reply.status) → answer = reply.status) ∧
    ((∀ error : SmppError, error.code ≠ reply.status) → answer ≠ 0) ∧
    (answer = 0 ↔ (SmppResp.fromReply codec reply).truth = true) ∧
    ∀ other : PeerResponse, (SmppResp.fromReply codec other).commandStatus =
      (SmppResp.fromReply codec reply).commandStatus → other.status = reply.status := by
  intro answer
  have faithful := inbound.answer_faithful state event conn sessionId
  have verdict : (∃ error : SmppError, error.code = reply.status) → answer = reply.status := by
    rintro ⟨error, named⟩
    rw [SmppResp.relayed_of_named codec reply inbound.pdu messageId error named] at relays
    exact (faithful.reply _ admitted relays).trans named
  have refused : (∀ error : SmppError, error.code ≠ reply.status) → answer ≠ 0 := by
    intro unnamed accepted
    rw [SmppResp.relayed_of_unnamed codec reply inbound.pdu messageId unnamed] at relays
    rcases (faithful.ok accepted).2 with ⟨value, returned, _⟩ | ⟨absent, _⟩
    · exact absurd (relays.symm.trans returned) nofun
    · exact absurd (relays.symm.trans absent) nofun
  refine ⟨verdict, refused, ?_, fun other same => statusName_injective codec same⟩
  have truth : (SmppResp.fromReply codec reply).truth = true ↔ reply.status = 0 := beq_iff_eq
  rw [truth]
  by_cases named : ∃ error : SmppError, error.code = reply.status
  · rw [verdict named]
  · refine iff_of_false (refused (not_exists.mp named)) fun ok => named ⟨.esmeRok, ok.symm⟩

/-- The table of the codec, as the crate documents it. -/
def tableStatusCodec : StatusCodec where
  fromCommandStatus status :=
    ((smppStatusNames.map Prod.snd).find? fun error => error.code == status).getD .esmeRunknownerr
  fromCommandStatus_code error := by cases error <;> rfl

/-- An upstream that is throttling: the client is told so, and would not be told of an upstream
with a status of its own. -/
theorem relayed_verdict_throttled :
    letI := storingCodec
    let inbound : InboundRequest := .submitSm
      ⟨"", 1, 1, "100", 1, 1, "200", 0, 0, 0, "", "", 0, 0, 0, 0, [0x68], []⟩
    let response := SmppResp.fromReply tableStatusCodec (.submitSmResp 0x58 none)
    let event : Event :=
      { script :=
          { tryRun := .ok ()
            arguments := fun _ => .ok ()
            call := fun _ _ => .ok (.pduReply ⟨.esmeRthrottled, none, none, "", 0, []⟩)
            submit := .ok ()
            awaited := .done
            coroutineTimeout := 30 }
        source := fun _ => [⟨7, false, some "submit_sm"⟩]
        metricsEnabled := true
        limiters := fun _ => ⟨false, true⟩ }
    response.commandStatus = "ESME_RTHROTTLED" ∧
      (SmppResp.fromReply tableStatusCodec (.submitSmResp 0x401 none)).commandStatus =
        "0x00000401" ∧
      (inbound.answer ⟨[], [], 0, .reject, 0, 0⟩ event ⟨"198.51.100.7:5000", "192.0.2.1:2775"⟩
        "session-1").response = 0x58 := by
  let := storingCodec
  intro inbound response event
  have relayed := relayed_verdict tableStatusCodec (.submitSmResp 0x58 none) inbound
    ⟨[], [], 0, .reject, 0, 0⟩ event ⟨"198.51.100.7:5000", "192.0.2.1:2775"⟩ "session-1" none
    rfl rfl
  exact ⟨rfl, rfl, relayed.1 ⟨.esmeRthrottled, rfl⟩⟩

end Reporting

end SiphonSmpp
