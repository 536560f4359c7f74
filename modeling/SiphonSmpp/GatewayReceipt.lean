/-
This file says what a client reads of the receipt that the gateway passes on
(`_route_dlr` of `examples/gateway.py`). The script writes a body of its own,
with the id the client knows, the dates, the state, the error and the text of the
receipt it got, or defaults for those it lacks, and `001` for both counts whatever
they were. It puts the id and the state into the optional parameters as well.

The body names all eight keys, so what was written is read back as long as no
value in front of the text has a colon in it. A body over the limit of
`short_message` is refused before it is sent, and the receipt is lost.
-/

import SiphonSmpp.GatewayHops
import SiphonSmpp.GatewayRun
import SiphonSmpp.ReceiptRender

namespace SiphonSmpp.Gateway

open Utf8 Receipt

/-! ### The fields of a receipt -/

theorem trim_tight (text : List Char) : Tight (trim text) := by
  set front := text.dropWhile isWhitespace with dropped
  have prefixed : trim text <+: front := by
    rw [trim, ← dropped, ← List.reverse_suffix, List.reverse_reverse]
    exact List.dropWhile_suffix _
  refine ⟨fun character first => ?_, fun character last => ?_⟩
  · obtain ⟨rest, same⟩ := prefixed
    have head : front.head? = some character := by
      rw [← same, List.head?_append, Option.mem_def.mp first]
      rfl
    have visible := List.head?_dropWhile_not isWhitespace text
    rw [← dropped, head] at visible
    exact visible
  · rw [trim, List.getLast?_reverse] at last
    have visible := List.head?_dropWhile_not isWhitespace front.reverse
    rw [Option.mem_def.mp last] at visible
    exact visible

/-- The parser trims every value it finds. -/
theorem fillMarks_tight (raw : List Char) (marks : List Mark) (out : Receipt)
    (tight : ∀ field value, out.get field = some value → Tight value) (field : ReceiptField)
    (value : List Char) (found : (fillMarks raw marks out).get field = some value) :
    Tight value := by
  induction marks generalizing out with
  | nil => exact tight field value found
  | cons mark rest inductionHypothesis =>
    refine inductionHypothesis _ (fun other text set => ?_) found
    by_cases same : other = mark.field
    · subst same
      rw [get_set_self] at set
      rw [← Option.some.inj set]
      exact trim_tight _
    · rw [get_set_of_ne _ _ _ _ same] at set
      exact tight other text set

theorem get_empty (raw : List Char) (field : ReceiptField) : (Receipt.empty raw).get field = none := by
  cases field <;> rfl

/-- The script's table of states is the one of the crate. -/
theorem messageStateName_of_lookup {name : List Char} {code : Nat}
    (listed : messageStates.lookup name = some code) :
    code < 256 ∧ messageStateName (UInt8.ofNat code) = some name := by
  have table : ∀ pair ∈ messageStates,
      pair.2 < 256 ∧ messageStateName (UInt8.ofNat pair.2) = some pair.1 := by
    decide +kernel
  obtain ⟨before, after, split, _⟩ := List.lookup_eq_some_iff.mp listed
  exact table (name, code) (split ▸ List.mem_append_right _ List.mem_cons_self)

theorem messageStateName_tight {state : UInt8} {name : List Char}
    (known : messageStateName state = some name) : Tight name := by
  unfold messageStateName at known
  split at known
  all_goals
    cases known
    try decide

/-- What the optional parameters fill in is an id and the name of a state. -/
theorem complete_tight (parsed : Receipt) (tlvId : Option (List Char)) (tlvState : Option UInt8)
    (tight : ∀ field value, parsed.get field = some value → Tight value) (field : ReceiptField)
    (other : field ≠ .id) (value : List Char)
    (found : (parsed.complete tlvId tlvState).get field = some value) : Tight value := by
  by_cases state : field = .stat
  · subst state
    rw [(parsed.complete_get tlvId tlvState).2, Option.or_eq_some_iff] at found
    rcases found with written | ⟨_, filled⟩
    · exact tight .stat value written
    · obtain ⟨code, _, known⟩ := Option.bind_eq_some_iff.mp filled
      exact messageStateName_tight known
  · have same : (parsed.complete tlvId tlvState).get field = parsed.get field := by
      obtain ⟨id, sub, dlvrd, submitDate, doneDate, stat, err, text, raw⟩ := parsed
      cases id <;> cases stat <;> cases field <;>
        first | rfl | exact absurd rfl other | exact absurd rfl state
    exact tight field value (same ▸ found)

/-- A field of a receipt as the script reads it. -/
theorem receiptText_merged (parsed : Receipt) (tlvId : Option (List Char)) (tlvState : Option UInt8)
    (field : ReceiptField) :
    receiptText (parsed.merged tlvId tlvState) field.name =
      (parsed.complete tlvId tlvState).get field := by
  have scalars : ∀ text : List Char, (pyStr text).filterMap PyChar.toScalar? = text := by
    intro text
    rw [pyStr, List.filterMap_map]
    exact List.filterMap_some
  rw [receiptText, parsed.get?_merged]
  cases (parsed.complete tlvId tlvState).get field with
  | none => rfl
  | some text =>
    show some ((pyStr text).filterMap PyChar.toScalar?) = some text
    rw [scalars]

/-- A field that the script reads from a receipt, its id apart, has no blank text around it. -/
theorem receiptText_tight {codec : ReceiptCodec} {pdu : Pdu} {receipt : PyDict}
    (dlr : pdu.isDlr) (read : pdu.receipt codec = .ok (some receipt)) {field : ReceiptField}
    (other : field ≠ .id) {value : List Char}
    (found : receiptText receipt field.name = some value) : Tight value := by
  have parsed := Receipt.parse_eq pdu.body
  have merged := read.symm.trans (pdu.receipt_of_isDlr codec dlr parsed)
  obtain ⟨whole, chosen, same⟩ := Option.map_eq_some_iff.mp (Except.ok.inj merged).symm
  have tight : ∀ field value, whole.get field = some value → Tight value := by
    intro field value held
    rcases Option.or_eq_some_iff.mp chosen with marked | ⟨_, unmarked⟩
    · split at marked
      · exact absurd marked nofun
      · rw [← Option.some.inj marked] at held
        refine fillMarks_tight _ _ _ (fun other text set => ?_) field value held
        rw [get_empty] at set
        exact absurd set nofun
    · split at unmarked
      · rw [← Option.some.inj unmarked, get_empty] at held
        exact absurd held nofun
      · exact absurd unmarked nofun
  refine complete_tight whole (pdu.receiptedMessageId codec) (pdu.messageState codec) tight field
    other value ?_
  rw [← receiptText_merged, same]
  exact found

/-! ### The body that is passed on -/

/-- What a field of the passed-on receipt says. The counts are not those of the upstream. -/
def passedField (ourId : OurId) (receipt : PyDict) : ReceiptField → List Char
  | .id => ourId.text
  | .sub => "001".toList
  | .dlvrd => "001".toList
  | .submitDate => (receiptText receipt "submit_date").getD []
  | .doneDate => (receiptText receipt "done_date").getD []
  | .stat => (receiptText receipt "stat").getD "UNKNOWN".toList
  | .err => (receiptText receipt "err").getD "000".toList
  | .text => (receiptText receipt "text").getD []

/-- The keys of the body in front of the text, in the order they are written. -/
def frontKeys : List (List Char × ReceiptField) :=
  [("id".toList, .id), ("sub".toList, .sub), ("dlvrd".toList, .dlvrd),
   ("submit date".toList, .submitDate), ("done date".toList, .doneDate), ("stat".toList, .stat),
   ("err".toList, .err)]

theorem frontKeys_listed : ∀ entry ∈ frontKeys, entry ∈ Receipt.keys := by decide

def frontFields (ourId : OurId) (receipt : PyDict) : List (Receipt.Written × Gap) :=
  frontKeys.pmap (fun entry listed =>
    (.asListed entry listed (passedField ourId receipt entry.2), .space)) frontKeys_listed

def lastField (ourId : OurId) (receipt : PyDict) : Receipt.Written :=
  .asListed textEntry textEntry_mem (passedField ourId receipt .text)

theorem receiptBody_eq_render (ourId : OurId) (receipt : PyDict) :
    receiptBody ourId receipt = render (frontFields ourId receipt) (lastField ourId receipt) := by
  have ident : "id:".toList = "id".toList ++ [':'] := by decide
  have counts : " sub:001 dlvrd:001 ".toList = [' '] ++ ("sub".toList ++ [':'] ++ ("001".toList ++
      ([' '] ++ ("dlvrd".toList ++ [':'] ++ ("001".toList ++ [' ']))))) := by decide
  have submit : "submit date:".toList = "submit date".toList ++ [':'] := by decide
  have done : " done date:".toList = [' '] ++ ("done date".toList ++ [':']) := by decide
  have stat : " stat:".toList = [' '] ++ ("stat".toList ++ [':']) := by decide
  have err : " err:".toList = [' '] ++ ("err".toList ++ [':']) := by decide
  have text : " text:".toList = [' '] ++ ("text".toList ++ [':']) := by decide
  have front : ((frontFields ourId receipt).flatMap fun pair => pair.1.text ++ pair.2.text) =
      frontKeys.flatMap fun entry => needle entry.1 ++ passedField ourId receipt entry.2 ++ [' '] := by
    rw [List.flatMap_def, List.flatMap_def, frontFields, List.map_pmap]
    exact congrArg List.flatten (@List.pmap_eq_map (List Char × ReceiptField) _ _ (fun entry =>
      needle entry.1 ++ passedField ourId receipt entry.2 ++ [' ']) frontKeys frontKeys_listed)
  rw [render, front]
  unfold receiptBody frontKeys lastField textEntry
  rw [ident, counts, submit, done, stat, err, text]
  simp only [passedField, List.flatMap_cons, List.flatMap_nil, Receipt.Written.text,
    Receipt.Written.asListed, needle, List.append_assoc, List.append_nil]

theorem OurId.tight (ourId : OurId) : Tight ourId.text := by
  have digits : "0123456789abcdef".toList.all (fun character => !isWhitespace character) = true := by
    decide
  have visible : ∀ character ∈ ourId.text, isWhitespace character = false := by
    intro character member
    have digit := List.all_eq_true.mp digits character (ourId.hex character member)
    simpa using digit
  exact ⟨fun character first => visible character (List.mem_of_mem_head? first),
    fun character last => visible character (List.mem_of_mem_getLast? last)⟩

theorem OurId.noColon (ourId : OurId) : ':' ∉ ourId.text := by
  intro member
  exact absurd (ourId.hex ':' member) (by decide)

/-- The values that stand in front of the text. -/
def headerFields : List ReceiptField := [.submitDate, .doneDate, .stat, .err]

section Reading

variable {codec : ReceiptCodec} {pdu : Pdu} {receipt : PyDict} (dlr : pdu.isDlr)
  (read : pdu.receipt codec = .ok (some receipt)) (ourId : OurId)

include dlr read

theorem passedField_tight (field : ReceiptField) : Tight (passedField ourId receipt field) := by
  have given : ∀ (field : ReceiptField) (default : List Char), field ≠ .id → Tight default →
      Tight ((receiptText receipt field.name).getD default) := by
    intro field default other tight
    cases found : receiptText receipt field.name with
    | none => exact tight
    | some value => exact receiptText_tight dlr read other found
  cases field with
  | id => exact ourId.tight
  | sub => exact (by decide : Tight "001".toList)
  | dlvrd => exact (by decide : Tight "001".toList)
  | submitDate => exact given .submitDate [] nofun (by decide)
  | doneDate => exact given .doneDate [] nofun (by decide)
  | stat => exact given .stat _ nofun (by decide)
  | err => exact given .err _ nofun (by decide)
  | text => exact given .text [] nofun (by decide)

variable (plain : ∀ field ∈ headerFields, ':' ∉ passedField ourId receipt field)

include plain

omit dlr read in
theorem passedField_noColon {field : ReceiptField} (other : field ≠ .text) :
    ':' ∉ passedField ourId receipt field := by
  cases field with
  | id => exact ourId.noColon
  | sub => exact (by decide : ':' ∉ "001".toList)
  | dlvrd => exact (by decide : ':' ∉ "001".toList)
  | text => exact absurd rfl other
  | submitDate => exact plain _ (by decide)
  | doneDate => exact plain _ (by decide)
  | stat => exact plain _ (by decide)
  | err => exact plain _ (by decide)

/-- The fields are read back from the body as they were written. -/
theorem receiptBody_reads :
    ∃ parsed, Receipt.parse (utf8Octets (receiptBody ourId receipt)) = .ok (some parsed) ∧
      ∀ field, parsed.get field = some (passedField ourId receipt field) := by
  have fields : ∀ pair ∈ frontFields ourId receipt, pair.1.Plain := by
    intro pair member
    obtain ⟨entry, listed, rfl⟩ := List.mem_pmap.mp member
    have front : ∀ entry ∈ frontKeys, entry.2 ≠ .text := by decide
    exact ⟨passedField_noColon ourId plain (front entry listed), passedField_tight dlr read ourId _⟩
  have entries : (written (frontFields ourId receipt) (lastField ourId receipt)).map
      Receipt.Written.entry = frontKeys ++ [textEntry] := by
    rw [written, frontFields, List.map_append, List.map_pmap, List.map_pmap]
    rfl
  -- all eight keys are written, so the text may hold any of them again
  have legible := legible_stretches (frontFields ourId receipt) (lastField ourId receipt)
    (by rw [entries]; decide) fields (Or.inr (by rw [entries]; decide))
  obtain ⟨parsed, parses, _, values, _⟩ := reads_render _ _ fields legible
  rw [← receiptBody_eq_render] at parses
  refine ⟨parsed, parses, fun field => ?_⟩
  by_cases text : field = .text
  · subst text
    have last := values (.text, trim (passedField ourId receipt .text))
      (List.mem_append_right _ (List.mem_singleton_self _))
    rwa [trim_of_tight (passedField_tight dlr read ourId .text)] at last
  · have listed : ∀ field : ReceiptField, field ≠ .text → ∃ entry ∈ frontKeys, entry.2 = field := by
      intro field other
      cases field <;> first | exact absurd rfl other | decide
    obtain ⟨entry, member, rfl⟩ := listed field text
    refine values (entry.2, passedField ourId receipt entry.2) (List.mem_append_left _ ?_)
    rw [frontFields, List.map_pmap]
    exact List.mem_pmap.mpr ⟨entry, member, rfl⟩

end Reading

/-! ### The parameters that are passed on -/

theorem toUTF8_ofList (text : List Char) :
    (String.ofList text).toUTF8.data.toList = utf8Octets text := by
  rw [String.toUTF8, String.toByteArray_ofList, List.utf8Encode]
  exact List.toList_data_toByteArray

theorem OurId.noNul (ourId : OurId) : ∀ octet ∈ utf8Octets ourId.text, octet ≠ 0 := by
  have digits : "0123456789abcdef".toList.all (fun character =>
      (String.utf8EncodeChar character).all fun octet => octet != 0) = true := by
    decide +kernel
  intro octet member
  obtain ⟨character, inside, encoded⟩ := List.mem_flatMap.mp member
  have digit := List.all_eq_true.mp digits character (ourId.hex character inside)
  simpa using List.all_eq_true.mp digit octet encoded

/-- The id, and the state where the script knows it, as they are sent. -/
def passedTlvs (ourId : OurId) (state : Option Nat) : List Tlv :=
  ⟨receiptedMessageIdTag, utf8Octets ourId.text ++ [0]⟩ ::
    state.toList.map fun code => ⟨messageStateTag, [UInt8.ofNat code]⟩

/-- What the codec promises of the two receipt parameters: a text that ends in a NUL and has no
other is read as it is, and one octet is the state. -/
structure ReceiptCodec.Lawful (codec : ReceiptCodec) : Prop where
  text : ∀ text : List Char, (∀ octet ∈ utf8Octets text, octet ≠ 0) →
    codec.receiptedMessageId (utf8Octets text ++ [0]) = some text
  state : ∀ state, codec.messageState [state] = some state

theorem specReceiptCodec_lawful : ReceiptCodec.Lawful specReceiptCodec := by
  refine ⟨fun text _ => ?_, fun _ => rfl⟩
  simp only [specReceiptCodec, List.getLast?_concat, List.dropLast_concat, if_true]
  rw [fromUtf8Lossy_utf8Octets, if_pos rfl]

section Passing

variable (python : Interpreter) (codec : ReceiptCodec)

/-- What a client reads of a receipt: whose it is, the id it knows the message by, the state as a
code, which is there for the states the script knows and means the same, and every field of the
text as the script wrote it. -/
structure ReadsReceipt (correlation : Correlation) (receipt : PyDict) (client : Pdu) : Prop where
  dlr : client.isDlr
  source : client.sourceAddr = correlation.destinationAddr
  destination : client.destinationAddr = correlation.sourceAddr
  id : client.receiptedMessageId codec = some correlation.ourId.text
  state : client.messageState codec =
    (messageState python (receiptText receipt "stat")).map UInt8.ofNat
  named : ∀ state, client.messageState codec = some state →
    messageStateName state = some (python.upper (strip ((receiptText receipt "stat").getD [])))
  fields : ∃ dict, client.receipt codec = .ok (some dict) ∧
    ∀ field : ReceiptField, dict.get? (strKey field.name) =
      some (.str (pyStr (passedField correlation.ourId receipt field)))

/-- The `deliver_sm` of a receipt, as the session gets it. -/
def receiptSent (correlation : Correlation) (receipt : PyDict) : DeliverSm :=
  (receiptArgs python correlation receipt).request
    (passedTlvs correlation.ourId (messageState python (receiptText receipt "stat")))

theorem receiptSent_body (correlation : Correlation) (receipt : PyDict) :
    (Pdu.fromDeliver (receiptSent python correlation receipt)).body =
      utf8Octets (receiptBody correlation.ourId receipt) := by
  have unpaid : messagePayload (passedTlvs correlation.ourId
      (messageState python (receiptText receipt "stat"))) = none := by
    cases messageState python (receiptText receipt "stat") with
    | none => rfl
    | some code => rfl
  unfold Pdu.fromDeliver receiptSent DeliverToArgs.request receiptArgs
  rw [Pdu.body_eq_getD]
  dsimp only
  rw [unpaid, Option.getD_none, toUTF8_ofList]

variable {codec} (lawful : ReceiptCodec.Lawful codec)

include lawful

theorem receiptSent_receiptedMessageId (correlation : Correlation) (receipt : PyDict) :
    (Pdu.fromDeliver (receiptSent python correlation receipt)).receiptedMessageId codec =
      some correlation.ourId.text :=
  lawful.text correlation.ourId.text correlation.ourId.noNul

theorem receiptSent_messageState (correlation : Correlation) (receipt : PyDict) :
    (Pdu.fromDeliver (receiptSent python correlation receipt)).messageState codec =
      (messageState python (receiptText receipt "stat")).map UInt8.ofNat := by
  show (getTlvRaw (passedTlvs correlation.ourId (messageState python (receiptText receipt "stat")))
    messageStateTag).bind _ = _
  cases messageState python (receiptText receipt "stat") with
  | none => rfl
  | some code => exact lawful.state (UInt8.ofNat code)

/-- A client reads its receipt. -/
theorem readsReceipt_sent {pdu : Pdu} {receipt : PyDict} (dlr : pdu.isDlr)
    (read : pdu.receipt codec = .ok (some receipt)) (correlation : Correlation)
    (plain : ∀ field ∈ headerFields, ':' ∉ passedField correlation.ourId receipt field) :
    ReadsReceipt python codec correlation receipt
      (Pdu.fromDeliver (receiptSent python correlation receipt)) := by
  have isDlr : (Pdu.fromDeliver (receiptSent python correlation receipt)).isDlr = true :=
    (by decide : ((0x04 : UInt8) &&& 0x04 != 0) = true)
  have state := receiptSent_messageState python lawful correlation receipt
  obtain ⟨parsed, parses, values⟩ := receiptBody_reads dlr read correlation.ourId plain
  rw [← receiptSent_body python] at parses
  refine ⟨isDlr, rfl, rfl, receiptSent_receiptedMessageId python lawful correlation receipt, state,
    fun named found => ?_, _, Pdu.receipt_of_isDlr codec _ isDlr parses, fun field => ?_⟩
  · rw [state] at found
    obtain ⟨code, known, rfl⟩ := Option.map_eq_some_iff.mp found
    exact (messageStateName_of_lookup known).2
  · have complete : ∀ tlvId tlvState, parsed.complete tlvId tlvState = parsed := by
      intro tlvId tlvState
      have id : parsed.id = some _ := values .id
      have stat : parsed.stat = some _ := values .stat
      simp [Receipt.complete, id, stat]
    exact (parsed.get?_merged _ _ field).trans (by rw [complete, values]; rfl)

end Passing

section Delivering

variable [Smpp34] (python : Interpreter)

theorem tlvsFromPy_receiptTlvs (names : Smpp34.tagNames = specTagNames)
    (codes : Smpp34.tagCode = specTagCode) (ourId : OurId) (receipt : PyDict) :
    tlvsFromPy (some (receiptTlvs python ourId receipt)) =
      .ok (passedTlvs ourId (messageState python (receiptText receipt "stat"))) := by
  have idTag : tagFromPy (strKey "RECEIPTED_MESSAGE_ID") = .ok receiptedMessageIdTag :=
    tagFromPy_of_spec names (by decide +kernel)
  have stateTag : tagFromPy (strKey "MESSAGE_STATE") = .ok messageStateTag :=
    tagFromPy_of_spec names (by decide +kernel)
  have idValue : valueToBytes receiptedMessageIdTag (.str (pyStr ourId.text)) =
      .ok (utf8Octets ourId.text ++ [0]) := by
    rw [valueToBytes, toCow_pyStr, ← toUTF8_ofList]
    rfl
  rw [tlvsFromPy_eq_ok_iff, receiptTlvs, passedTlvs]
  cases known : messageState python (receiptText receipt "stat") with
  | none => exact ⟨.cons ⟨idTag, idValue⟩ .nil, List.nodup_singleton _⟩
  | some code =>
    have fits := (messageStateName_of_lookup known).1
    have stateValue : valueToBytes messageStateTag (.int code) = .ok [UInt8.ofNat code] := by
      have width : intWidth messageStateTag = some 1 := by
        rw [intWidth, codes]
        decide +kernel
      refine (intToBytes_eq_ok_iff _ _ _).mpr ⟨1, width, Int.natCast_nonneg _, ?_, rfl⟩
      omega
    have other : strKey "MESSAGE_STATE" ∉ (OrderedDict.empty.setItem
        (strKey "RECEIPTED_MESSAGE_ID") (PyObject.str (pyStr ourId.text))).items.map Prod.fst := by
      intro member
      have same := List.mem_singleton.mp member
      rw [strKey_inj] at same
      exact absurd same (by decide)
    have items : ((OrderedDict.empty.setItem (strKey "RECEIPTED_MESSAGE_ID")
        (PyObject.str (pyStr ourId.text))).setItem (strKey "MESSAGE_STATE") (.int code)).items =
          [(strKey "RECEIPTED_MESSAGE_ID", PyObject.str (pyStr ourId.text)),
           (strKey "MESSAGE_STATE", .int code)] :=
      OrderedDict.setEntry_of_notMem _ _ _ other
    refine ⟨?_, ?_⟩
    · rw [items]
      exact .cons ⟨idTag, idValue⟩ (.cons ⟨stateTag, stateValue⟩ .nil)
    · exact (by decide : [receiptedMessageIdTag, messageStateTag].Nodup)

/-- The receipt as it is handed to the session of the client. -/
def Correlation.deliver (correlation : Correlation) (receipt : PyDict) (state : State) :
    Except PyErr DeliverSm := do
  return (← (← deliverTo (some state) (receiptArgs python correlation receipt)) state).request

/-- A receipt without a colon in its dates, its state and its error is handed to the session of a
client that is bound and can receive exactly when the text that the script writes fits
`short_message`. A client that decodes it as it was sent then reads whose it is, the id it knows the
message by, the state, and each field as the script wrote it: the dates, the state, the error and
the text of the upstream, or the defaults of the script for those that were missing, and `001` for
both counts. -/
theorem receipt_reads_back (names : Smpp34.tagNames = specTagNames)
    (codes : Smpp34.tagCode = specTagCode) {codec : ReceiptCodec}
    (lawful : ReceiptCodec.Lawful codec) (wire : Wire) {pdu : Pdu} {receipt : PyDict}
    (dlr : pdu.isDlr) (read : pdu.receipt codec = .ok (some receipt)) (correlation : Correlation)
    (plain : ∀ field ∈ headerFields, ':' ∉ passedField correlation.ourId receipt field)
    {state : State} {esme : Arc Esme} {responseTimer : Duration}
    (resolved : esmeHandle state correlation.esmeSession = .ok (esme, responseTimer))
    (receives : esme.value.canReceive = true) :
    ((∃ request, correlation.deliver python receipt state = .ok request) ↔
      (utf8Octets (receiptBody correlation.ourId receipt)).length ≤ shortMessageMax) ∧
    ∀ request, correlation.deliver python receipt state = .ok request →
      wire.deliverSm request = some request →
      ReadsReceipt python codec correlation receipt (Pdu.fromDeliver request) := by
  have converted := tlvsFromPy_receiptTlvs python names codes correlation.ourId receipt
  have delivers : ∀ request, correlation.deliver python receipt state = .ok request ↔
      (utf8Octets (receiptBody correlation.ourId receipt)).length ≤ shortMessageMax ∧
        request = receiptSent python correlation receipt := by
    have short : (receiptArgs python correlation receipt).shortMessage =
      utf8Octets (receiptBody correlation.ourId receipt) := toUTF8_ofList _
    intro request
    rw [Correlation.deliver, awaited_eq_ok_iff _ state fun sent => sent]
    constructor
    · rintro ⟨awaitable, called, submission, handed, same⟩
      obtain ⟨_, fits, tlvs, done, rfl⟩ := (deliverTo_eq_ok_iff _ _ _).mp called
      cases converted.symm.trans done
      refine ⟨short ▸ fits, same.trans ?_⟩
      exact onReceiver_request _ _ _ _ submission handed
    · rintro ⟨fits, rfl⟩
      have called := (deliverTo_eq_ok_iff (some state)
        (receiptArgs python correlation receipt) _).mpr ⟨rfl, short ▸ fits, _, converted, rfl⟩
      exact ⟨_, called, _, onReceiver_of_resolved _ state _ "deliver_sm" esme responseTimer resolved
        receives, rfl⟩
  refine ⟨⟨fun ⟨request, sent⟩ => ((delivers request).mp sent).1, fun fits => ?_⟩,
    fun request sent _ => ?_⟩
  · exact ⟨_, (delivers _).mpr ⟨fits, rfl⟩⟩
  · rw [((delivers request).mp sent).2]
    exact readsReceipt_sent python lawful dlr read correlation plain

end Delivering

def sampleCorrelation : Correlation := ⟨"session-2", "acme", sampleId, "100", "200"⟩

theorem receipt_reads_back_delivered :
    let := storingCodec
    ∃ request, sampleCorrelation.deliver plainPython sampleDict boundState = .ok request ∧
      ReadsReceipt plainPython specReceiptCodec sampleCorrelation sampleDict
        (Pdu.fromDeliver request) := by
  intro
  have reads := receipt_reads_back plainPython rfl rfl specReceiptCodec_lawful Wire.plain
    (by decide : sampleReceipt.isDlr)
    (by rfl : sampleReceipt.receipt specReceiptCodec = .ok (some sampleDict)) sampleCorrelation
    (by decide +kernel) (rfl : esmeHandle boundState "session-2" = .ok (_, _)) rfl
  obtain ⟨request, sent⟩ := reads.1.mpr (by decide +kernel)
  exact ⟨request, sent, reads.2 request sent rfl⟩

end SiphonSmpp.Gateway
