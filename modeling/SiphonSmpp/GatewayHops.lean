/-
This file follows a message through a chain of gateways. What a gateway sends on
is what `_relay_kwargs` makes of the message: its body, in the field it fits
into, and the optional parameters the script carries across a hop. A delivery
receipt goes another way, which rewrites it.

A hop of any other message never raises, and it leaves the body and the carried
parameters as they are. It does put them in one form, and a message in that form
is left as it is: what comes out of a chain is what came out of its first
gateway, as long as the codec carries a message of that form.
-/

import SiphonSmpp.Gateway
import SiphonSmpp.Payload
import SiphonSmpp.Relay

namespace SiphonSmpp.Gateway

/-! ### The form of a message on a hop -/

/-- The tags of the parameters that are carried. -/
def relayedTags : List UInt16 :=
  [0x020C, 0x020E, 0x020F, 0x0426, 0x0204, 0x020A, 0x020B, 0x0201, 0x0019]

/-- The carried parameters of a message, in the order of the script. -/
def carried (tlvs : List Tlv) : List Tlv := relayedTags.filterMap (getTlvRaw tlvs)

/-- A body that does not fit `short_message`. -/
def isLong (body : List UInt8) : Bool := body.length > shortMessageMax

/-- What goes into `short_message` on the next hop. -/
def placedBody (pdu : Pdu) : List UInt8 := if isLong pdu.body then [] else pdu.body

/-- The parameters of the next hop. -/
def placedTlvs (pdu : Pdu) : List Tlv :=
  if isLong pdu.body then carried pdu.tlvs ++ [⟨messagePayloadTag, pdu.body⟩]
  else carried pdu.tlvs

/-- The parameters of the next hop of a `data_sm`, whose body is one of them. -/
def foldedTlvs (pdu : Pdu) : List Tlv :=
  if pdu.body = [] then carried pdu.tlvs
  else carried pdu.tlvs ++ [⟨messagePayloadTag, pdu.body⟩]

theorem getTlvRaw_tag {tlvs : List Tlv} {tag : UInt16} {tlv : Tlv}
    (found : getTlvRaw tlvs tag = some tlv) : tlv.tag = tag := by
  have matched := List.find?_some found
  exact eq_of_beq matched

theorem mem_carried_iff (tlvs : List Tlv) (tlv : Tlv) :
    tlv ∈ carried tlvs ↔ tlv.tag ∈ relayedTags ∧ getTlvRaw tlvs tlv.tag = some tlv := by
  rw [carried, List.mem_filterMap]
  constructor
  · rintro ⟨tag, member, found⟩
    rw [getTlvRaw_tag found]
    exact ⟨member, found⟩
  · rintro ⟨member, found⟩
    exact ⟨tlv.tag, member, found⟩

/-- A carried parameter is read from the carried ones as it was read before. -/
theorem getTlvRaw_carried (tlvs : List Tlv) {tag : UInt16} (member : tag ∈ relayedTags) :
    getTlvRaw (carried tlvs) tag = getTlvRaw tlvs tag := by
  cases found : getTlvRaw (carried tlvs) tag with
  | some tlv =>
    have among := (mem_carried_iff tlvs tlv).mp (List.mem_of_find?_eq_some found)
    rw [getTlvRaw_tag found] at among
    exact among.2.symm
  | none =>
    cases before : getTlvRaw tlvs tag with
    | none => rfl
    | some tlv =>
      have same := getTlvRaw_tag before
      have kept : tlv ∈ carried tlvs := by
        rw [mem_carried_iff, same]
        exact ⟨member, before⟩
      have unmatched := List.find?_eq_none.mp found tlv kept
      exact absurd (beq_iff_eq.mpr same) unmatched

theorem carried_distinct (tlvs : List Tlv) : ((carried tlvs).map Tlv.tag).Nodup := by
  have tags : (carried tlvs).map Tlv.tag =
      relayedTags.filter fun tag => (getTlvRaw tlvs tag).isSome := by
    rw [carried]
    induction relayedTags with
    | nil => rfl
    | cons tag rest inductionHypothesis =>
      cases found : getTlvRaw tlvs tag with
      | none => simp [found, inductionHypothesis]
      | some tlv => simp [found, inductionHypothesis, getTlvRaw_tag found]
  rw [tags]
  exact List.Nodup.filter _ (by decide)

theorem messagePayloadTag_notMem (tlvs : List Tlv) :
    messagePayloadTag ∉ (carried tlvs).map Tlv.tag := by
  intro member
  obtain ⟨tlv, among, same⟩ := List.mem_map.mp member
  have relayed := ((mem_carried_iff tlvs tlv).mp among).1
  rw [same] at relayed
  exact absurd relayed (by decide)

theorem messagePayload_carried (tlvs : List Tlv) : messagePayload (carried tlvs) = none := by
  rw [messagePayload, Option.map_eq_none_iff, getTlvRaw, List.find?_eq_none]
  intro tlv member same
  exact messagePayloadTag_notMem tlvs (List.mem_map.mpr ⟨tlv, member, eq_of_beq same⟩)

theorem carried_append (tlvs : List Tlv) (body : List UInt8) :
    carried (tlvs ++ [⟨messagePayloadTag, body⟩]) = carried tlvs := by
  refine List.filterMap_congr fun tag member => ?_
  have other : getTlvRaw [⟨messagePayloadTag, body⟩] tag = none := by
    rw [getTlvRaw, List.find?_eq_none]
    intro tlv last same
    rw [List.mem_singleton.mp last] at same
    have tagged : messagePayloadTag = tag := eq_of_beq same
    exact absurd (tagged ▸ member : messagePayloadTag ∈ relayedTags) (by decide)
  rw [getTlvRaw] at other
  rw [getTlvRaw, List.find?_append, other, Option.or_none]
  rfl

theorem carried_carried (tlvs : List Tlv) : carried (carried tlvs) = carried tlvs :=
  List.filterMap_congr fun _ member => getTlvRaw_carried tlvs member

theorem placedBody_length (pdu : Pdu) : (placedBody pdu).length ≤ shortMessageMax := by
  rw [placedBody, isLong]
  split
  · exact Nat.zero_le _
  · rename_i short
    simpa using short

/-- What a hop keeps of a message for the one after it. -/
structure Kept (pdu next : Pdu) : Prop where
  body : next.body = pdu.body
  parameters : carried next.tlvs = carried pdu.tlvs

/-- A message in the form of a hop has the body and the parameters it was made of. -/
theorem kept_of_placed {pdu next : Pdu} (shortMessage : next.shortMessage = placedBody pdu)
    (tlvs : next.tlvs = placedTlvs pdu) : Kept pdu next := by
  refine ⟨?_, ?_⟩
  · rw [Pdu.body_eq_getD, shortMessage, tlvs, placedBody, placedTlvs]
    split
    · rw [messagePayload_append _ _ (messagePayload_carried pdu.tlvs)]
      rfl
    · rw [messagePayload_carried]
      rfl
  · rw [tlvs, placedTlvs]
    split
    · rw [carried_append, carried_carried]
    · exact carried_carried pdu.tlvs

theorem kept_of_folded {pdu next : Pdu} (shortMessage : next.shortMessage = [])
    (tlvs : next.tlvs = foldedTlvs pdu) : Kept pdu next := by
  refine ⟨?_, ?_⟩
  · rw [Pdu.body_eq_getD, shortMessage, tlvs, foldedTlvs]
    split
    · rename_i empty
      rw [messagePayload_carried]
      exact empty.symm
    · rw [messagePayload_append _ _ (messagePayload_carried pdu.tlvs)]
      rfl
  · rw [tlvs, foldedTlvs]
    split
    · exact carried_carried pdu.tlvs
    · rw [carried_append, carried_carried]

theorem Kept.placedBody_eq {pdu next : Pdu} (kept : Kept pdu next) :
    placedBody next = placedBody pdu := by
  rw [placedBody, kept.body]
  rfl

theorem Kept.placedTlvs_eq {pdu next : Pdu} (kept : Kept pdu next) :
    placedTlvs next = placedTlvs pdu := by
  rw [placedTlvs, kept.body, kept.parameters]
  rfl

theorem Kept.foldedTlvs_eq {pdu next : Pdu} (kept : Kept pdu next) :
    foldedTlvs next = foldedTlvs pdu := by
  rw [foldedTlvs, kept.body, kept.parameters]
  rfl

/-- Nothing but the carried parameters and the body is in the form of a hop. -/
theorem mem_placedTlvs {pdu : Pdu} {tlv : Tlv} (member : tlv ∈ placedTlvs pdu) :
    tlv ∈ carried pdu.tlvs ∨ tlv = ⟨messagePayloadTag, pdu.body⟩ := by
  rw [placedTlvs] at member
  split at member
  · simpa using member
  · exact Or.inl member

theorem mem_foldedTlvs {pdu : Pdu} {tlv : Tlv} (member : tlv ∈ foldedTlvs pdu) :
    tlv ∈ carried pdu.tlvs ∨ tlv = ⟨messagePayloadTag, pdu.body⟩ := by
  rw [foldedTlvs] at member
  split at member
  · exact Or.inl member
  · simpa using member

/-! ### What the script builds -/

section Building

variable [Smpp34]

/-- A name of the specification resolves to its tag. -/
theorem tagFromPy_of_spec (names : Smpp34.tagNames = specTagNames) {name : String} {tag : UInt16}
    (known : (specTagNames.find? fun entry => entry.1.toList ==
      stripPrefixOrSelf "TLV_".toList ((trim name.toList).map Char.toUpper)).map Prod.snd =
        some tag) :
    tagFromPy (strKey name) = .ok tag := by
  have resolved : tagFromName name = some tag := by
    simp only [tagFromName, names]
    exact known
  rw [strKey, tagFromPy, bind_eq_ok_iff]
  refine ⟨name, ?_, ?_⟩
  · rw [toCow_pyStr, String.ofList_toList]
  · rw [resolved]
    rfl

theorem relayedTags_resolve (names : Smpp34.tagNames = specTagNames) :
    List.Forall₂ (fun name tag => tagFromPy (strKey name) = .ok tag) relayedTlvs relayedTags := by
  rw [List.forall₂_iff_zip]
  refine ⟨rfl, fun {name tag} member => ?_⟩
  have known : ∀ pair ∈ relayedTlvs.zip relayedTags, (specTagNames.find? fun entry =>
      entry.1.toList == stripPrefixOrSelf "TLV_".toList ((trim pair.1.toList).map Char.toUpper)).map
        Prod.snd = some pair.2 := by
    decide +kernel
  exact tagFromPy_of_spec names (known (name, tag) member)

/-- The loop carries the parameters there are, each under its name. -/
theorem carryTlvs_spec (pdu : Pdu) {names : List String} {tags : List UInt16}
    (resolve : List.Forall₂ (fun name tag => tagFromPy (strKey name) = .ok tag) names tags)
    (distinct : names.Nodup) (dict : PyDict)
    (fresh : ∀ name ∈ names, strKey name ∉ dict.items.map Prod.fst) :
    ∃ filled added, carryTlvs pdu names dict = .ok filled ∧ filled.items = dict.items ++ added ∧
      List.Forall₂ Encodes added (tags.filterMap (getTlvRaw pdu.tlvs)) ∧
      ∀ item ∈ added, ∃ name ∈ names, item.1 = strKey name := by
  induction resolve generalizing dict with
  | nil => exact ⟨dict, [], rfl, (List.append_nil _).symm, .nil, List.forall_mem_nil _⟩
  | @cons name tag names tags resolved _ inductionHypothesis =>
    obtain ⟨notLater, distinctRest⟩ := List.nodup_cons.mp distinct
    have read : pdu.tlv (strKey name) =
        .ok ((getTlvRaw pdu.tlvs tag).map fun tlv => .bytes tlv.value) := by
      rw [Pdu.tlv, resolved]
      rfl
    cases found : getTlvRaw pdu.tlvs tag with
    | none =>
      obtain ⟨filled, added, done, items, encodes, keys⟩ := inductionHypothesis distinctRest dict
        fun other member => fresh other (List.mem_cons_of_mem _ member)
      refine ⟨filled, added, ?_, items, ?_, fun item member => ?_⟩
      · rw [carryTlvs, read, found]
        exact done
      · rw [List.filterMap_cons_none found]
        exact encodes
      · obtain ⟨other, among, same⟩ := keys item member
        exact ⟨other, List.mem_cons_of_mem _ among, same⟩
    | some tlv =>
      have set : (dict.setItem (strKey name) (.bytes tlv.value)).items =
          dict.items ++ [(strKey name, .bytes tlv.value)] :=
        OrderedDict.setEntry_of_notMem _ _ _ (fresh name List.mem_cons_self)
      obtain ⟨filled, added, done, items, encodes, keys⟩ := inductionHypothesis distinctRest
        (dict.setItem (strKey name) (.bytes tlv.value)) fun other member => by
          rw [set, List.map_append, List.mem_append, not_or]
          refine ⟨fresh other (List.mem_cons_of_mem _ member), fun same => ?_⟩
          rw [List.map_singleton, List.mem_singleton, strKey_inj] at same
          exact notLater (same ▸ member)
      refine ⟨filled, (strKey name, .bytes tlv.value) :: added, ?_, ?_, ?_, fun item member => ?_⟩
      · rw [carryTlvs, read, found]
        exact done
      · rw [items, set, List.append_assoc, List.singleton_append]
      · rw [List.filterMap_cons_some found]
        refine .cons ⟨?_, rfl⟩ encodes
        rw [getTlvRaw_tag found]
        exact resolved
      · rcases List.mem_cons.mp member with rfl | later
        · exact ⟨name, List.mem_cons_self, rfl⟩
        · obtain ⟨other, among, same⟩ := keys item later
          exact ⟨other, List.mem_cons_of_mem _ among, same⟩

/-- What the script builds for the next hop converts to the form of a hop. -/
theorem relayKwargs_spec (names : Smpp34.tagNames = specTagNames) (pdu : Pdu) :
    ∃ kwargs, relayKwargs pdu = .ok kwargs ∧ kwargs.1 = placedBody pdu ∧
      tlvsFromPy (some kwargs.2) = .ok (placedTlvs pdu) := by
  obtain ⟨filled, added, done, items, encodes, keys⟩ := carryTlvs_spec pdu
    (relayedTags_resolve names) (by decide +kernel) OrderedDict.empty fun _ _ => List.not_mem_nil
  have whole : filled.items = added := items
  rw [relayKwargs, done, placedBody, placedTlvs, isLong]
  by_cases long : pdu.body.length > shortMessageMax
  · have key : strKey "MESSAGE_PAYLOAD" ∉ filled.items.map Prod.fst := by
      rw [whole]
      intro member
      obtain ⟨item, among, same⟩ := List.mem_map.mp member
      obtain ⟨name, listed, named⟩ := keys item among
      rw [named, strKey_inj] at same
      exact absurd (same ▸ listed : "MESSAGE_PAYLOAD" ∈ relayedTlvs) (by decide +kernel)
    have set : (filled.setItem (strKey "MESSAGE_PAYLOAD") (.bytes pdu.body)).items =
        added ++ [(strKey "MESSAGE_PAYLOAD", .bytes pdu.body)] :=
      whole ▸ OrderedDict.setEntry_of_notMem _ _ _ key
    refine ⟨([], filled.setItem (strKey "MESSAGE_PAYLOAD") (.bytes pdu.body)), ?_, ?_, ?_⟩
    · exact if_pos long
    · simp [long]
    · rw [if_pos (decide_eq_true long), tlvsFromPy_eq_ok_iff, set]
      have resolved : tagFromPy (strKey "MESSAGE_PAYLOAD") = .ok messagePayloadTag :=
        tagFromPy_of_spec names (by decide +kernel)
      refine ⟨List.rel_append encodes (.cons ⟨resolved, rfl⟩ .nil), ?_⟩
      rw [List.map_append, List.map_singleton, ← List.concat_eq_append, List.nodup_concat]
      exact ⟨messagePayloadTag_notMem pdu.tlvs, carried_distinct pdu.tlvs⟩
  · refine ⟨(pdu.body, filled), ?_, ?_, ?_⟩
    · exact if_neg long
    · simp [long]
    · rw [if_neg (by simpa using long), tlvsFromPy_eq_ok_iff, whole]
      exact ⟨encodes, carried_distinct pdu.tlvs⟩

end Building

/-! ### Chains of gateways -/

/-- What a gateway relays: the messages of its clients, and the replies of its upstreams. -/
inductive Relayable where
  | submitSm (request : SubmitSm)
  | deliverSm (request : DeliverSm)
  | dataSm (request : DataSm)
  deriving DecidableEq, Repr

/-- The `Pdu` the next gateway makes of a message. -/
def Relayable.pdu : Relayable → Pdu
  | .submitSm request => Pdu.fromSubmit request
  | .deliverSm request => Pdu.fromDeliver request
  | .dataSm request => Pdu.fromData request

/-- A gateway on the way: its sessions, the bind or the session it sends on to, and what its cache
remembers of the message a receipt is about. -/
structure Hop where
  state : State
  target : String
  correlation : Option Correlation

/-- A receipt, as `on_deliver` tells it from a reply. -/
def Relayable.isReceipt : Relayable → Bool
  | .deliverSm request => (Pdu.fromDeliver request).isDlr
  | _ => false

/-- What the next gateway decodes of a message. -/
def Relayable.arrive (wire : Wire) : Relayable → Option Relayable
  | .submitSm request => (wire.submitSm request).map .submitSm
  | .deliverSm request => (wire.deliverSm request).map .deliverSm
  | .dataSm request => (wire.dataSm request).map .dataSm

/-- The target of a hop can be sent to. -/
def Relayable.Resolves (message : Relayable) (hop : Hop) : Prop :=
  match message with
  | .deliverSm _ => ∃ esme responseTimer,
      esmeHandle hop.state hop.target = .ok (esme, responseTimer) ∧ esme.value.canReceive = true
  | _ => ∃ found, bindHandle hop.state hop.target = .ok found

/-- What a message that is no receipt is after a hop. A reply loses the type and the plan of its
destination, which `_route_mo_reply` does not pass on. -/
def Relayable.relayed : Relayable → Relayable
  | .submitSm request => .submitSm
    { serviceType := ""
      sourceAddrTon := request.sourceAddrTon
      sourceAddrNpi := request.sourceAddrNpi
      sourceAddr := request.sourceAddr
      destAddrTon := request.destAddrTon
      destAddrNpi := request.destAddrNpi
      destinationAddr := request.destinationAddr
      esmClass := request.esmClass
      protocolId := 0
      priorityFlag := 0
      scheduleDeliveryTime := ""
      validityPeriod := ""
      registeredDelivery := request.registeredDelivery
      replaceIfPresentFlag := 0
      dataCoding := request.dataCoding
      smDefaultMsgId := 0
      shortMessage := placedBody (Pdu.fromSubmit request)
      tlvs := placedTlvs (Pdu.fromSubmit request) }
  | .deliverSm request => .deliverSm
    { serviceType := ""
      sourceAddrTon := request.sourceAddrTon
      sourceAddrNpi := request.sourceAddrNpi
      sourceAddr := request.sourceAddr
      destAddrTon := 1
      destAddrNpi := 1
      destinationAddr := request.destinationAddr
      esmClass := request.esmClass
      protocolId := 0
      priorityFlag := 0
      scheduleDeliveryTime := ""
      validityPeriod := ""
      registeredDelivery := 0
      replaceIfPresentFlag := 0
      dataCoding := request.dataCoding
      smDefaultMsgId := 0
      shortMessage := placedBody (Pdu.fromDeliver request)
      tlvs := placedTlvs (Pdu.fromDeliver request) }
  | .dataSm request => .dataSm
    { serviceType := ""
      sourceAddrTon := request.sourceAddrTon
      sourceAddrNpi := request.sourceAddrNpi
      sourceAddr := request.sourceAddr
      destAddrTon := request.destAddrTon
      destAddrNpi := request.destAddrNpi
      destinationAddr := request.destinationAddr
      esmClass := request.esmClass
      registeredDelivery := request.registeredDelivery
      dataCoding := request.dataCoding
      tlvs := foldedTlvs (Pdu.fromData request) }

/-- A hop keeps the body and the carried parameters. -/
theorem Relayable.relayed_kept (message : Relayable) : Kept message.pdu message.relayed.pdu := by
  cases message with
  | submitSm request => exact kept_of_placed rfl rfl
  | deliverSm request => exact kept_of_placed rfl rfl
  | dataSm request => exact kept_of_folded rfl rfl

/-- The form of a hop is left as it is by the next one. -/
theorem Relayable.relayed_relayed (message : Relayable) :
    message.relayed.relayed = message.relayed := by
  have kept := message.relayed_kept
  cases message with
  | submitSm request =>
    have body : placedBody (Pdu.fromSubmit _) = placedBody (Pdu.fromSubmit request) :=
      kept.placedBody_eq
    have tlvs : placedTlvs (Pdu.fromSubmit _) = placedTlvs (Pdu.fromSubmit request) :=
      kept.placedTlvs_eq
    simp only [Relayable.relayed] at body tlvs ⊢
    rw [body, tlvs]
  | deliverSm request =>
    have body : placedBody (Pdu.fromDeliver _) = placedBody (Pdu.fromDeliver request) :=
      kept.placedBody_eq
    have tlvs : placedTlvs (Pdu.fromDeliver _) = placedTlvs (Pdu.fromDeliver request) :=
      kept.placedTlvs_eq
    simp only [Relayable.relayed] at body tlvs ⊢
    rw [body, tlvs]
  | dataSm request =>
    have tlvs : foldedTlvs (Pdu.fromData _) = foldedTlvs (Pdu.fromData request) :=
      kept.foldedTlvs_eq
    simp only [Relayable.relayed] at tlvs ⊢
    rw [tlvs]

theorem Relayable.resolves_relayed (message : Relayable) (hop : Hop) :
    message.relayed.Resolves hop ↔ message.Resolves hop := by
  cases message with
  | submitSm request => exact Iff.rfl
  | deliverSm request => exact Iff.rfl
  | dataSm request => exact Iff.rfl

theorem Relayable.isReceipt_relayed (message : Relayable) :
    message.relayed.isReceipt = message.isReceipt := by
  cases message with
  | submitSm request => rfl
  | deliverSm request => rfl
  | dataSm request => rfl

/-- The type and the plan of a destination: a reply has the default ones after a hop. -/
def Relayable.destinationKind : Relayable → UInt8 × UInt8
  | .submitSm request => (request.destAddrTon, request.destAddrNpi)
  | .deliverSm _ => (1, 1)
  | .dataSm request => (request.destAddrTon, request.destAddrNpi)

/-- What a hop leaves alone beside the body and the parameters, and what it lets through. Of the
destination of a reply it leaves the address alone. -/
structure Relayable.SameMessage (message next : Relayable) : Prop where
  kept : Kept message.pdu next.pdu
  source : next.pdu.sourceAddr = message.pdu.sourceAddr ∧
    next.pdu.sourceAddrTon = message.pdu.sourceAddrTon ∧
    next.pdu.sourceAddrNpi = message.pdu.sourceAddrNpi
  destination : next.pdu.destinationAddr = message.pdu.destinationAddr ∧
    (next.pdu.destAddrTon, next.pdu.destAddrNpi) = message.destinationKind
  coding : next.pdu.esmClass = message.pdu.esmClass ∧ next.pdu.dataCoding = message.pdu.dataCoding
  only : ∀ tlv ∈ next.pdu.tlvs, tlv ∈ carried message.pdu.tlvs ∨
    tlv = ⟨messagePayloadTag, message.pdu.body⟩

theorem Relayable.relayed_sameMessage (message : Relayable) :
    message.SameMessage message.relayed := by
  have kept := message.relayed_kept
  cases message with
  | submitSm request =>
    exact ⟨kept, ⟨rfl, rfl, rfl⟩, ⟨rfl, rfl⟩, ⟨rfl, rfl⟩, fun _ member => mem_placedTlvs member⟩
  | deliverSm request =>
    exact ⟨kept, ⟨rfl, rfl, rfl⟩, ⟨rfl, rfl⟩, ⟨rfl, rfl⟩, fun _ member => mem_placedTlvs member⟩
  | dataSm request =>
    exact ⟨kept, ⟨rfl, rfl, rfl⟩, ⟨rfl, rfl⟩, ⟨rfl, rfl⟩, fun _ member => mem_foldedTlvs member⟩

section Chains

variable [Smpp34] (python : Interpreter) (codec : ReceiptCodec)

/-- One hop: what `on_submit`, `on_deliver` and `on_data` hand to the next session, if anything. A
receipt is written anew for the session that the message came from. -/
def Relayable.relay (message : Relayable) (hop : Hop) : Except PyErr (Option Relayable) :=
  match message with
  | .submitSm request => do
    let kwargs ← relayKwargs (Pdu.fromSubmit request)
    return some (.submitSm (← (← submitVia (some hop.state)
      (submitArgs hop.target (Pdu.fromSubmit request) kwargs)) hop.state).request)
  | .deliverSm request =>
    if (Pdu.fromDeliver request).isDlr then
      match (Pdu.fromDeliver request).receipt codec, hop.correlation with
      | .ok parsed, some correlation => do
        return some (.deliverSm (← (← deliverTo (some hop.state)
          (receiptArgs python correlation (parsed.getD OrderedDict.empty))) hop.state).request)
      | _, _ => return none
    else do
      let kwargs ← relayKwargs (Pdu.fromDeliver request)
      return some (.deliverSm (← (← deliverTo (some hop.state)
        (replyArgs hop.target (Pdu.fromDeliver request) kwargs)) hop.state).request)
  | .dataSm request => do
    let kwargs ← relayKwargs (Pdu.fromData request)
    return some (.dataSm (← (← dataVia (some hop.state)
      (dataArgs hop.target (Pdu.fromData request) kwargs)) hop.state).request)

/-- A hop to a session that is bound never fails, for a message that is no receipt. -/
theorem Relayable.relay_eq (names : Smpp34.tagNames = specTagNames) (message : Relayable)
    (hop : Hop) (plain : message.isReceipt = false) (resolves : message.Resolves hop) :
    message.relay python codec hop = .ok (some message.relayed) := by
  obtain ⟨⟨body, tlvs⟩, built, placed, converted⟩ := relayKwargs_spec names message.pdu
  dsimp only at placed converted
  subst placed
  have short := placedBody_length message.pdu
  cases message with
  | submitSm request =>
    obtain ⟨found, resolved⟩ := resolves
    have called := (submitVia_eq_ok_iff (some hop.state)
      (submitArgs hop.target (Pdu.fromSubmit request) (placedBody _, tlvs)) _).mpr
        ⟨rfl, short, _, converted, rfl⟩
    have built : relayKwargs (Pdu.fromSubmit request) = _ := built
    rw [Relayable.relay, built]
    exact (awaited_eq_ok_iff _ hop.state (some ∘ Relayable.submitSm) _).mpr
      ⟨_, called, _, pacedOnBind_of_resolved _ hop.state hop.target found resolved, rfl⟩
  | deliverSm request =>
    obtain ⟨esme, responseTimer, resolved, receives⟩ := resolves
    have called := (deliverTo_eq_ok_iff (some hop.state)
      (replyArgs hop.target (Pdu.fromDeliver request) (placedBody _, tlvs)) _).mpr
        ⟨rfl, short, _, converted, rfl⟩
    have built : relayKwargs (Pdu.fromDeliver request) = _ := built
    have plain : (Pdu.fromDeliver request).isDlr = false := plain
    rw [Relayable.relay, plain, if_neg Bool.false_ne_true, built]
    exact (awaited_eq_ok_iff _ hop.state (some ∘ Relayable.deliverSm) _).mpr ⟨_, called, _,
      onReceiver_of_resolved _ hop.state hop.target "deliver_sm" esme responseTimer resolved
        receives, rfl⟩
  | dataSm request =>
    obtain ⟨found, resolved⟩ := resolves
    have folded : foldMessagePayload "data_sm" (placedBody (Pdu.fromData request))
        (placedTlvs (Pdu.fromData request)) = .ok (foldedTlvs (Pdu.fromData request)) := by
      rw [foldMessagePayload_eq_ok_iff, placedBody, placedTlvs, foldedTlvs]
      by_cases empty : (Pdu.fromData request).body = []
      · rw [empty, if_pos rfl]
        exact Or.inl ⟨rfl, rfl⟩
      · rw [if_neg empty]
        split
        · exact Or.inl ⟨rfl, rfl⟩
        · exact Or.inr ⟨empty, messagePayload_carried _, rfl⟩
    have called := (dataVia_eq_ok_iff (some hop.state)
      (dataArgs hop.target (Pdu.fromData request) (placedBody _, tlvs)) _).mpr
        ⟨rfl, _, converted, _, (buildDataSm_eq_ok_iff _ _ _ _ _ _ _ _ _ _ _ _ _).mpr
          ⟨_, folded, rfl⟩, rfl⟩
    have built : relayKwargs (Pdu.fromData request) = _ := built
    rw [Relayable.relay, built]
    exact (awaited_eq_ok_iff _ hop.state (some ∘ Relayable.dataSm) _).mpr
      ⟨_, called, _, pacedOnBind_of_resolved _ hop.state hop.target found resolved, rfl⟩

/-- A message on its way through a chain of gateways, and what the last of them sends on. Nothing
comes of a message that a gateway keeps or the next one cannot decode. -/
def Relayable.through (wire : Wire) : Relayable → List Hop → Except PyErr (Option Relayable)
  | message, [] => .ok (some message)
  | message, hop :: rest => do
    match (← message.relay python codec hop).bind (Relayable.arrive wire) with
    | none => return none
    | some arrived => arrived.through wire rest

/-- A carried parameter reads the same before and after. -/
theorem Kept.tlv_eq (names : Smpp34.tagNames = specTagNames) {pdu next : Pdu}
    (kept : Kept pdu next) {name : String} (member : name ∈ relayedTlvs) :
    next.tlv (strKey name) = pdu.tlv (strKey name) := by
  have known : ∀ name ∈ relayedTlvs, ∃ tag ∈ relayedTags, (specTagNames.find? fun entry =>
      entry.1.toList == stripPrefixOrSelf "TLV_".toList ((trim name.toList).map Char.toUpper)).map
        Prod.snd = some tag := by
    decide +kernel
  obtain ⟨tag, listed, found⟩ := known name member
  have same : getTlvRaw next.tlvs tag = getTlvRaw pdu.tlvs tag := by
    rw [← getTlvRaw_carried next.tlvs listed, kept.parameters, getTlvRaw_carried pdu.tlvs listed]
  rw [Pdu.tlv, Pdu.tlv, tagFromPy_of_spec names found]
  show Except.ok ((getTlvRaw next.tlvs tag).map _) = Except.ok ((getTlvRaw pdu.tlvs tag).map _)
  rw [same]

/-- One gateway of a chain that can send the message on, over a wire that carries it. -/
theorem Relayable.through_cons (names : Smpp34.tagNames = specTagNames) {wire : Wire}
    {message : Relayable} {hop : Hop} (plain : message.isReceipt = false)
    (resolves : message.Resolves hop)
    (carried : message.relayed.arrive wire = some message.relayed) (rest : List Hop) :
    message.through python codec wire (hop :: rest) =
      message.relayed.through python codec wire rest := by
  rw [Relayable.through, message.relay_eq python codec names hop plain resolves]
  dsimp only [bind, Except.bind, Option.bind]
  rw [carried]

/-- A chain of gateways, each of which can send the message on, delivers a message that is no
receipt, where the codec carries it in the form it has after the first hop: with its body, its
addresses, a reply's under the default type and plan, and its carried parameters, which read as
they did, and with no other parameter. All gateways after the first leave it as it is. -/
theorem chain_carries_message (names : Smpp34.tagNames = specTagNames) (wire : Wire)
    (message : Relayable) (plain : message.isReceipt = false)
    (carried : message.relayed.arrive wire = some message.relayed) (first : Hop) (rest : List Hop)
    (resolves : ∀ hop ∈ first :: rest, message.Resolves hop) :
    message.through python codec wire (first :: rest) = .ok (some message.relayed) ∧
    message.SameMessage message.relayed ∧
    ∀ name ∈ relayedTlvs,
      message.relayed.pdu.tlv (strKey name) = message.pdu.tlv (strKey name) := by
  refine ⟨?_, message.relayed_sameMessage, fun name member => ?_⟩
  · have later : ∀ chain, (∀ hop ∈ chain, message.Resolves hop) →
        message.relayed.through python codec wire chain = .ok (some message.relayed) := by
      intro chain reachable
      induction chain with
      | nil => rfl
      | cons hop chain inductionHypothesis =>
        obtain ⟨here, beyond⟩ := List.forall_mem_cons.mp reachable
        rw [Relayable.through_cons python codec names (message.isReceipt_relayed.trans plain)
          ((message.resolves_relayed hop).mpr here) (by rwa [message.relayed_relayed]),
          message.relayed_relayed]
        exact inductionHypothesis beyond
    obtain ⟨here, beyond⟩ := List.forall_mem_cons.mp resolves
    rw [Relayable.through_cons python codec names plain here carried]
    exact later rest beyond
  · exact message.relayed_kept.tlv_eq names member

end Chains

/-- A segment of a long message with a body that does not fit `short_message`. -/
def sampleSegment : Relayable :=
  .submitSm ⟨"CMT", 5, 0, "shop", 1, 1, "15550101", 0, 0, 1, "", "", 1, 0, 0, 0, [],
    [⟨0x0424, List.replicate 300 0x61⟩, ⟨0x1400, [0x01]⟩, ⟨0x020F, [0x02]⟩, ⟨0x020C, [0x00, 0x2A]⟩]⟩

theorem chain_carries_message_twice :
    let := storingCodec
    sampleSegment.through plainPython specReceiptCodec Wire.plain
        [⟨boundState, "smsc", none⟩, ⟨boundState, "smsc", none⟩] =
      .ok (some (.submitSm ⟨"", 5, 0, "shop", 1, 1, "15550101", 0, 0, 0, "", "", 1, 0, 0, 0, [],
        [⟨0x020C, [0x00, 0x2A]⟩, ⟨0x020F, [0x02]⟩, ⟨0x0424, List.replicate 300 0x61⟩]⟩)) := by
  intro
  have resolves : ∀ hop ∈ [(⟨boundState, "smsc", none⟩ : Hop), ⟨boundState, "smsc", none⟩],
      sampleSegment.Resolves hop := by
    intro hop member
    have same : hop = ⟨boundState, "smsc", none⟩ := by simpa using member
    subst same
    exact ⟨_, rfl⟩
  have carries := (chain_carries_message plainPython specReceiptCodec rfl Wire.plain sampleSegment
    rfl rfl ⟨boundState, "smsc", none⟩ [⟨boundState, "smsc", none⟩] resolves).1
  rw [carries]
  decide +kernel

end SiphonSmpp.Gateway
