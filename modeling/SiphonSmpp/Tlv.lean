/-
This file models the conversion between the script's `tlvs={...}` dictionaries
and the codec's list of optional parameters (`src/tlv.rs`), and proves that
the two convert into each other without loss.

A key resolves to a tag by name -- in any letter case, with or without the
`TLV_` prefix, surrounding whitespace ignored -- or as a raw 16-bit integer, so
several keys can mean one tag. The conversion therefore rejects a tag it has
already put out. Its specification is one relation between an item and a
parameter, `Encodes`: the conversion succeeds with a list exactly when the items
and the list are related element by element and no tag repeats.
-/

import Mathlib.Algebra.Ring.Int.Defs
import Mathlib.Algebra.Ring.Nat
import Mathlib.Data.List.Forall2
import Mathlib.Data.Set.List
import SiphonSmpp.Lib.OrderedDict
import SiphonSmpp.Smpp34
import SiphonSmpp.Text

namespace SiphonSmpp

/-! ### Python keys and values -/

/-- A dictionary key. A `bool` key is the integer Python takes it for. -/
inductive PyKey where
  | str (name : PyStr)
  | int (raw : Int)
  | other (typeName : String) (identity : Nat)
  deriving DecidableEq, Repr

/-- A dictionary value. -/
inductive PyObject where
  | bytes (octets : List UInt8)
  | bytearray (octets : List UInt8)
  | str (text : PyStr)
  | int (value : Int)
  | bool (value : Bool)
  | other (typeName : String)
  deriving DecidableEq, Repr

abbrev PyDict := OrderedDict PyKey PyObject

section Conversion

variable [Smpp34]

/-! ### Tags -/

/-- Integer-typed optional parameters and their width in octets (`INT_WIDTHS`). -/
def intWidths : List (TlvTag × Nat) :=
  [(.destAddrSubunit, 1), (.destNetworkType, 1), (.destBearerType, 1), (.destTelematicsId, 2),
   (.sourceAddrSubunit, 1), (.sourceNetworkType, 1), (.sourceBearerType, 1),
   (.sourceTelematicsId, 1), (.qosTimeToLive, 4), (.payloadType, 1), (.msMsgWaitFacilities, 1),
   (.privacyIndicator, 1), (.userMessageReference, 2), (.userResponseCode, 1),
   (.sourcePort, 2), (.destinationPort, 2), (.sarMsgRefNum, 2), (.languageIndicator, 1),
   (.sarTotalSegments, 1), (.sarSegmentSeqnum, 1), (.scInterfaceVersion, 1),
   (.callbackNumPresInd, 1), (.numberOfMessages, 1), (.dpfResult, 1), (.setDpf, 1),
   (.msAvailabilityStatus, 1), (.deliveryFailureReason, 1), (.moreMessagesToSend, 1),
   (.messageStateTlv, 1), (.ussdServiceOp, 1), (.displayTime, 1), (.smsSignal, 2),
   (.msValidity, 1), (.itsReplyType, 1)]

/-- The width of an integer-typed tag. -/
def intWidth (tag : UInt16) : Option Nat :=
  (intWidths.find? fun entry => Smpp34.tagCode entry.1 == tag).map Prod.snd

/-- The tag of a name, in any letter case and with an optional `TLV_` in front. -/
def tagFromName (name : String) : Option UInt16 :=
  let wanted := stripPrefixOrSelf "TLV_".toList ((trim name.toList).map Char.toUpper)
  (Smpp34.tagNames.find? fun entry => entry.1.toList == wanted).map Prod.snd

def nameForTag (tag : UInt16) : Option String :=
  (Smpp34.tagNames.find? fun entry => entry.2 == tag).map Prod.fst

/-- A tag as the error messages name it. -/
def describeTag (tag : UInt16) : String :=
  match nameForTag tag with
  | some name => name ++ " (0x" ++ hexText 4 tag.toNat ++ ")"
  | none => "0x" ++ hexText 4 tag.toNat

/-- The tag a dictionary key resolves to. An integer is read as an `i64` first. -/
def tagFromPy : PyKey → Except PyErr UInt16
  | .str name => do
    let name ← name.toCow
    match tagFromName name with
    | some tag => return tag
    | none => throw ⟨.valueError, "unknown TLV name " ++ debugText name ++
        " — use an SMPP 3.4 optional-parameter name (e.g. \"MESSAGE_PAYLOAD\") or a raw " ++
        "integer tag for a vendor-specific parameter"⟩
  | .int raw =>
    if -2 ^ 63 ≤ raw ∧ raw < 2 ^ 63 then
      if 0 ≤ raw ∧ raw < 2 ^ 16 then .ok (UInt16.ofNat raw.toNat)
      else .error ⟨.valueError, "TLV tag " ++ toString raw ++
        " out of range — a tag is a 16-bit unsigned integer"⟩
    else .error ⟨.overflowError, "Python int too large to convert to C long"⟩
  | .other typeName _ =>
    .error ⟨.typeError, "TLV key must be a name or an integer tag, got " ++ typeName⟩

/-! ### Values -/

/-- `u64::to_be_bytes`. -/
def toBeBytes (raw : Nat) : List UInt8 :=
  [56, 48, 40, 32, 24, 16, 8, 0].map fun shift => UInt8.ofNat (raw >>> shift)

/-- The integer branch of `value_to_bytes`: the value is read as a `u64` and encoded
big-endian at the width of its tag. -/
def intToBytes (tag : UInt16) (value : Int) : Except PyErr (List UInt8) :=
  if 0 ≤ value ∧ value < 2 ^ 64 then
    let raw := value.toNat
    match intWidth tag with
    | none => .error ⟨.valueError, "TLV " ++ describeTag tag ++
        " is not an integer-typed optional parameter — pass bytes (or a str for a " ++
        "C-octet-string parameter) so the encoding is explicit"⟩
    | some width =>
      let max := if 8 ≤ width then 2 ^ 64 - 1 else (1 <<< (width * 8)) - 1
      if max < raw then
        .error ⟨.valueError, "TLV " ++ describeTag tag ++ " value " ++ toString raw ++
          " does not fit in its " ++ toString width ++ "-octet spec width"⟩
      else .ok ((toBeBytes raw).drop (8 - width))
  else
    .error ⟨.valueError, "TLV " ++ describeTag tag ++ " value must be a non-negative integer"⟩

/-- The octets of a dictionary value: `bytes` as they are, a `str` with a closing NUL, an
integer at the width of its tag. -/
def valueToBytes (tag : UInt16) : PyObject → Except PyErr (List UInt8)
  | .bytes octets => .ok octets
  | .bytearray octets => .ok octets
  | .str text => do
    let text ← text.toCow
    return text.toUTF8.data.toList ++ [0x00]
  | .int value => intToBytes tag value
  | .bool value => intToBytes tag (if value then 1 else 0)
  | .other typeName => .error ⟨.typeError, "TLV " ++ describeTag tag ++
      " value must be bytes, str or int, got " ++ typeName⟩

/-! ### Dictionaries -/

/-- The loop of `tlvs_from_py`, with the parameters put out so far. -/
def tlvsFromItems (out : List Tlv) : List (PyKey × PyObject) → Except PyErr (List Tlv)
  | [] => .ok out
  | item :: rest => do
    let tag ← tagFromPy item.1
    if out.any fun tlv => tlv.tag == tag then
      throw ⟨.valueError, "TLV " ++ describeTag tag ++ " given twice"⟩
    let value ← valueToBytes tag item.2
    tlvsFromItems (out ++ [⟨tag, value⟩]) rest

def tlvsFromPy : Option PyDict → Except PyErr (List Tlv)
  | none => .ok []
  | some dict => tlvsFromItems [] dict.items

/-- The key under which a parameter is surfaced to a script. -/
def tagKey (tag : UInt16) : PyKey := .int tag.toNat

def tlvsToPy (tlvs : List Tlv) : PyDict :=
  tlvs.foldl (fun dict tlv => dict.setItem (tagKey tlv.tag) (.bytes tlv.value)) OrderedDict.empty

/-! ### The conversion, item by item -/

/-- A dictionary item means a parameter: its key resolves to the tag, and its value encodes
to the octets for that tag. -/
def Encodes (item : PyKey × PyObject) (tlv : Tlv) : Prop :=
  tagFromPy item.1 = .ok tlv.tag ∧ valueToBytes tlv.tag item.2 = .ok tlv.value

/-- One pass of the loop goes on exactly with a parameter the item means and whose tag is
not out yet. -/
theorem tlvsFromItems_cons (out : List Tlv) (item : PyKey × PyObject)
    (rest : List (PyKey × PyObject)) (result : List Tlv) :
    tlvsFromItems out (item :: rest) = .ok result ↔
      ∃ tlv, Encodes item tlv ∧ tlv.tag ∉ out.map Tlv.tag ∧
        tlvsFromItems (out ++ [tlv]) rest = .ok result := by
  have seen : ∀ tag, (out.any fun tlv => tlv.tag == tag) = true ↔ tag ∈ out.map Tlv.tag := by
    intro tag
    simp only [List.any_eq_true, beq_iff_eq, List.mem_map]
  simp only [tlvsFromItems, bind_eq_ok_iff, ite_throw_eq_ok_iff, seen]
  constructor
  · rintro ⟨tag, resolved, fresh, value, encoded, done⟩
    exact ⟨⟨tag, value⟩, ⟨resolved, encoded⟩, fresh, done⟩
  · rintro ⟨⟨tag, value⟩, ⟨resolved, encoded⟩, fresh, done⟩
    exact ⟨tag, resolved, fresh, value, encoded, done⟩

/-- The loop ends with a list exactly when it appends one parameter per item, in order, and
no tag repeats. -/
theorem tlvsFromItems_eq_ok_iff (items : List (PyKey × PyObject)) (out result : List Tlv)
    (distinct : (out.map Tlv.tag).Nodup) :
    tlvsFromItems out items = .ok result ↔
      ∃ added, result = out ++ added ∧ List.Forall₂ Encodes items added ∧
        ((out ++ added).map Tlv.tag).Nodup := by
  induction items generalizing out with
  | nil =>
    constructor
    · intro done
      cases done
      exact ⟨[], by simp, List.Forall₂.nil, by simpa using distinct⟩
    · rintro ⟨added, rfl, related, _⟩
      cases related
      simp [tlvsFromItems]
  | cons item rest inductionHypothesis =>
    rw [tlvsFromItems_cons]
    constructor
    · rintro ⟨tlv, encodes, fresh, done⟩
      have longer : ((out ++ [tlv]).map Tlv.tag).Nodup := by
        rw [List.map_append, List.nodup_append]
        refine ⟨distinct, List.nodup_singleton _, ?_⟩
        intro tag member other last same
        rw [List.map_singleton, List.mem_singleton] at last
        exact fresh (last ▸ same ▸ member)
      obtain ⟨added, rfl, related, nodup⟩ := (inductionHypothesis _ longer).mp done
      refine ⟨tlv :: added, by simp, List.Forall₂.cons encodes related, ?_⟩
      simpa using nodup
    · rintro ⟨added, rfl, related, nodup⟩
      cases related with
      | @cons _ tlv _ tail encodes relatedTail =>
        have split : ((out ++ [tlv]).map Tlv.tag).Nodup ∧
            ((out ++ [tlv] ++ tail).map Tlv.tag).Nodup := by
          have whole : ((out ++ [tlv] ++ tail).map Tlv.tag).Nodup := by simpa using nodup
          refine ⟨?_, whole⟩
          rw [List.map_append] at whole
          exact (List.nodup_append.mp whole).1
        refine ⟨tlv, encodes, ?_, (inductionHypothesis _ split.1).mpr ⟨tail, by simp, relatedTail,
          split.2⟩⟩
        have disjoint := split.1
        rw [List.map_append, List.nodup_append] at disjoint
        intro member
        exact disjoint.2.2 tlv.tag member tlv.tag (by simp) rfl

/-- `tlvs_from_py` yields a list exactly when the list means the dictionary item by item
and no tag repeats. -/
theorem tlvsFromPy_eq_ok_iff (dict : PyDict) (tlvs : List Tlv) :
    tlvsFromPy (some dict) = .ok tlvs ↔
      List.Forall₂ Encodes dict.items tlvs ∧ (tlvs.map Tlv.tag).Nodup := by
  show tlvsFromItems [] dict.items = .ok tlvs ↔ _
  rw [tlvsFromItems_eq_ok_iff dict.items [] tlvs List.nodup_nil]
  constructor
  · rintro ⟨added, rfl, related, nodup⟩
    exact ⟨by simpa using related, by simpa using nodup⟩
  · rintro ⟨related, nodup⟩
    exact ⟨tlvs, by simp, related, by simpa using nodup⟩

/-- The items of a `tlvs=` argument. -/
def dictItems : Option PyDict → List (PyKey × PyObject)
  | none => []
  | some dict => dict.items

/-- An item means one parameter. -/
theorem Encodes.unique {item : PyKey × PyObject} {first second : Tlv}
    (encodesFirst : Encodes item first) (encodesSecond : Encodes item second) : first = second := by
  obtain ⟨firstTag, firstValue⟩ := first
  obtain ⟨secondTag, secondValue⟩ := second
  have sameTag : firstTag = secondTag :=
    Except.ok.inj (encodesFirst.1.symm.trans encodesSecond.1)
  subst sameTag
  have sameValue : firstValue = secondValue :=
    Except.ok.inj (encodesFirst.2.symm.trans encodesSecond.2)
  rw [sameValue]

theorem mem_iff_exists_encodes {items : List (PyKey × PyObject)} {tlvs : List Tlv}
    (related : List.Forall₂ Encodes items tlvs) (tlv : Tlv) :
    tlv ∈ tlvs ↔ ∃ item ∈ items, Encodes item tlv := by
  induction related with
  | nil => simp
  | @cons item head items rest encodes _ inductionHypothesis =>
    have first : tlv = head ↔ Encodes item tlv :=
      ⟨fun same => same ▸ encodes, fun other => other.unique encodes⟩
    rw [List.mem_cons, inductionHypothesis, first]
    simp only [List.mem_cons, exists_eq_or_imp]

theorem exists_encodes_of_mem {items : List (PyKey × PyObject)} {tlvs : List Tlv}
    (related : List.Forall₂ Encodes items tlvs) (item : PyKey × PyObject) (member : item ∈ items) :
    ∃ tlv, Encodes item tlv := by
  induction related with
  | nil => cases member
  | @cons head tlv items rest encodes _ inductionHypothesis =>
    rcases List.mem_cons.mp member with same | later
    · exact ⟨tlv, same ▸ encodes⟩
    · exact inductionHypothesis later

/-- The parameters of a converted `tlvs=` argument: those its items mean, one for each tag, and
every item means one. -/
structure Converted (items : List (PyKey × PyObject)) (tlvs : List Tlv) : Prop where
  distinct : (tlvs.map Tlv.tag).Nodup
  mem_iff : ∀ tlv, tlv ∈ tlvs ↔ ∃ item ∈ items, Encodes item tlv
  encodes : ∀ item ∈ items, ∃ tlv, Encodes item tlv

theorem converted_of_tlvsFromPy (dict : Option PyDict) (tlvs : List Tlv)
    (done : tlvsFromPy dict = .ok tlvs) : Converted (dictItems dict) tlvs := by
  cases dict with
  | none =>
    cases done
    exact ⟨List.nodup_nil, fun tlv => by simp [dictItems], fun item member => nomatch member⟩
  | some dict =>
    obtain ⟨related, distinct⟩ := (tlvsFromPy_eq_ok_iff dict tlvs).mp done
    exact ⟨distinct, mem_iff_exists_encodes related, exists_encodes_of_mem related⟩

/-! ### The dictionary a script reads -/

omit [Smpp34] in
theorem tagKey_injective : Function.Injective tagKey := by
  intro first second same
  injection same with sameNumber
  exact UInt16.toNat_inj.mp (Int.ofNat.inj sameNumber)

/-- A raw tag resolves to itself. -/
theorem tagFromPy_tagKey (tag : UInt16) : tagFromPy (tagKey tag) = .ok tag := by
  have small : tag.toNat < 2 ^ 16 := tag.toNat_lt
  have word : -2 ^ 63 ≤ (tag.toNat : Int) ∧ (tag.toNat : Int) < 2 ^ 63 := by omega
  have half : 0 ≤ (tag.toNat : Int) ∧ (tag.toNat : Int) < 2 ^ 16 := by omega
  rw [tagKey, tagFromPy, if_pos word, if_pos half, Int.toNat_natCast, UInt16.ofNat_toNat]

/-- The entry a parameter is surfaced as means that parameter. -/
theorem encodes_surfaced (tlv : Tlv) : Encodes (tagKey tlv.tag, .bytes tlv.value) tlv :=
  ⟨tagFromPy_tagKey tlv.tag, rfl⟩

omit [Smpp34] in
/-- With distinct tags the dictionary enumerates the parameters in their order. -/
theorem tlvsToPy_items (tlvs : List Tlv) (distinct : (tlvs.map Tlv.tag).Nodup) :
    (tlvsToPy tlvs).items = tlvs.map fun tlv => (tagKey tlv.tag, .bytes tlv.value) := by
  have keys : (tlvs.map fun tlv => tagKey tlv.tag).Nodup := by
    have mapped := distinct.map tagKey_injective
    rwa [List.map_map] at mapped
  rw [tlvsToPy, OrderedDict.items_foldl_setItem (fun tlv : Tlv => tagKey tlv.tag)
    (fun tlv => PyObject.bytes tlv.value) tlvs OrderedDict.empty keys (fun _ _ => List.not_mem_nil)]
  rfl

omit [Smpp34] in
/-- With distinct tags the dictionary maps each tag to its octets and nothing else. -/
theorem tlvsToPy_get? (tlvs : List Tlv) (distinct : (tlvs.map Tlv.tag).Nodup) (key : PyKey)
    (object : PyObject) :
    (tlvsToPy tlvs).get? key = some object ↔
      ∃ tlv ∈ tlvs, key = tagKey tlv.tag ∧ object = .bytes tlv.value := by
  rw [← OrderedDict.mem_items_iff, tlvsToPy_items tlvs distinct, List.mem_map]
  refine exists_congr fun tlv => and_congr_right fun _ => ?_
  rw [Prod.mk.injEq, eq_comm, @eq_comm _ object]

/-- A list with distinct tags comes back from the dictionary it is surfaced as. -/
theorem tlvsFromPy_tlvsToPy (tlvs : List Tlv) (distinct : (tlvs.map Tlv.tag).Nodup) :
    tlvsFromPy (some (tlvsToPy tlvs)) = .ok tlvs := by
  rw [tlvsFromPy_eq_ok_iff, tlvsToPy_items tlvs distinct, List.forall₂_map_left_iff]
  exact ⟨List.forall₂_same.mpr fun tlv _ => encodes_surfaced tlv, distinct⟩

omit [Smpp34] in
/-- Every item of the dictionary surfaces a parameter of the list. -/
theorem tlvsToPy_surfaced (tlvs : List Tlv) (item : PyKey × PyObject)
    (member : item ∈ (tlvsToPy tlvs).items) :
    ∃ tlv : Tlv, (tagKey tlv.tag, .bytes tlv.value) = item := by
  have present := (OrderedDict.mem_items_iff (tlvsToPy tlvs) item.1 item.2).mp member
  rcases OrderedDict.get?_foldl_setItem (fun tlv : Tlv => tagKey tlv.tag)
    (fun tlv => PyObject.bytes tlv.value) tlvs OrderedDict.empty item.1 item.2 present with
    before | ⟨tlv, _, sameKey, sameValue⟩
  · cases before
  · exact ⟨tlv, Prod.ext sameKey sameValue⟩

/-- Whatever a list repeats, the dictionary it is surfaced as converts. -/
theorem tlvsFromPy_tlvsToPy_succeeds (tlvs : List Tlv) :
    ∃ converted, tlvsFromPy (some (tlvsToPy tlvs)) = .ok converted := by
  have surfaced : (tlvsToPy tlvs).items ∈
      Set.range (List.map fun tlv : Tlv => (tagKey tlv.tag, PyObject.bytes tlv.value)) := by
    rw [Set.range_list_map]
    exact tlvsToPy_surfaced tlvs
  obtain ⟨kept, same⟩ := surfaced
  have keys := (tlvsToPy tlvs).distinct
  rw [← same, List.map_map] at keys
  refine ⟨kept, (tlvsFromPy_eq_ok_iff _ _).mpr ⟨?_, ?_⟩⟩
  · rw [← same, List.forall₂_map_left_iff]
    exact List.forall₂_same.mpr fun tlv _ => encodes_surfaced tlv
  · refine List.Nodup.of_map tagKey ?_
    rw [List.map_map]
    exact keys

/-! ### Success of the conversion -/

/-- Tags that resolve and values that encode are the parameters of the dictionary. -/
theorem exists_encodes_of_tags (items : List (PyKey × PyObject)) (tags : List UInt16)
    (resolve : List.Forall₂ (fun item tag => tagFromPy item.1 = .ok tag) items tags)
    (encode : List.Forall₂ (fun item tag => ∃ value, valueToBytes tag item.2 = .ok value)
      items tags) :
    ∃ tlvs : List Tlv, tlvs.map Tlv.tag = tags ∧ List.Forall₂ Encodes items tlvs := by
  induction resolve with
  | nil => exact ⟨[], rfl, List.Forall₂.nil⟩
  | @cons item tag _ _ resolved _ inductionHypothesis =>
    rw [List.forall₂_cons] at encode
    obtain ⟨⟨value, encoded⟩, encodeRest⟩ := encode
    obtain ⟨tlvs, sameTags, related⟩ := inductionHypothesis encodeRest
    exact ⟨⟨tag, value⟩ :: tlvs, by rw [List.map_cons, sameTags],
      List.Forall₂.cons ⟨resolved, encoded⟩ related⟩

/-- `tlvs_from_py` succeeds exactly when every key resolves, the tags are pairwise distinct
and every value encodes for its tag. -/
theorem tlvsFromPy_succeeds_iff (dict : PyDict) :
    (∃ tlvs, tlvsFromPy (some dict) = .ok tlvs) ↔
      ∃ tags : List UInt16,
        List.Forall₂ (fun item tag => tagFromPy item.1 = .ok tag) dict.items tags ∧
        tags.Nodup ∧
        List.Forall₂ (fun item tag => ∃ value, valueToBytes tag item.2 = .ok value)
          dict.items tags := by
  constructor
  · rintro ⟨tlvs, done⟩
    obtain ⟨related, distinct⟩ := (tlvsFromPy_eq_ok_iff dict tlvs).mp done
    refine ⟨tlvs.map Tlv.tag, ?_, distinct, ?_⟩
    · rw [List.forall₂_map_right_iff]
      exact related.imp fun _ _ encodes => encodes.1
    · rw [List.forall₂_map_right_iff]
      exact related.imp fun _ tlv encodes => ⟨tlv.value, encodes.2⟩
  · rintro ⟨tags, resolve, distinct, encode⟩
    obtain ⟨tlvs, sameTags, related⟩ := exists_encodes_of_tags dict.items tags resolve encode
    exact ⟨tlvs, (tlvsFromPy_eq_ok_iff dict tlvs).mpr ⟨related, sameTags ▸ distinct⟩⟩

/-- The script's dictionary and the codec's list convert into each other without loss. -/
theorem tlvs_convert_without_loss :
    (∀ dict : PyDict,
      ((∃ tlvs, tlvsFromPy (some dict) = .ok tlvs) ↔
        ∃ tags : List UInt16,
          List.Forall₂ (fun item tag => tagFromPy item.1 = .ok tag) dict.items tags ∧
          tags.Nodup ∧
          List.Forall₂ (fun item tag => ∃ value, valueToBytes tag item.2 = .ok value)
            dict.items tags) ∧
      ∀ tlvs, tlvsFromPy (some dict) = .ok tlvs →
        List.Forall₂ Encodes dict.items tlvs ∧
        ∀ key object, (tlvsToPy tlvs).get? key = some object ↔
          ∃ tlv ∈ tlvs, key = tagKey tlv.tag ∧ object = .bytes tlv.value) ∧
    ∀ tlvs : List Tlv, (tlvs.map Tlv.tag).Nodup → tlvsFromPy (some (tlvsToPy tlvs)) = .ok tlvs := by
  refine ⟨fun dict => ⟨tlvsFromPy_succeeds_iff dict, fun tlvs done => ?_⟩, tlvsFromPy_tlvsToPy⟩
  obtain ⟨related, distinct⟩ := (tlvsFromPy_eq_ok_iff dict tlvs).mp done
  exact ⟨related, tlvsToPy_get? tlvs distinct⟩

end Conversion

/-- A `message_payload` next to a vendor-specific parameter, out to a script and back. -/
theorem tlvs_convert_without_loss_storing :
    letI := storingCodec
    tlvsFromPy (some (tlvsToPy [⟨0x0424, [0x68, 0x69]⟩, ⟨0x1400, [0x01]⟩])) =
      .ok [⟨0x0424, [0x68, 0x69]⟩, ⟨0x1400, [0x01]⟩] :=
  letI := storingCodec
  tlvs_convert_without_loss.2 _ (by decide)

end SiphonSmpp
