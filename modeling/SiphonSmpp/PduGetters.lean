/-
This file models what a script reads off an inbound PDU beyond its plain
attributes (`src/pyclasses.rs`): one optional parameter (`pdu.tlv`), all of them
(`pdu.tlvs`) and the fields of a delivery receipt (`pdu.receipt`).

The dictionary of all parameters keeps the last one of a tag where `pdu.tlv`
finds the first, so the two agree exactly when a repeated tag repeats its value.
A receipt is merged from its text and from two optional parameters, where a key
that the text has without a value counts as given and hides the parameter.
-/

import SiphonSmpp.Pdu
import SiphonSmpp.ReceiptText

namespace SiphonSmpp

open Utf8

/-! ### One parameter and all of them -/

section Reading

variable [Smpp34]

/-- `pdu.tlv(tag)`: the octets of one optional parameter. -/
def Pdu.tlv (pdu : Pdu) (tag : PyKey) : Except PyErr (Option PyObject) := do
  let tag ← tagFromPy tag
  return (getTlvRaw pdu.tlvs tag).map fun tlv => .bytes tlv.value

/-- Both ways to read a parameter give the same for every tag, and no parameter is left out. -/
def Pdu.ReadingsAgree (pdu : Pdu) : Prop :=
  (∀ tag : UInt16, pdu.tlv (tagKey tag) = .ok (pdu.tlvsDict.get? (tagKey tag))) ∧
    ∀ tlv ∈ pdu.tlvs, (tagKey tlv.tag, PyObject.bytes tlv.value) ∈ pdu.tlvsDict.items

/-- A repeated tag repeats its value. -/
def RepeatsAgree (tlvs : List Tlv) : Prop :=
  ∀ first ∈ tlvs, ∀ second ∈ tlvs, first.tag = second.tag → first.value = second.value

theorem Pdu.tlv_tagKey (pdu : Pdu) (tag : UInt16) :
    pdu.tlv (tagKey tag) = .ok ((getTlvRaw pdu.tlvs tag).map fun tlv => .bytes tlv.value) := by
  rw [Pdu.tlv, tagFromPy_tagKey]
  rfl

omit [Smpp34] in
/-- What the dictionary has under a tag is the value of a parameter with that tag. -/
theorem tlvsToPy_of_get? (tlvs : List Tlv) (tag : UInt16) (object : PyObject)
    (present : (tlvsToPy tlvs).get? (tagKey tag) = some object) :
    ∃ tlv ∈ tlvs, tlv.tag = tag ∧ object = .bytes tlv.value := by
  rcases OrderedDict.get?_foldl_setItem (fun tlv : Tlv => tagKey tlv.tag)
    (fun tlv => PyObject.bytes tlv.value) tlvs OrderedDict.empty _ _ present with
    before | ⟨tlv, member, sameKey, sameValue⟩
  · cases before
  · exact ⟨tlv, member, tagKey_injective sameKey, sameValue.symm⟩

omit [Smpp34] in
theorem tlvsToPy_get?_of_repeatsAgree (tlvs : List Tlv) (agree : RepeatsAgree tlvs) (tlv : Tlv)
    (member : tlv ∈ tlvs) : (tlvsToPy tlvs).get? (tagKey tlv.tag) = some (.bytes tlv.value) := by
  have present : (tlvsToPy tlvs).get? (tagKey tlv.tag) ≠ none :=
    OrderedDict.get?_foldl_setItem_ne_none (fun tlv : Tlv => tagKey tlv.tag)
      (fun tlv => PyObject.bytes tlv.value) tlvs OrderedDict.empty _
      (Or.inr (List.mem_map_of_mem member))
  obtain ⟨object, found⟩ := Option.ne_none_iff_exists'.mp present
  obtain ⟨other, memberOther, sameTag, rfl⟩ := tlvsToPy_of_get? tlvs tlv.tag object found
  rw [found, agree other memberOther tlv member sameTag]

/-- The two ways to read a parameter agree exactly when a repeated tag repeats its value. -/
theorem Pdu.readings_agree_iff (pdu : Pdu) : pdu.ReadingsAgree ↔ RepeatsAgree pdu.tlvs := by
  constructor
  · rintro ⟨_, every⟩ first memberFirst second memberSecond sameTag
    have foundFirst := (OrderedDict.mem_items_iff _ _ _).mp (every first memberFirst)
    have foundSecond := (OrderedDict.mem_items_iff _ _ _).mp (every second memberSecond)
    rw [sameTag, foundSecond] at foundFirst
    exact (PyObject.bytes.inj (Option.some.inj foundFirst)).symm
  · intro agree
    refine ⟨fun tag => ?_, fun tlv member => ?_⟩
    · rw [Pdu.tlv_tagKey, Pdu.tlvsDict]
      refine congrArg Except.ok ?_
      cases found : getTlvRaw pdu.tlvs tag with
      | some tlv =>
        have member := List.mem_of_find?_eq_some found
        have sameTag : tlv.tag = tag :=
          beq_iff_eq.mp (List.find?_some (p := fun tlv : Tlv => tlv.tag == tag) found)
        rw [← sameTag, tlvsToPy_get?_of_repeatsAgree pdu.tlvs agree tlv member]
        rfl
      | none =>
        refine (Option.eq_none_iff_forall_ne_some.mpr fun object present => ?_).symm
        obtain ⟨tlv, member, sameTag, _⟩ := tlvsToPy_of_get? pdu.tlvs tag object present
        have other := List.find?_eq_none.mp found tlv member
        exact other (beq_iff_eq.mpr sameTag)
    · exact (OrderedDict.mem_items_iff _ _ _).mpr
        (tlvsToPy_get?_of_repeatsAgree pdu.tlvs agree tlv member)

end Reading

/-- A `data_sm` that repeats a vendor parameter with another value. -/
def repeatingPdu : Pdu :=
  .fromData ⟨"", 1, 1, "100", 1, 1, "200", 0, 0, 0, [⟨0x1400, [1]⟩, ⟨0x1400, [2]⟩]⟩

/-- A script that looks the parameter up gets the first value, one that reads the dictionary the
last. -/
theorem readings_of_repeated_tag :
    (@Pdu.tlv storingCodec repeatingPdu (tagKey 0x1400) = .ok (some (.bytes [1])) ∧
      repeatingPdu.tlvsDict.get? (tagKey 0x1400) = some (.bytes [2])) ∧
    ¬ @Pdu.ReadingsAgree storingCodec repeatingPdu := by
  have first : @Pdu.tlv storingCodec repeatingPdu (tagKey 0x1400) = .ok (some (.bytes [1])) := by
    rw [@Pdu.tlv_tagKey storingCodec]
    rfl
  have last : repeatingPdu.tlvsDict.get? (tagKey 0x1400) = some (.bytes [2]) := by decide
  refine ⟨⟨first, last⟩, fun agree => ?_⟩
  have same := agree.1 0x1400
  rw [first, last] at same
  exact absurd (Except.ok.inj same) (by decide)

/-! ### Delivery receipts -/

/-- The codec's readings of the two receipt parameters. The value of the first parameter with the
tag is decoded, and a value that has no reading counts as absent. -/
structure ReceiptCodec where
  receiptedMessageId : List UInt8 → Option (List Char)
  messageState : List UInt8 → Option UInt8

def receiptedMessageIdTag : UInt16 := 0x001E

def messageStateTag : UInt16 := 0x0427

/-- The `stat:` spelling of a `message_state` code. -/
def Receipt.messageStateName (state : UInt8) : Option (List Char) :=
  match state with
  | 1 => some "ENROUTE".toList
  | 2 => some "DELIVRD".toList
  | 3 => some "EXPIRED".toList
  | 4 => some "DELETED".toList
  | 5 => some "UNDELIV".toList
  | 6 => some "ACCEPTD".toList
  | 7 => some "UNKNOWN".toList
  | 8 => some "REJECTD".toList
  | _ => none

/-- A Rust string as Python sees it. -/
def pyStr (text : List Char) : PyStr := text.map PyChar.scalar

def strKey (name : String) : PyKey := .str (pyStr name.toList)

/-- The name of a field in the dictionary. -/
def ReceiptField.name : ReceiptField → String
  | .id => "id"
  | .sub => "sub"
  | .dlvrd => "dlvrd"
  | .submitDate => "submit_date"
  | .doneDate => "done_date"
  | .stat => "stat"
  | .err => "err"
  | .text => "text"

/-- The `put!` macro of `fill_dict`. -/
def putField (name : String) (value : Option (List Char)) (dict : PyDict) : PyDict :=
  match value with
  | some text => dict.setItem (strKey name) (.str (pyStr text))
  | none => dict

def Receipt.fillDict (receipt : Receipt) (dict : PyDict) : PyDict :=
  let dict := putField "id" receipt.id dict
  let dict := putField "sub" receipt.sub dict
  let dict := putField "dlvrd" receipt.dlvrd dict
  let dict := putField "submit_date" receipt.submitDate dict
  let dict := putField "done_date" receipt.doneDate dict
  let dict := putField "stat" receipt.stat dict
  let dict := putField "err" receipt.err dict
  let dict := putField "text" receipt.text dict
  dict.setItem (strKey "raw") (.str (pyStr receipt.raw))

/-- Whether the message-type bits flag a delivery receipt. -/
def Pdu.isDlr (pdu : Pdu) : Bool := pdu.esmClass &&& 0x04 != 0

section Receipts

variable (codec : ReceiptCodec) (pdu : Pdu)

/-- `TlvList::receipted_message_id`. -/
def Pdu.receiptedMessageId : Option (List Char) :=
  (getTlvRaw pdu.tlvs receiptedMessageIdTag).bind fun tlv => codec.receiptedMessageId tlv.value

/-- `TlvList::message_state`. -/
def Pdu.messageState : Option UInt8 :=
  (getTlvRaw pdu.tlvs messageStateTag).bind fun tlv => codec.messageState tlv.value

/-- Fill `id` and `stat` from the optional parameters where the text has none. -/
def Receipt.complete (parsed : Receipt) (tlvId : Option (List Char)) (tlvState : Option UInt8) :
    Receipt :=
  let parsed := if parsed.id.isNone then { parsed with id := tlvId } else parsed
  if parsed.stat.isNone then { parsed with stat := tlvState.bind Receipt.messageStateName }
  else parsed

/-- The dictionary of a receipt, with the optional parameters filled in. -/
def Receipt.merged (parsed : Receipt) (tlvId : Option (List Char)) (tlvState : Option UInt8) :
    PyDict :=
  let dict := (parsed.complete tlvId tlvState).fillDict OrderedDict.empty
  match tlvState with
  | some state => dict.setItem (strKey "message_state") (.int state.toNat)
  | none => dict

/-- `pdu.receipt`; an error is a panic of the parser. -/
def Pdu.receipt : Except SliceError (Option PyDict) :=
  if !pdu.isDlr then .ok none
  else do
    let body := (messagePayload pdu.tlvs).getD pdu.shortMessage
    let tlvId := pdu.receiptedMessageId codec
    let tlvState := pdu.messageState codec
    match ← Receipt.parse body with
    | some parsed => return some (parsed.merged tlvId tlvState)
    | none =>
      if tlvId.isSome || tlvState.isSome then
        return some ((Receipt.empty (fromUtf8Lossy body)).merged tlvId tlvState)
      else return none

/-! ### What the dictionary holds -/

omit codec pdu in
theorem get?_putField (name : String) (value : Option (List Char)) (dict : PyDict) (key : PyKey) :
    (putField name value dict).get? key =
      if key = strKey name then (value.map fun text => .str (pyStr text)).or (dict.get? key)
      else dict.get? key := by
  cases value with
  | none =>
    rw [Option.map_none, Option.none_or, ite_self]
    rfl
  | some text =>
    rw [Option.map_some, Option.some_or]
    exact OrderedDict.get?_setItem dict _ _ _

omit codec pdu in
theorem strKey_inj (first second : String) : strKey first = strKey second ↔ first = second := by
  constructor
  · intro same
    have texts : pyStr first.toList = pyStr second.toList := PyKey.str.inj same
    have scalars : Function.Injective PyChar.scalar := fun _ _ => PyChar.scalar.inj
    exact String.toList_inj.mp (scalars.list_map texts)
  · rintro rfl
    rfl

omit codec pdu in
/-- A field of a receipt is the entry of its name in the dictionary. -/
theorem Receipt.get?_fillDict (receipt : Receipt) (field : ReceiptField) :
    (receipt.fillDict OrderedDict.empty).get? (strKey field.name) =
      (receipt.get field).map fun text => .str (pyStr text) := by
  have start : ∀ key, (OrderedDict.empty : PyDict).get? key = none := fun _ => rfl
  cases field <;>
    simp [Receipt.fillDict, get?_putField, OrderedDict.get?_setItem, strKey_inj, ReceiptField.name,
      Receipt.get, start]

/-! ### The merged receipt -/

/-- What the text of the body gives for a field. -/
def Pdu.textField (field : ReceiptField) : Option (List Char) :=
  match Receipt.parse pdu.body with
  | .ok (some parsed) => parsed.get field
  | _ => none

/-- The name of the `message_state` parameter, when it is a code that has one. -/
def Pdu.stateName : Option (List Char) := (pdu.messageState codec).bind Receipt.messageStateName

/-- The texts that say something. -/
def nonempty (value : Option (List Char)) : Option (List Char) := value.filter fun text => text ≠ []

/-- The body has none of the canonical keys. -/
def Pdu.NoKey : Prop := ∀ entry ∈ Receipt.keys, ¬ Receipt.OccursIn entry.1 pdu.body

omit codec in
theorem Pdu.parse_body (pdu : Pdu) :
    ∃ parsed, Receipt.parse pdu.body = .ok parsed ∧ (parsed = none ↔ pdu.NoKey) ∧
      ∀ field, pdu.textField field = parsed.bind fun receipt => receipt.get field := by
  refine ⟨_, Receipt.parse_eq pdu.body, ?_, fun field => ?_⟩
  · have unmarked : Receipt.marks (fromUtf8Lossy pdu.body) = [] ↔ pdu.NoKey := by
      rw [Receipt.marks, List.filterMap_eq_nil_iff]
      exact forall₂_congr fun entry listed => Receipt.mark_eq_none_iff entry listed pdu.body
    rw [← unmarked]
    split
    · exact iff_of_true rfl ‹_›
    · exact iff_of_false (Option.some_ne_none _) ‹_›
  · rw [Pdu.textField, Receipt.parse_eq]
    split
    · rename_i parsed found
      rw [Except.ok.inj found]
      rfl
    · rename_i other
      split
      · rfl
      · rename_i marked
        exact absurd (by rw [if_neg marked]) (other _)

omit codec pdu in
theorem Receipt.complete_get (parsed : Receipt) (tlvId : Option (List Char))
    (tlvState : Option UInt8) :
    (parsed.complete tlvId tlvState).get .id = parsed.id.or tlvId ∧
      (parsed.complete tlvId tlvState).get .stat =
        parsed.stat.or (tlvState.bind Receipt.messageStateName) := by
  obtain ⟨id, sub, dlvrd, submitDate, doneDate, stat, err, text, raw⟩ := parsed
  cases id <;> cases stat <;> exact ⟨rfl, rfl⟩

omit codec pdu in
theorem Receipt.get?_merged (parsed : Receipt) (tlvId : Option (List Char))
    (tlvState : Option UInt8) (field : ReceiptField) :
    (parsed.merged tlvId tlvState).get? (strKey field.name) =
      ((parsed.complete tlvId tlvState).get field).map fun text => .str (pyStr text) := by
  have other : strKey field.name ≠ strKey "message_state" := by
    rw [Ne, strKey_inj]
    cases field <;> decide
  cases tlvState with
  | none => exact Receipt.get?_fillDict _ field
  | some state =>
    exact (OrderedDict.get?_setItem _ _ _ _).trans
      ((if_neg other).trans (Receipt.get?_fillDict _ field))

/-- What is merged into the dictionary: the parsed text, or an empty one when only the optional
parameters carry a receipt. -/
theorem Pdu.receipt_of_isDlr (dlr : pdu.isDlr = true) {parsed : Option Receipt}
    (read : Receipt.parse pdu.body = .ok parsed) :
    pdu.receipt codec = .ok ((parsed.or
      (if (pdu.receiptedMessageId codec).isSome || (pdu.messageState codec).isSome then
        some (Receipt.empty (fromUtf8Lossy pdu.body)) else none)).map fun parsed =>
          parsed.merged (pdu.receiptedMessageId codec) (pdu.messageState codec)) := by
  rw [Pdu.receipt, dlr, ← Pdu.body_eq_getD]
  simp only [read]
  cases parsed with
  | some receipt => rfl
  | none =>
    by_cases given : ((pdu.receiptedMessageId codec).isSome ||
        (pdu.messageState codec).isSome) = true
    · simp only [given]
      rfl
    · simp only [given]
      rfl

/-- A delivery receipt is a dictionary with the text's `id` and `stat`, or those of the optional
parameters where the text has no such key. -/
theorem Pdu.receipt_spec (dlr : pdu.isDlr = true) :
    (pdu.receipt codec = .ok none ∧ pdu.NoKey ∧ pdu.receiptedMessageId codec = none ∧
      pdu.messageState codec = none) ∨
    ∃ dict, pdu.receipt codec = .ok (some dict) ∧
      ¬ (pdu.NoKey ∧ pdu.receiptedMessageId codec = none ∧ pdu.messageState codec = none) ∧
      dict.get? (strKey "id") = ((pdu.textField .id).or (pdu.receiptedMessageId codec)).map
        (fun text => .str (pyStr text)) ∧
      dict.get? (strKey "stat") = ((pdu.textField .stat).or (pdu.stateName codec)).map
        (fun text => .str (pyStr text)) := by
  obtain ⟨parsed, read, unread, fields⟩ := pdu.parse_body
  have entries : ∀ receipt : Receipt, pdu.textField .id = receipt.id →
      pdu.textField .stat = receipt.stat →
      (receipt.merged (pdu.receiptedMessageId codec) (pdu.messageState codec)).get? (strKey "id") =
          ((pdu.textField .id).or (pdu.receiptedMessageId codec)).map
            (fun text => .str (pyStr text)) ∧
        (receipt.merged (pdu.receiptedMessageId codec) (pdu.messageState codec)).get?
            (strKey "stat") =
          ((pdu.textField .stat).or (pdu.stateName codec)).map (fun text => .str (pyStr text)) := by
    intro receipt sameId sameStat
    have completed := receipt.complete_get (pdu.receiptedMessageId codec) (pdu.messageState codec)
    refine ⟨(receipt.get?_merged _ _ .id).trans ?_, (receipt.get?_merged _ _ .stat).trans ?_⟩
    · rw [completed.1, sameId]
    · rw [completed.2, sameStat]
      rfl
  rw [pdu.receipt_of_isDlr codec dlr read]
  cases parsed with
  | some receipt =>
    obtain ⟨id, stat⟩ := entries receipt (fields .id) (fields .stat)
    refine Or.inr ⟨_, rfl, fun absent => ?_, id, stat⟩
    exact Option.some_ne_none _ (unread.mpr absent.1)
  | none =>
    rw [Option.none_or]
    split
    · rename_i given
      obtain ⟨id, stat⟩ := entries (Receipt.empty (fromUtf8Lossy pdu.body)) (fields .id)
        (fields .stat)
      refine Or.inr ⟨_, rfl, fun absent => ?_, id, stat⟩
      rw [absent.2.1, absent.2.2] at given
      cases given
    · rename_i given
      rw [Bool.or_eq_true, not_or, Option.not_isSome_iff_eq_none,
        Option.not_isSome_iff_eq_none] at given
      exact Or.inl ⟨rfl, unread.mp rfl, given⟩

/-- An entry of the receipt holds what the first of two sources that says something says. -/
def Pdu.EntryKept (name : String) (first second : Option (List Char)) : Prop :=
  ∀ text, (nonempty first).or (nonempty second) = some text →
    text ≠ [] ∧ ∃ dict, pdu.receipt codec = .ok (some dict) ∧
      dict.get? (strKey name) = some (.str (pyStr text))

/-- A receipt keeps what either source says: the `id` of the text when it has one, else that of
the optional parameter, and so for `stat`; and there is no receipt exactly when the PDU is none
or neither source has anything. -/
structure Pdu.KeepsReceipt : Prop where
  id : pdu.isDlr = true →
    pdu.EntryKept codec "id" (pdu.textField .id) (pdu.receiptedMessageId codec)
  stat : pdu.isDlr = true → pdu.EntryKept codec "stat" (pdu.textField .stat) (pdu.stateName codec)
  absent : pdu.receipt codec = .ok none ↔ pdu.isDlr = false ∨
    (pdu.NoKey ∧ pdu.receiptedMessageId codec = none ∧ pdu.messageState codec = none)

/-- No key that the text has without a value stands before a parameter with one. -/
def Pdu.NothingHidden : Prop :=
  pdu.isDlr = true →
    (pdu.textField .id = some [] → nonempty (pdu.receiptedMessageId codec) = none) ∧
    (pdu.textField .stat = some [] → pdu.stateName codec = none)

omit codec pdu in
theorem nonempty_eq_some_iff (value : Option (List Char)) (text : List Char) :
    nonempty value = some text ↔ value = some text ∧ text ≠ [] := by
  rw [nonempty, Option.filter_eq_some_iff, decide_eq_true_iff]

omit codec pdu in
theorem messageStateName_ne_nil (state : UInt8) : Receipt.messageStateName state ≠ some [] := by
  unfold Receipt.messageStateName
  split <;> exact nofun

omit codec pdu in
theorem pyStr_injective : Function.Injective pyStr :=
  Function.Injective.list_map fun _ _ => PyChar.scalar.inj

omit codec pdu in
/-- What the first of two sources gives, when an empty first source hides no second one. -/
theorem or_of_nonempty (first second : Option (List Char)) (text : List Char)
    (unhidden : first = some [] → nonempty second = none)
    (merged : (nonempty first).or (nonempty second) = some text) :
    first.or second = some text ∧ text ≠ [] := by
  rcases Option.or_eq_some_iff.mp merged with given | ⟨missing, given⟩
  · obtain ⟨rfl, visible⟩ := (nonempty_eq_some_iff _ _).mp given
    exact ⟨rfl, visible⟩
  · obtain ⟨rfl, visible⟩ := (nonempty_eq_some_iff _ _).mp given
    cases first with
    | none => exact ⟨rfl, visible⟩
    | some other =>
      have empty : other = [] := by
        by_contra said
        rw [(nonempty_eq_some_iff _ _).mpr ⟨rfl, said⟩] at missing
        cases missing
      rw [unhidden (congrArg some empty)] at given
      cases given

theorem Pdu.nonempty_stateName : nonempty (pdu.stateName codec) = pdu.stateName codec := by
  refine Option.ext fun text => ?_
  rw [nonempty_eq_some_iff]
  refine and_iff_left_of_imp fun named => ?_
  rintro rfl
  obtain ⟨state, _, empty⟩ := Option.bind_eq_some_iff.mp named
  exact messageStateName_ne_nil state empty

/-- An entry merged from two sources is kept exactly when an empty first source hides no second
one. -/
theorem Pdu.entryKept_iff (name : String) (first second : Option (List Char))
    (entry : (first.or second) ≠ none → ∃ dict, pdu.receipt codec = .ok (some dict) ∧
      dict.get? (strKey name) = (first.or second).map fun text => .str (pyStr text)) :
    pdu.EntryKept codec name first second ↔ (first = some [] → nonempty second = none) := by
  constructor
  · rintro kept rfl
    by_contra given
    obtain ⟨text, said⟩ := Option.ne_none_iff_exists'.mp given
    obtain ⟨visible, dict, returned, found⟩ := kept text said
    obtain ⟨other, same, empty⟩ := entry (Option.some_ne_none _)
    rw [returned, Except.ok.injEq, Option.some.injEq] at same
    rw [same, empty, Option.some_or, Option.map_some, Option.some.injEq,
      PyObject.str.injEq] at found
    exact visible (pyStr_injective found).symm
  · intro unhidden text merged
    obtain ⟨same, visible⟩ := or_of_nonempty first second text unhidden merged
    obtain ⟨dict, returned, found⟩ := entry (by rw [same]; exact Option.some_ne_none _)
    rw [same] at found
    exact ⟨visible, dict, returned, found⟩

omit codec in
theorem Pdu.textField_of_noKey (noKey : pdu.NoKey) (field : ReceiptField) :
    pdu.textField field = none := by
  obtain ⟨parsed, _, unread, fields⟩ := pdu.parse_body
  rw [fields, unread.mpr noKey]
  rfl

theorem Pdu.receipt_eq_none_iff : pdu.receipt codec = .ok none ↔ pdu.isDlr = false ∨
    (pdu.NoKey ∧ pdu.receiptedMessageId codec = none ∧ pdu.messageState codec = none) := by
  by_cases dlr : pdu.isDlr = true
  · rw [or_iff_right (by rw [dlr]; exact nofun)]
    rcases pdu.receipt_spec codec dlr with ⟨returned, nothing⟩ | ⟨dict, returned, something, _⟩
    · exact iff_of_true returned nothing
    · exact iff_of_false (by rw [returned]; exact nofun) something
  · rw [Bool.not_eq_true] at dlr
    refine iff_of_true ?_ (Or.inl dlr)
    rw [Pdu.receipt, dlr]
    rfl

/-- A receipt keeps what either source says exactly when no empty key hides a parameter. -/
theorem Pdu.receipt_kept_iff : pdu.KeepsReceipt codec ↔ pdu.NothingHidden codec := by
  have entries : pdu.isDlr = true →
      (pdu.EntryKept codec "id" (pdu.textField .id) (pdu.receiptedMessageId codec) ↔
        (pdu.textField .id = some [] → nonempty (pdu.receiptedMessageId codec) = none)) ∧
      (pdu.EntryKept codec "stat" (pdu.textField .stat) (pdu.stateName codec) ↔
        (pdu.textField .stat = some [] → pdu.stateName codec = none)) := by
    intro dlr
    have stat := pdu.entryKept_iff codec "stat" (pdu.textField .stat) (pdu.stateName codec)
    rw [pdu.nonempty_stateName codec] at stat
    rcases pdu.receipt_spec codec dlr with ⟨_, noKey, noId, noState⟩ |
      ⟨dict, returned, _, id, state⟩
    · have noName : pdu.stateName codec = none := by
        rw [Pdu.stateName, noState]
        rfl
      refine ⟨pdu.entryKept_iff codec _ _ _ fun given => absurd ?_ given,
        stat fun given => absurd ?_ given⟩
      · rw [pdu.textField_of_noKey noKey, noId]
        rfl
      · rw [pdu.textField_of_noKey noKey, noName]
        rfl
    · exact ⟨pdu.entryKept_iff codec _ _ _ fun _ => ⟨dict, returned, id⟩,
        stat fun _ => ⟨dict, returned, state⟩⟩
  constructor
  · intro kept dlr
    exact ⟨(entries dlr).1.mp (kept.id dlr), (entries dlr).2.mp (kept.stat dlr)⟩
  · intro unhidden
    exact ⟨fun dlr => (entries dlr).1.mpr (unhidden dlr).1,
      fun dlr => (entries dlr).2.mpr (unhidden dlr).2, pdu.receipt_eq_none_iff codec⟩

end Receipts

/-- The readings of the specification: a C-octet string without its final NUL, if it is UTF-8, and
one octet. -/
def specReceiptCodec : ReceiptCodec where
  receiptedMessageId octets :=
    let text := if octets.getLast? = some 0 then octets.dropLast else octets
    if utf8Octets (fromUtf8Lossy text) = text then some (fromUtf8Lossy text) else none
  messageState octets :=
    match octets with
    | [state] => some state
    | _ => none

/-- A receipt whose text has an `id` key without a value, next to the parameter that has it. -/
def emptyIdPdu : Pdu :=
  .fromDeliver ⟨"", 1, 1, "100", 1, 1, "200", 0x04, 0, 0, "", "", 0, 0, 0, 0,
    asciiOctets "id: stat:DELIVRD".toList, [⟨0x001E, asciiOctets "0a1b2\x00".toList⟩]⟩

/-- The id of the parameter is lost: the dictionary has an empty one. -/
theorem receipt_id_hidden :
    (emptyIdPdu.receiptedMessageId specReceiptCodec = some "0a1b2".toList ∧
      ∃ dict, emptyIdPdu.receipt specReceiptCodec = .ok (some dict) ∧
        dict.get? (strKey "id") = some (.str [])) ∧
    ¬ emptyIdPdu.KeepsReceipt specReceiptCodec := by
  have dlr : emptyIdPdu.isDlr = true := by decide
  have text : emptyIdPdu.textField .id = some [] := by decide +kernel
  have parameter : emptyIdPdu.receiptedMessageId specReceiptCodec = some "0a1b2".toList := by
    decide +kernel
  rcases emptyIdPdu.receipt_spec specReceiptCodec dlr with ⟨_, _, noId, _⟩ |
    ⟨dict, returned, _, id, _⟩
  · rw [parameter] at noId
    cases noId
  · rw [text] at id
    refine ⟨⟨parameter, dict, returned, id⟩, fun kept => ?_⟩
    obtain ⟨_, other, same, found⟩ := kept.id dlr "0a1b2".toList (by rw [text, parameter]; rfl)
    rw [returned, Except.ok.injEq, Option.some.injEq] at same
    rw [← same, id] at found
    cases found

end SiphonSmpp
