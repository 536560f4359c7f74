/-
This file models the parser of delivery-receipt bodies (`Receipt` in
`src/pyclasses.rs`). The body is read as text, every canonical key is looked for
in a lower-cased copy, and the octet offsets found there cut the text into
fields.

`Receipt.parse_eq` is what the rest of the development uses of it. The keys form
a family of markers, so no occurrence touches another: no key is skipped, no
slice is reversed or off a character boundary, and the parser always returns.
Each field is the trimmed text from its key to the next key in the body.
-/

import Mathlib.Data.List.Sort
import SiphonSmpp.Lib.Utf8
import SiphonSmpp.Text

namespace SiphonSmpp

open Utf8

/-! ### The parser -/

inductive ReceiptField where
  | submitDate
  | doneDate
  | dlvrd
  | stat
  | text
  | sub
  | err
  | id
  deriving DecidableEq, Repr

structure Receipt where
  id : Option (List Char)
  sub : Option (List Char)
  dlvrd : Option (List Char)
  submitDate : Option (List Char)
  doneDate : Option (List Char)
  stat : Option (List Char)
  err : Option (List Char)
  text : Option (List Char)
  raw : List Char
  deriving DecidableEq, Repr

/-- The canonical keys in the order they are looked for. -/
def Receipt.keys : List (List Char × ReceiptField) :=
  [("submit date".toList, .submitDate), ("done date".toList, .doneDate), ("dlvrd".toList, .dlvrd),
   ("stat".toList, .stat), ("text".toList, .text), ("sub".toList, .sub), ("err".toList, .err),
   ("id".toList, .id)]

/-- What is looked for to find a key. -/
def Receipt.needle (key : List Char) : List Char := key ++ [':']

/-- A key found in a body: the offset and the length of its needle. -/
structure Receipt.Hit where
  pos : Nat
  keyLen : Nat
  field : ReceiptField
  deriving DecidableEq, Repr

/-- Look for one key, and skip it when its position is claimed already. -/
def Receipt.locate (hay : List Char) (hits : List Hit) (entry : List Char × ReceiptField) :
    List Hit :=
  match find (needle entry.1) hay with
  | none => hits
  | some pos =>
    if hits.any fun hit => hit.pos ≤ pos && pos < hit.pos + hit.keyLen then hits
    else hits ++ [⟨pos, byteLength (needle entry.1), entry.2⟩]

def Receipt.hits (hay : List Char) : List Hit := keys.foldl (locate hay) []

def Receipt.set (receipt : Receipt) (field : ReceiptField) (value : List Char) : Receipt :=
  match field with
  | .id => { receipt with id := some value }
  | .sub => { receipt with sub := some value }
  | .dlvrd => { receipt with dlvrd := some value }
  | .submitDate => { receipt with submitDate := some value }
  | .doneDate => { receipt with doneDate := some value }
  | .stat => { receipt with stat := some value }
  | .err => { receipt with err := some value }
  | .text => { receipt with text := some value }

def Receipt.get (receipt : Receipt) : ReceiptField → Option (List Char)
  | .id => receipt.id
  | .sub => receipt.sub
  | .dlvrd => receipt.dlvrd
  | .submitDate => receipt.submitDate
  | .doneDate => receipt.doneDate
  | .stat => receipt.stat
  | .err => receipt.err
  | .text => receipt.text

/-- Cut the fields out of the body: each value ends at the next hit. -/
def Receipt.fill (raw : List Char) : List Hit → Receipt → Except SliceError Receipt
  | [], out => .ok out
  | hit :: rest, out => do
    let valStart := hit.pos + hit.keyLen
    let valEnd := (rest.head?.map Hit.pos).getD (byteLength raw)
    let value ← slice raw valStart valEnd
    fill raw rest (out.set hit.field (trim value))

def Receipt.empty (raw : List Char) : Receipt :=
  ⟨none, none, none, none, none, none, none, none, raw⟩

/-- Parse a receipt body; an error is a panic. -/
def Receipt.parse (sm : List UInt8) : Except SliceError (Option Receipt) :=
  let raw := fromUtf8Lossy sm
  let hay := raw.map Char.toLower
  let hits := hits hay
  if hits.isEmpty then .ok none
  else do
    let out ← fill raw (hits.insertionSort fun first second => first.pos ≤ second.pos) (empty raw)
    return some out

/-! ### Fields -/

@[simp] theorem Receipt.get_set_self (receipt : Receipt) (field : ReceiptField)
    (value : List Char) : (receipt.set field value).get field = some value := by
  cases field <;> rfl

theorem Receipt.get_set_of_ne (receipt : Receipt) (field other : ReceiptField) (value : List Char)
    (different : other ≠ field) : (receipt.set field value).get other = receipt.get other := by
  cases field <;> cases other <;> first | rfl | exact absurd rfl different

@[simp] theorem Receipt.set_raw (receipt : Receipt) (field : ReceiptField) (value : List Char) :
    (receipt.set field value).raw = receipt.raw := by
  cases field <;> rfl

@[simp] theorem Receipt.get_empty (raw : List Char) (field : ReceiptField) :
    (empty raw).get field = none := by
  cases field <;> rfl

/-! ### The keys are a family of markers -/

theorem Receipt.keys_family :
    Markers.Family ':' (keys.map fun entry => needle entry.1) := by
  have plain : ∀ entry ∈ keys, ':' ∉ entry.1 := by decide
  constructor
  · intro marker member
    obtain ⟨entry, listed, rfl⟩ := List.mem_map.mp member
    exact ⟨entry.1, rfl, plain entry listed⟩
  · decide

theorem Receipt.needle_mem (entry : List Char × ReceiptField) (listed : entry ∈ keys) :
    needle entry.1 ∈ keys.map fun entry => needle entry.1 :=
  List.mem_map_of_mem listed

theorem Receipt.keys_eq_of_needle (first second : List Char × ReceiptField)
    (memberFirst : first ∈ keys) (memberSecond : second ∈ keys)
    (same : needle first.1 = needle second.1) : first = second := by
  have distinct : ∀ first ∈ keys, ∀ second ∈ keys, needle first.1 = needle second.1 →
      first = second := by
    decide
  exact distinct first memberFirst second memberSecond same

theorem Receipt.byteLength_needle (entry : List Char × ReceiptField) (listed : entry ∈ keys) :
    byteLength (needle entry.1) = (needle entry.1).length := by
  have ascii : ∀ entry ∈ keys, byteLength (needle entry.1) = (needle entry.1).length := by decide
  exact ascii entry listed

/-! ### Where the keys stand -/

/-- A key in a body, by the number of characters before it and in it. -/
structure Receipt.Mark where
  start : Nat
  size : Nat
  field : ReceiptField
  deriving DecidableEq, Repr

/-- The first occurrence of a key. -/
def Receipt.mark (raw : List Char) (entry : List Char × ReceiptField) : Option Mark :=
  (Markers.before? (needle entry.1) (raw.map Char.toLower)).map fun before =>
    ⟨before.length, (needle entry.1).length, entry.2⟩

/-- The keys of a body, in the order they are looked for. -/
def Receipt.marks (raw : List Char) : List Mark := keys.filterMap (mark raw)

/-- The keys of a body, in the order they stand there. -/
def Receipt.sortedMarks (raw : List Char) : List Mark :=
  (marks raw).insertionSort fun first second => first.start ≤ second.start

/-- A mark as the parser records it. -/
def Receipt.Mark.hit (raw : List Char) (mark : Mark) : Hit :=
  ⟨byteLength (raw.take mark.start), mark.size, mark.field⟩

/-- A mark lies in a body, with one octet for each of its characters. -/
structure Receipt.Mark.Placed (raw : List Char) (mark : Mark) : Prop where
  positive : 0 < mark.size
  inside : mark.start + mark.size ≤ raw.length
  octets : byteLength (raw.take mark.start) + mark.size =
    byteLength (raw.take (mark.start + mark.size))

section Marks

variable {raw : List Char} {entry : List Char × ReceiptField} {mark : Receipt.Mark}

/-- A mark stands where the needle of its key does. -/
theorem Receipt.mark_eq_some_iff :
    Receipt.mark raw entry = some mark ↔ ∃ before,
      Markers.before? (needle entry.1) (raw.map Char.toLower) = some before ∧
        mark = ⟨before.length, (needle entry.1).length, entry.2⟩ := by
  rw [Receipt.mark, Option.map_eq_some_iff]
  exact exists_congr fun before => and_congr_right fun _ => eq_comm

theorem Receipt.mark_placed (listed : entry ∈ keys) (found : Receipt.mark raw entry = some mark) :
    mark.Placed raw := by
  obtain ⟨before, first, rfl⟩ := mark_eq_some_iff.mp found
  have stands := (Markers.before?_eq_some_iff.mp first).1
  have inside := stands.length_le
  rw [List.length_append, List.length_map] at inside
  refine ⟨by simp [needle], inside, ?_⟩
  have upTo : (raw.take before.length).map Char.toLower = before := by
    rw [List.map_take]
    exact (List.prefix_iff_eq_take.mp ((List.prefix_append _ _).trans stands)).symm
  have past : (raw.take (before.length + (needle entry.1).length)).map Char.toLower =
      before ++ needle entry.1 := by
    rw [List.map_take, ← List.length_append]
    exact (List.prefix_iff_eq_take.mp stands).symm
  show byteLength (raw.take before.length) + (needle entry.1).length =
    byteLength (raw.take (before.length + (needle entry.1).length))
  rw [← byteLength_map_toLower (raw.take before.length), upTo,
    ← byteLength_map_toLower (raw.take (before.length + _)), past, byteLength_append,
    byteLength_needle entry listed]

/-- `find` gives the offset of the mark. -/
theorem Receipt.find_needle (raw : List Char) (entry : List Char × ReceiptField) :
    find (needle entry.1) (raw.map Char.toLower) =
      (Receipt.mark raw entry).map fun mark => byteLength (raw.take mark.start) := by
  rw [find, Receipt.mark, Option.map_map]
  refine Option.map_congr fun before first => ?_
  have stands := (Markers.before?_eq_some_iff.mp first).1
  have starts := (List.prefix_append _ _).trans stands
  show byteLength before = byteLength (raw.take before.length)
  rw [← byteLength_map_toLower (raw.take before.length), List.map_take]
  exact congrArg byteLength (List.prefix_iff_eq_take.mp starts)

/-- The marks of two keys lie apart. -/
theorem Receipt.marks_apart {other : List Char × ReceiptField} {second : Mark}
    (listed : entry ∈ keys) (listedOther : other ∈ keys) (different : entry ≠ other)
    (found : Receipt.mark raw entry = some mark)
    (foundOther : Receipt.mark raw other = some second) :
    mark.start + mark.size ≤ second.start ∨ second.start + second.size ≤ mark.start := by
  obtain ⟨before, first, rfl⟩ := mark_eq_some_iff.mp found
  obtain ⟨later, firstOther, rfl⟩ := mark_eq_some_iff.mp foundOther
  rcases keys_family.apart (needle_mem entry listed) (needle_mem other listedOther)
    (Markers.before?_eq_some_iff.mp first).1 (Markers.before?_eq_some_iff.mp firstOther).1 with
    ⟨same, _⟩ | apart
  · exact absurd (keys_eq_of_needle entry other listed listedOther same) different
  · exact apart

theorem Receipt.mem_marks_iff :
    mark ∈ marks raw ↔ ∃ entry ∈ keys, Receipt.mark raw entry = some mark :=
  List.mem_filterMap

theorem Receipt.marks_placed (member : mark ∈ marks raw) : mark.Placed raw := by
  obtain ⟨entry, listed, found⟩ := mem_marks_iff.mp member
  exact mark_placed listed found

/-- A mark apart from another one does not start inside of it. -/
theorem Receipt.Mark.unclaimed {other : Mark} (placed : mark.Placed raw)
    (placedOther : other.Placed raw)
    (apart : mark.start + mark.size ≤ other.start ∨ other.start + other.size ≤ mark.start) :
    ¬ ((other.hit raw).pos ≤ (mark.hit raw).pos ∧
      (mark.hit raw).pos < (other.hit raw).pos + (other.hit raw).keyLen) := by
  rintro ⟨notBefore, notPast⟩
  have inside := placed.inside
  have insideOther := placedOther.inside
  have positive := placed.positive
  have ordered : other.start ≤ mark.start :=
    (byteLength_take_le_iff raw other.start mark.start (by omega) (by omega)).mp notBefore
  have past : other.start + other.size ≤ mark.start := by omega
  have offsets := (byteLength_take_le_iff raw (other.start + other.size) mark.start (by omega)
    (by omega)).mpr past
  rw [← placedOther.octets] at offsets
  exact absurd notPast (not_lt.mpr offsets)

/-- A key is recorded when it is looked for after others, each apart from it. -/
theorem Receipt.locate_eq (done : List (List Char × ReceiptField)) (listed : entry ∈ keys)
    (listedDone : ∀ other ∈ done, other ∈ keys) (fresh : entry ∉ done) :
    locate (raw.map Char.toLower) ((done.filterMap (Receipt.mark raw)).map (Mark.hit raw)) entry =
      ((done ++ [entry]).filterMap (Receipt.mark raw)).map (Mark.hit raw) := by
  rw [locate, find_needle, List.filterMap_append, List.map_append]
  cases found : Receipt.mark raw entry with
  | none => simp [found]
  | some mark =>
    have placed := mark_placed listed found
    have unclaimed : ¬ ((done.filterMap (Receipt.mark raw)).map (Mark.hit raw)).any
        (fun hit => hit.pos ≤ byteLength (raw.take mark.start) &&
          byteLength (raw.take mark.start) < hit.pos + hit.keyLen) = true := by
      rw [List.any_eq_true]
      rintro ⟨hit, member, claims⟩
      obtain ⟨other, otherMember, rfl⟩ := List.mem_map.mp member
      obtain ⟨otherEntry, doneEntry, foundOther⟩ := List.mem_filterMap.mp otherMember
      have listedOther := listedDone otherEntry doneEntry
      have different : entry ≠ otherEntry := fun same => fresh (same ▸ doneEntry)
      rw [Bool.and_eq_true, decide_eq_true_iff, decide_eq_true_iff] at claims
      exact Mark.unclaimed placed (mark_placed listedOther foundOther)
        (marks_apart listed listedOther different found foundOther) claims
    show (if _ then _ else _) = _
    rw [if_neg unclaimed, byteLength_needle entry listed]
    obtain ⟨before, _, rfl⟩ := mark_eq_some_iff.mp found
    simp [found, Mark.hit]

/-- No key is skipped: the parser records the mark of every key that has one. -/
theorem Receipt.hits_eq (raw : List Char) :
    hits (raw.map Char.toLower) = (marks raw).map (Mark.hit raw) := by
  have general : ∀ todo done, done ++ todo = keys →
      todo.foldl (locate (raw.map Char.toLower))
          ((done.filterMap (Receipt.mark raw)).map (Mark.hit raw)) =
        ((done ++ todo).filterMap (Receipt.mark raw)).map (Mark.hit raw) := by
    intro todo
    induction todo with
    | nil =>
      intro done _
      rw [List.append_nil]
      rfl
    | cons entry rest inductionHypothesis =>
      intro done whole
      have distinct : (done ++ entry :: rest).Nodup := whole ▸ (by decide : keys.Nodup)
      have fresh : entry ∉ done := fun member =>
        (List.nodup_append.mp distinct).2.2 entry member entry List.mem_cons_self rfl
      have listed : entry ∈ keys := whole ▸ List.mem_append_right done List.mem_cons_self
      have listedDone : ∀ other ∈ done, other ∈ keys :=
        fun other member => whole ▸ List.mem_append_left _ member
      rw [List.foldl_cons, locate_eq done listed listedDone fresh,
        inductionHypothesis (done ++ [entry]) (by rw [List.append_assoc]; exact whole),
        List.append_assoc, List.singleton_append]
  exact general keys [] rfl

/-! ### Cutting the body -/

theorem Receipt.sortedMarks_perm (raw : List Char) : (sortedMarks raw).Perm (marks raw) :=
  List.perm_insertionSort _ _

theorem Receipt.mem_sortedMarks_iff : mark ∈ sortedMarks raw ↔ mark ∈ marks raw :=
  (sortedMarks_perm raw).mem_iff

/-- The marks stand one after the other. -/
theorem Receipt.sortedMarks_ordered (raw : List Char) :
    (sortedMarks raw).Pairwise fun first second => first.start + first.size ≤ second.start := by
  have sorted : (sortedMarks raw).Pairwise fun first second => first.start ≤ second.start := by
    have total : Std.Total fun first second : Mark => first.start ≤ second.start :=
      ⟨fun first second => Nat.le_total first.start second.start⟩
    have transitive : IsTrans Mark fun first second => first.start ≤ second.start :=
      ⟨fun _ _ _ => Nat.le_trans⟩
    exact List.pairwise_insertionSort _ (marks raw)
  have apart : (sortedMarks raw).Pairwise fun first second =>
      first.start + first.size ≤ second.start ∨ second.start + second.size ≤ first.start := by
    refine (List.Perm.pairwise_iff Or.symm (sortedMarks_perm raw)).mpr ?_
    refine List.Pairwise.filterMap _ ?_ (List.Pairwise.and_mem.mp (by decide : keys.Nodup))
    intro first second ⟨listed, listedOther, different⟩ mark found other foundOther
    exact marks_apart listed listedOther different found foundOther
  refine (sorted.and apart).imp_of_mem fun {first second} member memberOther related => ?_
  have positive := (marks_placed (mem_sortedMarks_iff.mp memberOther)).positive
  have notBefore := related.1
  have either := related.2
  omega

theorem Receipt.sortedMarks_hit (raw : List Char) :
    ((marks raw).map (Mark.hit raw)).insertionSort (fun first second => first.pos ≤ second.pos) =
      (sortedMarks raw).map (Mark.hit raw) := by
  refine (List.map_insertionSort _ _ _ _ fun first member second memberOther => ?_).symm
  have inside := (marks_placed member).inside
  have insideOther := (marks_placed memberOther).inside
  exact (byteLength_take_le_iff raw first.start second.start (by omega) (by omega)).symm

/-- The text from a mark to the next one, or to the end. -/
def Receipt.Mark.value (raw : List Char) (mark : Mark) (rest : List Mark) : List Char :=
  (raw.take ((rest.head?.map Mark.start).getD raw.length)).drop (mark.start + mark.size)

/-- The fields the marks of a body stand for. -/
def Receipt.fillMarks (raw : List Char) : List Mark → Receipt → Receipt
  | [], out => out
  | mark :: rest, out => fillMarks raw rest (out.set mark.field (trim (mark.value raw rest)))

/-- Slicing by offsets gives the text between the marks. -/
theorem Receipt.fill_eq (raw : List Char) (marks : List Mark) (out : Receipt)
    (ordered : marks.Pairwise fun first second => first.start + first.size ≤ second.start)
    (placed : ∀ mark ∈ marks, mark.Placed raw) :
    fill raw (marks.map (Mark.hit raw)) out = .ok (fillMarks raw marks out) := by
  induction marks generalizing out with
  | nil => rfl
  | cons mark rest inductionHypothesis =>
    obtain ⟨before, orderedRest⟩ := List.pairwise_cons.mp ordered
    have placedMark := placed mark List.mem_cons_self
    have cut : slice raw ((mark.hit raw).pos + (mark.hit raw).keyLen)
        (((rest.map (Mark.hit raw)).head?.map Hit.pos).getD (byteLength raw)) =
          .ok (mark.value raw rest) := by
      show slice raw (byteLength (raw.take mark.start) + mark.size) _ = _
      rw [placedMark.octets, Mark.value]
      cases rest with
      | nil =>
        show slice raw _ (byteLength raw) = .ok ((raw.take raw.length).drop _)
        have whole := slice_take raw (mark.start + mark.size) raw.length placedMark.inside
        rwa [List.take_length] at whole ⊢
      | cons next more =>
        exact slice_take raw _ next.start (before next List.mem_cons_self)
    rw [List.map_cons, fill, cut]
    exact inductionHypothesis _ orderedRest fun other member =>
      placed other (List.mem_cons_of_mem mark member)

/-- The parser always returns, and each field it sets is the trimmed text from its key to the
next key of the body. -/
theorem Receipt.parse_eq (sm : List UInt8) :
    parse sm = .ok (if marks (fromUtf8Lossy sm) = [] then none else
      some (fillMarks (fromUtf8Lossy sm) (sortedMarks (fromUtf8Lossy sm))
        (empty (fromUtf8Lossy sm)))) := by
  unfold parse
  dsimp only
  rw [hits_eq, sortedMarks_hit, fill_eq _ _ _ (sortedMarks_ordered _)
    fun mark member => marks_placed (mem_sortedMarks_iff.mp member)]
  by_cases none : marks (fromUtf8Lossy sm) = []
  · rw [if_pos none, none]
    rfl
  · rw [if_neg none, if_neg]
    · rfl
    · rwa [List.isEmpty_iff, List.map_eq_nil_iff]

end Marks

end SiphonSmpp
