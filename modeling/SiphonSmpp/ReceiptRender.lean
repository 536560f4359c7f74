/-
This file says that the receipt parser undoes writing a receipt. A body is
written as keys with their values, in any order and letter case, with blank
text in between. A value without a colon hides no key, so the keys are found
where they were written and each value is read back. A final `text` may be
anything once every other key was written before it: the first occurrence of
each key is the written one.
-/

import Mathlib.Data.List.TakeWhile
import SiphonSmpp.ReceiptText

namespace SiphonSmpp

open Utf8

/-! ### Trimming a value -/

/-- A value without blank characters around it. -/
structure Tight (value : List Char) : Prop where
  first : ∀ character ∈ value.head?, isWhitespace character = false
  last : ∀ character ∈ value.getLast?, isWhitespace character = false

theorem tight_iff (value : List Char) :
    (value.head?.all (!isWhitespace ·) && value.getLast?.all (!isWhitespace ·)) = true ↔
      Tight value := by
  rw [Bool.and_eq_true, Option.all_eq_true, Option.all_eq_true]
  simp only [Bool.not_eq_true']
  exact ⟨fun both => ⟨both.1, both.2⟩, fun tight => ⟨tight.first, tight.last⟩⟩

instance (value : List Char) : Decidable (Tight value) := decidable_of_iff _ (tight_iff value)

theorem dropWhile_eq_self_of_head? (text : List Char)
    (visible : ∀ character ∈ text.head?, isWhitespace character = false) :
    text.dropWhile isWhitespace = text := by
  cases text with
  | nil => rfl
  | cons character rest =>
    have starts := visible character rfl
    exact List.dropWhile_cons_of_neg (by rw [starts]; exact Bool.false_ne_true)

theorem trim_of_tight {value : List Char} (tight : Tight value) : trim value = value := by
  rw [trim, dropWhile_eq_self_of_head? value tight.first,
    dropWhile_eq_self_of_head? value.reverse, List.reverse_reverse]
  intro character last
  rw [List.head?_reverse] at last
  exact tight.last character last

/-- Blank text after a value is trimmed away. -/
theorem trim_append_blank (value : List Char) {blank : List Char}
    (blanks : ∀ character ∈ blank, isWhitespace character = true) :
    trim (value ++ blank) = trim value := by
  have backwards : ∀ character ∈ blank.reverse, isWhitespace character = true :=
    fun character member => blanks character (List.mem_reverse.mp member)
  rw [trim, trim, List.dropWhile_append]
  split
  · rename_i empty
    have allBlank : blank.dropWhile isWhitespace = [] := by
      rw [List.dropWhile_eq_nil_iff]
      exact blanks
    rw [List.isEmpty_iff.mp empty, allBlank]
  · rw [List.reverse_append, List.dropWhile_append_of_pos backwards]

namespace Receipt

/-! ### Writing a body -/

/-- A key of a body as it is written, in any ASCII letter case, with its value. -/
structure Written where
  entry : List Char × ReceiptField
  spelling : List Char
  value : List Char
  listed : entry ∈ keys
  spelled : spelling.map Char.toLower = entry.1

def Written.field (written : Written) : ReceiptField := written.entry.2

def Written.text (written : Written) : List Char := needle written.spelling ++ written.value

/-- A value that ends where it is written to end. -/
structure Written.Plain (written : Written) : Prop where
  noColon : ':' ∉ written.value
  tight : Tight written.value

instance (written : Written) : Decidable written.Plain :=
  decidable_of_iff (':' ∉ written.value ∧ Tight written.value)
    ⟨fun both => ⟨both.1, both.2⟩, fun plain => ⟨plain.noColon, plain.tight⟩⟩

/-- The blank text between two fields. -/
structure Gap where
  text : List Char
  blank : ∀ character ∈ text, isWhitespace character = true
  nonempty : text ≠ []

/-- A body: fields with a gap after each, and a last field. -/
def render (front : List (Written × Gap)) (last : Written) : List Char :=
  (front.flatMap fun pair => pair.1.text ++ pair.2.text) ++ last.text

/-- The fields of a body. -/
def written (front : List (Written × Gap)) (last : Written) : List Written :=
  front.map Prod.fst ++ [last]

/-! ### A body as markers and what follows them -/

/-- A written field with the blank text after it. -/
structure Stretch extends Written where
  blank : List Char
  blanks : ∀ character ∈ blank, isWhitespace character = true

def Stretch.after (stretch : Stretch) : List Char := stretch.value ++ stretch.blank

def Stretch.text (stretch : Stretch) : List Char := needle stretch.spelling ++ stretch.after

def stretches (front : List (Written × Gap)) (last : Written) : List Stretch :=
  front.map (fun pair => ⟨pair.1, pair.2.text, pair.2.blank⟩) ++ [⟨last, [], nofun⟩]

theorem render_eq (front : List (Written × Gap)) (last : Written) :
    render front last = (stretches front last).flatMap Stretch.text := by
  have fields : (front.flatMap fun pair => pair.1.text ++ pair.2.text) =
      (front.map fun pair => (⟨pair.1, pair.2.text, pair.2.blank⟩ : Stretch)).flatMap
        Stretch.text := by
    rw [List.flatMap_map]
    refine congrArg (fun text => front.flatMap text) (funext fun pair => ?_)
    show needle pair.1.spelling ++ pair.1.value ++ pair.2.text = _
    rw [List.append_assoc]
    rfl
  have final : last.text = [(⟨last, [], nofun⟩ : Stretch)].flatMap Stretch.text := by
    rw [List.flatMap_singleton]
    show needle last.spelling ++ last.value = needle last.spelling ++ (last.value ++ [])
    rw [List.append_nil]
  rw [render, stretches, List.flatMap_append, fields, final]

/-- A stretch in lower case, cut after its key. -/
def Stretch.piece (stretch : Stretch) : List Char × List Char :=
  (needle stretch.entry.1, stretch.after.map Char.toLower)

theorem Stretch.lowered (stretch : Stretch) :
    stretch.text.map Char.toLower = stretch.piece.1 ++ stretch.piece.2 := by
  have key : (needle stretch.spelling).map Char.toLower = needle stretch.entry.1 := by
    rw [needle, List.map_append, stretch.spelled]
    rfl
  rw [Stretch.text, List.map_append, key]
  rfl

theorem lowered_stretches (fields : List Stretch) :
    (fields.flatMap Stretch.text).map Char.toLower =
      Markers.assemble [] (fields.map Stretch.piece) := by
  rw [Markers.assemble_eq_flatMap, List.nil_append, List.map_flatMap, List.flatMap_map]
  exact congrArg (fun text => fields.flatMap text) (funext Stretch.lowered)

/-- A field found where it is written. -/
def Stretch.mark (stretch : Stretch) (offset : Nat) : Mark :=
  ⟨offset, (needle stretch.entry.1).length, stretch.field⟩

/-- The marks of a body that is written from an offset on. -/
def layout : Nat → List Stretch → List Mark
  | _, [] => []
  | offset, stretch :: rest => stretch.mark offset :: layout (offset + stretch.text.length) rest

theorem layout_append (offset : Nat) (front rest : List Stretch) :
    layout offset (front ++ rest) =
      layout offset front ++ layout (offset + (front.flatMap Stretch.text).length) rest := by
  induction front generalizing offset with
  | nil => rfl
  | cons stretch more inductionHypothesis =>
    rw [List.cons_append, layout, inductionHypothesis, layout, List.cons_append,
      List.flatMap_cons, List.length_append, Nat.add_assoc]

theorem Stretch.length_text (stretch : Stretch) :
    stretch.text.length = (needle stretch.entry.1).length + stretch.after.length := by
  have same := congrArg List.length stretch.spelled
  rw [List.length_map] at same
  rw [Stretch.text, List.length_append, needle, needle, List.length_append, List.length_append,
    same]

theorem layout_fields (offset : Nat) (fields : List Stretch) :
    (layout offset fields).map Mark.field = fields.map fun stretch => stretch.field := by
  induction fields generalizing offset with
  | nil => rfl
  | cons stretch rest inductionHypothesis =>
    rw [layout, List.map_cons, List.map_cons, inductionHypothesis]
    rfl

/-- The marks are laid out one after the other. -/
theorem layout_ordered (offset : Nat) (fields : List Stretch) :
    (∀ mark ∈ layout offset fields, offset ≤ mark.start) ∧
      (layout offset fields).Pairwise fun first second => first.start < second.start := by
  induction fields generalizing offset with
  | nil => exact ⟨nofun, List.Pairwise.nil⟩
  | cons stretch rest inductionHypothesis =>
    obtain ⟨behind, ordered⟩ := inductionHypothesis (offset + stretch.text.length)
    have size : 0 < (needle stretch.entry.1).length := List.length_pos_iff.mpr (needle_ne_nil _)
    have length := stretch.length_text
    rw [layout, List.forall_mem_cons, List.pairwise_cons]
    refine ⟨⟨le_rfl, fun mark member => ?_⟩, fun mark member => ?_, ordered⟩
    · have := behind mark member
      omega
    · have := behind mark member
      show offset < mark.start
      omega

theorem mem_layout_iff (fields : List Stretch) (mark : Mark) :
    mark ∈ layout 0 fields ↔ ∃ front stretch rest, fields = front ++ stretch :: rest ∧
      mark = stretch.mark (front.flatMap Stretch.text).length := by
  have general : ∀ offset, mark ∈ layout offset fields ↔
      ∃ front stretch rest, fields = front ++ stretch :: rest ∧
        mark = stretch.mark (offset + (front.flatMap Stretch.text).length) := by
    intro offset
    constructor
    · intro member
      induction fields generalizing offset with
      | nil => cases member
      | cons stretch rest inductionHypothesis =>
        rcases List.mem_cons.mp member with rfl | later
        · exact ⟨[], stretch, rest, rfl, rfl⟩
        · obtain ⟨front, other, more, rfl, rfl⟩ := inductionHypothesis _ later
          refine ⟨stretch :: front, other, more, rfl, ?_⟩
          rw [List.flatMap_cons, List.length_append, Nat.add_assoc]
    · rintro ⟨front, stretch, rest, rfl, rfl⟩
      rw [layout_append]
      exact List.mem_append_right _ List.mem_cons_self
  have atZero := general 0
  simp only [Nat.zero_add] at atZero
  exact atZero

/-- What the mark of a field cuts out of the body is the text after its key. -/
theorem Stretch.value_mark (front rest : List Stretch) (stretch : Stretch) :
    (stretch.mark (front.flatMap Stretch.text).length).value
        ((front ++ stretch :: rest).flatMap Stretch.text)
        (layout ((front.flatMap Stretch.text).length + stretch.text.length) rest) =
      stretch.after := by
  have spelled := congrArg List.length stretch.spelled
  have whole : (front ++ stretch :: rest).flatMap Stretch.text =
      (front.flatMap Stretch.text ++ needle stretch.spelling ++ stretch.after) ++
        rest.flatMap Stretch.text := by
    rw [List.flatMap_append, List.flatMap_cons, Stretch.text]
    simp only [List.append_assoc]
  have size : (needle stretch.entry.1).length = (needle stretch.spelling).length := by
    rw [needle, needle, List.length_append, List.length_append, ← spelled, List.length_map]
  have next : ((layout ((front.flatMap Stretch.text).length + stretch.text.length) rest).head?.map
      Mark.start).getD ((front ++ stretch :: rest).flatMap Stretch.text).length =
        (front.flatMap Stretch.text ++ needle stretch.spelling ++ stretch.after).length := by
    rw [List.append_assoc, List.length_append]
    cases rest with
    | nil =>
      rw [List.flatMap_append, List.flatMap_singleton]
      exact List.length_append
    | cons other more => rfl
  rw [Mark.value, next, whole, List.take_left]
  show List.drop ((front.flatMap Stretch.text).length + (needle stretch.entry.1).length) _ = _
  rw [size, ← List.length_append, List.drop_left]

/-! ### The marks of a written body -/

/-- Fields written so that each key is found where it is written: each key once, and no key in
the text after a field unless it was written before. -/
structure Legible (fields : List Stretch) : Prop where
  once : (fields.map fun stretch => stretch.entry).Nodup
  clear : ∀ front stretch rest, fields = front ++ stretch :: rest → ∀ entry ∈ keys,
    entry ∉ (front ++ [stretch]).map (fun other => other.entry) →
      ¬ needle entry.1 <:+: stretch.after.map Char.toLower

section Legible

variable {fields : List Stretch} (legible : Legible fields)

include legible

theorem Legible.others (front rest : List Stretch) (split : fields = front ++ rest)
    (entry : List Char × ReceiptField) (listed : entry ∈ keys)
    (absent : entry ∉ front.map fun stretch => stretch.entry) :
    ∀ piece ∈ front.map Stretch.piece, piece.1 ∈ keys.map (fun entry => needle entry.1) ∧
      piece.1 ≠ needle entry.1 ∧ ¬ needle entry.1 <:+: piece.2 := by
  intro piece member
  obtain ⟨stretch, inFront, rfl⟩ := List.mem_map.mp member
  refine ⟨needle_mem _ stretch.listed, fun same => absent ?_, ?_⟩
  · rw [← keys_eq_of_needle _ _ stretch.listed listed same]
    exact List.mem_map_of_mem inFront
  · obtain ⟨before, more, rfl⟩ := List.append_of_mem inFront
    refine legible.clear before stretch (more ++ rest) (by rw [split]; simp) entry listed ?_
    intro early
    refine absent ?_
    rw [List.map_append, List.map_cons]
    rw [List.map_append, List.map_singleton] at early
    rcases List.mem_append.mp early with inBefore | here
    · exact List.mem_append_left _ inBefore
    · exact List.mem_append_right _ (List.mem_singleton.mp here ▸ List.mem_cons_self)

/-- A written key is found where it is written. -/
theorem Legible.mark_written (front rest : List Stretch) (stretch : Stretch)
    (split : fields = front ++ stretch :: rest) :
    Receipt.mark (fields.flatMap Stretch.text) stretch.entry =
      some (stretch.mark (front.flatMap Stretch.text).length) := by
  have once := legible.once
  rw [split, List.map_append, List.map_cons, List.nodup_append] at once
  have absent : stretch.entry ∉ front.map fun other => other.entry :=
    fun early => once.2.2 _ early _ List.mem_cons_self rfl
  have found := keys_family.before?_assemble (needle_mem _ stretch.listed) []
    (front.map Stretch.piece) stretch.piece.2 (rest.map Stretch.piece)
    (fun inside => needle_ne_nil _ (List.infix_nil.mp inside))
    (legible.others front (stretch :: rest) split stretch.entry stretch.listed absent)
  have lowered : (fields.flatMap Stretch.text).map Char.toLower =
      Markers.assemble [] (front.map Stretch.piece ++ (needle stretch.entry.1, stretch.piece.2) ::
        rest.map Stretch.piece) := by
    rw [lowered_stretches, split, List.map_append, List.map_cons]
    rfl
  rw [Receipt.mark, lowered, found, ← lowered_stretches, Option.map_some, List.length_map]
  rfl

/-- A key that is not written is not found. -/
theorem Legible.mark_unwritten (entry : List Char × ReceiptField) (listed : entry ∈ keys)
    (absent : entry ∉ fields.map fun stretch => stretch.entry) :
    Receipt.mark (fields.flatMap Stretch.text) entry = none := by
  rw [Receipt.mark, lowered_stretches, keys_family.before?_assemble_none (needle_mem _ listed) []
    (fields.map Stretch.piece) (fun inside => needle_ne_nil _ (List.infix_nil.mp inside))
    (legible.others fields [] (List.append_nil _).symm entry listed absent)]
  rfl

/-- The marks of the body are those of the written fields, in the order they are written. -/
theorem Legible.sortedMarks_eq : sortedMarks (fields.flatMap Stretch.text) = layout 0 fields := by
  set raw := fields.flatMap Stretch.text with written
  have members : ∀ mark, mark ∈ sortedMarks raw ↔ mark ∈ layout 0 fields := by
    intro mark
    rw [mem_sortedMarks_iff, mem_marks_iff, mem_layout_iff]
    constructor
    · rintro ⟨entry, listed, found⟩
      by_cases absent : entry ∈ fields.map fun stretch => stretch.entry
      · obtain ⟨stretch, member, rfl⟩ := List.mem_map.mp absent
        obtain ⟨front, rest, split⟩ := List.append_of_mem member
        rw [legible.mark_written front rest stretch split, Option.some.injEq] at found
        exact ⟨front, stretch, rest, split, found.symm⟩
      · rw [legible.mark_unwritten entry listed absent] at found
        cases found
    · rintro ⟨front, stretch, rest, split, rfl⟩
      exact ⟨stretch.entry, stretch.listed, legible.mark_written front rest stretch split⟩
  have sorted : (sortedMarks raw).Pairwise fun first second => first.start < second.start := by
    refine (sortedMarks_ordered raw).imp_of_mem fun {first second} member _ apart => ?_
    have positive := (marks_placed (mem_sortedMarks_iff.mp member)).positive
    omega
  have ordered := (layout_ordered 0 fields).2
  have once : ∀ marks : List Mark,
      marks.Pairwise (fun first second => first.start < second.start) → marks.Nodup :=
    fun marks before => before.imp fun {first second} earlier same =>
      absurd (congrArg Mark.start same) earlier.ne
  have same := (List.perm_ext_iff_of_nodup (once _ sorted) (once _ ordered)).mpr members
  exact same.eq_of_pairwise (fun first second _ _ before after => absurd before after.asymm)
    sorted ordered

theorem Legible.get_written (front rest : List Stretch) (stretch : Stretch)
    (split : fields = front ++ stretch :: rest) (out : Receipt) :
    (fillMarks (fields.flatMap Stretch.text) (layout 0 fields) out).get stretch.field =
      some (trim stretch.value) := by
  have distinct := sortedMarks_fields_nodup (fields.flatMap Stretch.text)
  rw [legible.sortedMarks_eq, split, layout_append, layout, Nat.zero_add] at distinct
  rw [split, layout_append, layout, Nat.zero_add, show stretch.field =
    (stretch.mark (front.flatMap Stretch.text).length).field from rfl,
    get_fillMarks _ _ _ _ _ distinct, Stretch.value_mark, Stretch.after,
    trim_append_blank _ stretch.blanks]

/-- A written body is read as the fields that were written. -/
theorem Legible.parse_eq (some : fields ≠ []) :
    parse (utf8Octets (fields.flatMap Stretch.text)) =
      .ok (.some (fillMarks (fields.flatMap Stretch.text) (layout 0 fields)
        (empty (fields.flatMap Stretch.text)))) := by
  rw [Receipt.parse_eq, fromUtf8Lossy_utf8Octets, legible.sortedMarks_eq, if_neg]
  intro unmarked
  have same := sortedMarks_perm (fields.flatMap Stretch.text)
  rw [unmarked, legible.sortedMarks_eq, List.perm_nil] at same
  obtain ⟨stretch, rest, rfl⟩ := List.exists_cons_of_ne_nil some
  cases same

end Legible

/-! ### Reading a written body -/

theorem colon_of_toLower (character : Char) (lowered : character.toLower = ':') :
    character = ':' := by
  by_cases upper : character.val ≥ 'A'.val ∧ character.val ≤ 'Z'.val
  · have above : 65 ≤ character.val.toNat := UInt32.le_iff_toNat_le.mp upper.1
    have below : character.val.toNat ≤ 90 := UInt32.le_iff_toNat_le.mp upper.2
    have shifted := congrArg (fun other : Char => other.val.toNat) lowered
    rw [toLower_val_of_upper upper, UInt32.toNat_add] at shifted
    change (character.val.toNat + 32) % 2 ^ 32 = 58 at shifted
    omega
  · rwa [toLower_of_not_upper upper] at lowered

/-- No key stands in the text after a field without a colon. -/
theorem Stretch.clear (stretch : Stretch) (noColon : ':' ∉ stretch.value)
    (entry : List Char × ReceiptField) (listed : entry ∈ keys) :
    ¬ needle entry.1 <:+: stretch.after.map Char.toLower := by
  refine (keys_family.terminated _ (needle_mem entry listed)).absent fun member => ?_
  obtain ⟨character, inside, lowered⟩ := List.mem_map.mp member
  obtain rfl := colon_of_toLower character lowered
  rcases List.mem_append.mp inside with inValue | inBlank
  · exact noColon inValue
  · exact absurd (stretch.blanks ':' inBlank) (by decide)

theorem stretches_entries (front : List (Written × Gap)) (last : Written) :
    (stretches front last).map (fun stretch => stretch.entry) =
      (written front last).map Written.entry := by
  rw [stretches, written, List.map_append, List.map_append, List.map_map, List.map_map]
  rfl

/-- A body is legible when no value but the last has a colon, and the last has none or stands
after every key. -/
theorem legible_stretches (front : List (Written × Gap)) (last : Written)
    (once : ((written front last).map Written.entry).Nodup)
    (plain : ∀ pair ∈ front, pair.1.Plain)
    (final : ':' ∉ last.value ∨
      ∀ entry ∈ keys, entry ∈ (written front last).map Written.entry) :
    Legible (stretches front last) := by
  refine ⟨by rwa [stretches_entries], fun before stretch rest split entry listed fresh => ?_⟩
  by_cases ending : rest = []
  · subst ending
    obtain ⟨rfl, same⟩ := List.append_inj' split rfl
    rcases final with noColon | every
    · obtain rfl := List.singleton_inj.mp same
      exact Stretch.clear _ noColon entry listed
    · have known := every entry listed
      rw [← stretches_entries, split] at known
      exact absurd known fresh
  · have inFront : stretch ∈ front.map
        (fun pair => (⟨pair.1, pair.2.text, pair.2.blank⟩ : Stretch)) := by
      have init := congrArg List.dropLast split
      rw [stretches, List.dropLast_concat, List.dropLast_append_of_ne_nil (List.cons_ne_nil _ _),
        List.dropLast_cons_of_ne_nil ending] at init
      rw [init]
      exact List.mem_append_right before List.mem_cons_self
    obtain ⟨pair, member, rfl⟩ := List.mem_map.mp inFront
    exact Stretch.clear _ (plain pair member).noColon entry listed

/-- The body is read as a receipt with the given fields, no other fields, and the body. -/
def Reads (body : List Char) (fields : List (ReceiptField × List Char)) : Prop :=
  ∃ receipt, parse (utf8Octets body) = .ok (some receipt) ∧ receipt.raw = body ∧
    (∀ pair ∈ fields, receipt.get pair.1 = some pair.2) ∧
    ∀ field, field ∉ fields.map Prod.fst → receipt.get field = none

@[simp] theorem fillMarks_raw (raw : List Char) (marks : List Mark) (out : Receipt) :
    (fillMarks raw marks out).raw = out.raw := by
  induction marks generalizing out with
  | nil => rfl
  | cons mark rest inductionHypothesis => rw [fillMarks, inductionHypothesis, set_raw]

theorem Legible.reads {fields : List Stretch} (legible : Legible fields) (some : fields ≠ []) :
    Reads (fields.flatMap Stretch.text)
      (fields.map fun stretch => (stretch.field, trim stretch.value)) := by
  refine ⟨_, legible.parse_eq some, fillMarks_raw _ _ _, fun pair member => ?_,
    fun field absent => ?_⟩
  · obtain ⟨stretch, inside, rfl⟩ := List.mem_map.mp member
    obtain ⟨front, rest, split⟩ := List.append_of_mem inside
    exact legible.get_written front rest stretch split _
  · rw [List.map_map] at absent
    rw [get_fillMarks_of_notMem _ _ _ _ (by rw [layout_fields]; exact absent), get_empty]

theorem reads_render (front : List (Written × Gap)) (last : Written)
    (plain : ∀ pair ∈ front, pair.1.Plain) (legible : Legible (stretches front last)) :
    Reads (render front last)
      ((front.map fun pair => (pair.1.field, pair.1.value)) ++
        [(last.field, trim last.value)]) := by
  have fields : ((stretches front last).map fun stretch => (stretch.field, trim stretch.value)) =
      (front.map fun pair => (pair.1.field, pair.1.value)) ++ [(last.field, trim last.value)] := by
    rw [stretches, List.map_append, List.map_map, List.map_singleton]
    refine congrArg (· ++ _) (List.map_congr_left fun pair member => ?_)
    show (pair.1.field, trim pair.1.value) = _
    rw [trim_of_tight (plain pair member).tight]
  rw [render_eq, ← fields]
  exact legible.reads (List.append_ne_nil_of_right_ne_nil _ (List.cons_ne_nil _ _))

/-- A receipt written from its keys is read back: with values without colons, or with any text at
the end once all the other keys are written. -/
theorem parse_render (front : List (Written × Gap)) (last : Written)
    (once : ((written front last).map Written.entry).Nodup)
    (plain : ∀ pair ∈ front, pair.1.Plain) :
    (last.Plain → Reads (render front last)
      ((written front last).map fun field => (field.field, field.value))) ∧
    (last.entry = textEntry →
      (∀ entry ∈ keys, entry ≠ textEntry → entry ∈ front.map fun pair => pair.1.entry) →
        Reads (render front last)
          ((front.map fun pair => (pair.1.field, pair.1.value)) ++
            [(.text, trim last.value)])) := by
  constructor
  · intro plainLast
    have legible := legible_stretches front last once plain (Or.inl plainLast.noColon)
    have read := reads_render front last plain legible
    rw [trim_of_tight plainLast.tight] at read
    rwa [written, List.map_append, List.map_map]
  · intro final every
    have all : ∀ entry ∈ keys, entry ∈ (written front last).map Written.entry := by
      intro entry listed
      rw [written, List.map_append, List.map_map, List.map_singleton, final]
      by_cases other : entry = textEntry
      · rw [other]
        exact List.mem_append_right _ List.mem_cons_self
      · exact List.mem_append_left _ (every entry listed other)
    have read := reads_render front last plain (legible_stretches front last once plain
      (Or.inr all))
    have field : last.field = .text := congrArg Prod.snd final
    rwa [field] at read

/-- A key written as the table has it. -/
def Written.asListed (entry : List Char × ReceiptField) (listed : entry ∈ keys)
    (value : List Char) : Written :=
  ⟨entry, entry.1, value, listed, by
    have lowerCase : ∀ entry ∈ keys, entry.1.map Char.toLower = entry.1 := by decide
    exact lowerCase entry listed⟩

def Gap.space : Gap := ⟨[' '], List.all_eq_true.mp (by decide), by decide⟩

/-- The seven keys before a quoted text, as a message centre writes them. -/
def sevenFields : List (Written × Gap) :=
  [(.asListed ("id".toList, .id) (by decide) "1".toList, .space),
   (.asListed ("sub".toList, .sub) (by decide) "001".toList, .space),
   (.asListed ("dlvrd".toList, .dlvrd) (by decide) "001".toList, .space),
   (.asListed ("submit date".toList, .submitDate) (by decide) "2501011200".toList, .space),
   (.asListed ("done date".toList, .doneDate) (by decide) "2501011201".toList, .space),
   (.asListed ("stat".toList, .stat) (by decide) "DELIVRD".toList, .space),
   (.asListed ("err".toList, .err) (by decide) [], .space)]

theorem parse_render_two_bodies :
    Reads "iD:7 \tERR:".toList [(.id, "7".toList), (.err, [])] ∧
      Reads ("id:1 sub:001 dlvrd:001 submit date:2501011200 done date:2501011201 stat:DELIVRD " ++
          "err: text: id:9 stat: ").toList
        [(.id, "1".toList), (.sub, "001".toList), (.dlvrd, "001".toList),
         (.submitDate, "2501011200".toList), (.doneDate, "2501011201".toList),
         (.stat, "DELIVRD".toList), (.err, []), (.text, "id:9 stat:".toList)] :=
  ⟨(parse_render
      [(⟨("id".toList, .id), "iD".toList, "7".toList, by decide, by decide⟩,
        ⟨" \t".toList, List.all_eq_true.mp (by decide), by decide⟩)]
      ⟨("err".toList, .err), "ERR".toList, [], by decide, by decide⟩
      (by decide) (by decide)).1 (by decide),
    (parse_render sevenFields (.asListed textEntry textEntry_mem " id:9 stat: ".toList)
      (by decide) (by decide)).2 rfl (by decide)⟩

end Receipt

end SiphonSmpp
