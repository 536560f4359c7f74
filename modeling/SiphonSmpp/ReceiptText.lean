/-
This file says when the message text quoted at the end of a delivery receipt
leaves the rest of the receipt alone. The parser looks for every key in the
whole body, so a key that the receipt itself does not have is looked for in the
quoted text as well, and one found there sets a field and ends `text`.
-/

import SiphonSmpp.Receipt

namespace SiphonSmpp

open Utf8

/-! ### Trimming -/

theorem trim_append_cons (front rest : List Char) (character : Char)
    (visible : isWhitespace character = false) :
    ∃ kept, trim (front ++ character :: rest) =
      front.dropWhile isWhitespace ++ character :: kept := by
  have leading : (front ++ character :: rest).dropWhile isWhitespace =
      front.dropWhile isWhitespace ++ character :: rest := by
    rw [List.dropWhile_append]
    split
    · rename_i blank
      rw [List.isEmpty_iff.mp blank, List.dropWhile_cons_of_neg (by simp [visible])]
      rfl
    · rfl
  refine ⟨(rest.reverse.dropWhile isWhitespace).reverse, ?_⟩
  rw [trim, leading, List.reverse_append, List.reverse_cons, List.append_assoc,
    List.singleton_append, List.dropWhile_append]
  split
  · rename_i blank
    rw [List.isEmpty_iff.mp blank, List.dropWhile_cons_of_neg (by simp [visible])]
    simp
  · simp

theorem trim_length_le (text : List Char) :
    (trim text).length ≤ (text.dropWhile isWhitespace).length := by
  rw [trim, List.length_reverse]
  exact (List.dropWhile_sublist _).length_le.trans_eq List.length_reverse

/-- A text that goes on with a visible character is longer when it is trimmed. -/
theorem trim_ne_trim_append_cons (front rest : List Char) (character : Char)
    (visible : isWhitespace character = false) :
    trim front ≠ trim (front ++ character :: rest) := by
  intro same
  obtain ⟨kept, longer⟩ := trim_append_cons front rest character visible
  have short := trim_length_le front
  rw [same, longer, List.length_append, List.length_cons] at short
  omega

theorem toLower_of_isWhitespace (character : Char) (blank : isWhitespace character = true) :
    character.toLower = character := by
  refine toLower_of_not_upper ?_
  rintro ⟨lower, upper⟩
  have above : 65 ≤ character.toNat := UInt32.le_iff_toNat_le.mp lower
  have below : character.toNat ≤ 90 := UInt32.le_iff_toNat_le.mp upper
  simp only [isWhitespace, Bool.or_eq_true, Bool.and_eq_true, decide_eq_true_eq,
    beq_iff_eq] at blank
  omega

/-! ### What a field holds -/

namespace Receipt

theorem get_fillMarks_of_notMem (raw : List Char) (marks : List Mark) (out : Receipt)
    (field : ReceiptField) (absent : field ∉ marks.map Mark.field) :
    (fillMarks raw marks out).get field = out.get field := by
  induction marks generalizing out with
  | nil => rfl
  | cons mark rest inductionHypothesis =>
    rw [List.map_cons, List.mem_cons, not_or] at absent
    rw [fillMarks, inductionHypothesis _ absent.2, get_set_of_ne _ _ _ _ absent.1]

/-- A field of its own holds the text from its mark to the next. -/
theorem get_fillMarks (raw : List Char) (front rest : List Mark) (mark : Mark) (out : Receipt)
    (distinct : ((front ++ mark :: rest).map Mark.field).Nodup) :
    (fillMarks raw (front ++ mark :: rest) out).get mark.field =
      some (trim (mark.value raw rest)) := by
  induction front generalizing out with
  | nil =>
    rw [List.nil_append, List.map_cons, List.nodup_cons] at distinct
    rw [List.nil_append, fillMarks, get_fillMarks_of_notMem raw rest _ _ distinct.1, get_set_self]
  | cons other more inductionHypothesis =>
    rw [List.cons_append, List.map_cons, List.nodup_cons] at distinct
    exact inductionHypothesis _ distinct.2

theorem mark_field {raw : List Char} {entry : List Char × ReceiptField} {mark : Mark}
    (found : Receipt.mark raw entry = some mark) : mark.field = entry.2 := by
  obtain ⟨before, _, rfl⟩ := mark_eq_some_iff.mp found
  rfl

theorem sortedMarks_fields_nodup (raw : List Char) : ((sortedMarks raw).map Mark.field).Nodup := by
  rw [((sortedMarks_perm raw).map Mark.field).nodup_iff]
  rw [List.Nodup, List.pairwise_map]
  refine List.Pairwise.filterMap _ ?_ (List.Pairwise.and_mem.mp
    (by decide : keys.Pairwise fun first second => first.2 ≠ second.2))
  intro first second ⟨_, _, different⟩ mark found other foundOther
  rwa [mark_field found, mark_field foundOther]

/-- A mark starts with a visible character. -/
theorem mark_visible {raw : List Char} {mark : Mark} (member : mark ∈ marks raw) :
    ∃ character rest, raw.drop mark.start = character :: rest ∧ isWhitespace character = false := by
  have letters : ∀ entry ∈ keys, ∃ letter name, entry.1 = letter :: name ∧
      isWhitespace letter = false := by
    simp only [keys, List.forall_mem_cons]
    refine ⟨⟨_, _, rfl, by decide⟩, ⟨_, _, rfl, by decide⟩, ⟨_, _, rfl, by decide⟩,
      ⟨_, _, rfl, by decide⟩, ⟨_, _, rfl, by decide⟩, ⟨_, _, rfl, by decide⟩,
      ⟨_, _, rfl, by decide⟩, ⟨_, _, rfl, by decide⟩, nofun⟩
  obtain ⟨entry, listed, found⟩ := mem_marks_iff.mp member
  obtain ⟨letter, name, spelled, visible⟩ := letters entry listed
  obtain ⟨before, first, rfl⟩ := mark_eq_some_iff.mp found
  obtain ⟨after, stands⟩ := (Markers.before?_eq_some_iff.mp first).1
  have dropped : (raw.drop before.length).map Char.toLower = needle entry.1 ++ after := by
    rw [List.map_drop, ← stands, List.append_assoc, List.drop_left]
  rw [needle, spelled] at dropped
  obtain ⟨character, rest, same, lowered, _⟩ := List.map_eq_cons_iff.mp dropped
  refine ⟨character, rest, same, Bool.eq_false_iff.mpr fun blank => ?_⟩
  rw [toLower_of_isWhitespace character blank] at lowered
  rw [lowered, visible] at blank
  cases blank

/-! ### A body that ends with a quoted text -/

/-- The entry of the key that quotes the message. -/
def textEntry : List Char × ReceiptField := ("text".toList, .text)

theorem textEntry_mem : textEntry ∈ keys := by decide

/-- A key stands in a text, in whatever ASCII letter case. -/
def OccursIn (key : List Char) (octets : List UInt8) : Prop :=
  asciiOctets (needle key) <:+: octets.map toAsciiLowercase

/-- A body that quotes a message at its end. -/
def quoting (header message : List UInt8) : List UInt8 :=
  header ++ asciiOctets (needle textEntry.1) ++ message

theorem needle_ascii (entry : List Char × ReceiptField) (listed : entry ∈ keys) :
    ∀ character ∈ needle entry.1, character.toNat < 0x80 := by
  have ascii : keys.all (fun entry => (needle entry.1).all fun character =>
      decide (character.toNat < 0x80)) = true := by decide
  intro character member
  have plain := List.all_eq_true.mp (List.all_eq_true.mp ascii entry listed) character member
  exact of_decide_eq_true plain

theorem needle_ne_nil (key : List Char) : needle key ≠ [] :=
  List.append_ne_nil_of_right_ne_nil key (List.cons_ne_nil _ _)

/-- A body has the mark of a key exactly when the key stands in its octets. -/
theorem mark_eq_none_iff (entry : List Char × ReceiptField) (listed : entry ∈ keys)
    (octets : List UInt8) :
    Receipt.mark (fromUtf8Lossy octets) entry = none ↔ ¬ OccursIn entry.1 octets := by
  rw [Receipt.mark, Option.map_eq_none_iff, Markers.before?_eq_none_iff, ← fromUtf8Lossy_lowercase,
    ascii_infix_iff (needle_ascii entry listed) (needle_ne_nil _), OccursIn]

theorem fromUtf8Lossy_quoting (header message : List UInt8) :
    fromUtf8Lossy (quoting header message) =
      fromUtf8Lossy header ++ needle textEntry.1 ++ fromUtf8Lossy message :=
  fromUtf8Lossy_append_asciiOctets _ (needle_ascii textEntry textEntry_mem) (needle_ne_nil _)
    header message

/-- A mark moved behind other text. -/
def Mark.shift (offset : Nat) (mark : Mark) : Mark := { mark with start := offset + mark.start }

/-- The mark of the quoted message. -/
def textMark (header : List Char) : Mark := ⟨header.length, (needle textEntry.1).length, .text⟩

section Quoted

variable (header message : List Char)

/-- A key of a quoting body stands in the header, is the one that quotes, or stands in the
message. -/
theorem mark_quoted (entry : List Char × ReceiptField) (listed : entry ∈ keys) :
    Receipt.mark (header ++ needle textEntry.1 ++ message) entry =
      (Receipt.mark header entry).or
        (if entry = textEntry then some (textMark header)
        else (Receipt.mark message entry).map
          (Mark.shift (header ++ needle textEntry.1).length)) := by
  have lowered : (header ++ needle textEntry.1 ++ message).map Char.toLower =
      header.map Char.toLower ++ needle textEntry.1 ++ message.map Char.toLower := by
    rw [List.map_append, List.map_append, show (needle textEntry.1).map Char.toLower =
      needle textEntry.1 by decide]
  rw [Receipt.mark, lowered, Receipt.mark]
  cases first : Markers.before? (needle entry.1) (header.map Char.toLower) with
  | some before =>
    rw [List.append_assoc, Markers.before?_append _ first]
    rfl
  | none =>
    rw [keys_family.before?_append_marker (needle_mem entry listed)
      (needle_mem textEntry textEntry_mem) first]
    by_cases same : entry = textEntry
    · subst same
      rw [if_pos rfl, if_pos rfl]
      show some (⟨(header.map Char.toLower).length, _, _⟩ : Mark) = some (textMark header)
      rw [List.length_map]
      rfl
    · have other : needle entry.1 ≠ needle textEntry.1 := fun needles =>
        same (keys_eq_of_needle _ _ listed textEntry_mem needles)
      rw [if_neg same, if_neg other]
      rw [Receipt.mark, Option.map_map, Option.map_map, Option.map_none, Option.none_or]
      refine Option.map_congr fun before _ => ?_
      simp [Mark.shift, Function.comp, Nat.add_assoc]

/-- The message brings no key that the header does not have. -/
def Clean : Prop :=
  ∀ entry ∈ keys, entry ≠ textEntry → Receipt.mark header entry = none →
    Receipt.mark message entry = none

variable (unquoted : Receipt.mark header textEntry = none)

include unquoted

theorem mark_text :
    Receipt.mark (header ++ needle textEntry.1 ++ message) textEntry = some (textMark header) := by
  rw [mark_quoted header message textEntry textEntry_mem, unquoted, if_pos rfl, Option.none_or]

/-- The marks of a quoting body, cut at the one that quotes: those before it lie in the header,
and there is one after it exactly when the message brings a key. -/
theorem sortedMarks_quoted :
    ∃ front rest, sortedMarks (header ++ needle textEntry.1 ++ message) =
        front ++ textMark header :: rest ∧
      (∀ mark ∈ front, mark.start + mark.size ≤ header.length) ∧
      (rest = [] ↔ Clean header message) := by
  set raw := header ++ needle textEntry.1 ++ message with quoted
  have found := mark_text header message unquoted
  have member : textMark header ∈ sortedMarks raw :=
    mem_sortedMarks_iff.mpr (mem_marks_iff.mpr ⟨textEntry, textEntry_mem, found⟩)
  obtain ⟨front, rest, split⟩ := List.append_of_mem member
  have ordered := sortedMarks_ordered raw
  rw [split, List.pairwise_append, List.pairwise_cons] at ordered
  obtain ⟨_, ⟨after, _⟩, before⟩ := ordered
  have inHeader : ∀ mark ∈ front, mark.start + mark.size ≤ header.length :=
    fun mark inFront => before mark inFront _ List.mem_cons_self
  refine ⟨front, rest, split, inHeader, ?_⟩
  constructor
  · intro last entry listed other absent
    by_contra brought
    obtain ⟨mark, foundMark⟩ := Option.ne_none_iff_exists'.mp brought
    have shifted : Receipt.mark raw entry =
        some (mark.shift (header ++ needle textEntry.1).length) := by
      rw [quoted, mark_quoted header message entry listed, absent, if_neg other, foundMark]
      rfl
    have present : mark.shift (header ++ needle textEntry.1).length ∈ sortedMarks raw :=
      mem_sortedMarks_iff.mpr (mem_marks_iff.mpr ⟨entry, listed, shifted⟩)
    have start : (mark.shift (header ++ needle textEntry.1).length).start =
        header.length + (needle textEntry.1).length + mark.start := by
      rw [Mark.shift, List.length_append]
    have size : (needle textEntry.1).length = 5 := by decide
    rw [split, last, List.mem_append, List.mem_singleton] at present
    rcases present with inFront | same
    · have inside := inHeader _ inFront
      omega
    · rw [same] at start
      have zero : (textMark header).start = header.length := rfl
      omega
  · intro clean
    rw [List.eq_nil_iff_forall_not_mem]
    intro mark inRest
    have present : mark ∈ sortedMarks raw := by
      rw [split]
      exact List.mem_append_right front (List.mem_cons_of_mem _ inRest)
    have behind : header.length + (needle textEntry.1).length ≤ mark.start := after mark inRest
    have size : (needle textEntry.1).length = 5 := by decide
    obtain ⟨entry, listed, foundMark⟩ := mem_marks_iff.mp (mem_sortedMarks_iff.mp present)
    by_cases same : entry = textEntry
    · subst same
      rw [found, Option.some.injEq] at foundMark
      have zero : mark.start = header.length := by rw [← foundMark]; rfl
      omega
    · rw [quoted, mark_quoted header message entry listed, if_neg same] at foundMark
      cases inHeaderMark : Receipt.mark header entry with
      | none =>
        rw [inHeaderMark, clean entry listed same inHeaderMark] at foundMark
        cases foundMark
      | some other =>
        rw [inHeaderMark, Option.some_or, Option.some.injEq] at foundMark
        have inside := (mark_placed listed inHeaderMark).inside
        rw [foundMark] at inside
        omega

/-- The field `text` holds the whole message exactly when the message brings no key. -/
theorem text_whole_iff :
    (fillMarks (header ++ needle textEntry.1 ++ message)
      (sortedMarks (header ++ needle textEntry.1 ++ message))
      (empty (header ++ needle textEntry.1 ++ message))).get .text = some (trim message) ↔
        Clean header message := by
  obtain ⟨front, rest, split, _, last⟩ := sortedMarks_quoted header message unquoted
  set raw := header ++ needle textEntry.1 ++ message with quoted
  have distinct := sortedMarks_fields_nodup raw
  have ordered := sortedMarks_ordered raw
  have members : ∀ mark ∈ rest, mark ∈ marks raw := fun mark inRest =>
    mem_sortedMarks_iff.mp (split ▸ List.mem_append_right front (List.mem_cons_of_mem _ inRest))
  have dropped : raw.drop (header.length + (needle textEntry.1).length) = message := by
    rw [quoted, ← List.length_append, List.drop_left]
  rw [split] at distinct ordered
  rw [split, ← last, show ReceiptField.text = (textMark header).field from rfl,
    get_fillMarks raw front rest _ _ distinct, Option.some.injEq]
  show trim ((raw.take _).drop (header.length + (needle textEntry.1).length)) = _ ↔ _
  cases rest with
  | nil =>
    refine iff_of_true ?_ rfl
    show trim ((raw.take raw.length).drop _) = _
    rw [List.take_length, dropped]
  | cons next more =>
    refine iff_of_false (fun whole => ?_) (List.cons_ne_nil _ _)
    rw [List.pairwise_append, List.pairwise_cons] at ordered
    have behind : header.length + (needle textEntry.1).length ≤ next.start :=
      ordered.2.1.1 next List.mem_cons_self
    obtain ⟨character, tail, cut, visible⟩ := mark_visible (members next List.mem_cons_self)
    have joined : (raw.take next.start).drop (header.length + (needle textEntry.1).length) ++
        character :: tail = message := by
      have inside : header.length + (needle textEntry.1).length ≤ (raw.take next.start).length := by
        have placed := (marks_placed (members next List.mem_cons_self)).inside
        rw [List.length_take]
        omega
      rw [← cut, ← List.drop_append_of_le_length inside, List.take_append_drop, dropped]
    have longer := trim_ne_trim_append_cons
      ((raw.take next.start).drop (header.length + (needle textEntry.1).length)) tail character
      visible
    rw [joined] at longer
    exact longer whole

end Quoted

section TwoMessages

variable (header first second : List Char)

theorem marks_clean (clean : Clean header first) :
    marks (header ++ needle textEntry.1 ++ first) = keys.filterMap fun entry =>
      (Receipt.mark header entry).or
        (if entry = textEntry then some (textMark header) else none) := by
  refine List.filterMap_congr fun entry listed => ?_
  rw [mark_quoted header first entry listed]
  cases found : Receipt.mark header entry with
  | some mark => rfl
  | none =>
    by_cases same : entry = textEntry
    · rw [if_pos same, if_pos same]
    · rw [if_neg same, if_neg same, clean entry listed same found]
      rfl

/-- Between two marks of the header lies nothing of the message. -/
theorem value_header (tail : List Char) (mark next : Mark) (more : List Mark)
    (inHeader : next.start ≤ header.length) :
    mark.value (header ++ tail) (next :: more) =
      (header.take next.start).drop (mark.start + mark.size) := by
  show ((header ++ tail).take next.start).drop _ = _
  rw [List.take_append_of_le_length inHeader]

/-- Two messages that bring no key leave the other fields the same. -/
theorem fields_eq_of_clean (unquoted : Receipt.mark header textEntry = none)
    (cleanFirst : Clean header first) (cleanSecond : Clean header second) (field : ReceiptField)
    (other : field ≠ .text) :
    (fillMarks (header ++ needle textEntry.1 ++ first)
      (sortedMarks (header ++ needle textEntry.1 ++ first))
      (empty (header ++ needle textEntry.1 ++ first))).get field =
    (fillMarks (header ++ needle textEntry.1 ++ second)
      (sortedMarks (header ++ needle textEntry.1 ++ second))
      (empty (header ++ needle textEntry.1 ++ second))).get field := by
  obtain ⟨front, rest, split, inHeader, last⟩ := sortedMarks_quoted header first unquoted
  obtain rfl := last.mpr cleanFirst
  have same : sortedMarks (header ++ needle textEntry.1 ++ second) =
      sortedMarks (header ++ needle textEntry.1 ++ first) := by
    rw [sortedMarks, marks_clean header second cleanSecond, ← marks_clean header first cleanFirst,
      sortedMarks]
  have distinct := sortedMarks_fields_nodup (header ++ needle textEntry.1 ++ first)
  rw [same, split]
  rw [split] at distinct
  by_cases present : field ∈ front.map Mark.field
  · obtain ⟨mark, member, rfl⟩ := List.mem_map.mp present
    obtain ⟨before, after, rfl⟩ := List.append_of_mem member
    have shape : before ++ mark :: after ++ [textMark header] =
        before ++ mark :: (after ++ [textMark header]) := by
      rw [List.append_assoc, List.cons_append]
    rw [shape] at distinct ⊢
    rw [get_fillMarks _ before _ mark _ distinct, get_fillMarks _ before _ mark _ distinct,
      List.append_assoc, List.append_assoc]
    cases after with
    | nil => rw [List.nil_append, value_header header _ mark _ _ le_rfl,
        value_header header _ mark _ _ le_rfl]
    | cons next more =>
      have placed := inHeader next
        (List.mem_append_right before (List.mem_cons_of_mem mark List.mem_cons_self))
      rw [List.cons_append, value_header header _ mark _ _ (by omega),
        value_header header _ mark _ _ (by omega)]
  · have absent : field ∉ (front ++ [textMark header]).map Mark.field := by
      rw [List.map_append, List.mem_append, not_or]
      exact ⟨present, fun inLast => other (List.mem_singleton.mp inLast)⟩
    rw [get_fillMarks_of_notMem _ _ _ _ absent, get_fillMarks_of_notMem _ _ _ _ absent,
      get_empty, get_empty]

end TwoMessages

/-! ### The quoted message and the other fields -/

/-- Two bodies that quote different messages after one header give receipts with the same other
fields, each with the whole of its message as `text`. -/
def SameButText (header first second : List UInt8) : Prop :=
  ∃ left right, parse (quoting header first) = .ok (some left) ∧
    parse (quoting header second) = .ok (some right) ∧
    (∀ field, field ≠ .text → left.get field = right.get field) ∧
    left.text = some (trim (fromUtf8Lossy first)) ∧
    right.text = some (trim (fromUtf8Lossy second))

theorem parse_quoting (header message : List UInt8) (unquoted : ¬ OccursIn textEntry.1 header) :
    parse (quoting header message) =
      .ok (some (fillMarks (fromUtf8Lossy (quoting header message))
        (sortedMarks (fromUtf8Lossy (quoting header message)))
        (empty (fromUtf8Lossy (quoting header message))))) := by
  rw [parse_eq, if_neg]
  have found := mark_text (fromUtf8Lossy header) (fromUtf8Lossy message)
    ((mark_eq_none_iff textEntry textEntry_mem header).mpr unquoted)
  rw [← fromUtf8Lossy_quoting] at found
  exact List.ne_nil_of_mem (mem_marks_iff.mpr ⟨textEntry, textEntry_mem, found⟩)

theorem clean_iff (header message : List UInt8) :
    Clean (fromUtf8Lossy header) (fromUtf8Lossy message) ↔
      ∀ entry ∈ keys, entry ≠ textEntry → ¬ OccursIn entry.1 header →
        ¬ OccursIn entry.1 message := by
  refine forall₂_congr fun entry listed => imp_congr_right fun _ => ?_
  rw [mark_eq_none_iff entry listed, mark_eq_none_iff entry listed]

end Receipt

/-- After a header that quotes nothing itself, the quoted message leaves the other fields of a
receipt alone and is kept whole exactly when neither message has a key, other than `text`, that
the header does not have. -/
theorem receipt_text_isolated_iff (header first second : List UInt8)
    (unquoted : ¬ Receipt.OccursIn Receipt.textEntry.1 header) :
    Receipt.SameButText header first second ↔
      ∀ entry ∈ Receipt.keys, entry ≠ Receipt.textEntry → ¬ Receipt.OccursIn entry.1 header →
        ¬ Receipt.OccursIn entry.1 first ∧ ¬ Receipt.OccursIn entry.1 second := by
  have absent := (Receipt.mark_eq_none_iff _ Receipt.textEntry_mem header).mpr unquoted
  have wholeFirst := Receipt.text_whole_iff (fromUtf8Lossy header) (fromUtf8Lossy first) absent
  have wholeSecond := Receipt.text_whole_iff (fromUtf8Lossy header) (fromUtf8Lossy second) absent
  have fields := Receipt.fields_eq_of_clean (fromUtf8Lossy header) (fromUtf8Lossy first)
    (fromUtf8Lossy second) absent
  rw [Receipt.clean_iff, ← Receipt.fromUtf8Lossy_quoting] at wholeFirst wholeSecond
  rw [Receipt.clean_iff, Receipt.clean_iff, ← Receipt.fromUtf8Lossy_quoting,
    ← Receipt.fromUtf8Lossy_quoting] at fields
  constructor
  · rintro ⟨left, right, parsedFirst, parsedSecond, _, textFirst, textSecond⟩ entry listed other
      missing
    rw [Receipt.parse_quoting header first unquoted] at parsedFirst
    rw [Receipt.parse_quoting header second unquoted] at parsedSecond
    cases parsedFirst
    cases parsedSecond
    exact ⟨wholeFirst.mp textFirst entry listed other missing,
      wholeSecond.mp textSecond entry listed other missing⟩
  · intro clean
    have cleanFirst := fun entry listed other missing => (clean entry listed other missing).1
    have cleanSecond := fun entry listed other missing => (clean entry listed other missing).2
    exact ⟨_, _, Receipt.parse_quoting header first unquoted,
      Receipt.parse_quoting header second unquoted, fields cleanFirst cleanSecond,
      wholeFirst.mpr cleanFirst, wholeSecond.mpr cleanSecond⟩

/-- Two harmless messages after the same header. -/
theorem receipt_text_isolated_greeting :
    Receipt.SameButText (asciiOctets "id:7 stat:DELIVRD ".toList) (asciiOctets "hello".toList)
      (asciiOctets " bye: ".toList) := by
  refine (receipt_text_isolated_iff _ _ _ ?_).mpr ?_
  · unfold Receipt.OccursIn
    decide
  · unfold Receipt.OccursIn
    decide

/-- A message that mentions a key the receipt does not have sets the message id and is lost. -/
theorem receipt_text_sets_id :
    let header := asciiOctets "stat:DELIVRD ".toList
    let first := asciiOctets "id:123".toList
    let second := asciiOctets "hello".toList
    ¬ Receipt.OccursIn Receipt.textEntry.1 header ∧
    Receipt.parse (Receipt.quoting header first) =
      .ok (some ⟨some "123".toList, none, none, none, none, some "DELIVRD".toList, none, some [],
        "stat:DELIVRD text:id:123".toList⟩) ∧
    Receipt.parse (Receipt.quoting header second) =
      .ok (some ⟨none, none, none, none, none, some "DELIVRD".toList, none, some "hello".toList,
        "stat:DELIVRD text:hello".toList⟩) ∧
    ¬ Receipt.SameButText header first second := by
  intro header first second
  have parsedFirst : Receipt.parse (Receipt.quoting header first) =
      .ok (some ⟨some "123".toList, none, none, none, none, some "DELIVRD".toList, none, some [],
        "stat:DELIVRD text:id:123".toList⟩) := by decide +kernel
  have parsedSecond : Receipt.parse (Receipt.quoting header second) =
      .ok (some ⟨none, none, none, none, none, some "DELIVRD".toList, none, some "hello".toList,
        "stat:DELIVRD text:hello".toList⟩) := by decide +kernel
  refine ⟨by unfold Receipt.OccursIn; decide, parsedFirst, parsedSecond, ?_⟩
  rintro ⟨left, right, leftParsed, rightParsed, same, _⟩
  rw [parsedFirst] at leftParsed
  rw [parsedSecond] at rightParsed
  cases leftParsed
  cases rightParsed
  exact nomatch same .id (by decide)

end SiphonSmpp
