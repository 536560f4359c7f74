/-
This file is a small library for text as a sequence of characters that is
addressed by octets, the way a UTF-8 string is. `fromUtf8Lossy` reads any
octets: each maximal beginning of a sequence that cannot be completed becomes
one replacement character, and what was written from a text is read back as
that text. `find` and `slice` speak of octet offsets, and a slice whose bounds
are no character boundaries is an error.
-/

import Mathlib.Tactic.Ring
import SiphonSmpp.Lib.Markers

namespace Utf8

/-! ### Reading octets -/

/-- The character that stands for octets that are no character. -/
def replacement : Char := Char.ofNat 0xFFFD

/-- The beginning of a sequence of octets: how many octets are needed after the next one, the
bits so far, and the bounds of the next octet. Whatever octets follow within the bounds, the
character they complete is a scalar value above the ASCII range. -/
structure Pending where
  needed : Nat
  code : Nat
  lower : Nat
  upper : Nat
  continues : 0x80 ≤ lower ∧ upper ≤ 0xBF
  scalar : 0x80 ≤ (code * 64 + (lower - 0x80)) * 64 ^ needed ∧
    ((code * 64 + (upper - 0x80) + 1) * 64 ^ needed ≤ 0xD800 ∨
      (0xE000 ≤ (code * 64 + (lower - 0x80)) * 64 ^ needed ∧
        (code * 64 + (upper - 0x80) + 1) * 64 ^ needed ≤ 0x110000))

/-- Read an octet that starts a sequence: the characters it completes, and what it begins. -/
def lead (octet : UInt8) : List Char × Option Pending :=
  let value := octet.toNat
  if value < 0x80 then ([Char.ofNat value], none)
  else if two : 0xC2 ≤ value ∧ value ≤ 0xDF then
    ([], some ⟨0, value - 0xC0, 0x80, 0xBF, by decide, by omega⟩)
  else if value = 0xE0 then ([], some ⟨1, 0x0, 0xA0, 0xBF, by decide, by decide⟩)
  else if low : 0xE1 ≤ value ∧ value ≤ 0xEC then
    ([], some ⟨1, value - 0xE0, 0x80, 0xBF, by decide, by omega⟩)
  else if value = 0xED then ([], some ⟨1, 0xD, 0x80, 0x9F, by decide, by decide⟩)
  else if high : 0xEE ≤ value ∧ value ≤ 0xEF then
    ([], some ⟨1, value - 0xE0, 0x80, 0xBF, by decide, by omega⟩)
  else if value = 0xF0 then ([], some ⟨2, 0x0, 0x90, 0xBF, by decide, by decide⟩)
  else if four : 0xF1 ≤ value ∧ value ≤ 0xF3 then
    ([], some ⟨2, value - 0xF0, 0x80, 0xBF, by decide, by omega⟩)
  else if value = 0xF4 then ([], some ⟨2, 0x4, 0x80, 0x8F, by decide, by decide⟩)
  else ([replacement], none)

/-- An octet within the bounds narrows what a begun sequence can complete. -/
theorem Pending.narrowed (pending : Pending) (needed value : Nat)
    (remaining : pending.needed = needed + 1)
    (within : pending.lower ≤ value ∧ value ≤ pending.upper) :
    let code := pending.code * 64 + (value - 0x80)
    0x80 ≤ (code * 64 + (0x80 - 0x80)) * 64 ^ needed ∧
      ((code * 64 + (0xBF - 0x80) + 1) * 64 ^ needed ≤ 0xD800 ∨
        (0xE000 ≤ (code * 64 + (0x80 - 0x80)) * 64 ^ needed ∧
          (code * 64 + (0xBF - 0x80) + 1) * 64 ^ needed ≤ 0x110000)) := by
  intro code
  have bounds := pending.scalar
  rw [remaining] at bounds
  have lowest : (pending.code * 64 + (pending.lower - 0x80)) * 64 ^ (needed + 1) ≤
      (code * 64 + (0x80 - 0x80)) * 64 ^ needed := by
    have more : pending.code * 64 + (pending.lower - 0x80) ≤ code := by omega
    calc (pending.code * 64 + (pending.lower - 0x80)) * 64 ^ (needed + 1)
        ≤ code * 64 ^ (needed + 1) := Nat.mul_le_mul_right _ more
      _ = (code * 64 + (0x80 - 0x80)) * 64 ^ needed := by ring
  have highest : (code * 64 + (0xBF - 0x80) + 1) * 64 ^ needed ≤
      (pending.code * 64 + (pending.upper - 0x80) + 1) * 64 ^ (needed + 1) := by
    have fewer : code + 1 ≤ pending.code * 64 + (pending.upper - 0x80) + 1 := by omega
    calc (code * 64 + (0xBF - 0x80) + 1) * 64 ^ needed
        = (code + 1) * 64 ^ (needed + 1) := by ring
      _ ≤ _ := Nat.mul_le_mul_right _ fewer
  exact ⟨bounds.1.trans lowest, bounds.2.imp highest.trans fun above =>
    ⟨above.1.trans lowest, highest.trans above.2⟩⟩

/-- Read an octet within the bounds of a begun sequence. -/
def Pending.continue (pending : Pending) (octet : UInt8)
    (within : pending.lower ≤ octet.toNat ∧ octet.toNat ≤ pending.upper) :
    List Char × Option Pending :=
  let code := pending.code * 64 + (octet.toNat - 0x80)
  match remaining : pending.needed with
  | 0 => ([Char.ofNat code], none)
  | needed + 1 =>
    ([], some ⟨needed, code, 0x80, 0xBF, by decide, pending.narrowed needed _ remaining within⟩)

/-- Read one octet. -/
def step : Option Pending → UInt8 → List Char × Option Pending
  | none, octet => lead octet
  | some pending, octet =>
    if within : pending.lower ≤ octet.toNat ∧ octet.toNat ≤ pending.upper then
      pending.continue octet within
    else (replacement :: (lead octet).1, (lead octet).2)

/-- What is left at the end: a sequence that was begun is no character. -/
def flush : Option Pending → List Char
  | none => []
  | some _ => [replacement]

def decodeFrom (state : Option Pending) : List UInt8 → List Char
  | [] => flush state
  | octet :: rest => (step state octet).1 ++ decodeFrom (step state octet).2 rest

/-- `String::from_utf8_lossy`. -/
def fromUtf8Lossy (octets : List UInt8) : List Char := decodeFrom none octets

theorem lead_ascii (octet : UInt8) (ascii : octet.toNat < 0x80) :
    lead octet = ([Char.ofNat octet.toNat], none) := by
  rw [lead]
  exact if_pos ascii

/-- An ASCII octet ends whatever was begun and stands for itself. -/
theorem step_ascii (state : Option Pending) (octet : UInt8) (ascii : octet.toNat < 0x80) :
    step state octet = (flush state ++ [Char.ofNat octet.toNat], none) := by
  cases state with
  | none => exact lead_ascii octet ascii
  | some pending =>
    have outside : ¬ (pending.lower ≤ octet.toNat ∧ octet.toNat ≤ pending.upper) := by
      have := pending.continues
      omega
    rw [step, dif_neg outside, lead_ascii octet ascii]
    rfl

theorem decodeFrom_ascii (state : Option Pending) (octet : UInt8) (ascii : octet.toNat < 0x80)
    (rest : List UInt8) :
    decodeFrom state (octet :: rest) =
      flush state ++ Char.ofNat octet.toNat :: decodeFrom none rest := by
  rw [decodeFrom, step_ascii state octet ascii, List.append_assoc, List.singleton_append]

/-- Octets are read apart from those after an ASCII octet. -/
theorem fromUtf8Lossy_append_ascii (front rest : List UInt8) (octet : UInt8)
    (ascii : octet.toNat < 0x80) :
    fromUtf8Lossy (front ++ octet :: rest) =
      fromUtf8Lossy front ++ Char.ofNat octet.toNat :: fromUtf8Lossy rest := by
  have general : ∀ state, decodeFrom state (front ++ octet :: rest) =
      decodeFrom state front ++ Char.ofNat octet.toNat :: decodeFrom none rest := by
    induction front with
    | nil => exact fun state => decodeFrom_ascii state octet ascii rest
    | cons head tail inductionHypothesis =>
      intro state
      rw [List.cons_append, decodeFrom, inductionHypothesis, decodeFrom, List.append_assoc]
  exact general none

/-! ### ASCII text among octets -/

/-- The octets of an ASCII text. -/
def asciiOctets (text : List Char) : List UInt8 := text.map fun character => .ofNat character.toNat

/-- `u8::to_ascii_lowercase`. -/
def toAsciiLowercase (octet : UInt8) : UInt8 :=
  if 65 ≤ octet.toNat ∧ octet.toNat ≤ 90 then octet + 32 else octet

theorem replacement_above : 0x80 ≤ replacement.toNat := by decide

theorem toNat_ofNat_of_scalar (code : Nat)
    (scalar : code < 0xD800 ∨ (0xE000 ≤ code ∧ code < 0x110000)) :
    (Char.ofNat code).toNat = code := by
  have valid : code.isValidChar := by
    rcases scalar with low | ⟨above, below⟩
    · exact Or.inl low
    · exact Or.inr ⟨by omega, below⟩
  rw [Char.ofNat, dif_pos valid]
  rfl

/-- The character a sequence completes is no ASCII character. -/
theorem Pending.continue_above (pending : Pending) (octet : UInt8)
    (within : pending.lower ≤ octet.toNat ∧ octet.toNat ≤ pending.upper) :
    (∃ character, 0x80 ≤ character.toNat ∧ pending.continue octet within = ([character], none)) ∨
      ∃ next, pending.continue octet within = ([], some next) := by
  have bounds := pending.scalar
  unfold Pending.continue
  split
  · rename_i remaining
    rw [remaining, pow_zero, Nat.mul_one, Nat.mul_one] at bounds
    refine Or.inl ⟨_, ?_, rfl⟩
    rw [toNat_ofNat_of_scalar]
    · omega
    · omega
  · exact Or.inr ⟨_, rfl⟩

theorem lead_above (octet : UInt8) (above : 0x80 ≤ octet.toNat) :
    lead octet = ([replacement], none) ∨ ∃ next, lead octet = ([], some next) := by
  unfold lead
  dsimp only
  rw [if_neg (not_lt.mpr above)]
  repeat' split
  all_goals first | exact Or.inr ⟨_, rfl⟩ | exact Or.inl rfl

/-- Octets above the ASCII range complete characters above it only. -/
theorem step_above (state : Option Pending) (octet : UInt8) (above : 0x80 ≤ octet.toNat) :
    ∀ character ∈ (step state octet).1, 0x80 ≤ character.toNat := by
  have begun : ∀ character ∈ (lead octet).1, 0x80 ≤ character.toNat := by
    rcases lead_above octet above with same | ⟨next, same⟩
    · rw [same]
      exact List.forall_mem_singleton.mpr replacement_above
    · rw [same]
      exact fun _ member => nomatch member
  cases state with
  | none => exact begun
  | some pending =>
    rw [step]
    split
    · rename_i within
      rcases pending.continue_above octet within with ⟨character, high, same⟩ | ⟨next, same⟩
      · rw [same]
        exact List.forall_mem_singleton.mpr high
      · rw [same]
        exact fun _ member => nomatch member
    · exact List.forall_mem_cons.mpr ⟨replacement_above, begun⟩

theorem flush_above (state : Option Pending) :
    ∀ character ∈ flush state, 0x80 ≤ character.toNat := by
  cases state with
  | none => exact fun _ member => nomatch member
  | some pending => exact List.forall_mem_singleton.mpr replacement_above

/-- What was begun is read as a character above the ASCII range first. -/
theorem decodeFrom_some_head (pending : Pending) (octets : List UInt8) :
    ∃ character rest, decodeFrom (some pending) octets = character :: rest ∧
      0x80 ≤ character.toNat := by
  induction octets generalizing pending with
  | nil => exact ⟨replacement, [], rfl, replacement_above⟩
  | cons octet rest inductionHypothesis =>
    rw [decodeFrom, step]
    split
    · rename_i within
      rcases pending.continue_above octet within with ⟨character, high, same⟩ | ⟨next, same⟩
      · rw [same]
        exact ⟨character, _, rfl, high⟩
      · rw [same]
        exact inductionHypothesis next
    · exact ⟨replacement, _, rfl, replacement_above⟩

/-- So is an octet above it. -/
theorem decodeFrom_none_head (octet : UInt8) (above : 0x80 ≤ octet.toNat) (rest : List UInt8) :
    ∃ character more, decodeFrom none (octet :: rest) = character :: more ∧
      0x80 ≤ character.toNat := by
  rw [decodeFrom, step]
  rcases lead_above octet above with same | ⟨next, same⟩
  · rw [same]
    exact ⟨replacement, _, rfl, replacement_above⟩
  · rw [same]
    exact decodeFrom_some_head next rest

section Ascii

variable {marker : List Char} (ascii : ∀ character ∈ marker, character.toNat < 0x80)

include ascii

/-- Characters above the ASCII range hide no ASCII text and are part of none. -/
theorem infix_append_above (nonempty : marker ≠ []) (front rest : List Char)
    (above : ∀ character ∈ front, 0x80 ≤ character.toNat) :
    marker <:+: front ++ rest ↔ marker <:+: rest := by
  induction front with
  | nil => rfl
  | cons character tail inductionHypothesis =>
    rw [List.forall_mem_cons] at above
    have notHere : ¬ marker <+: character :: (tail ++ rest) := by
      intro starts
      obtain ⟨head, others, rfl⟩ := List.exists_cons_of_ne_nil nonempty
      have same := (List.cons_prefix_cons.mp starts).1
      exact absurd (ascii head List.mem_cons_self) (not_lt.mpr (same ▸ above.1))
    rw [List.cons_append, List.infix_cons_iff, inductionHypothesis above.2]
    exact or_iff_right notHere

theorem ascii_prefix_iff (octets : List UInt8) :
    marker <+: decodeFrom none octets ↔ asciiOctets marker <+: octets := by
  induction marker generalizing octets with
  | nil => exact ⟨fun _ => List.nil_prefix, fun _ => List.nil_prefix⟩
  | cons character others inductionHypothesis =>
    rw [List.forall_mem_cons] at ascii
    have small : (UInt8.ofNat character.toNat).toNat = character.toNat :=
      Nat.mod_eq_of_lt (ascii.1.trans (by decide))
    cases octets with
    | nil =>
      constructor
      · intro starts
        cases List.prefix_nil.mp starts
      · intro starts
        cases List.prefix_nil.mp starts
    | cons octet rest =>
      rw [show asciiOctets (character :: others) = .ofNat character.toNat :: asciiOctets others
        from rfl, List.cons_prefix_cons]
      by_cases above : 0x80 ≤ octet.toNat
      · obtain ⟨first, more, same, high⟩ := decodeFrom_none_head octet above rest
        rw [same, List.cons_prefix_cons]
        constructor
        · rintro ⟨rfl, _⟩
          exact absurd ascii.1 (not_lt.mpr high)
        · rintro ⟨rfl, _⟩
          rw [small] at above
          exact absurd ascii.1 (not_lt.mpr above)
      · have low : octet.toNat < 0x80 := not_le.mp above
        rw [decodeFrom_ascii none octet low rest]
        show character :: others <+: Char.ofNat octet.toNat :: decodeFrom none rest ↔ _
        rw [List.cons_prefix_cons, inductionHypothesis ascii.2]
        refine and_congr_left fun _ => ⟨?_, ?_⟩
        · rintro rfl
          rw [toNat_ofNat_of_scalar _ (Or.inl (low.trans (by decide)))]
          exact UInt8.ofNat_toNat
        · rintro rfl
          rw [small]
          exact (Char.ofNat_toNat character).symm

/-- An ASCII text is found in what was read exactly when its octets are there. -/
theorem ascii_infix_iff (nonempty : marker ≠ []) (octets : List UInt8) :
    marker <:+: fromUtf8Lossy octets ↔ asciiOctets marker <:+: octets := by
  have general : ∀ state, marker <:+: decodeFrom state octets ↔ asciiOctets marker <:+: octets := by
    induction octets with
    | nil =>
      intro state
      have skipped := infix_append_above ascii nonempty (flush state) [] (flush_above state)
      rw [List.append_nil] at skipped
      rw [decodeFrom, skipped, List.infix_nil, List.infix_nil, asciiOctets, List.map_eq_nil_iff]
    | cons octet rest inductionHypothesis =>
      intro state
      by_cases above : 0x80 ≤ octet.toNat
      · rw [decodeFrom, infix_append_above ascii nonempty _ _ (step_above state octet above),
          inductionHypothesis, List.infix_cons_iff]
        refine (or_iff_right fun starts => ?_).symm
        obtain ⟨first, more, same, high⟩ := decodeFrom_none_head octet above rest
        have stands := (ascii_prefix_iff ascii (octet :: rest)).mpr starts
        obtain ⟨head, others, rfl⟩ := List.exists_cons_of_ne_nil nonempty
        rw [same, List.cons_prefix_cons] at stands
        exact absurd (ascii head List.mem_cons_self) (not_lt.mpr (stands.1 ▸ high))
      · have low : octet.toNat < 0x80 := not_le.mp above
        have here := ascii_prefix_iff ascii (octet :: rest)
        rw [decodeFrom_ascii none octet low rest] at here
        rw [decodeFrom_ascii state octet low rest,
          infix_append_above ascii nonempty _ _ (flush_above state), List.infix_cons_iff,
          List.infix_cons_iff, inductionHypothesis, ← here]
        rfl
  exact general none

end Ascii

/-- An ASCII text is read as itself, apart from the octets around it. -/
theorem fromUtf8Lossy_append_asciiOctets (marker : List Char)
    (ascii : ∀ character ∈ marker, character.toNat < 0x80) (nonempty : marker ≠ [])
    (front rest : List UInt8) :
    fromUtf8Lossy (front ++ asciiOctets marker ++ rest) =
      fromUtf8Lossy front ++ marker ++ fromUtf8Lossy rest := by
  induction marker generalizing front with
  | nil => exact absurd rfl nonempty
  | cons character others inductionHypothesis =>
    rw [List.forall_mem_cons] at ascii
    have small : (UInt8.ofNat character.toNat).toNat = character.toNat :=
      Nat.mod_eq_of_lt (ascii.1.trans (by decide))
    have first : ∀ more, fromUtf8Lossy (front ++ .ofNat character.toNat :: more) =
        fromUtf8Lossy front ++ character :: fromUtf8Lossy more := by
      intro more
      rw [fromUtf8Lossy_append_ascii front more _ (small.trans_lt ascii.1), small,
        Char.ofNat_toNat]
    have split : front ++ asciiOctets (character :: others) ++ rest =
        front ++ .ofNat character.toNat :: (asciiOctets others ++ rest) := by
      rw [List.append_assoc]
      rfl
    rw [split, first, List.append_assoc, List.cons_append]
    cases others with
    | nil => rfl
    | cons next more =>
      rw [← List.nil_append (asciiOctets (next :: more)),
        inductionHypothesis ascii.2 (List.cons_ne_nil _ _) []]
      rfl

theorem toAsciiLowercase_above (octet : UInt8) (above : 0x80 ≤ octet.toNat) :
    toAsciiLowercase octet = octet := by
  rw [toAsciiLowercase, if_neg]
  omega

theorem toAsciiLowercase_ascii (octet : UInt8) (ascii : octet.toNat < 0x80) :
    (toAsciiLowercase octet).toNat < 0x80 ∧
      Char.ofNat (toAsciiLowercase octet).toNat = (Char.ofNat octet.toNat).toLower := by
  have table : ∀ value < 0x80, (toAsciiLowercase (.ofNat value)).toNat < 0x80 ∧
      Char.ofNat (toAsciiLowercase (.ofNat value)).toNat = (Char.ofNat value).toLower := by
    decide
  have entry := table octet.toNat ascii
  rwa [UInt8.ofNat_toNat] at entry

theorem toLower_of_not_upper {character : Char}
    (other : ¬ (character.val ≥ 'A'.val ∧ character.val ≤ 'Z'.val)) :
    character.toLower = character :=
  dif_neg other

theorem toLower_val_of_upper {character : Char}
    (upper : character.val ≥ 'A'.val ∧ character.val ≤ 'Z'.val) :
    character.toLower.val = character.val + ('a'.val - 'A'.val) :=
  congrArg Char.val (dif_pos upper)

theorem toLower_above (character : Char) (above : 0x80 ≤ character.toNat) :
    character.toLower = character := by
  refine toLower_of_not_upper ?_
  rintro ⟨_, upper⟩
  have small : character.toNat ≤ 90 := UInt32.le_iff_toNat_le.mp upper
  omega

theorem map_toLower_above (text : List Char) (above : ∀ character ∈ text, 0x80 ≤ character.toNat) :
    text.map Char.toLower = text := by
  have same : text.map Char.toLower = text.map id :=
    List.map_congr_left fun character member => toLower_above character (above character member)
  rw [same, List.map_id]

/-- Lower-casing the octets lower-cases the text. -/
theorem fromUtf8Lossy_lowercase (octets : List UInt8) :
    fromUtf8Lossy (octets.map toAsciiLowercase) = (fromUtf8Lossy octets).map Char.toLower := by
  have general : ∀ state, decodeFrom state (octets.map toAsciiLowercase) =
      (decodeFrom state octets).map Char.toLower := by
    induction octets with
    | nil => exact fun state => (map_toLower_above _ (flush_above state)).symm
    | cons octet rest inductionHypothesis =>
      intro state
      rw [List.map_cons]
      by_cases above : 0x80 ≤ octet.toNat
      · rw [toAsciiLowercase_above octet above, decodeFrom, decodeFrom, inductionHypothesis,
          List.map_append, map_toLower_above _ (step_above state octet above)]
      · have low : octet.toNat < 0x80 := not_le.mp above
        obtain ⟨lowered, same⟩ := toAsciiLowercase_ascii octet low
        rw [decodeFrom_ascii state _ lowered, decodeFrom_ascii state octet low, same,
          inductionHypothesis, List.map_append, List.map_cons,
          map_toLower_above _ (flush_above state)]
  exact general none

/-! ### Writing octets -/

/-- `str::as_bytes`: the octets of a text. -/
def utf8Octets (text : List Char) : List UInt8 := text.flatMap String.utf8EncodeChar

/-- What a begun sequence is: the octets it needs, its bits and the bounds of the next octet. -/
structure Pending.Is (pending : Pending) (needed code lower upper : Nat) : Prop where
  needed : pending.needed = needed
  code : pending.code = code
  lower : pending.lower = lower
  upper : pending.upper = upper

section Sequence

variable {pending : Pending} {needed code lower upper : Nat} (octet : UInt8)

theorem step_last (begun : pending.Is 0 code lower upper) (notBelow : lower ≤ octet.toNat)
    (notAbove : octet.toNat ≤ upper) :
    step (some pending) octet = ([Char.ofNat (code * 64 + (octet.toNat - 0x80))], none) := by
  have within : pending.lower ≤ octet.toNat ∧ octet.toNat ≤ pending.upper := by
    rw [begun.lower, begun.upper]
    exact ⟨notBelow, notAbove⟩
  rw [step, dif_pos within, ← begun.code]
  unfold Pending.continue
  split
  · rfl
  · rename_i remaining
    rw [begun.needed] at remaining
    cases remaining

theorem step_more (begun : pending.Is (needed + 1) code lower upper)
    (notBelow : lower ≤ octet.toNat) (notAbove : octet.toNat ≤ upper) :
    ∃ next : Pending, step (some pending) octet = ([], some next) ∧
      next.Is needed (code * 64 + (octet.toNat - 0x80)) 0x80 0xBF := by
  have within : pending.lower ≤ octet.toNat ∧ octet.toNat ≤ pending.upper := by
    rw [begun.lower, begun.upper]
    exact ⟨notBelow, notAbove⟩
  rw [step, dif_pos within, ← begun.code]
  unfold Pending.continue
  split
  · rename_i remaining
    rw [begun.needed] at remaining
    cases remaining
  · rename_i remaining
    rw [begun.needed] at remaining
    cases remaining
    exact ⟨_, rfl, rfl, rfl, rfl, rfl⟩

theorem lead_two (notBelow : 0xC2 ≤ octet.toNat) (notAbove : octet.toNat ≤ 0xDF) :
    ∃ next : Pending, step none octet = ([], some next) ∧
      next.Is 0 (octet.toNat - 0xC0) 0x80 0xBF := by
  rw [step]
  unfold lead
  dsimp only
  rw [if_neg (by omega), dif_pos ⟨notBelow, notAbove⟩]
  exact ⟨_, rfl, rfl, rfl, rfl, rfl⟩

theorem lead_three (notBelow : 0xE0 ≤ octet.toNat) (notAbove : octet.toNat ≤ 0xEF) :
    ∃ next : Pending, step none octet = ([], some next) ∧
      next.Is 1 (octet.toNat - 0xE0) (if octet.toNat = 0xE0 then 0xA0 else 0x80)
        (if octet.toNat = 0xED then 0x9F else 0xBF) := by
  rw [step]
  unfold lead
  dsimp only
  rw [if_neg (by omega), dif_neg (by omega)]
  repeat' split
  all_goals first
    | omega
    | exact ⟨_, rfl, rfl, by simp <;> omega, rfl, rfl⟩

theorem lead_four (notBelow : 0xF0 ≤ octet.toNat) (notAbove : octet.toNat ≤ 0xF4) :
    ∃ next : Pending, step none octet = ([], some next) ∧
      next.Is 2 (octet.toNat - 0xF0) (if octet.toNat = 0xF0 then 0x90 else 0x80)
        (if octet.toNat = 0xF4 then 0x8F else 0xBF) := by
  rw [step]
  unfold lead
  dsimp only
  rw [if_neg (by omega), dif_neg (by omega), if_neg (by omega), dif_neg (by omega),
    if_neg (by omega), dif_neg (by omega)]
  repeat' split
  all_goals first
    | omega
    | exact ⟨_, rfl, rfl, by simp <;> omega, rfl, rfl⟩

end Sequence

theorem toNat_ofNat_octet (value : Nat) (small : value < 256) :
    (UInt8.ofNat value).toNat = value := Nat.mod_eq_of_lt small

theorem decodeFrom_step {state next : Option Pending} {octet : UInt8} {characters : List Char}
    (stepped : step state octet = (characters, next)) (rest : List UInt8) :
    decodeFrom state (octet :: rest) = characters ++ decodeFrom next rest := by
  rw [decodeFrom, stepped]

section Encoded

variable (code : Nat) (rest : List UInt8)

theorem decodeFrom_two (above : 0x7F < code) (below : code ≤ 0x7FF) :
    decodeFrom none (.ofNat (code / 64 % 0x20 + 0xc0) :: .ofNat (code % 0x40 + 0x80) :: rest) =
      Char.ofNat code :: decodeFrom none rest := by
  have first := toNat_ofNat_octet (code / 64 % 0x20 + 0xc0) (by omega)
  have second := toNat_ofNat_octet (code % 0x40 + 0x80) (by omega)
  obtain ⟨begun, starts, shape⟩ := lead_two (.ofNat (code / 64 % 0x20 + 0xc0)) (by omega)
    (by omega)
  have ends := step_last (.ofNat (code % 0x40 + 0x80)) shape (by omega) (by omega)
  have whole : (code / 64 % 0x20 + 0xc0 - 0xC0) * 64 + (code % 0x40 + 0x80 - 0x80) = code := by
    omega
  rw [first, second, whole] at ends
  rw [decodeFrom_step starts, decodeFrom_step ends]
  rfl

theorem decodeFrom_three (above : 0x7FF < code) (below : code ≤ 0xFFFF)
    (scalar : code < 0xD800 ∨ 0xDFFF < code) :
    decodeFrom none (.ofNat (code / 4096 % 0x10 + 0xe0) :: .ofNat (code / 64 % 0x40 + 0x80) ::
        .ofNat (code % 0x40 + 0x80) :: rest) =
      Char.ofNat code :: decodeFrom none rest := by
  have first := toNat_ofNat_octet (code / 4096 % 0x10 + 0xe0) (by omega)
  have second := toNat_ofNat_octet (code / 64 % 0x40 + 0x80) (by omega)
  have third := toNat_ofNat_octet (code % 0x40 + 0x80) (by omega)
  obtain ⟨begun, starts, shape⟩ := lead_three (.ofNat (code / 4096 % 0x10 + 0xe0)) (by omega)
    (by omega)
  obtain ⟨more, goes, further⟩ := step_more (.ofNat (code / 64 % 0x40 + 0x80)) shape
    (by split <;> omega) (by split <;> omega)
  have ends := step_last (.ofNat (code % 0x40 + 0x80)) further (by omega) (by omega)
  have whole : ((code / 4096 % 0x10 + 0xe0 - 0xE0) * 64 + (code / 64 % 0x40 + 0x80 - 0x80)) * 64 +
      (code % 0x40 + 0x80 - 0x80) = code := by
    omega
  rw [first, second, third, whole] at ends
  rw [decodeFrom_step starts, decodeFrom_step goes, decodeFrom_step ends]
  rfl

theorem decodeFrom_four (above : 0xFFFF < code) (below : code < 0x110000) :
    decodeFrom none (.ofNat (code / 262144 % 0x08 + 0xf0) :: .ofNat (code / 4096 % 0x40 + 0x80) ::
        .ofNat (code / 64 % 0x40 + 0x80) :: .ofNat (code % 0x40 + 0x80) :: rest) =
      Char.ofNat code :: decodeFrom none rest := by
  have first := toNat_ofNat_octet (code / 262144 % 0x08 + 0xf0) (by omega)
  have second := toNat_ofNat_octet (code / 4096 % 0x40 + 0x80) (by omega)
  have third := toNat_ofNat_octet (code / 64 % 0x40 + 0x80) (by omega)
  have fourth := toNat_ofNat_octet (code % 0x40 + 0x80) (by omega)
  obtain ⟨begun, starts, shape⟩ := lead_four (.ofNat (code / 262144 % 0x08 + 0xf0)) (by omega)
    (by omega)
  obtain ⟨more, goes, further⟩ := step_more (.ofNat (code / 4096 % 0x40 + 0x80)) shape
    (by split <;> omega) (by split <;> omega)
  obtain ⟨less, proceeds, nearly⟩ := step_more (.ofNat (code / 64 % 0x40 + 0x80)) further
    (by omega) (by omega)
  have ends := step_last (.ofNat (code % 0x40 + 0x80)) nearly (by omega) (by omega)
  have whole : (((code / 262144 % 0x08 + 0xf0 - 0xF0) * 64 +
      (code / 4096 % 0x40 + 0x80 - 0x80)) * 64 + (code / 64 % 0x40 + 0x80 - 0x80)) * 64 +
      (code % 0x40 + 0x80 - 0x80) = code := by
    omega
  rw [first, second, third, fourth, whole] at ends
  rw [decodeFrom_step starts, decodeFrom_step goes, decodeFrom_step proceeds,
    decodeFrom_step ends]
  rfl

end Encoded

/-- The octets of a character are read as that character. -/
theorem decodeFrom_utf8EncodeChar (character : Char) (rest : List UInt8) :
    decodeFrom none (String.utf8EncodeChar character ++ rest) =
      character :: decodeFrom none rest := by
  have scalar : character.val.toNat < 0xD800 ∨
      (0xDFFF < character.val.toNat ∧ character.val.toNat < 0x110000) := character.valid
  have same : Char.ofNat character.val.toNat = character := Char.ofNat_toNat character
  unfold String.utf8EncodeChar
  dsimp only
  repeat' split
  · have small := toNat_ofNat_octet character.val.toNat (by omega)
    rw [List.cons_append, List.nil_append, decodeFrom_ascii none _ (by omega), small, same]
    rfl
  · rename_i above two
    exact (decodeFrom_two _ rest (by omega) two).trans (by rw [same])
  · rename_i above two three
    exact (decodeFrom_three _ rest (by omega) three (by omega)).trans (by rw [same])
  · rename_i above two three
    exact (decodeFrom_four _ rest (by omega) (by omega)).trans (by rw [same])

/-- A text is read back from its octets. -/
theorem fromUtf8Lossy_utf8Octets (text : List Char) : fromUtf8Lossy (utf8Octets text) = text := by
  induction text with
  | nil => rfl
  | cons character rest inductionHypothesis =>
    show decodeFrom none (String.utf8EncodeChar character ++ utf8Octets rest) = _
    rw [decodeFrom_utf8EncodeChar]
    exact congrArg (character :: ·) inductionHypothesis

/-! ### Octet offsets -/

/-- The number of octets of a text (`str::len`). -/
def byteLength (text : List Char) : Nat := (text.map Char.utf8Size).sum

/-- `str::find`: the offset of the first occurrence. -/
def find (needle text : List Char) : Option Nat := (Markers.before? needle text).map byteLength

inductive SliceError where
  | outOfBounds
  | reversed
  | notCharBoundary
  deriving DecidableEq, Repr

/-- Split a text at an offset that is a character boundary. -/
def splitAtByte : List Char → Nat → Option (List Char × List Char)
  | text, 0 => some ([], text)
  | [], _ + 1 => none
  | character :: rest, offset + 1 =>
      if character.utf8Size ≤ offset + 1 then
        (splitAtByte rest (offset + 1 - character.utf8Size)).map fun parts =>
          (character :: parts.1, parts.2)
      else none

/-- Indexing a `str` with a range of offsets. -/
def slice (text : List Char) (first last : Nat) : Except SliceError (List Char) :=
  if byteLength text < first ∨ byteLength text < last then .error .outOfBounds
  else if last < first then .error .reversed
  else match splitAtByte text last with
    | none => .error .notCharBoundary
    | some (upTo, _) =>
      match splitAtByte upTo first with
      | none => .error .notCharBoundary
      | some (_, piece) => .ok piece

@[simp] theorem byteLength_nil : byteLength [] = 0 := rfl

@[simp] theorem byteLength_cons (character : Char) (rest : List Char) :
    byteLength (character :: rest) = character.utf8Size + byteLength rest := by
  rw [byteLength, List.map_cons, List.sum_cons, byteLength]

@[simp] theorem byteLength_append (front rest : List Char) :
    byteLength (front ++ rest) = byteLength front + byteLength rest := by
  rw [byteLength, List.map_append, List.sum_append, byteLength, byteLength]

theorem utf8Size_toLower (character : Char) : character.toLower.utf8Size = character.utf8Size := by
  by_cases upper : character.val ≥ 'A'.val ∧ character.val ≤ 'Z'.val
  · have small : character.val.toNat ≤ 90 := UInt32.le_iff_toNat_le.mp upper.2
    have lower : character.val ≤ 0x7F := UInt32.le_iff_toNat_le.mpr (small.trans (by decide))
    have shifted : character.val + ('a'.val - 'A'.val) ≤ 0x7F := by
      rw [UInt32.le_iff_toNat_le, UInt32.toNat_add]
      show (character.val.toNat + 32) % 2 ^ 32 ≤ 127
      omega
    rw [← toLower_val_of_upper upper] at shifted
    exact (if_pos shifted).trans (if_pos lower).symm
  · rw [toLower_of_not_upper upper]

@[simp] theorem byteLength_map_toLower (text : List Char) :
    byteLength (text.map Char.toLower) = byteLength text := by
  rw [byteLength, List.map_map, byteLength]
  exact congrArg List.sum (List.map_congr_left fun character _ => utf8Size_toLower character)

/-- Offsets are ordered as the characters they stand before. -/
theorem byteLength_take_le_iff (text : List Char) (first second : Nat)
    (boundFirst : first ≤ text.length) (boundSecond : second ≤ text.length) :
    byteLength (text.take first) ≤ byteLength (text.take second) ↔ first ≤ second := by
  induction text generalizing first second with
  | nil =>
    rw [Nat.le_zero.mp boundFirst, Nat.le_zero.mp boundSecond]
    exact ⟨fun _ => le_rfl, fun _ => le_rfl⟩
  | cons character rest inductionHypothesis =>
    have positive := character.utf8Size_pos
    rcases first with _ | first
    · simp
    · rcases second with _ | second
      · simp only [List.take_succ_cons, List.take_zero, byteLength_cons, byteLength_nil]
        omega
      · simp only [List.take_succ_cons, byteLength_cons]
        have shorter := inductionHypothesis first second (Nat.le_of_succ_le_succ boundFirst)
          (Nat.le_of_succ_le_succ boundSecond)
        omega

/-- The end of a text's beginning is a character boundary. -/
theorem splitAtByte_append (front rest : List Char) :
    splitAtByte (front ++ rest) (byteLength front) = some (front, rest) := by
  induction front with
  | nil => cases rest <;> rfl
  | cons character tail inductionHypothesis =>
    have positive := character.utf8Size_pos
    rw [byteLength_cons, List.cons_append]
    obtain ⟨offset, same⟩ : ∃ offset, character.utf8Size + byteLength tail = offset + 1 :=
      ⟨character.utf8Size + byteLength tail - 1, by omega⟩
    rw [same, splitAtByte, if_pos (by omega), ← same, Nat.add_sub_cancel_left,
      inductionHypothesis]
    rfl

/-- A piece of a text is what its offsets slice out. -/
theorem slice_append (front piece rest : List Char) :
    slice (front ++ piece ++ rest) (byteLength front) (byteLength (front ++ piece)) =
      .ok piece := by
  have bounds : ¬ (byteLength (front ++ piece ++ rest) < byteLength front ∨
      byteLength (front ++ piece ++ rest) < byteLength (front ++ piece)) := by
    simp only [byteLength_append]
    omega
  have ordered : ¬ byteLength (front ++ piece) < byteLength front := by
    rw [byteLength_append]
    omega
  rw [slice, if_neg bounds, if_neg ordered, splitAtByte_append]
  dsimp only
  rw [splitAtByte_append]

/-- The offsets of two characters slice out the characters between them. -/
theorem slice_take (text : List Char) (first last : Nat) (ordered : first ≤ last) :
    slice text (byteLength (text.take first)) (byteLength (text.take last)) =
      .ok ((text.take last).drop first) := by
  have front : text.take first ++ (text.take last).drop first = text.take last := by
    rw [← Nat.min_eq_left ordered, ← List.take_take, Nat.min_eq_left ordered]
    exact List.take_append_drop first (text.take last)
  have whole := slice_append (text.take first) ((text.take last).drop first) (text.drop last)
  rwa [front, List.take_append_drop] at whole

end Utf8
