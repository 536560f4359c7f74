/-
This file proves that an integer in a `tlvs=` dictionary is encoded at the width
of its tag. `value_to_bytes` reads the integer as a `u64`, compares it with a
mask shifted to the width, and cuts the leading octets off its 8-byte form. The
widths of the table are far below eight octets, so the mask is the largest number
of the width and what is left after the cut is the number itself, whatever the
integer was.
-/

import SiphonSmpp.Lib.BigEndian
import SiphonSmpp.Tlv

namespace SiphonSmpp

/-! ### The width arithmetic -/

/-- The integer a value is to Python, for which a `bool` is 0 or 1. -/
def PyObject.asInt : PyObject → Option Int
  | .int value => some value
  | .bool value => some (if value then 1 else 0)
  | _ => none

theorem intWidths_le (entry : TlvTag × Nat) (listed : entry ∈ intWidths) : entry.2 ≤ 4 := by
  revert entry
  decide

theorem toBeBytes_eq (raw : Nat) : toBeBytes raw = BigEndian.ofNat 8 raw := rfl

/-- Cut to a width, the 8-byte form is the form of that width. -/
theorem toBeBytes_drop (raw width : Nat) (short : width ≤ 8) :
    (toBeBytes raw).drop (8 - width) = BigEndian.ofNat width raw := by
  have whole : width + (8 - width) = 8 := Nat.add_sub_cancel' short
  rw [toBeBytes_eq, ← BigEndian.drop_ofNat width (8 - width), whole]

theorem one_shiftLeft_width (width : Nat) : 1 <<< (width * 8) = 256 ^ width := by
  rw [Nat.one_shiftLeft, Nat.mul_comm]
  exact pow_mul 2 8 width

/-- The words that `value_to_bytes` computes for a width, against the numbers they stand for. -/
structure WidthInRange (width : Nat) : Prop where
  shift : width * 8 < 64
  shifted : ((1 : UInt64) <<< UInt64.ofNat (width * 8)).toNat = 256 ^ width
  mask : ((1 : UInt64) <<< UInt64.ofNat (width * 8) - 1).toNat = 256 ^ width - 1
  start : width ≤ 8
  slice : ∀ raw, 8 - width ≤ (toBeBytes raw).length

theorem widthInRange_of_le {width : Nat} (short : width ≤ 4) : WidthInRange width := by
  have shift : width * 8 < 64 := by omega
  have fits : 256 ^ width < 2 ^ 64 := by
    rw [← one_shiftLeft_width, Nat.one_shiftLeft]
    exact Nat.pow_lt_pow_right (by decide) shift
  have shifted : ((1 : UInt64) <<< UInt64.ofNat (width * 8)).toNat = 256 ^ width := by
    have amount : (UInt64.ofNat (width * 8)).toNat = width * 8 :=
      UInt64.toNat_ofNat_of_lt' (shift.trans (by decide))
    rw [UInt64.toNat_shiftLeft, amount, Nat.mod_eq_of_lt shift, UInt64.toNat_one,
      one_shiftLeft_width, Nat.mod_eq_of_lt fits]
  have positive : 1 ≤ 256 ^ width := Nat.one_le_pow _ _ (by decide)
  refine ⟨shift, shifted, ?_, short.trans (by decide), fun raw => Nat.sub_le _ _⟩
  rw [UInt64.toNat_sub_of_le, shifted]
  · rfl
  · rw [UInt64.le_iff_toNat_le, shifted]
    exact positive

/-! ### The encoding -/

section Encoding

variable [Smpp34]

/-- The width of a tag is the one the table lists for it. -/
theorem intWidth_eq_some {tag : UInt16} {width : Nat} (typed : intWidth tag = some width) :
    ∃ parameter, (parameter, width) ∈ intWidths ∧ Smpp34.tagCode parameter = tag := by
  obtain ⟨entry, found, rfl⟩ := Option.map_eq_some_iff.mp typed
  have coded := List.find?_some found
  exact ⟨entry.1, List.mem_of_find?_eq_some found, beq_iff_eq.mp coded⟩

theorem intWidth_le {tag : UInt16} {width : Nat} (typed : intWidth tag = some width) :
    width ≤ 4 := by
  obtain ⟨parameter, listed, _⟩ := intWidth_eq_some typed
  exact intWidths_le (parameter, width) listed

/-- An integer encodes exactly when its tag has a width that it fits, to the number at that
width. -/
theorem intToBytes_eq_ok_iff (tag : UInt16) (number : Int) (octets : List UInt8) :
    intToBytes tag number = .ok octets ↔
      ∃ width, intWidth tag = some width ∧ 0 ≤ number ∧ number < 256 ^ width ∧
        octets = BigEndian.ofNat width number.toNat := by
  unfold intToBytes
  by_cases word : 0 ≤ number ∧ number < 2 ^ 64
  · rw [if_pos word]
    cases typed : intWidth tag with
    | none => simp
    | some width =>
      have short : width ≤ 4 := intWidth_le typed
      have small : ¬ 8 ≤ width := by omega
      have positive : 1 ≤ 256 ^ width := Nat.one_le_pow _ _ (by decide)
      have bound : number < 256 ^ width ↔ ¬ 256 ^ width - 1 < number.toNat := by
        have cast : ((256 ^ width : Nat) : Int) = 256 ^ width := Nat.cast_pow 256 width
        omega
      simp only [if_neg small, one_shiftLeft_width, toBeBytes_drop _ _ (short.trans (by decide)),
        Option.some.injEq, exists_eq_left', bound, word.1, true_and]
      split
      · rename_i large
        exact iff_of_false nofun fun encoded => encoded.1 large
      · rename_i fits
        rw [Except.ok.injEq, eq_comm]
        exact ⟨fun same => ⟨fits, same⟩, And.right⟩
  · rw [if_neg word]
    refine iff_of_false nofun ?_
    rintro ⟨width, typed, nonneg, fits, _⟩
    have within : (256 : Int) ^ width ≤ 256 ^ 4 :=
      pow_le_pow_right₀ (by decide) (intWidth_le typed)
    exact word ⟨nonneg, by omega⟩

/-- A value that is an integer to Python takes the integer branch. -/
theorem valueToBytes_of_asInt (tag : UInt16) {object : PyObject} {number : Int}
    (isInt : object.asInt = some number) : valueToBytes tag object = intToBytes tag number := by
  cases object with
  | int value =>
    cases isInt
    rfl
  | bool value =>
    cases isInt
    rfl
  | _ => cases isInt

/-- Integers encode exactly at the width of their tag: whatever the integer, it encodes if and
only if the tag has a width and the integer fits it, its octets are as many as the width and read
as the integer, and no other integer encodes to them. The words computed on the way are the numbers
they stand for. -/
theorem integers_encode_at_width :
    (∀ (tag : UInt16) (object : PyObject) (number : Int), object.asInt = some number →
      ((∃ octets, valueToBytes tag object = .ok octets) ↔
        ∃ width, intWidth tag = some width ∧ 0 ≤ number ∧ number < 256 ^ width) ∧
      ∀ octets, valueToBytes tag object = .ok octets →
        intWidth tag = some octets.length ∧ (BigEndian.value octets : Int) = number ∧
        ∀ other otherNumber, other.asInt = some otherNumber →
          valueToBytes tag other = .ok octets → otherNumber = number) ∧
    ∀ entry ∈ intWidths, WidthInRange entry.2 := by
  have reads : ∀ (tag : UInt16) (object : PyObject) (number : Int) octets,
      object.asInt = some number → valueToBytes tag object = .ok octets →
      intWidth tag = some octets.length ∧ (BigEndian.value octets : Int) = number := by
    intro tag object number octets isInt encoded
    rw [valueToBytes_of_asInt tag isInt, intToBytes_eq_ok_iff] at encoded
    obtain ⟨width, typed, nonneg, fits, rfl⟩ := encoded
    have fitsNat : number.toNat < 256 ^ width := by
      have cast : ((256 ^ width : Nat) : Int) = 256 ^ width := Nat.cast_pow 256 width
      omega
    rw [BigEndian.length_ofNat, BigEndian.value_ofNat, Nat.mod_eq_of_lt fitsNat]
    exact ⟨typed, Int.toNat_of_nonneg nonneg⟩
  refine ⟨fun tag object number isInt => ⟨?_, fun octets encoded => ?_⟩,
    fun entry listed => widthInRange_of_le (intWidths_le entry listed)⟩
  · rw [valueToBytes_of_asInt tag isInt]
    constructor
    · rintro ⟨octets, encoded⟩
      obtain ⟨width, typed, nonneg, fits, _⟩ := (intToBytes_eq_ok_iff tag number octets).mp encoded
      exact ⟨width, typed, nonneg, fits⟩
    · rintro ⟨width, typed, nonneg, fits⟩
      exact ⟨_, (intToBytes_eq_ok_iff tag number _).mpr ⟨width, typed, nonneg, fits, rfl⟩⟩
  · obtain ⟨typed, value⟩ := reads tag object number octets isInt encoded
    refine ⟨typed, value, fun other otherNumber otherIsInt otherEncoded => ?_⟩
    rw [← (reads tag other otherNumber octets otherIsInt otherEncoded).2, value]

end Encoding

/-- The largest `sar_msg_ref_num` encodes to its two octets, and the next integer does not. -/
theorem integers_encode_at_width_top :
    letI := storingCodec
    valueToBytes 0x020C (.int 0xFFFF) = .ok [0xFF, 0xFF] ∧
      ¬ ∃ octets, valueToBytes 0x020C (.int 0x10000) = .ok octets := by
  refine ⟨by decide, ?_⟩
  rw [((@integers_encode_at_width storingCodec).1 0x020C (.int 0x10000) 0x10000 rfl).1]
  rintro ⟨width, typed, _, fits⟩
  have two : width = 2 := Option.some.inj (typed.symm.trans (by decide))
  rw [two] at fits
  exact absurd fits (by decide)

end SiphonSmpp
