/-
This file develops big-endian numbers of a fixed width: the octets of a number,
and the number some octets read as. Cutting the leading octets off leaves the
octets of the smaller width, so a number that fits the smaller width is still
the one they read as.
-/

import Mathlib.Data.Nat.Digits.Defs

namespace BigEndian

/-- The number that octets read as, the most significant first. -/
def value (octets : List UInt8) : Nat :=
  Nat.ofDigits 256 (octets.map UInt8.toNat).reverse

/-- The low octets of a number, the most significant first. -/
def ofNat (width number : Nat) : List UInt8 :=
  (List.range width).reverse.map fun index => UInt8.ofNat (number >>> (8 * index))

theorem value_cons (octet : UInt8) (octets : List UInt8) :
    value (octet :: octets) = value octets + 256 ^ octets.length * octet.toNat := by
  rw [value, List.map_cons, List.reverse_cons, Nat.ofDigits_append, Nat.ofDigits_singleton,
    List.length_reverse, List.length_map]
  rfl

theorem ofNat_succ (width number : Nat) :
    ofNat (width + 1) number = UInt8.ofNat (number >>> (8 * width)) :: ofNat width number := by
  rw [ofNat, List.range_succ, List.reverse_append]
  rfl

theorem length_ofNat (width number : Nat) : (ofNat width number).length = width := by
  rw [ofNat, List.length_map, List.length_reverse, List.length_range]

/-- The octets of a width read as the number up to that width. -/
theorem value_ofNat (width number : Nat) : value (ofNat width number) = number % 256 ^ width := by
  induction width with
  | zero =>
    rw [pow_zero, Nat.mod_one]
    rfl
  | succ width inductionHypothesis =>
    have radix : 2 ^ (8 * width) = 256 ^ width := pow_mul 2 8 width
    have leading : (UInt8.ofNat (number >>> (8 * width))).toNat = number / 256 ^ width % 256 := by
      rw [UInt8.toNat_ofNat', Nat.shiftRight_eq_div_pow, radix]
    rw [ofNat_succ, value_cons, inductionHypothesis, length_ofNat, leading]
    exact Nat.mod_pow_succ.symm

/-- Without its leading octets a number keeps those of the smaller width. -/
theorem drop_ofNat (width more number : Nat) :
    (ofNat (width + more) number).drop more = ofNat width number := by
  induction more with
  | zero => rfl
  | succ more inductionHypothesis =>
    rw [← Nat.add_assoc, ofNat_succ, List.drop_succ_cons, inductionHypothesis]

end BigEndian
