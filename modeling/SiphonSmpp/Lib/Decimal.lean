/-
This file is a small library for unsigned decimal numbers in text. `parseUnsigned`
reads one into a type of bounded values the way Rust's `str::parse` does: an
optional plus sign, at least one digit, and an error as soon as the bound is
passed. `numberOf` is the number that stands there, however large. The parser
succeeds exactly when there is a number and it is below the bound, and then with
that number.
-/

import Mathlib.Data.List.Basic

namespace Decimal

/-! ### Parsing -/

/-- Why a text is no number of the type. -/
inductive IntErrorKind where
  | empty
  | invalidDigit
  | posOverflow
  deriving DecidableEq, Repr

/-- Read digits after a number read so far. -/
def parseDigits (bound sofar : Nat) : List Char → Except IntErrorKind Nat
  | [] => .ok sofar
  | character :: rest =>
    if character.isDigit then
      let value := 10 * sofar + (character.toNat - '0'.toNat)
      if value < bound then parseDigits bound value rest else .error .posOverflow
    else .error .invalidDigit

/-- `str::parse` for an unsigned type whose values are below the bound. -/
def parseUnsigned (bound : Nat) : List Char → Except IntErrorKind Nat
  | [] => .error .empty
  | '+' :: digits => if digits = [] then .error .invalidDigit else parseDigits bound 0 digits
  | text => parseDigits bound 0 text

/-! ### The number that stands in a text -/

/-- The number some digits stand for. -/
def ofDigits (digits : List Char) : Option Nat :=
  if digits ≠ [] ∧ digits.all Char.isDigit then some (Nat.ofDigitChars 10 digits 0) else none

/-- The number a text stands for. -/
def numberOf : List Char → Option Nat
  | '+' :: digits => ofDigits digits
  | text => ofDigits text

theorem le_ofDigitChars (digits : List Char) (sofar : Nat) :
    sofar ≤ Nat.ofDigitChars 10 digits sofar := by
  rw [Nat.ofDigitChars_eq_ofDigitChars_zero]
  have scale : 1 ≤ 10 ^ digits.length := Nat.one_le_pow _ _ (by decide)
  calc sofar = 1 * sofar := (Nat.one_mul sofar).symm
    _ ≤ 10 ^ digits.length * sofar := Nat.mul_le_mul_right _ scale
    _ ≤ _ := Nat.le_add_right _ _

theorem parseDigits_eq_ok_iff (bound sofar : Nat) (digits : List Char) (value : Nat)
    (small : sofar < bound) :
    parseDigits bound sofar digits = .ok value ↔
      digits.all Char.isDigit = true ∧ Nat.ofDigitChars 10 digits sofar = value ∧
        value < bound := by
  induction digits generalizing sofar with
  | nil =>
    rw [parseDigits, Except.ok.injEq, Nat.ofDigitChars_nil]
    constructor
    · rintro rfl
      exact ⟨rfl, rfl, small⟩
    · exact fun read => read.2.1
  | cons character rest inductionHypothesis =>
    rw [parseDigits, Nat.ofDigitChars_cons, List.all_cons, Bool.and_eq_true]
    dsimp only
    split
    · rename_i digit
      split
      · rename_i below
        rw [inductionHypothesis _ below]
        simp only [digit, true_and]
      · rename_i above
        refine iff_of_false nofun fun read => ?_
        have grown := le_ofDigitChars rest (10 * sofar + (character.toNat - '0'.toNat))
        rw [read.2.1] at grown
        exact above (Nat.lt_of_le_of_lt grown read.2.2)
    · rename_i other
      exact iff_of_false nofun fun read => other read.1.1

theorem ofDigits_eq_some_iff (digits : List Char) (value : Nat) :
    ofDigits digits = some value ↔
      digits ≠ [] ∧ digits.all Char.isDigit = true ∧ Nat.ofDigitChars 10 digits 0 = value := by
  rw [ofDigits, Option.ite_none_right_eq_some, Option.some.injEq, and_assoc]

/-- The parser reads the number that stands there, when it fits. -/
theorem parseUnsigned_eq_ok_iff (bound : Nat) (positive : 0 < bound) (text : List Char)
    (value : Nat) :
    parseUnsigned bound text = .ok value ↔ numberOf text = some value ∧ value < bound := by
  have digitsRead : ∀ digits : List Char, digits ≠ [] →
      (parseDigits bound 0 digits = .ok value ↔ ofDigits digits = some value ∧ value < bound) := by
    intro digits some
    rw [parseDigits_eq_ok_iff bound 0 digits value positive, ofDigits_eq_some_iff]
    exact ⟨fun read => ⟨⟨some, read.1, read.2.1⟩, read.2.2⟩,
      fun read => ⟨read.1.2.1, read.1.2.2, read.2⟩⟩
  unfold parseUnsigned
  split
  · exact iff_of_false nofun fun read => nomatch read.1
  · rename_i digits
    split
    · rename_i none
      rw [none]
      exact iff_of_false nofun fun read => nomatch read.1
    · rename_i some
      exact digitsRead digits some
  · rename_i some signed
    have unsigned : numberOf text = ofDigits text := by
      unfold numberOf
      split
      · exact absurd rfl (signed _)
      · rfl
    rw [unsigned]
    exact digitsRead text some

/-- The decimal digits of a number stand for it. -/
theorem numberOf_toDigits (value : Nat) : numberOf (Nat.toDigits 10 value) = some value := by
  have digits : ∀ character ∈ Nat.toDigits 10 value, character.isDigit = true :=
    fun character member => Nat.isDigit_of_mem_toDigits (by decide) (by decide) member
  have read : ofDigits (Nat.toDigits 10 value) = some value :=
    (ofDigits_eq_some_iff _ _).mpr
      ⟨Nat.toDigits_ne_nil, List.all_eq_true.mpr digits, Nat.ofDigitChars_ten_toDigits⟩
  unfold numberOf
  split
  · rename_i rest signed
    have plus := digits '+' (signed ▸ List.mem_cons_self)
    exact absurd plus (by decide)
  · exact read

end Decimal
