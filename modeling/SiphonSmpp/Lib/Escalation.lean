/-
This file develops the delay of an exponential backoff. A counter starts at a
base. Each round waits for the counter, or for the base again when the round
resets it, and the delay waited times a factor, up to a cap, is the counter of
the next round.

Where the counter is set back, where it is used and where it grows are three
different points of a round. `delay_add` puts them together: over rounds that
do not reset it the delay is multiplied once a round and capped once at the end.
The closed form, the bounds and the growth all follow from it.
-/

import Mathlib.Algebra.Ring.Nat
import Mathlib.Order.MinMax

namespace Escalation

section Counter

variable (base factor cap : Nat) (resets : Nat → Prop) [DecidablePred resets]

/-- The counter a round begins with. -/
def counter : Nat → Nat
  | 0 => base
  | round + 1 => min ((if resets round then base else counter round) * factor) cap

/-- The delay waited in a round. -/
def delay (round : Nat) : Nat :=
  if resets round then base else counter base factor cap resets round

end Counter

variable {base factor cap : Nat} {resets : Nat → Prop} [DecidablePred resets]

theorem delay_of_reset {round : Nat} (reset : resets round) :
    delay base factor cap resets round = base :=
  if_pos reset

/-- Nothing was waited for before the first round, so it waits for the base either way. -/
theorem delay_zero : delay base factor cap resets 0 = base :=
  ite_self base

theorem delay_succ {round : Nat} (kept : ¬ resets (round + 1)) :
    delay base factor cap resets (round + 1) =
      min (delay base factor cap resets round * factor) cap :=
  if_neg kept

theorem delay_le_cap (within : base ≤ cap) (round : Nat) :
    delay base factor cap resets round ≤ cap := by
  cases round with
  | zero => rwa [delay_zero]
  | succ round =>
    by_cases reset : resets (round + 1)
    · rwa [delay_of_reset reset]
    · rw [delay_succ reset]
      exact min_le_right _ _

/-- Over rounds without a reset the delay is multiplied in each, up to the cap. -/
theorem delay_add (within : base ≤ cap) (grows : 1 ≤ factor) (round rounds : Nat)
    (kept : ∀ other, round < other → other ≤ round + rounds → ¬ resets other) :
    delay base factor cap resets (round + rounds) =
      min cap (delay base factor cap resets round * factor ^ rounds) := by
  induction rounds with
  | zero =>
    rw [pow_zero, mul_one, Nat.add_zero]
    exact (min_eq_right (delay_le_cap within round)).symm
  | succ rounds inductionHypothesis =>
    have earlier := inductionHypothesis fun other after before =>
      kept other after (before.trans (Nat.le_succ _))
    have capped : cap ≤ cap * factor := Nat.le_mul_of_pos_right cap grows
    calc delay base factor cap resets (round + (rounds + 1))
        = min (delay base factor cap resets (round + rounds) * factor) cap :=
          delay_succ (kept _ (Nat.lt_succ_of_le (Nat.le_add_right _ _)) le_rfl)
      _ = min (min cap (delay base factor cap resets round * factor ^ rounds) * factor) cap := by
          rw [earlier]
      _ = min (min (cap * factor) (delay base factor cap resets round * factor ^ rounds * factor))
            cap := by
          rw [Nat.mul_min_mul_right]
      _ = min cap (delay base factor cap resets round * factor ^ (rounds + 1)) := by
          rw [min_comm, ← min_assoc, min_eq_left capped, mul_assoc, ← pow_succ]

/-- Since a reset the delay is the base multiplied once for each round. -/
theorem delay_of_last_reset (within : base ≤ cap) (grows : 1 ≤ factor) {last round : Nat}
    (before : last ≤ round) (reset : resets last)
    (kept : ∀ other, last < other → other ≤ round → ¬ resets other) :
    delay base factor cap resets round = min cap (base * factor ^ (round - last)) := by
  have elapsed : last + (round - last) = round := Nat.add_sub_cancel' before
  have added := delay_add within grows last (round - last) (elapsed.symm ▸ kept)
  rwa [elapsed, delay_of_reset reset] at added

/-- Without a reset it is the base multiplied once for each round so far. -/
theorem delay_of_no_reset (within : base ≤ cap) (grows : 1 ≤ factor) {round : Nat}
    (kept : ∀ other ≤ round, ¬ resets other) :
    delay base factor cap resets round = min cap (base * factor ^ round) := by
  have added : delay base factor cap resets (0 + round) = _ :=
    delay_add within grows 0 round fun other _ before => kept other (by omega)
  rwa [Nat.zero_add, delay_zero] at added

/-- The delay does not decrease over rounds without a reset. -/
theorem delay_mono (within : base ≤ cap) (grows : 1 ≤ factor) {round later : Nat}
    (ordered : round ≤ later) (kept : ∀ other, round < other → other ≤ later → ¬ resets other) :
    delay base factor cap resets round ≤ delay base factor cap resets later := by
  have elapsed : round + (later - round) = later := Nat.add_sub_cancel' ordered
  have added := delay_add within grows round (later - round) (elapsed.symm ▸ kept)
  rw [elapsed] at added
  rw [added]
  exact le_min (delay_le_cap within round) (Nat.le_mul_of_pos_right _ (Nat.pow_pos grows))

theorem base_le_delay (within : base ≤ cap) (grows : 1 ≤ factor) (round : Nat) :
    base ≤ delay base factor cap resets round := by
  induction round with
  | zero => rw [delay_zero]
  | succ round inductionHypothesis =>
    by_cases reset : resets (round + 1)
    · rw [delay_of_reset reset]
    · rw [delay_succ reset]
      exact le_min (inductionHypothesis.trans (Nat.le_mul_of_pos_right _ grows)) within

end Escalation
