/-
This file develops the arrival curve of a token bucket: a bucket of a given
capacity, refilled at a constant rate, admits at an instant exactly what every
window ending there still allows.

A window from `start` to `now` allows the capacity plus what the rate delivers
over its length, less the grants already made inside it. The level of a bucket
is the least allowance over all windows that begin at or after the bucket's
origin. The three rules below say how a level moves: it starts at the capacity,
it rises with time up to the capacity, and it drops by one with each grant. A
lazily refilled counter that follows these three moves therefore stores a
minimum over its whole history, without keeping that history.

The last section is about buckets used one after the other. Each starts full, and
together they stay on one curve when between two of them there is time enough to
fill a bucket.
-/

import Mathlib.Algebra.Order.Field.Basic
import Mathlib.Data.List.Induction
import Mathlib.Order.Bounds.Basic
import Mathlib.Tactic.Linarith
import Mathlib.Tactic.Ring

namespace ArrivalCurve

/-! ### Counting grants in a window -/

section Count

variable {Time : Type} [LinearOrder Time]

/-- The number of grants made at an instant of the window from `start` to `stop`. -/
def grantsWithin (grants : List Time) (start stop : Time) : Nat :=
  grants.countP fun grant => decide (start ≤ grant ∧ grant ≤ stop)

theorem grantsWithin_append (first second : List Time) (start stop : Time) :
    grantsWithin (first ++ second) start stop =
      grantsWithin first start stop + grantsWithin second start stop :=
  List.countP_append

theorem grantsWithin_append_self (grants : List Time) (start now : Time) (ordered : start ≤ now) :
    grantsWithin (grants ++ [now]) start now = grantsWithin grants start now + 1 := by
  simp [grantsWithin, ordered]

/-- Moving the end of a window past the last grant counts nothing new. -/
theorem grantsWithin_extend (grants : List Time) (start now later : Time)
    (past : ∀ grant ∈ grants, grant ≤ now) (ordered : now ≤ later) :
    grantsWithin grants start later = grantsWithin grants start now := by
  refine List.countP_congr fun grant member => ?_
  have early : grant ≤ now := past grant member
  simp only [decide_eq_true_eq, early, early.trans ordered, and_true]

/-- A window that begins after the last grant holds none. -/
theorem grantsWithin_eq_zero (grants : List Time) (start now later : Time)
    (past : ∀ grant ∈ grants, grant ≤ now) (after : now < start) :
    grantsWithin grants start later = 0 := by
  refine List.countP_eq_zero.mpr fun grant member => ?_
  have early : grant < start := lt_of_le_of_lt (past grant member) after
  simp only [decide_eq_true_eq, not_and]
  exact fun inside => absurd inside (not_le.mpr early)

end Count

/-! ### The level of a bucket -/

variable {Time : Type} [Field Time] [LinearOrder Time]

/-- What the window from `start` to `now` still allows at `now`. -/
def allowance (capacity rate : Time) (grants : List Time) (start now : Time) : Time :=
  capacity + rate * (now - start) - grantsWithin grants start now

/-- The level of a bucket is the least allowance over the windows that begin at or after
its origin. -/
def IsLevel (capacity rate origin : Time) (grants : List Time) (now level : Time) : Prop :=
  IsLeast {value | ∃ start, origin ≤ start ∧ start ≤ now ∧
    value = allowance capacity rate grants start now} level

/-- A bucket that granted nothing yet is full at its origin. -/
theorem isLevel_origin (capacity rate origin : Time) :
    IsLevel capacity rate origin [] origin capacity := by
  constructor
  · exact ⟨origin, le_rfl, le_rfl, by simp [allowance, grantsWithin]⟩
  · rintro value ⟨start, early, late, rfl⟩
    have same : start = origin := le_antisymm late early
    simp [allowance, grantsWithin, same]

variable [IsStrictOrderedRing Time]

/-! ### How a level moves -/

/-- A level never exceeds the capacity: the window of length zero allows no more. -/
theorem IsLevel.le_capacity {capacity rate origin now level : Time} {grants : List Time}
    (isLevel : IsLevel capacity rate origin grants now level) (begun : origin ≤ now) :
    level ≤ capacity := by
  have bound : level ≤ allowance capacity rate grants now now :=
    isLevel.2 ⟨now, begun, le_rfl, rfl⟩
  have count : (0 : Time) ≤ grantsWithin grants now now := Nat.cast_nonneg _
  simp only [allowance, sub_self, mul_zero, add_zero] at bound
  linarith

/-- Time passing without a grant raises the level at the rate, up to the capacity. -/
theorem IsLevel.advance {capacity rate origin now level : Time} {grants : List Time}
    (isLevel : IsLevel capacity rate origin grants now level) (begun : origin ≤ now)
    (rateNonneg : 0 ≤ rate) (past : ∀ grant ∈ grants, grant ≤ now) (later : Time)
    (ordered : now ≤ later) :
    IsLevel capacity rate origin grants later (min (level + (later - now) * rate) capacity) := by
  have shift : ∀ start, allowance capacity rate grants start later =
      allowance capacity rate grants start now + (later - now) * rate := by
    intro start
    simp only [allowance, grantsWithin_extend grants start now later past ordered]
    ring
  constructor
  · by_cases full : level + (later - now) * rate ≤ capacity
    · obtain ⟨start, early, late, attained⟩ := isLevel.1
      rw [min_eq_left full]
      exact ⟨start, early, late.trans ordered, by rw [shift, ← attained]⟩
    · have strict : now < later := by
        refine lt_of_le_of_ne ordered fun same => full ?_
        rw [same, sub_self, zero_mul, add_zero]
        exact isLevel.le_capacity begun
      rw [min_eq_right (le_of_not_ge full)]
      refine ⟨later, begun.trans ordered, le_rfl, ?_⟩
      simp [allowance, grantsWithin_eq_zero grants later now later past strict]
  · rintro value ⟨start, early, late, rfl⟩
    by_cases before : start ≤ now
    · have bound : level ≤ allowance capacity rate grants start now :=
        isLevel.2 ⟨start, early, before, rfl⟩
      rw [shift]
      exact (min_le_left _ _).trans (add_le_add bound le_rfl)
    · have gained : 0 ≤ rate * (later - start) :=
        mul_nonneg rateNonneg (sub_nonneg.mpr late)
      refine (min_le_right _ _).trans ?_
      simp only [allowance,
        grantsWithin_eq_zero grants start now later past (not_le.mp before), Nat.cast_zero]
      linarith

/-- A grant lowers the level by one: it lies in every window that ends at its instant. -/
theorem IsLevel.grant {capacity rate origin now level : Time} {grants : List Time}
    (isLevel : IsLevel capacity rate origin grants now level) :
    IsLevel capacity rate origin (grants ++ [now]) now (level - 1) := by
  have spent : ∀ start, start ≤ now → allowance capacity rate (grants ++ [now]) start now =
      allowance capacity rate grants start now - 1 := by
    intro start late
    simp only [allowance, grantsWithin_append_self grants start now late, Nat.cast_add,
      Nat.cast_one]
    ring
  constructor
  · obtain ⟨start, early, late, attained⟩ := isLevel.1
    exact ⟨start, early, late, by rw [spent start late, ← attained]⟩
  · rintro value ⟨start, early, late, rfl⟩
    rw [spent start late]
    exact sub_le_sub_right (isLevel.2 ⟨start, early, late, rfl⟩) 1

/-! ### Reading a level -/

/-- A level reaches a value exactly when every window still allows it. -/
theorem IsLevel.le_iff {capacity rate origin now level : Time} {grants : List Time}
    (isLevel : IsLevel capacity rate origin grants now level) (value : Time) :
    value ≤ level ↔ ∀ start, origin ≤ start → start ≤ now →
      value + grantsWithin grants start now ≤ capacity + rate * (now - start) := by
  constructor
  · intro reached start early late
    have bound : level ≤ allowance capacity rate grants start now :=
      isLevel.2 ⟨start, early, late, rfl⟩
    simp only [allowance] at bound
    linarith
  · intro allowed
    obtain ⟨start, early, late, attained⟩ := isLevel.1
    have bound := allowed start early late
    rw [attained, allowance]
    linarith

/-- More grants leave no more of the level. -/
theorem IsLevel.le_of_append {capacity rate origin now level other : Time}
    {grants more : List Time} (isLevel : IsLevel capacity rate origin grants now level)
    (isOther : IsLevel capacity rate origin (grants ++ more) now other) : other ≤ level := by
  obtain ⟨start, early, late, attained⟩ := isLevel.1
  have bound := (isOther.le_iff other).mp le_rfl start early late
  have count : (0 : Time) ≤ grantsWithin more start now := Nat.cast_nonneg _
  rw [grantsWithin_append, Nat.cast_add] at bound
  rw [attained, allowance]
  linarith

/-- A rising level reaches a value at or below the capacity after the time the rate takes to
deliver what is missing. -/
theorem le_min_advance_iff {capacity rate now later level value : Time} (positive : 0 < rate)
    (within : value ≤ capacity) :
    value ≤ min (level + (later - now) * rate) capacity ↔ now + (value - level) / rate ≤ later := by
  have reached : value ≤ level + (later - now) * rate ↔ (value - level) / rate ≤ later - now := by
    rw [div_le_iff₀ positive, sub_le_iff_le_add']
  rw [le_min_iff, and_iff_left within, reached, le_sub_iff_add_le']

/-! ### Buckets that follow one another -/

/-- A bucket that was opened full at an instant, with the grants it made since. -/
structure Spell (Time : Type) where
  opened : Time
  grants : List Time

/-- The grants of a bucket keep to its arrival curve. -/
structure Spell.Bounded (capacity rate : Time) (spell : Spell Time) : Prop where
  inside : ∀ grant ∈ spell.grants, spell.opened ≤ grant
  windows : ∀ start stop, spell.opened ≤ start → start ≤ stop →
    (grantsWithin spell.grants start stop : Time) ≤ capacity + rate * (stop - start)

omit [IsStrictOrderedRing Time] [Field Time] in
/-- Moving the start of a window back before the first grant counts nothing new. -/
theorem grantsWithin_from (grants : List Time) (start opened stop : Time)
    (inside : ∀ grant ∈ grants, opened ≤ grant) (ordered : start ≤ opened) :
    grantsWithin grants start stop = grantsWithin grants opened stop := by
  refine List.countP_congr fun grant member => ?_
  have late : opened ≤ grant := inside grant member
  simp only [decide_eq_true_eq, late, ordered.trans late, true_and]

/-- When each bucket is opened only after the last grant of those before it by the time a whole
capacity takes to refill, all of them together keep to the arrival curve of one. -/
theorem grantsWithin_flatMap_le {capacity rate gap : Time} (capacityNonneg : 0 ≤ capacity)
    (rateNonneg : 0 ≤ rate) (gapPos : 0 < gap) (refill : capacity ≤ rate * gap)
    (spells : List (Spell Time)) (bounded : ∀ spell ∈ spells, spell.Bounded capacity rate)
    (apart : spells.Pairwise fun earlier later =>
      ∀ grant ∈ earlier.grants, grant + gap ≤ later.opened)
    (start stop : Time) (ordered : start ≤ stop) :
    (grantsWithin (spells.flatMap Spell.grants) start stop : Time) ≤
      capacity + rate * (stop - start) := by
  induction spells using List.reverseRecOn generalizing stop with
  | nil =>
    have gained : 0 ≤ rate * (stop - start) := mul_nonneg rateNonneg (sub_nonneg.mpr ordered)
    rw [List.flatMap_nil, grantsWithin, List.countP_nil, Nat.cast_zero]
    exact add_nonneg capacityNonneg gained
  | append_singleton older last inductionHypothesis =>
    have boundedLast := bounded last (List.mem_append_right older List.mem_cons_self)
    have boundedOlder : ∀ spell ∈ older, spell.Bounded capacity rate := fun spell member =>
      bounded spell (List.mem_append_left _ member)
    obtain ⟨apartOlder, _, before⟩ := List.pairwise_append.mp apart
    have past : ∀ grant ∈ older.flatMap Spell.grants, grant ≤ last.opened - gap := by
      intro grant member
      obtain ⟨spell, listed, made⟩ := List.mem_flatMap.mp member
      have closed := before spell listed last List.mem_cons_self grant made
      linarith
    have allowed := inductionHypothesis boundedOlder apartOlder
    rw [List.flatMap_append, List.flatMap_singleton, grantsWithin_append, Nat.cast_add]
    by_cases notYet : stop < last.opened
    · have none : grantsWithin last.grants start stop = 0 := by
        refine List.countP_eq_zero.mpr fun grant member => ?_
        have late := boundedLast.inside grant member
        simp only [decide_eq_true_eq, not_and, not_le]
        exact fun _ => notYet.trans_le late
      rw [none, Nat.cast_zero, add_zero]
      exact allowed stop ordered
    · rw [not_lt] at notYet
      by_cases reopened : last.opened - gap < start
      · have none := grantsWithin_eq_zero (older.flatMap Spell.grants) start _ stop past reopened
        rw [none, Nat.cast_zero, zero_add]
        rcases le_total last.opened start with inLast | early
        · exact boundedLast.windows start stop inLast ordered
        · rw [grantsWithin_from last.grants start last.opened stop boundedLast.inside early]
          have shorter : rate * (stop - last.opened) ≤ rate * (stop - start) :=
            mul_le_mul_of_nonneg_left (sub_le_sub_left early stop) rateNonneg
          have within := boundedLast.windows last.opened stop le_rfl notYet
          linarith
      · rw [not_lt] at reopened
        have early : start ≤ last.opened := by linarith
        rw [grantsWithin_from last.grants start last.opened stop boundedLast.inside early,
          grantsWithin_extend (older.flatMap Spell.grants) start _ stop past (by linarith)]
        have within := boundedLast.windows last.opened stop le_rfl notYet
        have earlier := allowed (last.opened - gap) reopened
        have parts : rate * (last.opened - gap - start) + rate * (stop - last.opened) =
            rate * (stop - start) - rate * gap := by ring
        linarith

end ArrivalCurve
