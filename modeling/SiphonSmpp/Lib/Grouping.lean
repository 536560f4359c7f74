/-
This file is a small library for records that are sorted into groups. A record
names its group and, in the group, the field it sets; records may come in any
order, and a later one overwrites an earlier one of the same group and field.
The groups are an ordered map, so they are enumerated in the order of their
names. What a group holds is the last record of each field, and when no field is
set twice the order of the records does not matter at all. What is proved of a
name from the smaller ones holds of all of them (`sorted_induction`).
-/

import Mathlib.Data.List.Induction
import Mathlib.Data.List.Sort

open Std

namespace Grouping

variable {Item Group Field Value : Type} [DecidableEq Group] [DecidableEq Field]

/-! ### The last record of a field -/

/-- What a record sets in a group and field. -/
def sets (read : Item → Option (Group × Field × Value)) (group : Group) (field : Field)
    (item : Item) : Option Value :=
  (read item).bind fun entry =>
    if entry.1 = group ∧ entry.2.1 = field then some entry.2.2 else none

/-- The value the last record of a group and field sets. -/
def last (read : Item → Option (Group × Field × Value)) (items : List Item) (group : Group)
    (field : Field) : Option Value :=
  items.reverse.findSome? (sets read group field)

/-- No two records set the same field of a group to different values. -/
def Consistent (read : Item → Option (Group × Field × Value)) (items : List Item) : Prop :=
  ∀ first ∈ items, ∀ second ∈ items, ∀ group field value other,
    read first = some (group, field, value) → read second = some (group, field, other) →
      value = other

section Last

variable (read : Item → Option (Group × Field × Value)) {items : List Item}

theorem sets_eq_some_iff (group : Group) (field : Field) (item : Item) (value : Value) :
    sets read group field item = some value ↔ read item = some (group, field, value) := by
  rw [sets]
  rcases read item with _ | ⟨owner, set, found⟩
  · exact ⟨nofun, nofun⟩
  · simp only [Option.bind_some, Option.ite_none_right_eq_some, Option.some.injEq, Prod.mk.injEq]
    exact and_assoc

theorem exists_of_last_eq_some {group : Group} {field : Field} {value : Value}
    (found : last read items group field = some value) :
    ∃ item ∈ items, read item = some (group, field, value) := by
  obtain ⟨item, member, set⟩ := List.exists_of_findSome?_eq_some found
  exact ⟨item, List.mem_reverse.mp member, (sets_eq_some_iff read _ _ _ _).mp set⟩

/-- Without conflicts the last record of a field is any of them. -/
theorem last_eq_some_iff (consistent : Consistent read items) (group : Group) (field : Field)
    (value : Value) :
    last read items group field = some value ↔
      ∃ item ∈ items, read item = some (group, field, value) := by
  refine ⟨exists_of_last_eq_some read, ?_⟩
  rintro ⟨item, member, set⟩
  have present : last read items group field ≠ none := by
    intro missing
    have unset := List.findSome?_eq_none_iff.mp missing item (List.mem_reverse.mpr member)
    rw [(sets_eq_some_iff read _ _ _ _).mpr set] at unset
    cases unset
  obtain ⟨other, found⟩ := Option.ne_none_iff_exists'.mp present
  obtain ⟨second, memberSecond, setSecond⟩ := exists_of_last_eq_some read found
  rw [found, consistent item member second memberSecond group field value other set setSecond]

end Last

/-! ### Filling the groups -/

variable [Ord Group] [TransOrd Group] [Ord Field] [TransOrd Field]

/-- Set one field of a group. -/
def put (table : ExtTreeMap Group (ExtTreeMap Field Value)) (group : Group) (field : Field)
    (value : Value) : ExtTreeMap Group (ExtTreeMap Field Value) :=
  table.alter group fun fields => some ((fields.getD ∅).insert field value)

/-- Read one record; one that names no group is passed over. -/
def add (read : Item → Option (Group × Field × Value))
    (table : ExtTreeMap Group (ExtTreeMap Field Value)) (item : Item) :
    ExtTreeMap Group (ExtTreeMap Field Value) :=
  match read item with
  | none => table
  | some (group, field, value) => put table group field value

/-- Read the records one after the other. -/
def collect (read : Item → Option (Group × Field × Value)) (items : List Item) :
    ExtTreeMap Group (ExtTreeMap Field Value) :=
  items.foldl (add read) ∅

variable [LawfulEqOrd Group] [LawfulEqOrd Field]

section Put

variable (table : ExtTreeMap Group (ExtTreeMap Field Value)) (group other : Group)
  (field otherField : Field) (value : Value)

omit [DecidableEq Field] [LawfulEqOrd Field] in
theorem getElem?_put :
    (put table group field value)[other]? =
      if group = other then some ((table[group]?.getD ∅).insert field value)
      else table[other]? := by
  rw [put, ExtTreeMap.getElem?_alter]
  simp only [LawfulEqOrd.compare_eq_iff_eq]

theorem lookup_put :
    ((put table group field value)[other]?.bind fun fields => fields[otherField]?) =
      if group = other ∧ field = otherField then some value
      else table[other]?.bind fun fields => fields[otherField]? := by
  rw [getElem?_put]
  by_cases sameGroup : group = other
  · subst sameGroup
    rw [if_pos rfl, Option.bind_some, ExtTreeMap.getElem?_insert]
    simp only [LawfulEqOrd.compare_eq_iff_eq, true_and]
    cases table[group]? with
    | some fields => rfl
    | none => rfl
  · rw [if_neg sameGroup, if_neg fun both => sameGroup both.1]

end Put

/-! ### What the groups hold -/

section Collected

variable (read : Item → Option (Group × Field × Value)) (items : List Item)

theorem lookup_add (table : ExtTreeMap Group (ExtTreeMap Field Value)) (item : Item)
    (group : Group) (field : Field) :
    ((add read table item)[group]?.bind fun fields => fields[field]?) =
      (sets read group field item).or (table[group]?.bind fun fields => fields[field]?) := by
  rw [add, sets]
  rcases read item with _ | ⟨owner, set, value⟩
  · rfl
  · rw [lookup_put, Option.bind_some]
    split
    · rfl
    · rfl

/-- A field of a group holds the value of its last record. -/
theorem lookup_collect (group : Group) (field : Field) :
    ((collect read items)[group]?.bind fun fields => fields[field]?) =
      last read items group field := by
  induction items using List.reverseRecOn with
  | nil => rfl
  | append_singleton front item inductionHypothesis =>
    rw [collect, List.foldl_append, List.foldl_cons, List.foldl_nil, lookup_add, last,
      List.reverse_append, List.reverse_singleton, List.singleton_append, List.findSome?_cons]
    rw [collect, last] at inductionHypothesis
    rw [inductionHypothesis]
    cases sets read group field item with
    | some value => rfl
    | none => rfl

omit [DecidableEq Field] [LawfulEqOrd Field] in
/-- The groups are those some record names. -/
theorem isSome_collect (group : Group) :
    (collect read items)[group]?.isSome ↔
      ∃ item ∈ items, ∃ field value, read item = some (group, field, value) := by
  induction items using List.reverseRecOn with
  | nil => exact ⟨nofun, fun ⟨_, member, _⟩ => nomatch member⟩
  | append_singleton front item inductionHypothesis =>
    rw [collect] at inductionHypothesis
    rw [collect, List.foldl_append, List.foldl_cons, List.foldl_nil, add]
    have split : (∃ other ∈ front ++ [item], ∃ field value,
          read other = some (group, field, value)) ↔
        (∃ other ∈ front, ∃ field value, read other = some (group, field, value)) ∨
          ∃ field value, read item = some (group, field, value) := by
      simp only [List.mem_append, List.mem_singleton, or_and_right, exists_or, exists_eq_left]
    rw [split, ← inductionHypothesis]
    rcases found : read item with _ | ⟨owner, set, value⟩
    · exact ⟨Or.inl, fun either => either.resolve_right fun ⟨_, _, missing⟩ => nomatch missing⟩
    · rw [getElem?_put]
      split
      · rename_i same
        exact iff_of_true rfl (Or.inr ⟨set, value, by rw [same]⟩)
      · rename_i different
        refine ⟨Or.inl, fun either => either.resolve_right ?_⟩
        rintro ⟨field, other, same⟩
        exact different (congrArg Prod.fst (Option.some.inj same))

end Collected

/-! ### Records in another order -/

omit [DecidableEq Group] [DecidableEq Field] in
/-- Groups are determined by their names and by what their fields hold. -/
theorem table_ext {first second : ExtTreeMap Group (ExtTreeMap Field Value)}
    (names : ∀ group : Group, first[group]?.isSome ↔ second[group]?.isSome)
    (values : ∀ (group : Group) (field : Field), (first[group]?.bind fun fields => fields[field]?) =
      second[group]?.bind fun fields => fields[field]?) : first = second := by
  refine ExtTreeMap.ext_getElem? fun group => ?_
  have name := names group
  have value := values group
  cases foundFirst : first[group]? with
  | none =>
    cases foundSecond : second[group]? with
    | none => rfl
    | some fields =>
      rw [foundFirst, foundSecond] at name
      exact absurd (name.mpr rfl) Bool.false_ne_true
  | some fields =>
    cases foundSecond : second[group]? with
    | none =>
      rw [foundFirst, foundSecond] at name
      exact absurd (name.mp rfl) Bool.false_ne_true
    | some others =>
      rw [foundFirst, foundSecond] at value
      exact congrArg some (ExtTreeMap.ext_getElem? value)

/-- Without conflicts the same records give the same groups in any order. -/
theorem collect_perm (read : Item → Option (Group × Field × Value)) {items others : List Item}
    (consistent : Consistent read items) (same : others.Perm items) :
    collect read others = collect read items := by
  have consistentOthers : Consistent read others := fun first memberFirst second memberSecond =>
    consistent first (same.mem_iff.mp memberFirst) second (same.mem_iff.mp memberSecond)
  refine table_ext (fun group => ?_) fun group field => ?_
  · rw [isSome_collect, isSome_collect]
    exact exists_congr fun item => and_congr_left fun _ => same.mem_iff
  · rw [lookup_collect, lookup_collect]
    refine Option.ext fun value => ?_
    rw [last_eq_some_iff read consistentOthers, last_eq_some_iff read consistent]
    exact exists_congr fun item => and_congr_left fun _ => same.mem_iff

/-! ### Names in increasing order -/

section Sorted

omit [DecidableEq Group] [LawfulEqOrd Group] in
/-- What is smaller than a name of an increasing list stands in front of it. -/
theorem mem_front_of_lt {front back : List Group} {name smaller : Group}
    (sorted : (front ++ name :: back).Pairwise fun first second => compare first second = .lt)
    (member : smaller ∈ front ++ name :: back) (below : compare smaller name = .lt) :
    smaller ∈ front := by
  rcases List.mem_append.mp member with early | late
  · exact early
  · rcases List.mem_cons.mp late with rfl | behind
    · rw [ReflOrd.compare_self] at below
      cases below
    · have above := (List.pairwise_cons.mp (List.pairwise_append.mp sorted).2.1).1 _ behind
      rw [OrientedOrd.eq_swap, above] at below
      cases below

omit [DecidableEq Group] [LawfulEqOrd Group] in
/-- What passes from the smaller names of an increasing list to the next one holds of all. -/
theorem sorted_induction {motive : Group → Prop} {names : List Group}
    (sorted : names.Pairwise fun first second => compare first second = .lt)
    (next : ∀ name ∈ names, (∀ smaller ∈ names, compare smaller name = .lt → motive smaller) →
      motive name) : ∀ name ∈ names, motive name := by
  have fronts : ∀ front back, front ++ back = names → ∀ name ∈ front, motive name := by
    intro front
    induction front using List.reverseRecOn with
    | nil => exact fun _ _ name member => nomatch member
    | append_singleton front last inductionHypothesis =>
      intro back same name member
      rw [List.append_assoc, List.singleton_append] at same
      have earlier := inductionHypothesis (last :: back) same
      rcases List.mem_append.mp member with early | late
      · exact earlier name early
      · rw [List.mem_singleton.mp late]
        subst same
        refine next last (by simp) fun smaller listed below => ?_
        exact earlier smaller (mem_front_of_lt sorted listed below)
  exact fronts names [] (List.append_nil names)

end Sorted

end Grouping
