/-
This file builds the insertion-ordered dictionary: a finite map whose items are
enumerated in the order their keys were first set. Setting a key that is
already there replaces its value in place and keeps its position; setting a new
key puts it last. A dictionary carries the proof that its keys are distinct, so
looking a key up and enumerating the items are two readings of one relation.
-/

import Mathlib.Data.List.Nodup

/-! ### Lists of entries -/

namespace OrderedDict

section Entries

variable {Key Value : Type} [DecidableEq Key]

/-- Set one key in a list of entries: the first entry of that key takes the new value, and
a key that has none is appended. -/
def setEntry (key : Key) (value : Value) : List (Key × Value) → List (Key × Value)
  | [] => [(key, value)]
  | entry :: rest =>
      if entry.1 = key then (entry.1, value) :: rest else entry :: setEntry key value rest

theorem setEntry_of_notMem (key : Key) (value : Value) (entries : List (Key × Value))
    (fresh : key ∉ entries.map Prod.fst) :
    setEntry key value entries = entries ++ [(key, value)] := by
  induction entries with
  | nil => rfl
  | cons entry rest inductionHypothesis =>
    rw [List.map_cons, List.mem_cons, not_or] at fresh
    rw [setEntry, if_neg (Ne.symm fresh.1), inductionHypothesis fresh.2, List.cons_append]

/-- Setting a key that is there keeps the keys as they are, order included. -/
theorem setEntry_keys_of_mem (key : Key) (value : Value) (entries : List (Key × Value))
    (member : key ∈ entries.map Prod.fst) :
    (setEntry key value entries).map Prod.fst = entries.map Prod.fst := by
  induction entries with
  | nil => cases member
  | cons entry rest inductionHypothesis =>
    by_cases same : entry.1 = key
    · rw [setEntry, if_pos same, List.map_cons, List.map_cons]
    · have inRest : key ∈ rest.map Prod.fst :=
        (List.mem_cons.mp member).resolve_left (Ne.symm same)
      rw [setEntry, if_neg same, List.map_cons, List.map_cons, inductionHypothesis inRest]

theorem setEntry_nodup (key : Key) (value : Value) (entries : List (Key × Value))
    (distinct : (entries.map Prod.fst).Nodup) :
    ((setEntry key value entries).map Prod.fst).Nodup := by
  by_cases member : key ∈ entries.map Prod.fst
  · rw [setEntry_keys_of_mem key value entries member]
    exact distinct
  · rw [setEntry_of_notMem key value entries member, List.map_append, List.map_singleton]
    refine List.nodup_append.mpr ⟨distinct, List.nodup_singleton _, ?_⟩
    intro other inEntries added inLast same
    have last : other = key := same.trans (List.mem_singleton.mp inLast)
    exact member (last ▸ inEntries)

theorem lookup_setEntry (key other : Key) (value : Value) (entries : List (Key × Value)) :
    (setEntry key value entries).lookup other =
      if other = key then some value else entries.lookup other := by
  induction entries with
  | nil =>
    by_cases same : other = key
    · simp [setEntry, same]
    · simp [setEntry, List.lookup_cons, same, beq_eq_false_iff_ne.mpr same]
  | cons entry rest inductionHypothesis =>
    by_cases found : entry.1 = key
    · rw [setEntry, if_pos found, List.lookup_cons, List.lookup_cons, found]
      by_cases same : other = key
      · simp [same]
      · simp [same, beq_eq_false_iff_ne.mpr same]
    · rw [setEntry, if_neg found, List.lookup_cons, List.lookup_cons, inductionHypothesis]
      by_cases same : other = key
      · simp [same, beq_eq_false_iff_ne.mpr (Ne.symm found)]
      · simp [same]

end Entries

end OrderedDict

/-- A dictionary that enumerates its items in the order their keys were first set. -/
structure OrderedDict (Key Value : Type) [DecidableEq Key] where
  items : List (Key × Value)
  distinct : (items.map Prod.fst).Nodup

namespace OrderedDict

variable {Key Value : Type} [DecidableEq Key]

/-! ### Operations -/

def empty : OrderedDict Key Value := ⟨[], List.nodup_nil⟩

def get? (dict : OrderedDict Key Value) (key : Key) : Option Value := dict.items.lookup key

def setItem (dict : OrderedDict Key Value) (key : Key) (value : Value) : OrderedDict Key Value :=
  ⟨setEntry key value dict.items, setEntry_nodup key value dict.items dict.distinct⟩

@[ext] theorem ext {first second : OrderedDict Key Value} (same : first.items = second.items) :
    first = second := by
  cases first
  cases second
  cases same
  rfl

/-! ### Lookup and enumeration agree -/

theorem get?_setItem (dict : OrderedDict Key Value) (key other : Key) (value : Value) :
    (dict.setItem key value).get? other = if other = key then some value else dict.get? other :=
  lookup_setEntry key other value dict.items

theorem mem_items_iff (dict : OrderedDict Key Value) (key : Key) (value : Value) :
    (key, value) ∈ dict.items ↔ dict.get? key = some value := by
  obtain ⟨entries, distinct⟩ := dict
  show (key, value) ∈ entries ↔ entries.lookup key = some value
  induction entries with
  | nil => simp [List.lookup_nil]
  | cons entry rest inductionHypothesis =>
    obtain ⟨headKey, headValue⟩ := entry
    rw [List.map_cons, List.nodup_cons] at distinct
    rw [List.mem_cons, inductionHypothesis distinct.2, List.lookup_cons]
    by_cases same : key = headKey
    · have absent : rest.lookup key ≠ some value := by
        intro found
        refine distinct.1 ?_
        rw [← same]
        exact List.mem_map.mpr ⟨(key, value), (inductionHypothesis distinct.2).mpr found, rfl⟩
      simp only [same, Prod.mk.injEq, true_and, beq_self_eq_true] at absent ⊢
      constructor
      · rintro (equal | found)
        · rw [equal]
        · exact absurd found absent
      · intro equal
        exact Or.inl (Option.some.inj equal).symm
    · simp [same, beq_eq_false_iff_ne.mpr same]

/-! ### Filling a dictionary from a list -/

/-- What a filled dictionary holds was there before or came from an entry. -/
theorem get?_foldl_setItem {Entry : Type} (key : Entry → Key) (value : Entry → Value)
    (entries : List Entry) (dict : OrderedDict Key Value) (looked : Key) (found : Value)
    (present : (entries.foldl (fun filled entry => filled.setItem (key entry) (value entry))
      dict).get? looked = some found) :
    dict.get? looked = some found ∨
      ∃ entry ∈ entries, key entry = looked ∧ value entry = found := by
  induction entries generalizing dict with
  | nil => exact Or.inl present
  | cons entry rest inductionHypothesis =>
    rcases inductionHypothesis _ present with before | ⟨other, member, same⟩
    · rw [get?_setItem] at before
      split at before
      · rename_i same
        exact Or.inr ⟨entry, List.mem_cons_self, same.symm, Option.some.inj before⟩
      · exact Or.inl before
    · exact Or.inr ⟨other, List.mem_cons_of_mem _ member, same⟩

/-- A filled dictionary holds every key that was set. -/
theorem get?_foldl_setItem_ne_none {Entry : Type} (key : Entry → Key) (value : Entry → Value)
    (entries : List Entry) (dict : OrderedDict Key Value) (looked : Key)
    (set : dict.get? looked ≠ none ∨ looked ∈ entries.map key) :
    (entries.foldl (fun filled entry => filled.setItem (key entry) (value entry)) dict).get?
      looked ≠ none := by
  induction entries generalizing dict with
  | nil => exact set.resolve_right List.not_mem_nil
  | cons entry rest inductionHypothesis =>
    rw [List.map_cons, List.mem_cons] at set
    refine inductionHypothesis _ ?_
    rw [get?_setItem]
    rcases set with before | same | later
    · left
      split
      · exact Option.some_ne_none _
      · exact before
    · left
      rw [if_pos same]
      exact Option.some_ne_none _
    · exact Or.inr later

/-- Setting keys that are distinct and new appends their entries in order. -/
theorem items_foldl_setItem {Entry : Type} (key : Entry → Key) (value : Entry → Value)
    (entries : List Entry) (dict : OrderedDict Key Value)
    (distinct : (entries.map key).Nodup)
    (fresh : ∀ entry ∈ entries, key entry ∉ dict.items.map Prod.fst) :
    (entries.foldl (fun filled entry => filled.setItem (key entry) (value entry)) dict).items =
      dict.items ++ entries.map fun entry => (key entry, value entry) := by
  induction entries generalizing dict with
  | nil => simp
  | cons entry rest inductionHypothesis =>
    rw [List.map_cons, List.nodup_cons] at distinct
    have headItems : (dict.setItem (key entry) (value entry)).items =
        dict.items ++ [(key entry, value entry)] :=
      setEntry_of_notMem _ _ _ (fresh entry List.mem_cons_self)
    rw [List.foldl_cons, inductionHypothesis (dict.setItem (key entry) (value entry)) distinct.2]
    · rw [headItems, List.map_cons, List.append_assoc, List.singleton_append]
    · intro other member present
      rw [headItems, List.map_append, List.mem_append] at present
      rcases present with old | new
      · exact fresh other (List.mem_cons_of_mem _ member) old
      · rw [List.map_singleton, List.mem_singleton] at new
        exact distinct.1 (List.mem_map.mpr ⟨other, member, new⟩)

end OrderedDict
