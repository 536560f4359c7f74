/-
This file is a small library for rosters: a list of entries that is changed by
appending an entry at its end and by dropping every entry of a key. `present`
reads off a whole history of changes who should be on the roster, without
running it: an entry that joined and whose key was not dropped since, in the
order of joining. A roster that was changed step by step is exactly that list.
-/

import Mathlib.Data.List.Nodup

namespace Roster

variable {Entry Key : Type}

/-- One change of a roster: an entry joins, or every entry of a key leaves. -/
inductive Change (Entry Key : Type) where
  | join (entry : Entry)
  | leave (key : Key)
  deriving DecidableEq, Repr

/-- The entries that joined in a history, in order. -/
def joined : List (Change Entry Key) → List Entry
  | [] => []
  | .join entry :: later => entry :: joined later
  | .leave _ :: later => joined later

theorem joined_append (before later : List (Change Entry Key)) :
    joined (before ++ later) = joined before ++ joined later := by
  induction before with
  | nil => rfl
  | cons change rest inductionHypothesis =>
    cases change with
    | join entry => exact congrArg (entry :: ·) inductionHypothesis
    | leave key => exact inductionHypothesis

variable [DecidableEq Key] (key : Entry → Key)

/-- Apply one change. -/
def apply (roster : List Entry) : Change Entry Key → List Entry
  | .join entry => roster ++ [entry]
  | .leave left => roster.filter fun entry => key entry != left

/-- Apply a history of changes, one after the other. -/
def after (roster : List Entry) (changes : List (Change Entry Key)) : List Entry :=
  changes.foldl (apply key) roster

/-- Whether a key is dropped in a history. -/
def leaves (changes : List (Change Entry Key)) (left : Key) : Bool :=
  changes.any fun change => match change with
    | .join _ => false
    | .leave other => other == left

/-- The entries that joined and whose key was not dropped since, in order of joining. -/
def present : List (Change Entry Key) → List Entry
  | [] => []
  | .join entry :: later =>
      if leaves later (key entry) then present later else entry :: present later
  | .leave _ :: later => present later

theorem leaves_iff (changes : List (Change Entry Key)) (left : Key) :
    leaves changes left = true ↔ .leave left ∈ changes := by
  rw [leaves, List.any_eq_true]
  constructor
  · rintro ⟨change, member, matched⟩
    cases change with
    | join entry => cases matched
    | leave other =>
      rw [beq_iff_eq] at matched
      rwa [← matched]
  · intro member
    exact ⟨_, member, beq_self_eq_true left⟩

/-- Running a history leaves those of the first entries whose key was never dropped, followed
by the entries present by the history alone. -/
theorem after_eq (roster : List Entry) (changes : List (Change Entry Key)) :
    after key roster changes =
      roster.filter (fun entry => !leaves changes (key entry)) ++ present key changes := by
  induction changes generalizing roster with
  | nil =>
    rw [present, List.append_nil]
    exact (List.filter_eq_self.mpr fun _ _ => rfl).symm
  | cons change later inductionHypothesis =>
    rw [after, List.foldl_cons, ← after, inductionHypothesis]
    cases change with
    | join entry =>
      have same : ∀ left, leaves (.join entry :: later) left = leaves later left := fun _ => rfl
      rw [apply, List.filter_append, present, List.append_assoc]
      simp only [same]
      cases dropped : leaves later (key entry) with
      | true => simp [dropped]
      | false => simp [dropped]
    | leave left =>
      rw [apply, List.filter_filter, present]
      congr 1
      refine List.filter_congr fun entry _ => ?_
      show (!leaves later (key entry) && key entry != left) =
        !(left == key entry || leaves later (key entry))
      rw [Bool.not_or, Bool.and_comm, bne, BEq.comm]

/-- A roster that starts empty is the list of those present. -/
theorem after_nil (changes : List (Change Entry Key)) :
    after key [] changes = present key changes :=
  after_eq key [] changes

theorem present_append (before later : List (Change Entry Key)) :
    present key (before ++ later) =
      (present key before).filter (fun entry => !leaves later (key entry)) ++
        present key later := by
  rw [← after_nil, after, List.foldl_append, ← after, ← after, after_nil, after_eq]

theorem present_sublist (changes : List (Change Entry Key)) :
    (present key changes).Sublist (joined changes) := by
  induction changes with
  | nil => exact List.Sublist.refl _
  | cons change later inductionHypothesis =>
    cases change with
    | join entry =>
      rw [present, joined]
      split
      · exact inductionHypothesis.cons entry
      · exact inductionHypothesis.cons_cons entry
    | leave left => exact inductionHypothesis

/-- Distinct keys on joining are distinct keys on the roster. -/
theorem present_nodup {Label : Type} (label : Entry → Label) (changes : List (Change Entry Key))
    (distinct : ((joined changes).map label).Nodup) : ((present key changes).map label).Nodup :=
  distinct.sublist ((present_sublist key changes).map label)

/-- An entry is present from its joining until its key is dropped. -/
theorem mem_present_iff (before later : List (Change Entry Key)) (entry : Entry)
    (distinct : ((joined (before ++ .join entry :: later)).map key).Nodup) :
    entry ∈ present key (before ++ .join entry :: later) ↔ .leave (key entry) ∉ later := by
  rw [joined_append, joined, List.map_append, List.map_cons, List.nodup_append] at distinct
  obtain ⟨_, distinctLater, apart⟩ := distinct
  have notBefore : entry ∉ present key before := by
    intro member
    have joinedBefore := (present_sublist key before).subset member
    exact apart _ (List.mem_map_of_mem joinedBefore) _ List.mem_cons_self rfl
  have notLater : entry ∉ present key later := by
    intro member
    have joinedLater := (present_sublist key later).subset member
    exact (List.nodup_cons.mp distinctLater).1 (List.mem_map_of_mem joinedLater)
  rw [present_append, List.mem_append, present, ← leaves_iff]
  cases leaves later (key entry) with
  | true => simp [notBefore, notLater]
  | false => simp

/-- With distinct keys, searching a roster by key finds exactly the entry of that key. -/
theorem find_eq_some_iff (roster : List Entry) (distinct : (roster.map key).Nodup) (entry : Entry)
    (wanted : Key) :
    roster.find? (fun other => key other == wanted) = some entry ↔
      entry ∈ roster ∧ key entry = wanted := by
  constructor
  · intro found
    exact ⟨List.mem_of_find?_eq_some found, by simpa using List.find?_some found⟩
  · rintro ⟨member, same⟩
    have some : (roster.find? fun other => key other == wanted).isSome := by
      rw [List.find?_isSome]
      exact ⟨entry, member, beq_iff_eq.mpr same⟩
    obtain ⟨other, found⟩ := Option.isSome_iff_exists.mp some
    have otherKey : key other = wanted := by simpa using List.find?_some found
    rw [found, List.inj_on_of_nodup_map distinct (List.mem_of_find?_eq_some found) member
      (otherKey.trans same.symm)]

/-! ### One key at a time -/

/-- The key a change is about. -/
def Change.about : Change Entry Key → Key
  | .join entry => key entry
  | .leave left => left

/-- The entries of one key are changed by the changes about it alone. -/
theorem filter_after (roster : List Entry) (changes : List (Change Entry Key)) (own : Key) :
    (after key roster changes).filter (fun entry => key entry = own) =
      after key (roster.filter fun entry => key entry = own)
        (changes.filter fun change => change.about key = own) := by
  induction changes generalizing roster with
  | nil => rfl
  | cons change later inductionHypothesis =>
    rw [after, List.foldl_cons, ← after, inductionHypothesis, List.filter_cons]
    by_cases ours : change.about key = own
    · rw [decide_eq_true ours, if_pos rfl, after, after, List.foldl_cons]
      congr 1
      cases change with
      | join entry =>
        have joins : decide (key entry = own) = true := decide_eq_true ours
        rw [apply, List.filter_append, List.filter_singleton, joins]
        rfl
      | leave left =>
        rw [apply, apply, List.filter_filter, List.filter_filter]
        exact List.filter_congr fun entry _ => Bool.and_comm _ _
    · rw [decide_eq_false ours, if_neg Bool.false_ne_true]
      congr 1
      cases change with
      | join entry =>
        have joins : decide (key entry = own) = false := decide_eq_false ours
        rw [apply, List.filter_append, List.filter_singleton, joins]
        exact List.append_nil _
      | leave left =>
        rw [apply, List.filter_filter]
        refine List.filter_congr fun entry _ => ?_
        by_cases same : key entry = own
        · have stays : own ≠ left := fun leaves => ours leaves.symm
          simp [same, stays]
        · simp [same]

/-- Rosters that hold the same entries of every key hold the same entries. -/
theorem perm_of_filter_eq [DecidableEq Entry] (first second : List Entry)
    (same : ∀ own, first.filter (fun entry => key entry = own) =
      second.filter fun entry => key entry = own) : first.Perm second := by
  refine List.perm_iff_count.mpr fun entry => ?_
  have own := congrArg (List.count entry) (same (key entry))
  have counted : ∀ roster : List Entry, (roster.filter fun other => key other = key entry).count
      entry = roster.count entry := fun roster => List.count_filter (decide_eq_true rfl)
  rwa [counted, counted] at own

/-! ### Taking the oldest of a key -/

section Oldest

variable {Message : Type} (about : Message → Key)

/-- Taking the oldest message of one key leaves those of the others. -/
theorem filter_eraseP_of_ne (messages : List Message) (taken own : Key) (apart : taken ≠ own) :
    (messages.eraseP fun message => about message = taken).filter
        (fun message => about message = own) =
      messages.filter fun message => about message = own := by
  induction messages with
  | nil => rfl
  | cons message later inductionHypothesis =>
    by_cases first : about message = taken
    · simp [first, apart]
    · simp only [List.eraseP_cons, first, decide_false, cond_false, List.filter_cons,
        inductionHypothesis]

/-- What is taken is the first message of its key. -/
theorem filter_eq_cons_eraseP (messages : List Message) (own : Key) (oldest : Message)
    (found : messages.find? (fun message => about message = own) = some oldest) :
    messages.filter (fun message => about message = own) =
      oldest :: (messages.eraseP fun message => about message = own).filter
        fun message => about message = own := by
  induction messages with
  | nil => cases found
  | cons message later inductionHypothesis =>
    by_cases first : about message = own
    · have same : message = oldest := by simpa [first] using found
      simp [same ▸ first, same]
    · have later : later.find? (fun message => about message = own) = some oldest := by
        simpa [first] using found
      simp [first, inductionHypothesis later]

end Oldest

end Roster
