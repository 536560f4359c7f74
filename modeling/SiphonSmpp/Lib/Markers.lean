/-
This file is a small library for texts that are cut into fields by markers. A
marker ends with a stop symbol that it has nowhere else, and no marker of a
family is the end of another one. Occurrences of such markers never overlap, in
any text: the stop symbol of one of them would stand inside the other. So the
first occurrence of each marker is found on its own, a marker put between two
texts hides nothing of either and joins nothing across, and in a text put
together from markers each is found where it was put.
-/

import Mathlib.Data.List.Infix

namespace Markers

variable {Symbol : Type}

/-! ### Occurrences -/

/-- A marker ends with the stop symbol and has it nowhere else. -/
def Terminated (stop : Symbol) (marker : List Symbol) : Prop :=
  ∃ name, marker = name ++ [stop] ∧ stop ∉ name

section Overlap

variable {stop : Symbol} {first second text before later : List Symbol}

theorem Terminated.of_append {cut rest : List Symbol} (terminated : Terminated stop (cut ++ rest))
    (left : rest ≠ []) : Terminated stop rest := by
  obtain ⟨name, same, absent⟩ := terminated
  obtain ⟨front, last, rfl⟩ : ∃ front last, rest = front ++ [last] :=
    ⟨rest.dropLast, rest.getLast left, (List.dropLast_append_getLast left).symm⟩
  rw [← List.append_assoc] at same
  obtain ⟨sameName, sameLast⟩ := List.append_inj' same rfl
  cases sameLast
  refine ⟨front, rfl, fun member => absent ?_⟩
  rw [← sameName]
  exact List.mem_append_right cut member

/-- A terminated marker is no beginning of another one. -/
theorem Terminated.eq_of_prefix (terminatedFirst : Terminated stop first)
    (terminatedSecond : Terminated stop second) (starts : first <+: second) : first = second := by
  obtain ⟨firstName, rfl, _⟩ := terminatedFirst
  obtain ⟨secondName, rfl, absent⟩ := terminatedSecond
  rcases List.prefix_concat_iff.mp starts with same | inside
  · exact same
  · exact absurd (inside.subset (List.mem_append_right firstName List.mem_cons_self)) absent

/-- Of two markers that start the same text, both terminated, one is the other. -/
theorem Terminated.eq_of_prefixes (terminatedFirst : Terminated stop first)
    (terminatedSecond : Terminated stop second) (startsFirst : first <+: text)
    (startsSecond : second <+: text) : first = second := by
  rcases List.prefix_or_prefix_of_prefix startsFirst startsSecond with starts | starts
  · exact terminatedFirst.eq_of_prefix terminatedSecond starts
  · exact (terminatedSecond.eq_of_prefix terminatedFirst starts).symm

/-- A marker that starts inside an occurrence of another one is the end of it. -/
theorem Terminated.overlap (terminatedFirst : Terminated stop first)
    (terminatedSecond : Terminated stop second) (standsFirst : before ++ first <+: text)
    (standsSecond : later ++ second <+: text) (notBefore : before.length ≤ later.length)
    (inside : later.length < before.length + first.length) :
    ∃ cut, first = cut ++ second ∧ later = before ++ cut := by
  have laterStarts : later <+: text := (List.prefix_append later second).trans standsSecond
  obtain ⟨cut, rfl⟩ : before <+: later :=
    List.prefix_of_prefix_length_le ((List.prefix_append before first).trans standsFirst)
      laterStarts notBefore
  obtain ⟨rest, same⟩ : before ++ cut <+: before ++ first := by
    refine List.prefix_of_prefix_length_le laterStarts standsFirst ?_
    exact inside.le.trans_eq List.length_append.symm
  rw [List.append_assoc] at same
  have cutFirst : cut ++ rest = first := List.append_cancel_left same
  have left : rest ≠ [] := by
    rintro rfl
    rw [← cutFirst, List.append_nil, List.length_append] at inside
    exact lt_irrefl _ inside
  obtain ⟨after, whole⟩ := laterStarts
  rw [← whole, ← cutFirst, ← List.append_assoc, List.prefix_append_right_inj] at standsFirst
  rw [← whole, List.prefix_append_right_inj] at standsSecond
  have terminatedRest : Terminated stop rest :=
    (cutFirst ▸ terminatedFirst : Terminated stop (cut ++ rest)).of_append left
  have sameRest : rest = second :=
    terminatedRest.eq_of_prefixes terminatedSecond standsFirst standsSecond
  exact ⟨cut, by rw [← cutFirst, sameRest], rfl⟩

end Overlap

/-- A family of markers, none of which is the end of another. -/
structure Family (stop : Symbol) (markers : List (List Symbol)) : Prop where
  terminated : ∀ marker ∈ markers, Terminated stop marker
  suffixFree : ∀ first ∈ markers, ∀ second ∈ markers, first <:+ second → first = second

/-- Two occurrences of markers in one text are the same one or lie apart. -/
theorem Family.apart {stop : Symbol} {markers : List (List Symbol)} (family : Family stop markers)
    {first second text before later : List Symbol} (memberFirst : first ∈ markers)
    (memberSecond : second ∈ markers) (standsFirst : before ++ first <+: text)
    (standsSecond : later ++ second <+: text) :
    (first = second ∧ before = later) ∨ before.length + first.length ≤ later.length ∨
      later.length + second.length ≤ before.length := by
  have terminatedFirst := family.terminated first memberFirst
  have terminatedSecond := family.terminated second memberSecond
  by_contra touching
  rw [not_or, not_or, not_le, not_le] at touching
  obtain ⟨different, insideFirst, insideSecond⟩ := touching
  rcases le_total before.length later.length with ordered | ordered
  · obtain ⟨cut, rfl, rfl⟩ := terminatedFirst.overlap terminatedSecond standsFirst standsSecond
      ordered insideFirst
    have same := family.suffixFree second memberSecond _ memberFirst (List.suffix_append cut second)
    obtain rfl : cut = [] := List.append_left_eq_self.mp same.symm
    exact different ⟨rfl, (List.append_nil before).symm⟩
  · obtain ⟨cut, rfl, rfl⟩ := terminatedSecond.overlap terminatedFirst standsSecond standsFirst
      ordered insideSecond
    have same := family.suffixFree first memberFirst _ memberSecond (List.suffix_append cut first)
    obtain rfl : cut = [] := List.append_left_eq_self.mp same.symm
    exact different ⟨rfl, List.append_nil later⟩

/-! ### The first occurrence -/

section First

variable [DecidableEq Symbol]

/-- The text before the first occurrence of a marker. -/
def before? (marker : List Symbol) : List Symbol → Option (List Symbol)
  | [] => if marker.isPrefixOf [] then some [] else none
  | symbol :: rest =>
      if marker.isPrefixOf (symbol :: rest) then some []
      else (before? marker rest).map (symbol :: ·)

variable {marker text found : List Symbol}

omit [DecidableEq Symbol] in
theorem infix_iff_exists_stands : marker <:+: text ↔ ∃ before, before ++ marker <+: text :=
  ⟨fun ⟨before, after, same⟩ => ⟨before, after, same⟩,
    fun ⟨before, after, same⟩ => ⟨before, after, same⟩⟩

/-- The text found before a marker is the shortest that has the marker after it. -/
theorem before?_eq_some_iff :
    before? marker text = some found ↔
      found ++ marker <+: text ∧
        ∀ other, other ++ marker <+: text → found.length ≤ other.length := by
  induction text generalizing found with
  | nil =>
    rw [before?]
    split
    · rename_i starts
      rw [List.isPrefixOf_iff_prefix, List.prefix_nil] at starts
      subst starts
      simp
    · rename_i absent
      rw [List.isPrefixOf_iff_prefix, List.prefix_nil] at absent
      simp [absent]
  | cons symbol rest inductionHypothesis =>
    rw [before?]
    split
    · rename_i starts
      rw [List.isPrefixOf_iff_prefix] at starts
      constructor
      · rintro ⟨⟩
        exact ⟨starts, fun _ _ => Nat.zero_le _⟩
      · rintro ⟨_, shortest⟩
        rw [List.length_eq_zero_iff.mp (Nat.le_zero.mp (shortest [] starts))]
    · rename_i absent
      rw [List.isPrefixOf_iff_prefix] at absent
      have stepped : ∀ other, other ++ marker <+: symbol :: rest ↔
          ∃ tail, other = symbol :: tail ∧ tail ++ marker <+: rest := by
        intro other
        cases other with
        | nil => exact ⟨fun starts => absurd starts absent, nofun⟩
        | cons head tail =>
          rw [List.cons_append, List.cons_prefix_cons]
          constructor
          · rintro ⟨rfl, starts⟩
            exact ⟨tail, rfl, starts⟩
          · rintro ⟨_, ⟨⟩, starts⟩
            exact ⟨rfl, starts⟩
      simp only [Option.map_eq_some_iff, inductionHypothesis, stepped]
      constructor
      · rintro ⟨tail, ⟨starts, shortest⟩, rfl⟩
        refine ⟨⟨tail, rfl, starts⟩, ?_⟩
        rintro _ ⟨other, rfl, stands⟩
        exact Nat.succ_le_succ (shortest other stands)
      · rintro ⟨⟨tail, rfl, starts⟩, shortest⟩
        refine ⟨tail, ⟨starts, fun other stands => ?_⟩, rfl⟩
        exact Nat.le_of_succ_le_succ (shortest (symbol :: other) ⟨other, rfl, stands⟩)

theorem before?_isSome_iff : (before? marker text).isSome ↔ marker <:+: text := by
  rw [infix_iff_exists_stands]
  constructor
  · intro some
    obtain ⟨before, found⟩ := Option.isSome_iff_exists.mp some
    exact ⟨before, (before?_eq_some_iff.mp found).1⟩
  · rintro ⟨before, stands⟩
    induction text generalizing before with
    | nil =>
      obtain ⟨-, rfl⟩ := List.append_eq_nil_iff.mp (List.prefix_nil.mp stands)
      rfl
    | cons symbol rest inductionHypothesis =>
      rw [before?]
      split
      · rfl
      · rename_i absent
        cases before with
        | nil => exact absurd (List.isPrefixOf_iff_prefix.mpr stands) absent
        | cons head tail =>
          rw [List.cons_append, List.cons_prefix_cons] at stands
          rw [Option.isSome_map]
          exact inductionHypothesis tail stands.2

theorem before?_eq_none_iff : before? marker text = none ↔ ¬ marker <:+: text := by
  rw [← before?_isSome_iff, Bool.not_eq_true, Option.isSome_eq_false_iff, Option.isNone_iff_eq_none]

/-- A single symbol is found after a text that does not have it. -/
theorem before?_singleton_eq_some_iff {stop : Symbol} :
    before? [stop] text = some found ↔ ∃ rest, text = found ++ stop :: rest ∧ stop ∉ found := by
  rw [before?_eq_some_iff]
  constructor
  · rintro ⟨⟨rest, rfl⟩, shortest⟩
    refine ⟨rest, by rw [List.append_assoc]; rfl, fun member => ?_⟩
    obtain ⟨front, back, rfl⟩ := List.append_of_mem member
    have early : front.length < (front ++ stop :: back).length := by
      rw [List.length_append, List.length_cons]
      omega
    have stands : front ++ [stop] <+: front ++ stop :: back ++ [stop] ++ rest :=
      ⟨back ++ [stop] ++ rest, by simp⟩
    exact absurd (shortest front stands) (not_le.mpr early)
  · rintro ⟨rest, rfl, absent⟩
    refine ⟨⟨rest, by rw [List.append_assoc]; rfl⟩, fun other stands => ?_⟩
    by_contra early
    rw [not_le] at early
    have inside : other ++ [stop] <+: found := by
      refine List.prefix_of_prefix_length_le stands (List.prefix_append _ _) ?_
      rw [List.length_append, List.length_singleton]
      exact early
    exact absent (inside.subset (List.mem_append_right other List.mem_cons_self))

/-- More text at the end does not move a first occurrence. -/
theorem before?_append (more : List Symbol) (first : before? marker text = some found) :
    before? marker (text ++ more) = some found := by
  obtain ⟨stands, shortest⟩ := before?_eq_some_iff.mp first
  refine before?_eq_some_iff.mpr ⟨stands.trans (List.prefix_append text more), ?_⟩
  intro other standsOther
  by_contra shorter
  rw [not_le] at shorter
  have fits : (other ++ marker).length ≤ text.length := by
    have whole := stands.length_le
    rw [List.length_append] at whole ⊢
    omega
  have inside := List.prefix_of_prefix_length_le standsOther (List.prefix_append text more) fits
  exact absurd (shortest other inside) (not_le.mpr shorter)

/-- A marker that a text does not have is found, once another marker follows the text, at that
one if it is the same, and in the rest if it is not. -/
theorem Family.before?_append_marker {stop : Symbol} {markers : List (List Symbol)}
    (family : Family stop markers) {between : List Symbol} (memberMarker : marker ∈ markers)
    (memberBetween : between ∈ markers) (absent : before? marker text = none)
    (rest : List Symbol) :
    before? marker (text ++ between ++ rest) =
      if marker = between then some text
      else (before? marker rest).map (text ++ between ++ ·) := by
  rw [before?_eq_none_iff, infix_iff_exists_stands, not_exists] at absent
  have standsBetween : text ++ between <+: text ++ between ++ rest := List.prefix_append _ _
  have notBefore : ∀ other, other ++ marker <+: text ++ between ++ rest →
      (marker = between ∧ other = text) ∨ text.length + between.length ≤ other.length := by
    intro other stands
    rcases family.apart memberMarker memberBetween stands standsBetween with same | before | after
    · exact Or.inl same
    · refine absurd ?_ (absent other)
      refine List.prefix_of_prefix_length_le stands ?_ (by rwa [List.length_append])
      exact (List.prefix_append text between).trans standsBetween
    · exact Or.inr after
  split
  · rename_i same
    subst same
    refine before?_eq_some_iff.mpr ⟨standsBetween, fun other stands => ?_⟩
    rcases notBefore other stands with ⟨_, rfl⟩ | after
    · exact le_rfl
    · exact (Nat.le_add_right _ _).trans after
  · rename_i different
    have inRest : ∀ other, other ++ marker <+: text ++ between ++ rest ↔
        ∃ tail, other = text ++ between ++ tail ∧ tail ++ marker <+: rest := by
      intro other
      constructor
      · intro stands
        have after := (notBefore other stands).resolve_left fun same => different same.1
        obtain ⟨tail, rfl⟩ : text ++ between <+: other := by
          refine List.prefix_of_prefix_length_le standsBetween
            ((List.prefix_append other marker).trans stands) ?_
          rwa [List.length_append]
        rw [List.append_assoc _ tail, List.prefix_append_right_inj] at stands
        exact ⟨tail, rfl, stands⟩
      · rintro ⟨tail, rfl, stands⟩
        rwa [List.append_assoc _ tail, List.prefix_append_right_inj]
    refine Option.ext fun found => ?_
    simp only [Option.map_eq_some_iff, before?_eq_some_iff, inRest]
    constructor
    · rintro ⟨⟨tail, rfl, stands⟩, shortest⟩
      refine ⟨tail, ⟨stands, fun other standsOther => ?_⟩, rfl⟩
      have shorter := shortest _ ⟨other, rfl, standsOther⟩
      simp only [List.length_append] at shorter
      exact Nat.le_of_add_le_add_left shorter
    · rintro ⟨tail, ⟨stands, shortest⟩, rfl⟩
      refine ⟨⟨tail, rfl, stands⟩, ?_⟩
      rintro _ ⟨other, rfl, standsOther⟩
      simp only [List.length_append]
      exact Nat.add_le_add_left (shortest other standsOther) _

/-- A terminated marker is found after a text that does not have it. -/
theorem Terminated.before?_eq_some_iff {stop : Symbol} (terminated : Terminated stop marker) :
    before? marker text = some found ↔
      ∃ rest, text = found ++ marker ++ rest ∧ ¬ marker <:+: found := by
  have family : Family stop [marker] := by
    refine ⟨?_, ?_⟩
    · simpa only [List.mem_singleton, forall_eq] using terminated
    · simp only [List.mem_singleton, forall_eq, implies_true]
  constructor
  · intro first
    obtain ⟨⟨rest, same⟩, shortest⟩ := Markers.before?_eq_some_iff.mp first
    refine ⟨rest, same.symm, fun inside => ?_⟩
    obtain ⟨other, stands⟩ := infix_iff_exists_stands.mp inside
    have whole : found <+: text := ⟨marker ++ rest, by rw [← List.append_assoc, same]⟩
    have early := shortest other (stands.trans whole)
    have fits := stands.length_le
    obtain ⟨name, rfl, _⟩ := terminated
    simp only [List.length_append, List.length_singleton] at fits
    omega
  · rintro ⟨rest, rfl, absent⟩
    rw [family.before?_append_marker List.mem_cons_self List.mem_cons_self
      (before?_eq_none_iff.mpr absent), if_pos rfl]

theorem Terminated.exists_split {stop : Symbol} (terminated : Terminated stop marker)
    (inside : marker <:+: text) :
    ∃ first rest, text = first ++ marker ++ rest ∧ ¬ marker <:+: first := by
  obtain ⟨first, found⟩ := Option.isSome_iff_exists.mp (before?_isSome_iff.mpr inside)
  exact ⟨first, terminated.before?_eq_some_iff.mp found⟩

/-- A text is cut at its first marker in one way. -/
theorem Terminated.append_inj {stop : Symbol} (terminated : Terminated stop marker)
    {first second rest otherRest : List Symbol} (absentFirst : ¬ marker <:+: first)
    (absentSecond : ¬ marker <:+: second)
    (same : first ++ marker ++ rest = second ++ marker ++ otherRest) :
    first = second ∧ rest = otherRest := by
  have found := terminated.before?_eq_some_iff.mpr ⟨rest, rfl, absentFirst⟩
  rw [same, terminated.before?_eq_some_iff.mpr ⟨otherRest, rfl, absentSecond⟩,
    Option.some.injEq] at found
  subst found
  exact ⟨rfl, List.append_cancel_left same⟩

end First

/-! ### Texts put together from markers -/

section Assembled

variable [DecidableEq Symbol]

omit [DecidableEq Symbol] in
/-- A text without the stop symbol has no terminated marker. -/
theorem Terminated.absent {stop : Symbol} {marker text : List Symbol}
    (terminated : Terminated stop marker) (plain : stop ∉ text) : ¬ marker <:+: text := by
  obtain ⟨name, rfl, _⟩ := terminated
  intro inside
  exact plain (inside.subset (List.mem_append_right name List.mem_cons_self))

/-- A text that starts with a head and goes on with markers, each with the text after it. -/
def assemble (head : List Symbol) : List (List Symbol × List Symbol) → List Symbol
  | [] => head
  | piece :: rest => head ++ piece.1 ++ assemble piece.2 rest

omit [DecidableEq Symbol] in
theorem assemble_eq_flatMap (head : List Symbol) (pieces : List (List Symbol × List Symbol)) :
    assemble head pieces = head ++ pieces.flatMap fun piece => piece.1 ++ piece.2 := by
  induction pieces generalizing head with
  | nil => exact (List.append_nil head).symm
  | cons piece rest inductionHypothesis =>
    rw [assemble, inductionHypothesis, List.flatMap_cons, List.append_assoc, List.append_assoc]

variable {stop : Symbol} {markers : List (List Symbol)} (family : Family stop markers)
  {marker : List Symbol} (member : marker ∈ markers)

include family member

/-- The first occurrence of a marker is where it was put, when the texts before it do not have
it. -/
theorem Family.before?_assemble (head : List Symbol) (front : List (List Symbol × List Symbol))
    (after : List Symbol) (rest : List (List Symbol × List Symbol))
    (absentHead : ¬ marker <:+: head)
    (others : ∀ piece ∈ front, piece.1 ∈ markers ∧ piece.1 ≠ marker ∧ ¬ marker <:+: piece.2) :
    before? marker (assemble head (front ++ (marker, after) :: rest)) =
      some (assemble head front) := by
  induction front generalizing head with
  | nil =>
    show before? marker (head ++ marker ++ assemble after rest) = some head
    rw [family.before?_append_marker member member (before?_eq_none_iff.mpr absentHead),
      if_pos rfl]
  | cons piece more inductionHypothesis =>
    rw [List.forall_mem_cons] at others
    obtain ⟨⟨between, different, absent⟩, othersMore⟩ := others
    rw [List.cons_append, assemble,
      family.before?_append_marker member between (before?_eq_none_iff.mpr absentHead),
      if_neg different.symm, inductionHypothesis piece.2 absent othersMore]
    rfl

/-- A marker that was not put and that the texts do not have is not there. -/
theorem Family.before?_assemble_none (head : List Symbol)
    (pieces : List (List Symbol × List Symbol)) (absentHead : ¬ marker <:+: head)
    (others : ∀ piece ∈ pieces, piece.1 ∈ markers ∧ piece.1 ≠ marker ∧ ¬ marker <:+: piece.2) :
    before? marker (assemble head pieces) = none := by
  induction pieces generalizing head with
  | nil => exact before?_eq_none_iff.mpr absentHead
  | cons piece more inductionHypothesis =>
    rw [List.forall_mem_cons] at others
    obtain ⟨⟨between, different, absent⟩, othersMore⟩ := others
    rw [assemble,
      family.before?_append_marker member between (before?_eq_none_iff.mpr absentHead),
      if_neg different.symm, inductionHypothesis piece.2 absent othersMore]
    rfl

end Assembled

end Markers
