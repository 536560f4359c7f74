/-
This file relates the binds of an environment to its variables. A bind is read
from the variables whose names fall together after lower-casing; where the name
segments are ASCII without lower-case letters none of them do, so the variables
of a bind are those of one segment.

`environment_read_exactly` says that such an environment is read exactly, in
whatever order it is enumerated.
-/

import Mathlib
import SiphonSmpp.EnvBinds

namespace SiphonSmpp

/-! ### Segments -/

/-- What the variables of a segment hold, field by field. -/
def variablesOf (env : Environment) (segment field : List Char) : Option (List Char) :=
  env.get? (bindVariable segment field)

/-- A segment of ASCII characters, none of them a lower-case letter. -/
def PlainSegment (segment : List Char) : Prop :=
  ∀ character ∈ segment, character.toNat < 0x80 ∧ character.isLower = false

/-- The environments whose bind variables have plain segments. -/
def PlainSegments (env : Environment) : Prop :=
  ∀ entry ∈ env.items, ∀ segment field, bindKey entry.1 = some (segment, field) →
    PlainSegment segment

/-- Whether the segment of a variable is plain, if it has one. -/
def plainKey (key : List Char) : Bool :=
  match bindKey key with
  | some (segment, _) => segment.all fun character => character.toNat < 0x80 && !character.isLower
  | none => true

theorem plainKey_iff (key : List Char) :
    plainKey key = true ↔
      ∀ segment field, bindKey key = some (segment, field) → PlainSegment segment := by
  rw [plainKey]
  split
  · rename_i segment field read
    have same : (segment.all fun character => character.toNat < 0x80 && !character.isLower) =
        true ↔ PlainSegment segment := by
      simp only [PlainSegment, List.all_eq_true, Bool.and_eq_true, decide_eq_true_eq,
        Bool.not_eq_true']
    rw [same, read]
    constructor
    · intro plain other otherField found
      cases found
      exact plain
    · exact fun plain => plain segment field rfl
  · rename_i unread
    rw [unread]
    exact iff_of_true rfl nofun

instance (env : Environment) : Decidable (PlainSegments env) :=
  decidable_of_iff ((env.items.all fun entry => plainKey entry.1) = true)
    (List.all_eq_true.trans (forall₂_congr fun entry _ => plainKey_iff entry.1))

/-- The segments with a host that is not empty. -/
def HasHost (env : Environment) (segment : List Char) : Prop :=
  '_' ∉ segment ∧ given (variablesOf env segment) "HOST" ≠ none

theorem PlainSegment.map_toUpper {segment : List Char} (plain : PlainSegment segment) :
    (segment.map Char.toLower).map Char.toUpper = segment := by
  have restored : ∀ character ∈ segment,
      (Char.toUpper ∘ Char.toLower) character = id character := by
    intro character member
    show character.toLower.toUpper = character
    have upper : ¬ character.isLower = true := ne_true_of_eq_false (plain character member).2
    rw [Char.toUpper_toLower_eq_toUpper, Char.toUpper_eq_of_not_isLower upper]
  rw [List.map_map, List.map_congr_left restored, List.map_id]

/-- Plain segments do not fall together when they are lower-cased. -/
theorem PlainSegment.eq_of_map_toLower {first second : List Char} (plainFirst : PlainSegment first)
    (plainSecond : PlainSegment second)
    (same : first.map Char.toLower = second.map Char.toLower) : first = second := by
  rw [← plainFirst.map_toUpper, same, plainSecond.map_toUpper]

section Environment

variable {unicode : Lowercase} {env : Environment}

/-- The variable a bind variable is read from. -/
theorem readBindVar_eq_some_iff (plain : PlainSegments env) {entry : List Char × List Char}
    (member : entry ∈ env.items) (name field value : List Char) :
    readBindVar unicode entry = some (name, field, value) ↔
      ∃ segment, PlainSegment segment ∧ '_' ∉ segment ∧
        entry = (bindVariable segment field, value) ∧ name = segment.map Char.toLower := by
  rw [readBindVar, Option.map_eq_some_iff]
  constructor
  · rintro ⟨⟨segment, found⟩, read, same⟩
    have plainSegment := plain entry member segment found read
    obtain ⟨key, separated⟩ := (bindKey_eq_some_iff entry.1 segment found).mp read
    rw [Prod.mk.injEq, Prod.mk.injEq,
      unicode.ascii segment fun character present => (plainSegment character present).1] at same
    obtain ⟨rfl, rfl, rfl⟩ := same
    exact ⟨segment, plainSegment, separated, Prod.ext key rfl, rfl⟩
  · rintro ⟨segment, plainSegment, separated, rfl, rfl⟩
    refine ⟨(segment, field), (bindKey_eq_some_iff _ _ _).mpr ⟨rfl, separated⟩, ?_⟩
    rw [unicode.ascii segment fun character present => (plainSegment character present).1]

/-- No two variables set the same field of a bind. -/
theorem consistent_of_plain (plain : PlainSegments env) :
    Grouping.Consistent (readBindVar unicode) env.items := by
  intro first memberFirst second memberSecond name field value other readFirst readSecond
  obtain ⟨segment, plainSegment, _, rfl, rfl⟩ :=
    (readBindVar_eq_some_iff plain memberFirst _ _ _).mp readFirst
  obtain ⟨segment', plainSegment', _, rfl, same⟩ :=
    (readBindVar_eq_some_iff plain memberSecond _ _ _).mp readSecond
  rw [plainSegment.eq_of_map_toLower plainSegment' same] at memberFirst
  rw [OrderedDict.mem_items_iff] at memberFirst memberSecond
  exact Option.some.inj (memberFirst.symm.trans memberSecond)

variable (unicode) in
/-- The fields of a lower-cased segment are what its own variables hold. -/
theorem fieldsOf_map_toLower (plain : PlainSegments env) {segment : List Char}
    (plainSegment : PlainSegment segment) (separated : '_' ∉ segment) :
    fieldsOf unicode env (segment.map Char.toLower) = variablesOf env segment := by
  funext field
  refine Option.ext fun value => ?_
  rw [fieldsOf, Grouping.last_eq_some_iff _ (consistent_of_plain plain), variablesOf,
    ← OrderedDict.mem_items_iff]
  constructor
  · rintro ⟨entry, member, read⟩
    obtain ⟨other, plainOther, _, rfl, same⟩ :=
      (readBindVar_eq_some_iff plain member _ _ _).mp read
    rw [plainSegment.eq_of_map_toLower plainOther same]
    exact member
  · intro member
    exact ⟨_, member, (readBindVar_eq_some_iff plain member _ _ _).mpr
      ⟨segment, plainSegment, separated, rfl, rfl⟩⟩

theorem HasHost.exists_variable {segment : List Char} (host : HasHost env segment) :
    ∃ value, (bindVariable segment "HOST".toList, value) ∈ env.items := by
  obtain ⟨value, found⟩ := exists_of_given host.2
  exact ⟨value, (OrderedDict.mem_items_iff _ _ _).mpr found⟩

theorem HasHost.plain (plain : PlainSegments env) {segment : List Char}
    (host : HasHost env segment) : PlainSegment segment := by
  obtain ⟨value, member⟩ := host.exists_variable
  exact plain _ member segment _ ((bindKey_eq_some_iff _ _ _).mpr ⟨rfl, host.1⟩)

/-- The names with a host are the lower-cased segments with a host. -/
theorem discovered_iff_hasHost (plain : PlainSegments env) (name : List Char) :
    Discovered unicode env name ↔ HasHost env (name.map Char.toUpper) ∧
      (name.map Char.toUpper).map Char.toLower = name := by
  constructor
  · intro host
    obtain ⟨value, found⟩ := exists_of_given host
    obtain ⟨entry, member, read⟩ := Grouping.exists_of_last_eq_some _ found
    obtain ⟨segment, plainSegment, separated, _, rfl⟩ :=
      (readBindVar_eq_some_iff plain member _ _ _).mp read
    rw [Discovered, fieldsOf_map_toLower unicode plain plainSegment separated] at host
    rw [plainSegment.map_toUpper]
    exact ⟨⟨separated, host⟩, rfl⟩
  · rintro ⟨host, same⟩
    rw [← same, Discovered, fieldsOf_map_toLower unicode plain (host.plain plain) host.1]
    exact host.2

end Environment

/-! ### Reading an environment -/

/-- An environment with plain segments is read the same in every order; it is read exactly when
every segment with a host is complete; and then there is one bind for each of these segments, in
order of the lower-cased segments, made of the variables of its segment alone. -/
theorem environment_read_exactly (unicode : Lowercase) (env : Environment)
    (plain : PlainSegments env) :
    (∀ other : Environment, other.items.Perm env.items →
      bindsFromEnv unicode other = bindsFromEnv unicode env) ∧
    ((∃ binds, bindsFromEnv unicode env = .ok binds) ↔
      ∀ segment, HasHost env segment → Complete (variablesOf env segment)) ∧
    ∀ binds, bindsFromEnv unicode env = .ok binds →
      ∃ segments : List (List Char),
        (segments.Pairwise fun first second =>
          compare (first.map Char.toLower) (second.map Char.toLower) = .lt) ∧
        (∀ segment, segment ∈ segments ↔ HasHost env segment) ∧
        List.Forall₂ (fun segment bind =>
          Configures unicode (segment.map Char.toLower) (variablesOf env segment) bind)
          segments binds := by
  refine ⟨?_, ?_, ?_⟩
  · intro other same
    rw [bindsFromEnv, Grouping.collect_perm _ (consistent_of_plain plain) same]
    rfl
  · rw [bindsFromEnv_ok_iff]
    constructor
    · intro complete segment host
      have plainSegment := host.plain plain
      rw [← fieldsOf_map_toLower unicode plain plainSegment host.1]
      refine complete _ ((discovered_iff_hasHost plain _).mpr ?_)
      rw [plainSegment.map_toUpper]
      exact ⟨host, rfl⟩
    · intro complete name host
      obtain ⟨hasHost, same⟩ := (discovered_iff_hasHost plain name).mp host
      rw [← same, fieldsOf_map_toLower unicode plain (hasHost.plain plain) hasHost.1]
      exact complete _ hasHost
  · intro binds read
    have hosts : ∀ name ∈ discovered unicode env, HasHost env (name.map Char.toUpper) ∧
        (name.map Char.toUpper).map Char.toLower = name := fun name member =>
      (discovered_iff_hasHost plain name).mp ((mem_discovered_iff unicode env name).mp member)
    refine ⟨(discovered unicode env).map (List.map Char.toUpper), ?_, ?_, ?_⟩
    · rw [List.pairwise_map]
      refine (discovered_sorted unicode env).imp_of_mem fun memberFirst memberSecond below => ?_
      rw [(hosts _ memberFirst).2, (hosts _ memberSecond).2]
      exact below
    · intro segment
      rw [List.mem_map]
      constructor
      · rintro ⟨name, member, rfl⟩
        exact (hosts name member).1
      · intro host
        have restored := (host.plain plain).map_toUpper
        refine ⟨segment.map Char.toLower, ?_, restored⟩
        rw [mem_discovered_iff, discovered_iff_hasHost plain, restored]
        exact ⟨host, rfl⟩
    · rw [List.forall₂_map_left_iff]
      have paired := (bindsFromEnv_eq_ok_iff unicode env binds).mp read
      refine ((List.forall₂_and_left _ _).mpr ⟨hosts, paired⟩).imp fun name bind both => ?_
      obtain ⟨⟨host, same⟩, configures⟩ := both
      rw [← fieldsOf_map_toLower unicode plain (host.plain plain) host.1, same]
      exact configures

/-- Two binds and what is left of a third, between other variables. -/
def mixedEnv : Environment where
  items := [
    ("SMPP_BIND_B_SYSTEM_ID".toList, "b".toList),
    ("PATH".toList, "/bin".toList),
    ("SMPP_BIND_A_HOST".toList, "10.0.0.1".toList),
    ("SMPP_BIND_B_HOST".toList, "10.0.0.2".toList),
    ("SMPP_BIND_C_PORT".toList, "none".toList),
    ("SMPP_BIND_A_PASSWORD".toList, "secret".toList),
    ("SMPP_BIND_B_PASSWORD".toList, "hidden".toList),
    ("SMPP_BIND_A_SYSTEM_ID".toList, "a".toList)]
  distinct := by decide

/-- The same variables the other way round. -/
def mixedEnvReversed : Environment := ⟨mixedEnv.items.reverse, by decide⟩

theorem environment_read_exactly_mixed :
    PlainSegments mixedEnv ∧
    bindsFromEnv asciiLowercase mixedEnvReversed = bindsFromEnv asciiLowercase mixedEnv ∧
    ∃ binds, bindsFromEnv asciiLowercase mixedEnv = .ok binds ∧
      binds.map BindConfig.name = [['a'], ['b']] ∧
      ∃ segments : List (List Char), List.Forall₂ (fun segment bind =>
        Configures asciiLowercase (segment.map Char.toLower) (variablesOf mixedEnv segment) bind)
        segments binds := by
  have plain : PlainSegments mixedEnv := by decide +kernel
  obtain ⟨anyOrder, _, reads⟩ := environment_read_exactly asciiLowercase mixedEnv plain
  refine ⟨plain, anyOrder mixedEnvReversed (List.reverse_perm _), ?_⟩
  cases read : bindsFromEnv asciiLowercase mixedEnv with
  | error error =>
    have accepted : (bindsFromEnv asciiLowercase mixedEnv).isOk = true := by decide +kernel
    rw [read] at accepted
    cases accepted
  | ok binds =>
    have names : (bindsFromEnv asciiLowercase mixedEnv).map (List.map BindConfig.name) =
        .ok [['a'], ['b']] := by
      decide +kernel
    rw [read] at names
    obtain ⟨segments, _, _, paired⟩ := reads binds read
    exact ⟨binds, rfl, Except.ok.inj names, segments, paired⟩

end SiphonSmpp
