/-
This file models the errors of loading as an operator reads them (the `Display`
impls of `ConfigError` and `YamlError` in `src/config.rs`). An error of a bind
that is declared by environment variables names one variable, spelt from the
lower-cased name of the bind.

`errors_name_their_fix` follows the messages: whoever sets the variable that is
named to something its check takes, and loads again, is led to each variable
that is at fault once and to no other, and then the binds are read.
-/

import Mathlib.Data.List.Perm.Basic
import SiphonSmpp.ConfigFile
import SiphonSmpp.EnvEncoding

namespace SiphonSmpp

open Decimal

/-! ### Messages -/

/-- What the messages use of the standard library: `str::to_uppercase`, of which the crate relies
on the value on ASCII text, and how `{:?}` quotes a text. -/
structure Rendering where
  toUppercase : List Char → List Char
  debug : List Char → List Char
  ascii : ∀ text, (∀ character ∈ text, character.toNat < 0x80) →
    toUppercase text = text.map Char.toUpper

/-- The messages of ASCII text without anything to escape. -/
def asciiRendering : Rendering :=
  ⟨fun text => text.map Char.toUpper, fun text => '"' :: text ++ ['"'], fun _ _ => rfl⟩

/-- `ParseIntError` as text. -/
def intErrorText : IntErrorKind → List Char
  | .empty => "cannot parse integer from empty string".toList
  | .invalidDigit => "invalid digit found in string".toList
  | .posOverflow => "number too large to fit in target type".toList

/-- An error of the parser, after the place it is about unless that is the root. -/
def YamlError.display (error : YamlError) : List Char :=
  if error.keyPath = [] ∨ error.keyPath = ".".toList then error.source
  else error.keyPath ++ ": ".toList ++ error.source

section Messages

variable (rendering : Rendering)

def ConfigError.display : ConfigError → List Char
  | .read path source => "read ".toList ++ path ++ ": ".toList ++ source
  | .parse path keyPath source =>
    "parse ".toList ++ path ++ ": ".toList ++ YamlError.display ⟨keyPath, source⟩
  | .envBindMissing bind field =>
    "bind ".toList ++ rendering.debug bind ++ " from env: missing SMPP_BIND_".toList ++
      rendering.toUppercase bind ++ "_".toList ++ field.toList
  | .envBindInvalid bind field value source =>
    "bind ".toList ++ rendering.debug bind ++ " from env: SMPP_BIND_".toList ++
      rendering.toUppercase bind ++ "_".toList ++ field.toList ++ " = ".toList ++
      rendering.debug value ++ " (".toList ++ intErrorText source ++ ")".toList

/-- The field an error is about, and the variable its message names for it. -/
def ConfigError.names : ConfigError → Option (String × List Char)
  | .envBindMissing bind field | .envBindInvalid bind field _ _ =>
    some (field, bindVariable (rendering.toUppercase bind) field.toList)
  | .read _ _ | .parse _ _ _ => none

/-- The variable stands in the message. -/
theorem ConfigError.infix_display {error : ConfigError} {field : String} {key : List Char}
    (named : error.names rendering = some (field, key)) : key <:+: error.display rendering := by
  have missing : " from env: missing SMPP_BIND_".toList =
      " from env: missing ".toList ++ bindPrefix := by decide
  have invalid : " from env: SMPP_BIND_".toList = " from env: ".toList ++ bindPrefix := by decide
  have underscore : "_".toList = ['_'] := rfl
  cases error with
  | read path source => cases named
  | parse path keyPath source => cases named
  | envBindMissing bind about =>
    obtain ⟨rfl, rfl⟩ := Prod.mk.inj (Option.some.inj named)
    refine ⟨"bind ".toList ++ rendering.debug bind ++ " from env: missing ".toList, [], ?_⟩
    unfold display bindVariable
    simp only [missing, underscore, List.append_assoc, List.singleton_append, List.append_nil]
  | envBindInvalid bind about value source =>
    obtain ⟨rfl, rfl⟩ := Prod.mk.inj (Option.some.inj named)
    refine ⟨"bind ".toList ++ rendering.debug bind ++ " from env: ".toList, " = ".toList ++
      rendering.debug value ++ " (".toList ++ intErrorText source ++ ")".toList, ?_⟩
    unfold display bindVariable
    simp only [invalid, underscore, List.append_assoc, List.cons_append, List.nil_append]

end Messages

example : (ConfigError.envBindMissing "alpha".toList "PASSWORD").display asciiRendering =
    "bind \"alpha\" from env: missing SMPP_BIND_ALPHA_PASSWORD".toList := by
  decide

/-! ### Checks -/

/-- The fields a bind with a host is checked for, in the order of the checks. -/
def checkedFields : List String :=
  ["PORT", "MAX_MPS", "SYSTEM_ID", "PASSWORD", "ENQUIRE_LINK_MS", "RESPONSE_MS"]

/-- Whether what a field holds passes its check: a number may be left out, and is one else; any
other field has a value. -/
def passes (field : String) (held : Option (List Char)) : Bool :=
  match held.filter fun value => value ≠ [] with
  | some value => field ∉ numberFields || (parseUnsigned (2 ^ 64) value).isOk
  | none => field ∈ numberFields

section Checks

variable {unicode : Lowercase} {name : List Char} {fields : List Char → Option (List Char)}
  {field : String}

/-- A number field passes exactly when it can be read. -/
theorem passes_number_iff (number : field ∈ numberFields) :
    passes field (fields field.toList) = true ↔ NumberReads fields field := by
  have filtered : (fields field.toList).filter (fun value => value ≠ []) = given fields field := rfl
  rw [passes, NumberReads, filtered]
  cases given fields field with
  | none =>
    exact iff_of_true (decide_eq_true number) fun value held =>
      absurd held.symm (Option.some_ne_none value)
  | some value =>
    simp only [number, not_true_eq_false, decide_false, Bool.false_or, Option.some.injEq,
      forall_eq']
    cases parseUnsigned (2 ^ 64) value with
    | ok read => exact iff_of_true rfl ⟨read, rfl⟩
    | error source =>
      refine iff_of_false Bool.false_ne_true ?_
      rintro ⟨read, accepted⟩
      cases accepted

/-- Any other field passes exactly when it has a value. -/
theorem passes_required_iff (required : field ∉ numberFields) :
    passes field (fields field.toList) = true ↔ given fields field ≠ none := by
  have filtered : (fields field.toList).filter (fun value => value ≠ []) = given fields field := rfl
  rw [passes, filtered]
  cases given fields field with
  | none => simp [required]
  | some value => simp [required]

theorem complete_iff_passes :
    Complete fields ↔ ∀ field ∈ checkedFields, passes field (fields field.toList) = true := by
  constructor
  · intro complete field checked
    by_cases number : field ∈ numberFields
    · exact (passes_number_iff number).mpr (complete.numbers field number)
    · refine (passes_required_iff number).mpr ?_
      simp only [checkedFields, numberFields, List.mem_cons, List.not_mem_nil, or_false,
        not_or] at checked number
      rcases checked with rfl | rfl | rfl | rfl | rfl | rfl
      all_goals first
        | exact complete.systemId
        | exact complete.password
        | simp at number
  · intro passing
    refine ⟨?_, ?_, fun field number => ?_⟩
    · exact (passes_required_iff (by decide)).mp (passing "SYSTEM_ID" (by decide))
    · exact (passes_required_iff (by decide)).mp (passing "PASSWORD" (by decide))
    · have checked : numberFields ⊆ checkedFields := by decide
      exact (passes_number_iff number).mp (passing field (checked number))

/-- An error of a bind is about it, and about a field that does not pass its check. -/
theorem names_of_bindOf_eq_error (rendering : Rendering) {error : ConfigError}
    (failed : bindOf unicode name fields = .error error) :
    ∃ field ∈ checkedFields, passes field (fields field.toList) = false ∧
      error.names rendering =
        some (field, bindVariable (rendering.toUppercase name) field.toList) := by
  have unread : ∀ field ∈ numberFields, ∀ value source, given fields field = some value →
      parseUnsigned (2 ^ 64) value = .error source →
      passes field (fields field.toList) = false := by
    intro field number value source held parsed
    rw [← Bool.not_eq_true, passes_number_iff number]
    intro reads
    obtain ⟨read, accepted⟩ := reads value held
    rw [parsed] at accepted
    cases accepted
  have absent : ∀ field ∉ numberFields, given fields field = none →
      passes field (fields field.toList) = false := by
    intro field required missing
    rw [← Bool.not_eq_true, passes_required_iff required]
    exact fun present => present missing
  rw [bindOf] at failed
  cases present : given fields "HOST" with
  | none =>
    rw [present] at failed
    cases failed
  | some host =>
    simp only [present, bind_eq_error_iff, parseU_error_iff, require_error_iff] at failed
    rcases failed with ⟨value, source, held, parsed, rfl⟩ | ⟨_, _,
      ⟨value, source, held, parsed, rfl⟩ | ⟨_, _, ⟨missing, rfl⟩ | ⟨_, _, ⟨missing, rfl⟩ | ⟨_, _,
      ⟨value, source, held, parsed, rfl⟩ | ⟨_, _, ⟨value, source, held, parsed, rfl⟩ |
      ⟨_, _, impossible⟩⟩⟩⟩⟩⟩
    · exact ⟨"PORT", by decide, unread _ (by decide) value source held parsed, rfl⟩
    · exact ⟨"MAX_MPS", by decide, unread _ (by decide) value source held parsed, rfl⟩
    · exact ⟨"SYSTEM_ID", by decide, absent _ (by decide) missing, rfl⟩
    · exact ⟨"PASSWORD", by decide, absent _ (by decide) missing, rfl⟩
    · exact ⟨"ENQUIRE_LINK_MS", by decide, unread _ (by decide) value source held parsed, rfl⟩
    · exact ⟨"RESPONSE_MS", by decide, unread _ (by decide) value source held parsed, rfl⟩
    · cases impossible

end Checks

/-! ### Faults -/

/-- The segments with a host, in the order of their variables. -/
def hostSegments (env : Environment) : List (List Char) :=
  env.items.filterMap fun entry => (bindKey entry.1).bind fun parts =>
    if parts.2 = "HOST".toList ∧ entry.2 ≠ [] then some parts.1 else none

/-- The variables of these segments that hold what does not pass the check of its field. -/
def faults (env : Environment) : List (List Char) :=
  (hostSegments env).flatMap fun segment =>
    (checkedFields.filter fun field =>
      !passes field (env.get? (bindVariable segment field.toList))).map
        fun field => bindVariable segment field.toList

section Faults

variable {env : Environment}

theorem hostSegment_eq_some_iff (entry : List Char × List Char) (segment : List Char) :
    ((bindKey entry.1).bind fun parts =>
      if parts.2 = "HOST".toList ∧ entry.2 ≠ [] then some parts.1 else none) = some segment ↔
      entry.1 = bindVariable segment "HOST".toList ∧ '_' ∉ segment ∧ entry.2 ≠ [] := by
  rw [Option.bind_eq_some_iff]
  constructor
  · rintro ⟨⟨found, field⟩, read, chosen⟩
    obtain ⟨key, separated⟩ := (bindKey_eq_some_iff _ _ _).mp read
    split at chosen
    · rename_i host
      obtain rfl : found = segment := Option.some.inj chosen
      obtain ⟨rfl, filled⟩ := host
      exact ⟨key, separated, filled⟩
    · cases chosen
  · rintro ⟨key, separated, filled⟩
    exact ⟨(segment, "HOST".toList), (bindKey_eq_some_iff _ _ _).mpr ⟨key, separated⟩,
      if_pos ⟨rfl, filled⟩⟩

theorem mem_hostSegments_iff (segment : List Char) :
    segment ∈ hostSegments env ↔ HasHost env segment := by
  rw [hostSegments, List.mem_filterMap, HasHost]
  simp only [hostSegment_eq_some_iff]
  have held : given (variablesOf env segment) "HOST" ≠ none ↔
      ∃ value, value ≠ [] ∧ env.get? (bindVariable segment "HOST".toList) = some value := by
    rw [Option.ne_none_iff_exists']
    refine exists_congr fun value => ?_
    rw [given, Option.filter_eq_some_iff, decide_eq_true_iff]
    exact and_comm
  rw [held]
  constructor
  · rintro ⟨⟨key, value⟩, member, rfl, separated, filled⟩
    exact ⟨separated, value, filled, (OrderedDict.mem_items_iff _ _ _).mp member⟩
  · rintro ⟨separated, value, filled, found⟩
    exact ⟨(_, value), (OrderedDict.mem_items_iff _ _ _).mpr found, rfl, separated, filled⟩

theorem hostSegments_nodup (env : Environment) : (hostSegments env).Nodup := by
  refine List.pairwise_filterMap.mpr (List.Pairwise.imp ?_ (List.pairwise_map.mp env.distinct))
  intro first second different segment chosen other otherChosen same
  obtain ⟨firstKey, _⟩ := (hostSegment_eq_some_iff first segment).mp chosen
  obtain ⟨secondKey, _⟩ := (hostSegment_eq_some_iff second other).mp otherChosen
  exact different (firstKey.trans (same ▸ secondKey.symm))

theorem mem_faults_iff (key : List Char) :
    key ∈ faults env ↔ ∃ segment field, HasHost env segment ∧ field ∈ checkedFields ∧
      key = bindVariable segment field.toList ∧ passes field (env.get? key) = false := by
  rw [faults, List.mem_flatMap]
  refine exists_congr fun segment => ?_
  rw [mem_hostSegments_iff, List.mem_map]
  constructor
  · rintro ⟨host, field, member, rfl⟩
    obtain ⟨checked, failing⟩ := List.mem_filter.mp member
    exact ⟨field, host, checked, rfl, (Bool.not_eq_true' _).mp failing⟩
  · rintro ⟨field, host, checked, rfl, failing⟩
    exact ⟨host, field, List.mem_filter.mpr ⟨checked, (Bool.not_eq_true' _).mpr failing⟩, rfl⟩

theorem faults_nodup : (faults env).Nodup := by
  have ofHost : ∀ segment ∈ hostSegments env, '_' ∉ segment := fun segment member =>
    ((mem_hostSegments_iff segment).mp member).1
  refine List.nodup_flatMap.mpr ⟨fun segment member => ?_, ?_⟩
  · have distinct : checkedFields.Nodup := by decide
    refine (distinct.filter _).map_on fun first _ second _ same => ?_
    exact String.toList_injective
      (bindVariable_inj (ofHost segment member) (ofHost segment member) same).2
  · refine (hostSegments_nodup env).imp_of_mem fun {first second} inFirst inSecond
      different => ?_
    intro key ofFirst ofSecond
    obtain ⟨field, _, rfl⟩ := List.mem_map.mp ofFirst
    obtain ⟨other, _, same⟩ := List.mem_map.mp ofSecond
    exact different (bindVariable_inj (ofHost _ inSecond) (ofHost _ inFirst) same).1.symm

/-- Setting a variable that is checked leaves the segments with a host as they are. -/
theorem hasHost_setItem_iff {segment : List Char} {field : String} (separated : '_' ∉ segment)
    (checked : field ∈ checkedFields) (value other : List Char) :
    HasHost (env.setItem (bindVariable segment field.toList) value) other ↔ HasHost env other := by
  have notHost : "HOST" ∉ checkedFields := by decide
  refine and_congr_right fun otherSeparated => ?_
  have different : bindVariable other "HOST".toList ≠ bindVariable segment field.toList := by
    intro same
    have fields := (bindVariable_inj otherSeparated separated same).2
    exact notHost (String.toList_injective fields ▸ checked)
  rw [given, given, variablesOf, variablesOf, OrderedDict.get?_setItem, if_neg different]

/-- A variable that is set to something its check takes is no fault any more, and the others are
what they were. -/
theorem faults_setItem {segment : List Char} {field : String} (host : HasHost env segment)
    (checked : field ∈ checkedFields)
    (failing : passes field (env.get? (bindVariable segment field.toList)) = false)
    {value : List Char} (accepted : passes field (some value) = true) :
    (faults env).Perm (bindVariable segment field.toList ::
      faults (env.setItem (bindVariable segment field.toList) value)) := by
  have gone : bindVariable segment field.toList ∉
      faults (env.setItem (bindVariable segment field.toList) value) := by
    intro still
    obtain ⟨other, about, otherHost, _, same, fails⟩ := (mem_faults_iff _).mp still
    rw [hasHost_setItem_iff host.1 checked] at otherHost
    obtain rfl := String.toList_injective (bindVariable_inj host.1 otherHost.1 same).2
    rw [OrderedDict.get?_setItem, if_pos rfl, accepted] at fails
    cases fails
  refine (List.perm_ext_iff_of_nodup faults_nodup
    (List.nodup_cons.mpr ⟨gone, faults_nodup⟩)).mpr fun key => ?_
  rw [List.mem_cons]
  by_cases same : key = bindVariable segment field.toList
  · subst same
    exact iff_of_true ((mem_faults_iff _).mpr ⟨segment, field, host, checked, rfl, failing⟩)
      (Or.inl rfl)
  · simp only [mem_faults_iff, hasHost_setItem_iff host.1 checked, OrderedDict.get?_setItem,
      same, if_false, false_or]

end Faults

/-! ### Following the messages -/

theorem toNat_toLower_lt {character : Char} (ascii : character.toNat < 0x80) :
    character.toLower.toNat < 0x80 := by
  by_cases upper : character.isUpper = true
  · have lower : character.toLower.isLower = true := by
      rw [Char.isLower_toLower_eq_isAlpha, Char.isAlpha, upper, Bool.true_or]
    exact ((isLower_iff_toNat _).mp lower).2.trans_lt (by decide)
  · rw [Char.toLower_eq_of_not_isUpper upper]
    exact ascii

section Corrections

variable (unicode : Lowercase) (rendering : Rendering)

/-- Set the variable that the error of an environment names, to something its check takes. -/
def correct (env : Environment) (value : List Char) : Option Environment :=
  match bindsFromEnv unicode env with
  | .ok _ => none
  | .error error =>
    match error.names rendering with
    | some (field, key) => if passes field (some value) then some (env.setItem key value) else none
    | none => none

variable {unicode} {env : Environment}

/-- The error of an environment names a fault of it, as it is spelt there. -/
theorem names_of_failed (plain : PlainSegments env) {error : ConfigError}
    (failed : bindsFromEnv unicode env = .error error) :
    ∃ segment field, HasHost env segment ∧ field ∈ checkedFields ∧
      passes field (env.get? (bindVariable segment field.toList)) = false ∧
      error.names rendering = some (field, bindVariable segment field.toList) := by
  obtain ⟨name, _, failedBind⟩ := (bindsFromEnv_eq_error_iff unicode env error).mp failed
  obtain ⟨host, same⟩ := (discovered_iff_hasHost plain name).mp (bindOf_eq_error failedBind).1
  have plainSegment := host.plain plain
  obtain ⟨field, checked, failing, named⟩ := names_of_bindOf_eq_error rendering failedBind
  refine ⟨name.map Char.toUpper, field, host, checked, ?_, ?_⟩
  · rw [← same, fieldsOf_map_toLower unicode plain plainSegment host.1] at failing
    exact failing
  · have ascii : ∀ character ∈ name, character.toNat < 0x80 := by
      rw [← same]
      intro character member
      obtain ⟨original, inSegment, rfl⟩ := List.mem_map.mp member
      exact toNat_toLower_lt (plainSegment original inSegment).1
    rw [named, rendering.ascii name ascii]

/-- An environment is read exactly when it has no faults. -/
theorem reads_iff_faults_eq_nil (plain : PlainSegments env) :
    (∃ binds, bindsFromEnv unicode env = .ok binds) ↔ faults env = [] := by
  rw [bindsFromEnv_ok_iff, List.eq_nil_iff_forall_not_mem]
  constructor
  · intro complete key fault
    obtain ⟨segment, field, host, checked, rfl, failing⟩ := (mem_faults_iff key).mp fault
    have plainSegment := host.plain plain
    have discovered : Discovered unicode env (segment.map Char.toLower) := by
      rw [discovered_iff_hasHost plain, plainSegment.map_toUpper]
      exact ⟨host, rfl⟩
    have whole := complete _ discovered
    rw [fieldsOf_map_toLower unicode plain plainSegment host.1] at whole
    have passing := complete_iff_passes.mp whole field checked
    rw [variablesOf, failing] at passing
    cases passing
  · intro unfaulted name host
    obtain ⟨hasHost, same⟩ := (discovered_iff_hasHost plain name).mp host
    rw [← same, fieldsOf_map_toLower unicode plain (hasHost.plain plain) hasHost.1]
    refine complete_iff_passes.mpr fun field checked => ?_
    refine (Bool.not_eq_false _).mp fun failing =>
      unfaulted (bindVariable (name.map Char.toUpper) field.toList) ?_
    exact (mem_faults_iff _).mpr ⟨_, field, hasHost, checked, rfl, failing⟩

/-- A correction removes one fault, the one the error names, and touches nothing else. -/
theorem correct_spec (plain : PlainSegments env) {value : List Char} {after : Environment}
    (corrected : correct unicode rendering env value = some after) :
    ∃ key, (faults env).Perm (key :: faults after) ∧ PlainSegments after ∧
      ∀ other, other ≠ key → after.get? other = env.get? other := by
  rw [correct] at corrected
  cases read : bindsFromEnv unicode env with
  | ok binds =>
    rw [read] at corrected
    cases corrected
  | error error =>
    obtain ⟨segment, field, host, checked, failing, named⟩ := names_of_failed rendering plain read
    simp only [read, named] at corrected
    split at corrected
    · rename_i accepted
      obtain rfl := Option.some.inj corrected
      refine ⟨_, faults_setItem host checked failing accepted, ?_, ?_⟩
      · intro entry member found about split
        rw [OrderedDict.mem_items_iff, OrderedDict.get?_setItem] at member
        by_cases same : entry.1 = bindVariable segment field.toList
        · obtain ⟨key, separated⟩ := (bindKey_eq_some_iff _ _ _).mp split
          rw [(bindVariable_inj separated host.1 (key.symm.trans same)).1]
          exact host.plain plain
        · rw [if_neg same, ← OrderedDict.mem_items_iff] at member
          exact plain entry member found about split
      · intro other different
        rw [OrderedDict.get?_setItem, if_neg different]
    · cases corrected

/-- Corrections remove as many faults, and leave what is no fault as it is. -/
theorem corrections_spec (plain : PlainSegments env) (values : List (List Char))
    {after : Environment} (ran : values.foldlM (correct unicode rendering) env = some after) :
    PlainSegments after ∧ (faults after).length + values.length = (faults env).length ∧
    (faults after ⊆ faults env) ∧
    ∀ key, key ∉ faults env ∨ key ∈ faults after → after.get? key = env.get? key := by
  induction values generalizing env with
  | nil =>
    obtain rfl := Option.some.inj ran
    exact ⟨plain, rfl, List.Subset.refl _, fun _ _ => rfl⟩
  | cons value rest inductionHypothesis =>
    rw [List.foldlM_cons] at ran
    obtain ⟨next, corrected, later⟩ := Option.bind_eq_some_iff.mp ran
    obtain ⟨key, removed, plainNext, kept⟩ := correct_spec rendering plain corrected
    obtain ⟨plainAfter, counted, among, keptAfter⟩ := inductionHypothesis plainNext later
    refine ⟨plainAfter, ?_, ?_, ?_⟩
    · rw [removed.length_eq, List.length_cons, List.length_cons, ← counted, Nat.add_assoc]
    · intro other member
      exact removed.mem_iff.mpr (List.mem_cons_of_mem _ (among member))
    · intro other either
      have fresh : key ∉ faults next := (List.nodup_cons.mp (removed.nodup_iff.mp faults_nodup)).1
      have different : other ≠ key := by
        rintro rfl
        rcases either with untouched | still
        · exact untouched (removed.mem_iff.mpr List.mem_cons_self)
        · exact fresh (among still)
      rw [keptAfter other ?_, kept other different]
      refine either.imp (fun untouched member => untouched ?_) id
      exact removed.mem_iff.mpr (List.mem_cons_of_mem _ member)

end Corrections

/-- Whoever follows the messages is led to each fault once. However many corrections were made,
each of the variable that was named and to something its check takes, the binds are read exactly
when there were as many corrections as there are faults; before that the message names a fault that
is still as it was; and no variable without a fault is touched. -/
theorem errors_name_their_fix (unicode : Lowercase) (rendering : Rendering) (env : Environment)
    (plain : PlainSegments env) (values : List (List Char)) (after : Environment)
    (ran : values.foldlM (correct unicode rendering) env = some after) :
    values.length ≤ (faults env).length ∧
    ((∃ binds, bindsFromEnv unicode after = .ok binds) ↔ values.length = (faults env).length) ∧
    (∀ error, bindsFromEnv unicode after = .error error →
      ∃ field, ∃ key ∈ faults env, error.names rendering = some (field, key) ∧
        key <:+: error.display rendering ∧ after.get? key = env.get? key ∧
        ∀ value, passes field (some value) = true →
          ∃ next, (values ++ [value]).foldlM (correct unicode rendering) env = some next) ∧
    ∀ key, key ∉ faults env → after.get? key = env.get? key := by
  obtain ⟨plainAfter, counted, among, kept⟩ := corrections_spec rendering plain values ran
  refine ⟨?_, ?_, ?_, fun key untouched => kept key (Or.inl untouched)⟩
  · rw [← counted]
    exact Nat.le_add_left _ _
  · rw [reads_iff_faults_eq_nil plainAfter, ← counted, ← List.length_eq_zero_iff]
    omega
  · intro error failed
    obtain ⟨segment, field, host, checked, failing, named⟩ :=
      names_of_failed rendering plainAfter failed
    have fault : bindVariable segment field.toList ∈ faults after :=
      (mem_faults_iff _).mpr ⟨segment, field, host, checked, rfl, failing⟩
    refine ⟨field, _, among fault, named, error.infix_display rendering named,
      kept _ (Or.inr fault), fun value accepted => ?_⟩
    refine ⟨after.setItem (bindVariable segment field.toList) value, ?_⟩
    rw [List.foldlM_append, ran]
    show (correct unicode rendering after value).bind _ = _
    simp only [correct, failed, named, accepted, if_true]
    rfl

/-- A bind whose port is no number and that has no password, after one that is fine. -/
def faultyEnv : Environment where
  items := [
    ("SMPP_BIND_B_HOST".toList, "10.0.0.2".toList),
    ("SMPP_BIND_B_PORT".toList, "27o5".toList),
    ("SMPP_BIND_A_HOST".toList, "10.0.0.1".toList),
    ("SMPP_BIND_A_SYSTEM_ID".toList, "a".toList),
    ("SMPP_BIND_A_PASSWORD".toList, "secret".toList),
    ("SMPP_BIND_B_SYSTEM_ID".toList, "b".toList)]
  distinct := by decide

theorem errors_name_their_fix_two :
    faults faultyEnv = ["SMPP_BIND_B_PORT".toList, "SMPP_BIND_B_PASSWORD".toList] ∧
    ∃ after, ["2705".toList, "hidden".toList].foldlM (correct asciiLowercase asciiRendering)
        faultyEnv = some after ∧
      ∃ binds, bindsFromEnv asciiLowercase after = .ok binds := by
  have plain : PlainSegments faultyEnv := by decide +kernel
  have two : faults faultyEnv = ["SMPP_BIND_B_PORT".toList, "SMPP_BIND_B_PASSWORD".toList] := by
    decide +kernel
  have possible : (["2705".toList, "hidden".toList].foldlM (correct asciiLowercase asciiRendering)
      faultyEnv).isSome = true := by
    decide +kernel
  obtain ⟨after, ran⟩ := Option.isSome_iff_exists.mp possible
  refine ⟨two, after, ran, ?_⟩
  exact (errors_name_their_fix asciiLowercase asciiRendering faultyEnv plain _ after ran).2.1.mpr
    (by rw [two]; rfl)

end SiphonSmpp
