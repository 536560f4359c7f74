/-
This file models the binds that are declared by environment variables
(`binds_from_env` in `src/config.rs`). A variable `SMPP_BIND_<NAME>_<FIELD>` is
split at the first underscore after the prefix, the name is lower-cased, and the
variables of one name are the fields of one bind. A bind without a host is passed
over; the first field that is missing or is no number is an error.

`bindsFromEnv_eq_ok_iff` and `bindsFromEnv_eq_error_iff` say what becomes of every
environment, by the fields of each name alone.
-/

import Mathlib.Algebra.Ring.Nat
import SiphonSmpp.Lib.Decimal
import SiphonSmpp.Lib.Grouping
import SiphonSmpp.Lib.Markers
import SiphonSmpp.Lib.OrderedDict
import SiphonSmpp.Text

namespace SiphonSmpp

open Std Decimal

/-! ### Variables -/

/-- The environment: each variable once, in the order they are enumerated. -/
abbrev Environment := OrderedDict (List Char) (List Char)

/-- `str::to_lowercase`. The crate relies on it for ASCII text. -/
structure Lowercase where
  toLowercase : List Char → List Char
  ascii : ∀ text, (∀ character ∈ text, character.toNat < 0x80) →
    toLowercase text = text.map Char.toLower

/-- Lower-casing of ASCII letters, and of no others. -/
def asciiLowercase : Lowercase := ⟨fun text => text.map Char.toLower, fun _ _ => rfl⟩

def bindPrefix : List Char := "SMPP_BIND_".toList

/-- The name segment and the field of a bind variable. -/
def bindKey (key : List Char) : Option (List Char × List Char) :=
  if bindPrefix.isPrefixOf key then
    let rest := key.drop bindPrefix.length
    (Markers.before? ['_'] rest).map fun segment => (segment, rest.drop (segment.length + 1))
  else none

/-- The variable of a name segment and a field. -/
def bindVariable (segment field : List Char) : List Char :=
  bindPrefix ++ segment ++ '_' :: field

/-- A bind variable is split at the first underscore after the prefix. -/
theorem bindKey_eq_some_iff (key segment field : List Char) :
    bindKey key = some (segment, field) ↔ key = bindVariable segment field ∧ '_' ∉ segment := by
  have dropped : ∀ front rest : List Char,
      (front ++ '_' :: rest).drop (front.length + 1) = rest := by
    intro front rest
    rw [List.drop_append, List.drop_of_length_le (Nat.le_succ _), Nat.add_sub_cancel_left]
    rfl
  rw [bindKey, bindVariable, List.append_assoc]
  split
  · rename_i starts
    obtain ⟨rest, rfl⟩ := List.isPrefixOf_iff_prefix.mp starts
    rw [List.drop_left, List.append_cancel_left_eq, Option.map_eq_some_iff]
    constructor
    · rintro ⟨found, split, same⟩
      obtain ⟨after, rfl, absent⟩ := Markers.before?_singleton_eq_some_iff.mp split
      rw [dropped, Prod.mk.injEq] at same
      obtain ⟨rfl, rfl⟩ := same
      exact ⟨rfl, absent⟩
    · rintro ⟨rfl, absent⟩
      refine ⟨segment, Markers.before?_singleton_eq_some_iff.mpr ⟨field, rfl, absent⟩, ?_⟩
      rw [dropped]
  · rename_i other
    refine iff_of_false nofun fun ⟨same, _⟩ => other ?_
    rw [same]
    exact List.isPrefixOf_iff_prefix.mpr (List.prefix_append _ _)

/-! ### Configuration -/

structure TlsConfig where
  certPath : List Char
  keyPath : List Char
  caPath : Option (List Char)
  deriving DecidableEq, Repr

structure BindConfig where
  name : List Char
  host : List Char
  port : UInt16
  systemId : List Char
  password : List Char
  systemType : List Char
  bindType : List Char
  maxMsgPerSec : UInt32
  enquireLinkTimerMs : UInt64
  responseTimerMs : UInt64
  tls : Option TlsConfig
  deriving DecidableEq, Repr

/-- The errors of loading a configuration. -/
inductive ConfigError where
  | read (path source : List Char)
  | parse (path keyPath source : List Char)
  | envBindMissing (bind : List Char) (field : String)
  | envBindInvalid (bind : List Char) (field : String) (value : List Char) (source : IntErrorKind)
  deriving DecidableEq, Repr

def defaultBindType : List Char := "transceiver".toList

def defaultEnquireLink : UInt64 := 30000

def defaultResponse : UInt64 := 30000

section Fields

variable (unicode : Lowercase) (name : List Char) (fields : List Char → Option (List Char))

/-- A field that has a value. -/
def given (field : String) : Option (List Char) :=
  (fields field.toList).filter fun value => value ≠ []

def require (field : String) : Except ConfigError (List Char) :=
  match given fields field with
  | some value => .ok value
  | none => .error (.envBindMissing name field)

def parseU (field : String) (default : UInt64) : Except ConfigError UInt64 :=
  match given fields field with
  | some value =>
    match parseUnsigned (2 ^ 64) value with
    | .ok number => .ok (.ofNat number)
    | .error source => .error (.envBindInvalid name field value source)
  | none => .ok default

/-- Whether the `TLS` field switches it on. -/
def tlsOn : Bool :=
  match (fields "TLS".toList).map fun value => unicode.toLowercase (trim value) with
  | some value => value ∈ ["true".toList, "1".toList, "yes".toList, "on".toList]
  | none => false

/-- The bind of one name, or nothing when it has no host. -/
def bindOf : Except ConfigError (Option BindConfig) :=
  match given fields "HOST" with
  | none => .ok none
  | some host => do
    let port ← parseU name fields "PORT" 2775
    let maxMsgPerSec ← parseU name fields "MAX_MPS" 0
    let systemId ← require name fields "SYSTEM_ID"
    let password ← require name fields "PASSWORD"
    let enquireLinkTimerMs ← parseU name fields "ENQUIRE_LINK_MS" defaultEnquireLink
    let responseTimerMs ← parseU name fields "RESPONSE_MS" defaultResponse
    return some {
      name := name
      host := host
      port := port.toUInt16
      systemId := systemId
      password := password
      systemType := (fields "SYSTEM_TYPE".toList).getD []
      bindType := (fields "BIND_TYPE".toList).getD defaultBindType
      maxMsgPerSec := maxMsgPerSec.toUInt32
      enquireLinkTimerMs := enquireLinkTimerMs
      responseTimerMs := responseTimerMs
      tls := if tlsOn unicode fields then some ⟨[], [], none⟩ else none }

end Fields

section Environment

variable (unicode : Lowercase)

/-- The name, the field and the value a variable sets. -/
def readBindVar (entry : List Char × List Char) : Option (List Char × List Char × List Char) :=
  (bindKey entry.1).map fun parts => (unicode.toLowercase parts.1, parts.2, entry.2)

/-- The binds of the names one after the other, each with what its fields hold. -/
def collectBinds : List (List Char × (List Char → Option (List Char))) →
    Except ConfigError (List BindConfig)
  | [] => .ok []
  | entry :: rest => do
    let bind ← bindOf unicode entry.1 entry.2
    let binds ← collectBinds rest
    return bind.toList ++ binds

/-- Discover the binds declared by `SMPP_BIND_<NAME>_*` variables. -/
def bindsFromEnv (env : Environment) : Except ConfigError (List BindConfig) :=
  let byName := Grouping.collect (readBindVar unicode) env.items
  collectBinds unicode (byName.toList.map fun entry => (entry.1, fun field => entry.2[field]?))

end Environment

/-! ### The fields of one bind -/

/-- A number that is absent, empty or a 64-bit number. -/
def NumberReads (fields : List Char → Option (List Char)) (field : String) : Prop :=
  ∀ value, given fields field = some value → ∃ number, parseUnsigned (2 ^ 64) value = .ok number

/-- The fields that hold numbers. -/
def numberFields : List String := ["PORT", "MAX_MPS", "ENQUIRE_LINK_MS", "RESPONSE_MS"]

/-- The fields of a bind that can be built. -/
structure Complete (fields : List Char → Option (List Char)) : Prop where
  systemId : given fields "SYSTEM_ID" ≠ none
  password : given fields "PASSWORD" ≠ none
  numbers : ∀ field ∈ numberFields, NumberReads fields field

/-- The number that is written in a field, or its default. -/
def Written (fields : List Char → Option (List Char)) (field : String) (default number : Nat) :
    Prop :=
  match given fields field with
  | some value => numberOf value = some number
  | none => number = default

section Fields

variable {unicode : Lowercase} {name : List Char} {fields : List Char → Option (List Char)}
  {field : String}

theorem given_eq_some {value : List Char} (set : fields field.toList = some value)
    (filled : value ≠ []) : given fields field = some value := by
  rw [given, set, Option.filter_some, if_pos (decide_eq_true filled)]

theorem exists_of_given (present : given fields field ≠ none) :
    ∃ value, fields field.toList = some value := by
  obtain ⟨value, found⟩ := Option.ne_none_iff_exists'.mp present
  rw [given, Option.filter_eq_some_iff] at found
  exact ⟨value, found.1⟩

/-- A number is the default of an empty field, the one that was read, or an error. -/
theorem parseU_cases (name : List Char) (fields : List Char → Option (List Char)) (field : String)
    (default : UInt64) :
    (given fields field = none ∧ parseU name fields field default = .ok default) ∨
    (∃ value number, given fields field = some value ∧
      parseUnsigned (2 ^ 64) value = .ok number ∧
      parseU name fields field default = .ok (.ofNat number)) ∨
    ∃ value source, given fields field = some value ∧
      parseUnsigned (2 ^ 64) value = .error source ∧
      parseU name fields field default = .error (.envBindInvalid name field value source) := by
  cases present : given fields field with
  | none => exact Or.inl ⟨rfl, by simp only [parseU, present]⟩
  | some value =>
    cases parsed : parseUnsigned (2 ^ 64) value with
    | ok number =>
      exact Or.inr (Or.inl ⟨value, number, rfl, parsed, by simp only [parseU, present, parsed]⟩)
    | error source =>
      exact Or.inr (Or.inr ⟨value, source, rfl, parsed, by simp only [parseU, present, parsed]⟩)

theorem parseU_ok_iff {default number : UInt64} :
    parseU name fields field default = .ok number ↔
      Written fields field default.toNat number.toNat := by
  rw [Written]
  rcases parseU_cases name fields field default with ⟨absent, same⟩ |
    ⟨value, found, present, parsed, same⟩ | ⟨value, source, present, parsed, same⟩
  · rw [absent, same, Except.ok.injEq, UInt64.toNat_inj]
    exact eq_comm
  · obtain ⟨written, bounded⟩ := (parseUnsigned_eq_ok_iff _ (by decide) value found).mp parsed
    rw [present, same, Except.ok.injEq]
    show UInt64.ofNat found = number ↔ numberOf value = some number.toNat
    rw [written, Option.some.injEq]
    constructor
    · rintro rfl
      exact (UInt64.toNat_ofNat_of_lt bounded).symm
    · rintro rfl
      exact UInt64.ofNat_toNat
  · rw [present, same]
    refine iff_of_false nofun fun written => ?_
    have fits := (parseUnsigned_eq_ok_iff _ (by decide) value number.toNat).mpr
      ⟨written, number.toNat_lt⟩
    rw [parsed] at fits
    cases fits

theorem parseU_reads_iff {default : UInt64} :
    (∃ number, parseU name fields field default = .ok number) ↔ NumberReads fields field := by
  rw [NumberReads]
  rcases parseU_cases name fields field default with ⟨absent, same⟩ |
    ⟨value, found, present, parsed, same⟩ | ⟨value, source, present, parsed, same⟩
  · rw [absent]
    exact iff_of_true ⟨_, same⟩ fun _ given => nomatch given
  · refine iff_of_true ⟨_, same⟩ fun other given => ⟨found, ?_⟩
    rw [present, Option.some.injEq] at given
    rw [← given, parsed]
  · refine iff_of_false (fun ⟨number, read⟩ => ?_) fun reads => ?_
    · rw [same] at read
      cases read
    · obtain ⟨number, read⟩ := reads value present
      rw [parsed] at read
      cases read

theorem parseU_error_iff {default : UInt64} {error : ConfigError} :
    parseU name fields field default = .error error ↔
      ∃ value source, given fields field = some value ∧
        parseUnsigned (2 ^ 64) value = .error source ∧
        error = .envBindInvalid name field value source := by
  constructor
  · intro failed
    rcases parseU_cases name fields field default with ⟨_, same⟩ | ⟨_, _, _, _, same⟩ |
      ⟨value, source, present, parsed, same⟩
    · rw [same] at failed
      cases failed
    · rw [same] at failed
      cases failed
    · rw [same, Except.error.injEq] at failed
      exact ⟨value, source, present, parsed, failed.symm⟩
  · rintro ⟨value, source, present, parsed, rfl⟩
    simp only [parseU, present, parsed]

theorem require_ok_iff {value : List Char} :
    require name fields field = .ok value ↔ given fields field = some value := by
  rw [require]
  cases given fields field with
  | none => exact iff_of_false nofun nofun
  | some found => rw [Except.ok.injEq, Option.some.injEq]

theorem require_error_iff {error : ConfigError} :
    require name fields field = .error error ↔
      given fields field = none ∧ error = .envBindMissing name field := by
  rw [require]
  cases given fields field with
  | none => exact ⟨fun same => ⟨rfl, (Except.error.inj same).symm⟩, fun both => by rw [both.2]⟩
  | some found => exact iff_of_false nofun nofun

/-- The bind some fields declare: texts as they are, timers as they are written, and the port
and the rate what is left of their numbers in 16 and 32 bits. -/
structure Configures (unicode : Lowercase) (name : List Char)
    (fields : List Char → Option (List Char)) (bind : BindConfig) : Prop where
  named : bind.name = name
  host : given fields "HOST" = some bind.host
  port : ∃ number < 2 ^ 64, Written fields "PORT" 2775 number ∧ bind.port.toNat = number % 2 ^ 16
  systemId : given fields "SYSTEM_ID" = some bind.systemId
  password : given fields "PASSWORD" = some bind.password
  systemType : bind.systemType = (fields "SYSTEM_TYPE".toList).getD []
  bindType : bind.bindType = (fields "BIND_TYPE".toList).getD defaultBindType
  maxMsgPerSec : ∃ number < 2 ^ 64, Written fields "MAX_MPS" 0 number ∧
    bind.maxMsgPerSec.toNat = number % 2 ^ 32
  enquireLinkTimerMs : Written fields "ENQUIRE_LINK_MS" defaultEnquireLink.toNat
    bind.enquireLinkTimerMs.toNat
  responseTimerMs : Written fields "RESPONSE_MS" defaultResponse.toNat bind.responseTimerMs.toNat
  tls : bind.tls = if tlsOn unicode fields then some ⟨[], [], none⟩ else none

theorem bindOf_eq_none_iff :
    bindOf unicode name fields = .ok none ↔ given fields "HOST" = none := by
  rw [bindOf]
  cases given fields "HOST" with
  | none => exact iff_of_true rfl rfl
  | some host =>
    refine iff_of_false ?_ nofun
    simp only [bind_eq_ok_iff, pure_eq_ok_iff, reduceCtorEq, and_false, exists_const,
      not_false_eq_true]

theorem bindOf_eq_some_iff {bind : BindConfig} :
    bindOf unicode name fields = .ok (some bind) ↔ Configures unicode name fields bind := by
  rw [bindOf]
  constructor
  · intro built
    cases present : given fields "HOST" with
    | none =>
      rw [present] at built
      cases built
    | some host =>
      simp only [present, bind_eq_ok_iff, pure_eq_ok_iff, parseU_ok_iff, require_ok_iff,
        Option.some.injEq] at built
      obtain ⟨port, portWritten, rate, rateWritten, systemId, hasSystemId, password, hasPassword,
        enquire, enquireWritten, response, responseWritten, rfl⟩ := built
      exact ⟨rfl, present, ⟨_, port.toNat_lt, portWritten, port.toNat_toUInt16⟩, hasSystemId,
        hasPassword, rfl, rfl, ⟨_, rate.toNat_lt, rateWritten, rate.toNat_toUInt32⟩,
        enquireWritten, responseWritten, rfl⟩
  · intro configures
    obtain ⟨port, portBounded, portWritten, samePort⟩ := configures.port
    obtain ⟨rate, rateBounded, rateWritten, sameRate⟩ := configures.maxMsgPerSec
    have portNumber : (UInt64.ofNat port).toNat = port := UInt64.toNat_ofNat_of_lt portBounded
    have rateNumber : (UInt64.ofNat rate).toNat = rate := UInt64.toNat_ofNat_of_lt rateBounded
    have portRead : Written fields "PORT" 2775 (UInt64.ofNat port).toNat := by
      rw [portNumber]
      exact portWritten
    have rateRead : Written fields "MAX_MPS" 0 (UInt64.ofNat rate).toNat := by
      rw [rateNumber]
      exact rateWritten
    simp only [configures.host, bind_eq_ok_iff, pure_eq_ok_iff, parseU_ok_iff, require_ok_iff,
      Option.some.injEq]
    refine ⟨.ofNat port, portRead, .ofNat rate, rateRead, _,
      configures.systemId, _, configures.password, _, configures.enquireLinkTimerMs, _,
      configures.responseTimerMs, ?_⟩
    have narrowPort : (UInt64.ofNat port).toUInt16 = bind.port := by
      rw [← UInt16.toNat_inj, UInt64.toNat_toUInt16, portNumber, samePort]
    have narrowRate : (UInt64.ofNat rate).toUInt32 = bind.maxMsgPerSec := by
      rw [← UInt32.toNat_inj, UInt64.toNat_toUInt32, rateNumber, sameRate]
    rw [narrowPort, narrowRate, ← configures.named, ← configures.systemType,
      ← configures.bindType, ← configures.tls]

/-- Fields declare one bind at most. -/
theorem Configures.unique {first second : BindConfig}
    (configuresFirst : Configures unicode name fields first)
    (configuresSecond : Configures unicode name fields second) : first = second := by
  have same := (bindOf_eq_some_iff.mpr configuresFirst).symm.trans
    (bindOf_eq_some_iff.mpr configuresSecond)
  exact Option.some.inj (Except.ok.inj same)

/-- A bind with a host is built exactly when its fields are complete. -/
theorem bindOf_ok_iff :
    (∃ built, bindOf unicode name fields = .ok built) ↔
      (given fields "HOST" ≠ none → Complete fields) := by
  rw [bindOf]
  cases given fields "HOST" with
  | none => exact iff_of_true ⟨none, rfl⟩ fun host => absurd rfl host
  | some host =>
    simp only [bind_eq_ok_iff, pure_eq_ok_iff, require_ok_iff]
    constructor
    · rintro ⟨_, port, portRead, rate, rateRead, systemId, hasSystemId, password, hasPassword,
        enquire, enquireRead, response, responseRead, -⟩ -
      refine ⟨?_, ?_, ?_⟩
      · rw [hasSystemId]
        exact Option.some_ne_none _
      · rw [hasPassword]
        exact Option.some_ne_none _
      · intro field member
        simp only [numberFields, List.mem_cons, List.not_mem_nil, or_false] at member
        rcases member with rfl | rfl | rfl | rfl
        · exact parseU_reads_iff.mp ⟨port, portRead⟩
        · exact parseU_reads_iff.mp ⟨rate, rateRead⟩
        · exact parseU_reads_iff.mp ⟨enquire, enquireRead⟩
        · exact parseU_reads_iff.mp ⟨response, responseRead⟩
    · intro complete
      have read : ∀ field ∈ numberFields, ∀ default, ∃ number,
          parseU name fields field default = .ok number :=
        fun field member default =>
          parseU_reads_iff.mpr ((complete (Option.some_ne_none _)).numbers field member)
      obtain ⟨systemId, hasSystemId⟩ := Option.ne_none_iff_exists'.mp
        (complete (Option.some_ne_none _)).systemId
      obtain ⟨password, hasPassword⟩ := Option.ne_none_iff_exists'.mp
        (complete (Option.some_ne_none _)).password
      obtain ⟨port, portRead⟩ := read "PORT" (by decide) 2775
      obtain ⟨rate, rateRead⟩ := read "MAX_MPS" (by decide) 0
      obtain ⟨enquire, enquireRead⟩ := read "ENQUIRE_LINK_MS" (by decide) defaultEnquireLink
      obtain ⟨response, responseRead⟩ := read "RESPONSE_MS" (by decide) defaultResponse
      exact ⟨_, port, portRead, rate, rateRead, systemId, hasSystemId, password, hasPassword,
        enquire, enquireRead, response, responseRead, rfl⟩

/-- A bind with a host fails with its port first, and then with its rate. -/
theorem bindOf_eq_port_or_rate_error (host : given fields "HOST" ≠ none) {error : ConfigError} :
    (parseU name fields "PORT" 2775 = .error error → bindOf unicode name fields = .error error) ∧
    (NumberReads fields "PORT" → parseU name fields "MAX_MPS" 0 = .error error →
      bindOf unicode name fields = .error error) := by
  obtain ⟨found, present⟩ := Option.ne_none_iff_exists'.mp host
  constructor
  · intro failed
    rw [bindOf, present]
    dsimp only
    rw [failed]
    rfl
  · intro reads failed
    obtain ⟨port, portRead⟩ := parseU_reads_iff.mpr reads
    rw [bindOf, present]
    dsimp only
    rw [portRead, failed]
    rfl

/-- An error names the bind and a field of it: one that is missing, or one that is no number. -/
theorem bindOf_eq_error {error : ConfigError} (failed : bindOf unicode name fields = .error error) :
    given fields "HOST" ≠ none ∧
    ((∃ field value source, given fields field = some value ∧
        parseUnsigned (2 ^ 64) value = .error source ∧
        error = .envBindInvalid name field value source) ∨
      ∃ field, given fields field = none ∧ error = .envBindMissing name field) := by
  rw [bindOf] at failed
  cases present : given fields "HOST" with
  | none =>
    rw [present] at failed
    cases failed
  | some host =>
    refine ⟨Option.some_ne_none _, ?_⟩
    simp only [present, bind_eq_error_iff, parseU_error_iff, require_error_iff] at failed
    rcases failed with invalid | ⟨_, _, invalid | ⟨_, _, missing | ⟨_, _, missing | ⟨_, _,
      invalid | ⟨_, _, invalid | ⟨_, _, impossible⟩⟩⟩⟩⟩⟩
    · exact Or.inl ⟨_, invalid⟩
    · exact Or.inl ⟨_, invalid⟩
    · exact Or.inr ⟨_, missing⟩
    · exact Or.inr ⟨_, missing⟩
    · exact Or.inl ⟨_, invalid⟩
    · exact Or.inl ⟨_, invalid⟩
    · cases impossible

end Fields

/-! ### The binds of an environment -/

section Environment

variable (unicode : Lowercase) (env : Environment)

/-- What the variables of a name hold, field by field. -/
def fieldsOf (name : List Char) : List Char → Option (List Char) :=
  Grouping.last (readBindVar unicode) env.items name

/-- The names that have a host. -/
def Discovered (name : List Char) : Prop := given (fieldsOf unicode env name) "HOST" ≠ none

instance (name : List Char) : Decidable (Discovered unicode env name) :=
  inferInstanceAs (Decidable (_ ≠ none))

/-- The names of an environment, in increasing order. -/
def bindNames : List (List Char) := (Grouping.collect (readBindVar unicode) env.items).keys

/-- The names that have a host, in increasing order. -/
def discovered : List (List Char) :=
  (bindNames unicode env).filter fun name => Discovered unicode env name

theorem bindNames_sorted :
    (bindNames unicode env).Pairwise fun first second => compare first second = .lt :=
  ExtTreeMap.ordered_keys

theorem discovered_sorted :
    (discovered unicode env).Pairwise fun first second => compare first second = .lt :=
  (bindNames_sorted unicode env).filter _

theorem discovered_nodup : (discovered unicode env).Nodup := by
  refine (discovered_sorted unicode env).imp fun below same => ?_
  rw [same, ReflOrd.compare_self] at below
  cases below

theorem mem_discovered_iff (name : List Char) :
    name ∈ discovered unicode env ↔ Discovered unicode env name := by
  rw [discovered, List.mem_filter, decide_eq_true_iff, bindNames, ExtTreeMap.mem_keys]
  refine and_iff_right_of_imp fun host => ?_
  obtain ⟨value, present⟩ := exists_of_given host
  obtain ⟨item, member, read⟩ := Grouping.exists_of_last_eq_some _ present
  rw [ExtTreeMap.mem_iff_isSome_getElem?]
  exact (Grouping.isSome_collect _ _ name).mpr ⟨item, member, _, value, read⟩

/-- The binds are read name by name. -/
theorem bindsFromEnv_eq_collectBinds :
    bindsFromEnv unicode env = collectBinds unicode
      ((bindNames unicode env).map fun name => (name, fieldsOf unicode env name)) := by
  rw [bindsFromEnv, bindNames, ← ExtTreeMap.map_fst_toList_eq_keys, List.map_map]
  congr 1
  refine List.map_congr_left fun entry member => Prod.ext rfl ?_
  have found := ExtTreeMap.mem_toList_iff_getElem?_eq_some.mp member
  funext field
  show entry.2[field]? = Grouping.last _ _ entry.1 field
  rw [← Grouping.lookup_collect, found]
  rfl

section Collected

variable (fieldsBy : List Char → List Char → Option (List Char)) (names : List (List Char))

/-- The binds that are returned are those of the names with a host, in order. -/
theorem collectBinds_eq_ok_iff (binds : List BindConfig) :
    collectBinds unicode (names.map fun name => (name, fieldsBy name)) = .ok binds ↔
      List.Forall₂ (fun name bind => Configures unicode name (fieldsBy name) bind)
        (names.filter fun name => given (fieldsBy name) "HOST" ≠ none) binds := by
  induction names generalizing binds with
  | nil =>
    show (.ok [] : Except ConfigError _) = .ok binds ↔ List.Forall₂ _ [] binds
    rw [Except.ok.injEq, List.forall₂_nil_left_iff, eq_comm]
  | cons name rest inductionHypothesis =>
    simp only [List.map_cons, collectBinds, bind_eq_ok_iff, pure_eq_ok_iff, inductionHypothesis]
    rw [List.filter_cons]
    by_cases host : given (fieldsBy name) "HOST" = none
    · rw [if_neg (by simpa using host)]
      constructor
      · rintro ⟨built, made, later, follow, rfl⟩
        rw [bindOf_eq_none_iff.mpr host, Except.ok.injEq] at made
        subst made
        exact follow
      · exact fun follow => ⟨none, bindOf_eq_none_iff.mpr host, binds, follow, rfl⟩
    · rw [if_pos (by simpa using host), List.forall₂_cons_left_iff]
      constructor
      · rintro ⟨built, made, later, follow, rfl⟩
        cases built with
        | none => exact absurd (bindOf_eq_none_iff.mp made) host
        | some bind => exact ⟨bind, later, bindOf_eq_some_iff.mp made, follow, rfl⟩
      · rintro ⟨bind, later, configures, follow, rfl⟩
        exact ⟨some bind, bindOf_eq_some_iff.mpr configures, later, follow, rfl⟩

/-- The error that is returned is that of the first name that has one. -/
theorem collectBinds_eq_error_iff (error : ConfigError) :
    collectBinds unicode (names.map fun name => (name, fieldsBy name)) = .error error ↔
      ∃ front name back, names = front ++ name :: back ∧
        (∀ earlier ∈ front, ∃ built, bindOf unicode earlier (fieldsBy earlier) = .ok built) ∧
        bindOf unicode name (fieldsBy name) = .error error := by
  induction names with
  | nil =>
    refine iff_of_false nofun fun ⟨front, name, back, same, _⟩ => ?_
    exact List.append_ne_nil_of_right_ne_nil front (List.cons_ne_nil name back) same.symm
  | cons name rest inductionHypothesis =>
    simp only [List.map_cons, collectBinds, bind_eq_error_iff, inductionHypothesis]
    constructor
    · rintro (failed | ⟨built, made, ⟨front, later, back, rfl, fine, failed⟩ | ⟨_, _, done⟩⟩)
      · exact ⟨[], name, rest, rfl, List.forall_mem_nil _, failed⟩
      · exact ⟨name :: front, later, back, rfl,
          List.forall_mem_cons.mpr ⟨⟨built, made⟩, fine⟩, failed⟩
      · cases done
    · rintro ⟨front, later, back, same, fine, failed⟩
      cases front with
      | nil =>
        cases same
        exact Or.inl failed
      | cons first front =>
        cases same
        obtain ⟨⟨built, made⟩, fine⟩ := List.forall_mem_cons.mp fine
        exact Or.inr ⟨built, made, Or.inl ⟨front, later, back, rfl, fine, failed⟩⟩

end Collected

/-- An environment is read exactly when the fields of every name allow it: a bind for each name
with a host, in order of the names. -/
theorem bindsFromEnv_eq_ok_iff (binds : List BindConfig) :
    bindsFromEnv unicode env = .ok binds ↔
      List.Forall₂ (fun name bind => Configures unicode name (fieldsOf unicode env name) bind)
        (discovered unicode env) binds := by
  rw [bindsFromEnv_eq_collectBinds, collectBinds_eq_ok_iff]
  rfl

/-- The error of an environment is the error of the least name that has one. -/
theorem bindsFromEnv_eq_error_iff (error : ConfigError) :
    bindsFromEnv unicode env = .error error ↔
      ∃ name, (∀ smaller, compare smaller name = .lt → Discovered unicode env smaller →
          Complete (fieldsOf unicode env smaller)) ∧
        bindOf unicode name (fieldsOf unicode env name) = .error error := by
  rw [bindsFromEnv_eq_collectBinds, collectBinds_eq_error_iff]
  have sorted := bindNames_sorted unicode env
  constructor
  · rintro ⟨front, name, back, same, fine, failed⟩
    refine ⟨name, fun smaller below host => ?_, failed⟩
    have member : smaller ∈ bindNames unicode env :=
      (List.mem_filter.mp ((mem_discovered_iff unicode env smaller).mpr host)).1
    rw [same] at member sorted
    have inFront : smaller ∈ front := Grouping.mem_front_of_lt sorted member below
    exact bindOf_ok_iff.mp (fine smaller inFront) host
  · rintro ⟨name, fine, failed⟩
    have member : name ∈ bindNames unicode env :=
      (List.mem_filter.mp
        ((mem_discovered_iff unicode env name).mpr (bindOf_eq_error failed).1)).1
    obtain ⟨front, back, same⟩ := List.append_of_mem member
    refine ⟨front, name, back, same, fun earlier inFront => bindOf_ok_iff.mpr ?_, failed⟩
    rw [same] at sorted
    exact fine earlier ((List.pairwise_append.mp sorted).2.2 _ inFront _ List.mem_cons_self)

/-- A bind that is returned is declared by the fields of its name. -/
theorem configures_of_mem {binds : List BindConfig}
    (read : bindsFromEnv unicode env = .ok binds) {bind : BindConfig} (member : bind ∈ binds) :
    Configures unicode bind.name (fieldsOf unicode env bind.name) bind := by
  rw [bindsFromEnv_eq_ok_iff] at read
  generalize discovered unicode env = names at read
  induction read with
  | nil => cases member
  | cons configures _ inductionHypothesis =>
    rcases List.mem_cons.mp member with rfl | later
    · rw [configures.named]
      exact configures
    · exact inductionHypothesis later

/-- The names of the binds that are returned. -/
theorem names_of_ok {binds : List BindConfig} (read : bindsFromEnv unicode env = .ok binds) :
    binds.map BindConfig.name = discovered unicode env := by
  rw [bindsFromEnv_eq_ok_iff] at read
  generalize discovered unicode env = names at read
  induction read with
  | nil => rfl
  | cons configures _ inductionHypothesis =>
    rw [List.map_cons, configures.named, inductionHypothesis]

/-- An environment is read exactly when every bind with a host is complete. -/
theorem bindsFromEnv_ok_iff :
    (∃ binds, bindsFromEnv unicode env = .ok binds) ↔
      ∀ name, Discovered unicode env name → Complete (fieldsOf unicode env name) := by
  constructor
  · rintro ⟨binds, read⟩ name host
    have listed := (mem_discovered_iff unicode env name).mpr host
    rw [← names_of_ok unicode env read, List.mem_map] at listed
    obtain ⟨bind, member, rfl⟩ := listed
    have configures := configures_of_mem unicode env read member
    exact bindOf_ok_iff.mp ⟨_, bindOf_eq_some_iff.mpr configures⟩ host
  · intro complete
    cases result : bindsFromEnv unicode env with
    | ok binds => exact ⟨binds, rfl⟩
    | error error =>
      obtain ⟨name, _, failed⟩ := (bindsFromEnv_eq_error_iff unicode env error).mp result
      obtain ⟨built, made⟩ := bindOf_ok_iff.mpr (complete name)
      rw [made] at failed
      cases failed

end Environment

end SiphonSmpp
