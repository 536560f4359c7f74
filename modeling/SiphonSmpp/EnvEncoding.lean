/-
This file asks whether binds survive being written down as environment variables.
A bind is declared by the variables of its host, port, system id, password and
rate. The name segment of a variable ends at the first underscore, so what
matters is how the name is spelled in it.

A name that is upper-cased is read back, hyphens included. The guides spell the
hyphens of a name as underscores; `declared_binds_read` says that the binds are
then read back exactly when there are none.
-/

import SiphonSmpp.EnvVariables

namespace SiphonSmpp

open Decimal

/-! ### Declarations -/

/-- A bind that can be declared by variables. -/
structure DeclaredBind where
  name : List Char
  host : List Char
  port : UInt16
  systemId : List Char
  password : List Char
  maxMsgPerSec : UInt32
  name_characters : ∀ character ∈ name,
    character.isLower = true ∨ character.isDigit = true ∨ character = '-'
  host_ne_nil : host ≠ []
  systemId_ne_nil : systemId ≠ []
  password_ne_nil : password ≠ []

namespace DeclaredBind

/-- The fields that are set for a bind, numbers in decimal. -/
def fields (bind : DeclaredBind) : OrderedDict (List Char) (List Char) where
  items := [
    ("HOST".toList, bind.host),
    ("PORT".toList, Nat.toDigits 10 bind.port.toNat),
    ("SYSTEM_ID".toList, bind.systemId),
    ("PASSWORD".toList, bind.password),
    ("MAX_MPS".toList, Nat.toDigits 10 bind.maxMsgPerSec.toNat)]
  distinct := by
    show ["HOST".toList, "PORT".toList, "SYSTEM_ID".toList, "PASSWORD".toList,
      "MAX_MPS".toList].Nodup
    decide

/-- The variables that are set for a bind, with its name spelled some way. -/
def written (spell : List Char → List Char) (bind : DeclaredBind) :
    List (List Char × List Char) :=
  bind.fields.items.map fun entry => (bindVariable (spell bind.name) entry.1, entry.2)

/-- The configuration that is declared; what is not set has its default. -/
def config (bind : DeclaredBind) : BindConfig where
  name := bind.name
  host := bind.host
  port := bind.port
  systemId := bind.systemId
  password := bind.password
  systemType := []
  bindType := defaultBindType
  maxMsgPerSec := bind.maxMsgPerSec
  enquireLinkTimerMs := defaultEnquireLink
  responseTimerMs := defaultResponse
  tls := none

end DeclaredBind

/-- The name upper-cased. -/
def upperCased (name : List Char) : List Char := name.map Char.toUpper

/-- The name upper-cased, with its hyphens written as underscores. -/
def underscored (name : List Char) : List Char :=
  name.map fun character => if character = '-' then '_' else character.toUpper

/-- The bind variables of an environment are those of some binds, and no others. -/
def Declares (spell : List Char → List Char) (env : Environment) (binds : List DeclaredBind) :
    Prop :=
  (env.items.filter fun entry => bindPrefix.isPrefixOf entry.1).Perm
    (binds.flatMap (DeclaredBind.written spell))

/-- An environment is read as some binds. -/
def ReadAs (unicode : Lowercase) (env : Environment) (binds : List DeclaredBind) : Prop :=
  ∃ read, bindsFromEnv unicode env = .ok read ∧ read.Perm (binds.map DeclaredBind.config)

/-! ### Spelling a name -/

theorem bindVariable_inj {first second firstField secondField : List Char}
    (separatedFirst : '_' ∉ first) (separatedSecond : '_' ∉ second)
    (same : bindVariable first firstField = bindVariable second secondField) :
    first = second ∧ firstField = secondField := by
  have read := (bindKey_eq_some_iff _ second secondField).mpr ⟨same, separatedSecond⟩
  rw [(bindKey_eq_some_iff _ first firstField).mpr ⟨rfl, separatedFirst⟩, Option.some.injEq,
    Prod.mk.injEq] at read
  exact read

section Names

variable (bind : DeclaredBind)

theorem isLower_iff_toNat (character : Char) :
    character.isLower = true ↔ 97 ≤ character.toNat ∧ character.toNat ≤ 122 := by
  simp [Char.isLower, UInt32.le_iff_toNat_le, ← Char.toNat_val]

theorem isUpper_iff_toNat (character : Char) :
    character.isUpper = true ↔ 65 ≤ character.toNat ∧ character.toNat ≤ 90 := by
  simp [Char.isUpper, UInt32.le_iff_toNat_le, ← Char.toNat_val]

/-- The characters of a name are ASCII without upper-case letters. -/
theorem DeclaredBind.name_plain {character : Char} (member : character ∈ bind.name) :
    character.toNat < 0x80 ∧ ¬ character.isUpper = true := by
  rw [isUpper_iff_toNat]
  rcases bind.name_characters character member with lower | digit | rfl
  · rw [isLower_iff_toNat] at lower
    omega
  · have bounds : 48 ≤ character.toNat ∧ character.toNat ≤ 57 := by
      simpa [Char.isDigit, UInt32.le_iff_toNat_le, ← Char.toNat_val] using digit
    omega
  · decide

theorem DeclaredBind.toLower_toUpper {character : Char} (member : character ∈ bind.name) :
    character.toUpper.toLower = character := by
  rw [Char.toLower_toUpper_eq_toLower, Char.toLower_eq_of_not_isUpper (bind.name_plain member).2]

/-- A name is read back from its upper-cased form. -/
theorem DeclaredBind.map_toLower_upperCased :
    (upperCased bind.name).map Char.toLower = bind.name := by
  have restored : ∀ character ∈ bind.name,
      (Char.toLower ∘ Char.toUpper) character = id character :=
    fun character member => bind.toLower_toUpper member
  rw [upperCased, List.map_map, List.map_congr_left restored, List.map_id]

theorem DeclaredBind.separated_upperCased : '_' ∉ upperCased bind.name := by
  intro member
  obtain ⟨character, inName, same⟩ := List.mem_map.mp member
  have restored := bind.toLower_toUpper inName
  rw [same] at restored
  subst restored
  exact absurd (bind.name_characters _ inName) (by decide)

theorem DeclaredBind.plain_upperCased : PlainSegment (upperCased bind.name) := by
  intro upper member
  obtain ⟨character, inName, rfl⟩ := List.mem_map.mp member
  refine ⟨?_, Char.isLower_toUpper_eq_false character⟩
  have small := (bind.name_plain inName).1
  by_cases lower : character.isLower = true
  · rw [Char.toUpper_eq_of_isLower lower, Char.toNat_ofNat]
    split
    · omega
    · decide
  · rw [Char.toUpper_eq_of_not_isLower lower]
    exact small

/-- A name without hyphens is spelled the same either way. -/
theorem underscored_eq_upperCased {name : List Char} (plain : '-' ∉ name) :
    underscored name = upperCased name := by
  refine List.map_congr_left fun character member => if_neg fun same => plain ?_
  rw [← same]
  exact member

end Names

/-! ### Reading declarations -/

theorem written_toDigits {fields : List Char → Option (List Char)} {field : String} {number : Nat}
    (set : fields field.toList = some (Nat.toDigits 10 number)) (default : Nat) :
    Written fields field default number := by
  rw [Written, given_eq_some set Nat.toDigits_ne_nil]
  exact numberOf_toDigits number

/-- The fields of a bind declare it. -/
theorem DeclaredBind.configures (unicode : Lowercase) (bind : DeclaredBind) :
    Configures unicode bind.name bind.fields.get? bind.config := by
  have narrow : ∀ width ≤ 64, ∀ number < 2 ^ width, number < 2 ^ 64 ∧ number = number % 2 ^ width :=
    fun width fits number below =>
      ⟨below.trans_le (Nat.pow_le_pow_right (by decide) fits), (Nat.mod_eq_of_lt below).symm⟩
  obtain ⟨portFits, port⟩ := narrow 16 (by decide) _ bind.port.toNat_lt
  obtain ⟨rateFits, rate⟩ := narrow 32 (by decide) _ bind.maxMsgPerSec.toNat_lt
  exact {
    named := rfl
    host := given_eq_some rfl bind.host_ne_nil
    port := ⟨_, portFits, written_toDigits rfl 2775, port⟩
    systemId := given_eq_some rfl bind.systemId_ne_nil
    password := given_eq_some rfl bind.password_ne_nil
    systemType := rfl
    bindType := rfl
    maxMsgPerSec := ⟨_, rateFits, written_toDigits rfl 0, rate⟩
    enquireLinkTimerMs := rfl
    responseTimerMs := rfl
    tls := rfl }

section Declared

variable {unicode : Lowercase} {env : Environment} {binds : List DeclaredBind}

theorem Declares.mem_items_iff {spell : List Char → List Char} (declares : Declares spell env binds)
    (segment field value : List Char) :
    (bindVariable segment field, value) ∈ env.items ↔
      ∃ bind ∈ binds, ∃ entry ∈ bind.fields.items,
        bindVariable (spell bind.name) entry.1 = bindVariable segment field ∧ entry.2 = value := by
  have isBind : bindPrefix.isPrefixOf (bindVariable segment field) = true := by
    rw [bindVariable, List.append_assoc]
    exact List.isPrefixOf_iff_prefix.mpr (List.prefix_append _ _)
  have kept : (bindVariable segment field, value) ∈ env.items ↔
      (bindVariable segment field, value) ∈
        env.items.filter fun entry => bindPrefix.isPrefixOf entry.1 := by
    rw [List.mem_filter, and_iff_left isBind]
  rw [kept, declares.mem_iff, List.mem_flatMap]
  simp only [DeclaredBind.written, List.mem_map, Prod.mk.injEq]

/-- The segment of a variable is the front of a name as it is spelled. -/
theorem Declares.exists_front {spell : List Char → List Char} (declares : Declares spell env binds)
    {segment field value : List Char} (separated : '_' ∉ segment)
    (member : (bindVariable segment field, value) ∈ env.items) :
    ∃ bind ∈ binds, segment <+: spell bind.name := by
  obtain ⟨bind, inBinds, entry, _, same, _⟩ :=
    (declares.mem_items_iff segment field value).mp member
  refine ⟨bind, inBinds, ?_⟩
  rw [bindVariable, bindVariable, List.append_assoc, List.append_assoc,
    List.append_cancel_left_eq] at same
  rcases List.append_eq_append_iff.mp same.symm with ⟨rest, whole, _⟩ | ⟨rest, whole, split⟩
  · exact ⟨rest, whole.symm⟩
  · cases rest with
    | nil => exact ⟨[], by rw [List.append_nil, whole, List.append_nil]⟩
    | cons character rest =>
      obtain ⟨rfl, _⟩ := List.cons.inj split
      refine absurd ?_ separated
      rw [whole]
      exact List.mem_append_right _ List.mem_cons_self

/-- Names that are spelled without lower-case letters give plain segments. -/
theorem Declares.plain_of_spelling {spell : List Char → List Char}
    (declares : Declares spell env binds)
    (spelling : ∀ bind ∈ binds, PlainSegment (spell bind.name)) : PlainSegments env := by
  intro entry member segment field read
  obtain ⟨key, separated⟩ := (bindKey_eq_some_iff _ _ _).mp read
  have item : (bindVariable segment field, entry.2) ∈ env.items := by
    rw [← key]
    exact member
  obtain ⟨bind, inBinds, front⟩ := declares.exists_front separated item
  exact fun character inSegment => spelling bind inBinds character (front.subset inSegment)

variable (declares : Declares upperCased env binds)
include declares

/-- A variable of a segment belongs to the bind with that name. -/
theorem Declares.exists_bind {segment field value : List Char} (separated : '_' ∉ segment)
    (member : (bindVariable segment field, value) ∈ env.items) :
    ∃ bind ∈ binds, upperCased bind.name = segment ∧ bind.fields.get? field = some value := by
  obtain ⟨bind, inBinds, entry, inFields, same, rfl⟩ :=
    (declares.mem_items_iff segment field value).mp member
  obtain ⟨sameSegment, rfl⟩ := bindVariable_inj bind.separated_upperCased separated same
  exact ⟨bind, inBinds, sameSegment, (OrderedDict.mem_items_iff _ _ _).mp inFields⟩

theorem Declares.plain : PlainSegments env :=
  declares.plain_of_spelling fun bind _ => bind.plain_upperCased

/-- The fields of a declared name are those of its bind. -/
theorem Declares.fieldsOf_eq (distinct : (binds.map DeclaredBind.name).Nodup) {bind : DeclaredBind}
    (member : bind ∈ binds) : fieldsOf unicode env bind.name = bind.fields.get? := by
  have ownVariables := fieldsOf_map_toLower unicode declares.plain bind.plain_upperCased
    bind.separated_upperCased
  rw [bind.map_toLower_upperCased] at ownVariables
  rw [ownVariables]
  funext field
  refine Option.ext fun value => ?_
  rw [variablesOf, ← OrderedDict.mem_items_iff]
  constructor
  · intro item
    obtain ⟨other, inBinds, same, found⟩ := declares.exists_bind bind.separated_upperCased item
    have name : other.name = bind.name := by
      rw [← other.map_toLower_upperCased, same, bind.map_toLower_upperCased]
    rw [← List.inj_on_of_nodup_map distinct inBinds member name]
    exact found
  · intro found
    exact (declares.mem_items_iff _ _ _).mpr
      ⟨bind, member, (field, value), (OrderedDict.mem_items_iff _ _ _).mpr found, rfl, rfl⟩

/-- The names with a host are the declared ones. -/
theorem Declares.discovered_iff (distinct : (binds.map DeclaredBind.name).Nodup)
    (name : List Char) :
    Discovered unicode env name ↔ ∃ bind ∈ binds, bind.name = name := by
  constructor
  · intro host
    obtain ⟨hasHost, same⟩ := (discovered_iff_hasHost declares.plain name).mp host
    obtain ⟨value, item⟩ := hasHost.exists_variable
    obtain ⟨bind, inBinds, segment, _⟩ := declares.exists_bind hasHost.1 item
    refine ⟨bind, inBinds, ?_⟩
    rw [← bind.map_toLower_upperCased, segment, same]
  · rintro ⟨bind, member, rfl⟩
    rw [Discovered, declares.fieldsOf_eq distinct member, (bind.configures unicode).host]
    exact Option.some_ne_none _

/-- Binds whose names are upper-cased are read back. -/
theorem Declares.readAs (distinct : (binds.map DeclaredBind.name).Nodup) :
    ReadAs unicode env binds := by
  have complete : ∀ name, Discovered unicode env name → Complete (fieldsOf unicode env name) := by
    intro name host
    obtain ⟨bind, member, rfl⟩ := (declares.discovered_iff distinct name).mp host
    have built := bindOf_eq_some_iff.mpr (bind.configures unicode)
    rw [← declares.fieldsOf_eq distinct member] at built
    exact bindOf_ok_iff.mp ⟨_, built⟩ host
  obtain ⟨read, ok⟩ := (bindsFromEnv_ok_iff unicode env).mpr complete
  have names := names_of_ok unicode env ok
  have config : ∀ bind ∈ binds, ∀ found ∈ read, found.name = bind.name → found = bind.config := by
    intro bind member found inRead same
    have configures := configures_of_mem unicode env ok inRead
    rw [same, declares.fieldsOf_eq distinct member] at configures
    exact configures.unique (bind.configures unicode)
  refine ⟨read, ok, (List.perm_ext_iff_of_nodup ?_ ?_).mpr fun found => ?_⟩
  · refine List.Nodup.of_map BindConfig.name ?_
    rw [names]
    exact discovered_nodup unicode env
  · refine List.Nodup.of_map BindConfig.name ?_
    rw [List.map_map]
    exact distinct
  · rw [List.mem_map]
    constructor
    · intro inRead
      have host : found.name ∈ discovered unicode env := names ▸ List.mem_map_of_mem inRead
      obtain ⟨bind, member, same⟩ := (declares.discovered_iff distinct found.name).mp
        ((mem_discovered_iff unicode env found.name).mp host)
      exact ⟨bind, member, (config bind member found inRead same.symm).symm⟩
    · rintro ⟨bind, member, rfl⟩
      have host := (mem_discovered_iff unicode env bind.name).mpr
        ((declares.discovered_iff distinct bind.name).mpr ⟨bind, member, rfl⟩)
      rw [← names, List.mem_map] at host
      obtain ⟨found, inRead, same⟩ := host
      rw [← config bind member found inRead same]
      exact inRead

end Declared

/-! ### Hyphens written as underscores -/

theorem DeclaredBind.plain_underscored (bind : DeclaredBind) :
    PlainSegment (underscored bind.name) ∧ '-' ∉ underscored bind.name := by
  have characters : ∀ spelled ∈ underscored bind.name,
      (spelled.toNat < 0x80 ∧ spelled.isLower = false) ∧ '-' ≠ spelled := by
    intro spelled member
    obtain ⟨character, inName, rfl⟩ := List.mem_map.mp member
    split
    · decide
    · rename_i other
      refine ⟨bind.plain_upperCased _ (List.mem_map_of_mem inName), fun same => other ?_⟩
      rw [← bind.toLower_toUpper inName, ← same]
      rfl
  exact ⟨fun spelled member => (characters spelled member).1,
    fun member => (characters _ member).2 rfl⟩

/-- No name has a hyphen when hyphens are written as underscores. -/
theorem Declares.hyphen_notMem {unicode : Lowercase} {env : Environment}
    {binds : List DeclaredBind} (declares : Declares underscored env binds) {name : List Char}
    (host : Discovered unicode env name) : '-' ∉ name := by
  have plain : PlainSegments env :=
    declares.plain_of_spelling fun bind _ => bind.plain_underscored.1
  obtain ⟨hasHost, same⟩ := (discovered_iff_hasHost plain name).mp host
  obtain ⟨value, item⟩ := hasHost.exists_variable
  obtain ⟨bind, _, front⟩ := declares.exists_front hasHost.1 item
  intro member
  have upper : '-' ∈ name.map Char.toUpper := List.mem_map.mpr ⟨'-', member, rfl⟩
  exact bind.plain_underscored.2 (front.subset upper)

/-- Binds that are declared by variables are read back when their names are upper-cased; when
hyphens are written as underscores, they are read back exactly when no name has a hyphen. -/
theorem declared_binds_read (unicode : Lowercase) (env : Environment) (binds : List DeclaredBind)
    (distinct : (binds.map DeclaredBind.name).Nodup) :
    (Declares upperCased env binds → ReadAs unicode env binds) ∧
    (Declares underscored env binds →
      (ReadAs unicode env binds ↔ ∀ bind ∈ binds, '-' ∉ bind.name)) := by
  refine ⟨fun declares => declares.readAs distinct, fun declares => ⟨?_, ?_⟩⟩
  · rintro ⟨read, ok, same⟩ bind member
    have listed : bind.name ∈ read.map BindConfig.name :=
      List.mem_map.mpr ⟨bind.config, same.mem_iff.mpr (List.mem_map_of_mem member), rfl⟩
    rw [names_of_ok unicode env ok, mem_discovered_iff] at listed
    exact declares.hyphen_notMem listed
  · intro plain
    have spelled : binds.flatMap (DeclaredBind.written upperCased) =
        binds.flatMap (DeclaredBind.written underscored) := by
      refine List.flatMap_congr fun bind member => ?_
      rw [DeclaredBind.written, DeclaredBind.written, underscored_eq_upperCased (plain bind member)]
    refine Declares.readAs ?_ distinct
    rw [Declares, spelled]
    exact declares

/-- The bind of the guides, with its variables as they write them. -/
def aggregatorEu : DeclaredBind where
  name := "aggregator-eu".toList
  host := "smpp.example-aggregator.com".toList
  port := 2775
  systemId := "my-esme".toList
  password := "s3cr3t".toList
  maxMsgPerSec := 100
  name_characters := by
    have spelled : ("aggregator-eu".toList.all fun character =>
        character.isLower || (character.isDigit || character = '-')) = true := by
      decide +kernel
    simpa only [List.all_eq_true, Bool.or_eq_true, decide_eq_true_eq] using spelled
  host_ne_nil := by decide
  systemId_ne_nil := by decide
  password_ne_nil := by decide

def aggregatorEuEnv : Environment where
  items := [
    ("SMPP_BIND_AGGREGATOR_EU_HOST".toList, "smpp.example-aggregator.com".toList),
    ("SMPP_BIND_AGGREGATOR_EU_PORT".toList, "2775".toList),
    ("SMPP_BIND_AGGREGATOR_EU_SYSTEM_ID".toList, "my-esme".toList),
    ("SMPP_BIND_AGGREGATOR_EU_PASSWORD".toList, "s3cr3t".toList),
    ("SMPP_BIND_AGGREGATOR_EU_MAX_MPS".toList, "100".toList)]
  distinct := by decide

/-- The bind of the guides is passed over without an error. -/
theorem hyphenated_bind_passed_over :
    Declares underscored aggregatorEuEnv [aggregatorEu] ∧
    bindsFromEnv asciiLowercase aggregatorEuEnv = .ok [] ∧
    ¬ ReadAs asciiLowercase aggregatorEuEnv [aggregatorEu] := by
  have read : bindsFromEnv asciiLowercase aggregatorEuEnv = .ok [] := by decide +kernel
  refine ⟨?_, read, ?_⟩
  · rw [Declares]
    decide +kernel
  · rintro ⟨binds, ok, same⟩
    rw [read, Except.ok.injEq] at ok
    subst ok
    exact absurd same.length_eq (by decide)

/-- The same bind with the hyphen kept in its variables. -/
def hyphenatedEnv : Environment where
  items := [
    ("SMPP_BIND_AGGREGATOR-EU_HOST".toList, "smpp.example-aggregator.com".toList),
    ("SMPP_BIND_AGGREGATOR-EU_PORT".toList, "2775".toList),
    ("SMPP_BIND_AGGREGATOR-EU_SYSTEM_ID".toList, "my-esme".toList),
    ("SMPP_BIND_AGGREGATOR-EU_PASSWORD".toList, "s3cr3t".toList),
    ("SMPP_BIND_AGGREGATOR-EU_MAX_MPS".toList, "100".toList)]
  distinct := by decide

theorem declared_binds_read_hyphenated :
    Declares upperCased hyphenatedEnv [aggregatorEu] ∧
    ReadAs asciiLowercase hyphenatedEnv [aggregatorEu] ∧
    (ReadAs asciiLowercase aggregatorEuEnv [aggregatorEu] ↔
      ∀ bind ∈ [aggregatorEu], '-' ∉ bind.name) := by
  have distinct : ([aggregatorEu].map DeclaredBind.name).Nodup := List.nodup_singleton _
  have kept : Declares upperCased hyphenatedEnv [aggregatorEu] := by
    rw [Declares]
    decide +kernel
  have replaced : Declares underscored aggregatorEuEnv [aggregatorEu] := by
    rw [Declares]
    decide +kernel
  exact ⟨kept, (declared_binds_read asciiLowercase hyphenatedEnv _ distinct).1 kept,
    (declared_binds_read asciiLowercase aggregatorEuEnv _ distinct).2 replaced⟩

end SiphonSmpp
