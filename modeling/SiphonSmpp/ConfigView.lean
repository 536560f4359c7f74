/-
This file models what of the configuration a script sees: the `_config`
dictionary `build_config_dict` makes of it (`src/install.rs`, with
`SmppConfig::listen` of `src/config.rs`) and the readouts over it
(`python/smpp.py`). The passwords of the binds are kept from the script; so are
the TLS settings and the timers of a bind.

`passwords_unseen` follows the passwords from the environment, through the
variables of a bind or through the document: whatever they are, as long as they
are set, loading fails with the same error or ends in the same dictionary.
-/

import Mathlib.Data.List.Forall2
import SiphonSmpp.ConfigFile

namespace SiphonSmpp

/-! ### The dictionary -/

/-- A Python value of the dictionary: a text, a number, a list, or a dictionary with its
entries in the order they were set. -/
inductive ConfigValue where
  | str (text : List Char)
  | int (number : Nat)
  | list (items : List ConfigValue)
  | dict (entries : List (List Char × ConfigValue))

/-- `dict.get(key)`, which a value that is no dictionary does not have. -/
def ConfigValue.get? (key : String) : ConfigValue → Option ConfigValue
  | .dict entries => entries.lookup key.toList
  | _ => none

/-- The items of a list. -/
def ConfigValue.items : ConfigValue → List ConfigValue
  | .list items => items
  | _ => []

/-- The text of a string. -/
def ConfigValue.text : ConfigValue → List Char
  | .str text => text
  | _ => []

/-- `ThrottleAction::as_str`. -/
def ThrottleAction.asStr : ThrottleAction → List Char
  | .pace => "pace".toList
  | .reject => "reject".toList

/-- The listen address: of `server`, then of the flat form, then the default. -/
def SmppConfig.listen (cfg : SmppConfig) : List Char × UInt16 :=
  (((cfg.server.bindAddress).or cfg.bindAddress).getD "0.0.0.0".toList,
    ((cfg.server.port).or cfg.port).getD 2775)

section Dictionary

variable (toYaml : OptionValue → Option (List Char))

def strings (texts : List (List Char)) : ConfigValue := .list (texts.map .str)

def SmppConfig.serverDict (cfg : SmppConfig) : ConfigValue :=
  .dict [
    ("bind_address".toList, .str cfg.listen.1),
    ("port".toList, .int cfg.listen.2.toNat),
    ("session_init_timer_ms".toList, .int cfg.server.sessionInitTimerMs.toNat),
    ("enquire_link_timer_ms".toList, .int cfg.server.enquireLinkTimerMs.toNat),
    ("inactivity_timer_ms".toList, .int cfg.server.inactivityTimerMs.toNat),
    ("response_timer_ms".toList, .int cfg.server.responseTimerMs.toNat),
    ("max_msg_per_sec".toList, .int cfg.server.maxMsgPerSec.toNat),
    ("throttle_action".toList, .str cfg.server.throttleAction.asStr)]

/-- A bind, without its password. -/
def BindConfig.dict (bind : BindConfig) : ConfigValue :=
  .dict [
    ("name".toList, .str bind.name),
    ("host".toList, .str bind.host),
    ("port".toList, .int bind.port.toNat),
    ("system_id".toList, .str bind.systemId),
    ("system_type".toList, .str bind.systemType),
    ("bind_type".toList, .str bind.bindType),
    ("max_msg_per_sec".toList, .int bind.maxMsgPerSec.toNat)]

/-- A rule, with each option as its YAML text, and empty where there is none. -/
def RoutingRule.dict (rule : RoutingRule) : ConfigValue :=
  .dict [
    ("prefix".toList, .str rule.start),
    ("name".toList, .str rule.name),
    ("chain".toList, strings rule.chain),
    ("options".toList, .dict (rule.options.map fun option =>
      (option.1, .str ((toYaml option.2).getD []))))]

def buildConfigDict (cfg : SmppConfig) : ConfigValue :=
  .dict [
    ("server".toList, cfg.serverDict),
    ("binds".toList, .list (cfg.binds.map BindConfig.dict)),
    ("routing".toList, .dict [
      ("default_chain".toList, strings cfg.routing.defaultChain),
      ("rules".toList, .list (cfg.routing.rules.map (RoutingRule.dict toYaml)))])]

end Dictionary

/-! ### The readouts -/

/-- `smpp.binds()`. -/
def ConfigValue.binds (config : ConfigValue) : List ConfigValue :=
  ((config.get? "binds").map ConfigValue.items).getD []

/-- `smpp.routing_rules()`. -/
def ConfigValue.routingRules (config : ConfigValue) : List ConfigValue × List ConfigValue :=
  let routing := config.get? "routing"
  (((routing.bind (ConfigValue.get? "default_chain")).map ConfigValue.items).getD [],
    ((routing.bind (ConfigValue.get? "rules")).map ConfigValue.items).getD [])

/-! ### Passwords -/

def BindConfig.conceal (bind : BindConfig) : BindConfig := { bind with password := [] }

def SmppConfig.conceal (cfg : SmppConfig) : SmppConfig :=
  { cfg with binds := cfg.binds.map BindConfig.conceal }

/-- The dictionary of a configuration is made without the passwords. -/
theorem buildConfigDict_conceal (toYaml : OptionValue → Option (List Char)) (cfg : SmppConfig) :
    buildConfigDict toYaml cfg.conceal = buildConfigDict toYaml cfg := by
  have binds : (cfg.binds.map BindConfig.conceal).map BindConfig.dict =
      cfg.binds.map BindConfig.dict := by
    rw [List.map_map]
    rfl
  unfold buildConfigDict SmppConfig.conceal
  dsimp only
  rw [binds]
  rfl

/-- The variable of a bind's password. -/
def IsPassword (key : List Char) : Prop :=
  ∃ segment, bindKey key = some (segment, "PASSWORD".toList)

/-- Two environments that differ in nothing but which passwords the binds have, none of them
empty. -/
def SameButPasswords (env other : Environment) : Prop :=
  List.Forall₂ (fun first second => first.1 = second.1 ∧
    (first.2 = second.2 ∨ IsPassword first.1 ∧ first.2 ≠ [] ∧ second.2 ≠ [])) env.items other.items

/-- The same fields, but perhaps another password. -/
def FieldsButPassword (fields others : List Char → Option (List Char)) : Prop :=
  ∀ field, fields field = others field ∨
    field = "PASSWORD".toList ∧ ∃ first second, first ≠ [] ∧ second ≠ [] ∧
      fields field = some first ∧ others field = some second

section Fields

variable {fields others : List Char → Option (List Char)}

theorem FieldsButPassword.eq_of_ne (same : FieldsButPassword fields others) {field : String}
    (notSecret : field.toList ≠ "PASSWORD".toList) : fields field.toList = others field.toList :=
  (same field.toList).resolve_right fun secret => notSecret secret.1

theorem FieldsButPassword.given_eq (same : FieldsButPassword fields others) {field : String}
    (notSecret : field.toList ≠ "PASSWORD".toList) : given fields field = given others field := by
  rw [given, given, same.eq_of_ne notSecret]

theorem FieldsButPassword.parseU_eq (same : FieldsButPassword fields others) (name : List Char)
    {field : String} (notSecret : field.toList ≠ "PASSWORD".toList) (default : UInt64) :
    parseU name fields field default = parseU name others field default := by
  rw [parseU, parseU, same.given_eq notSecret]

/-- A password is there or is missing in both. -/
theorem FieldsButPassword.require_password (same : FieldsButPassword fields others)
    (name : List Char) :
    (∃ first second, require name fields "PASSWORD" = .ok first ∧
      require name others "PASSWORD" = .ok second) ∨
    ∃ error, require name fields "PASSWORD" = .error error ∧
      require name others "PASSWORD" = .error error := by
  rcases same "PASSWORD".toList with equal | ⟨_, first, second, firstFilled, secondFilled, set,
    other⟩
  · have given_eq : given fields "PASSWORD" = given others "PASSWORD" := by rw [given, given, equal]
    unfold require
    rw [given_eq]
    cases given others "PASSWORD" with
    | none => exact Or.inr ⟨_, rfl, rfl⟩
    | some value => exact Or.inl ⟨_, _, rfl, rfl⟩
  · exact Or.inl ⟨first, second, require_ok_iff.mpr (given_eq_some set firstFilled),
      require_ok_iff.mpr (given_eq_some other secondFilled)⟩

/-- The bind of a name is the same but for its password, and so is the error when there is
none. -/
theorem FieldsButPassword.bindOf_eq (same : FieldsButPassword fields others) (unicode : Lowercase)
    (name : List Char) :
    (bindOf unicode name fields).map (Option.map BindConfig.conceal) =
      (bindOf unicode name others).map (Option.map BindConfig.conceal) := by
  have tls : tlsOn unicode fields = tlsOn unicode others := by
    rw [tlsOn, tlsOn, same.eq_of_ne (by decide)]
  unfold bindOf
  rw [same.given_eq (by decide : "HOST".toList ≠ _),
    same.parseU_eq name (by decide : "PORT".toList ≠ _),
    same.parseU_eq name (by decide : "MAX_MPS".toList ≠ _),
    same.parseU_eq name (by decide : "ENQUIRE_LINK_MS".toList ≠ _),
    same.parseU_eq name (by decide : "RESPONSE_MS".toList ≠ _),
    same.eq_of_ne (by decide : "SYSTEM_TYPE".toList ≠ _),
    same.eq_of_ne (by decide : "BIND_TYPE".toList ≠ _), tls,
    show require name fields "SYSTEM_ID" = require name others "SYSTEM_ID" by
      rw [require, require, same.given_eq (by decide)]]
  rcases same.require_password name with ⟨first, second, read, readOther⟩ | ⟨error, read, readOther⟩
  · rw [read, readOther]
    cases given others "HOST" with
    | none => rfl
    | some host =>
      cases parseU name others "PORT" 2775 with
      | error error => rfl
      | ok port =>
        cases parseU name others "MAX_MPS" 0 with
        | error error => rfl
        | ok maxMsgPerSec =>
          cases require name others "SYSTEM_ID" with
          | error error => rfl
          | ok systemId =>
            cases parseU name others "ENQUIRE_LINK_MS" defaultEnquireLink with
            | error error => rfl
            | ok enquireLinkTimerMs =>
              cases parseU name others "RESPONSE_MS" defaultResponse with
              | error error => rfl
              | ok responseTimerMs => rfl
  · rw [read, readOther]

end Fields

/-- A variable sets a field of a name whatever its value is, or whatever its value is does
not. -/
theorem sets_readBindVar (unicode : Lowercase) (name field key : List Char) :
    (∀ value, Grouping.sets (readBindVar unicode) name field (key, value) = none) ∨
    (∃ segment, bindKey key = some (segment, field)) ∧
      ∀ value, Grouping.sets (readBindVar unicode) name field (key, value) = some value := by
  cases read : bindKey key with
  | none => exact Or.inl fun value => by simp [Grouping.sets, readBindVar, read]
  | some parts =>
    by_cases hit : unicode.toLowercase parts.1 = name ∧ parts.2 = field
    · refine Or.inr ⟨⟨parts.1, congrArg some (Prod.ext rfl hit.2)⟩, fun value => ?_⟩
      simp [Grouping.sets, readBindVar, read, hit]
    · exact Or.inl fun value => by simp [Grouping.sets, readBindVar, read, hit]

/-- Passwords may be dropped before the binds are put together or after. -/
theorem map_conceal_append (first : Except ConfigError (Option BindConfig))
    (rest : Except ConfigError (List BindConfig)) :
    (do let bind ← first; let binds ← rest; return bind.toList ++ binds).map
        (List.map BindConfig.conceal) =
      (do let bind ← first.map (Option.map BindConfig.conceal)
          let binds ← rest.map (List.map BindConfig.conceal)
          return bind.toList ++ binds) := by
  cases first with
  | error problem => rfl
  | ok bind =>
    cases rest with
    | error problem => rfl
    | ok binds =>
      cases bind with
      | none => rfl
      | some bind => rfl

section Environments

variable {env other : Environment} (same : SameButPasswords env other) (unicode : Lowercase)

include same

theorem SameButPasswords.fieldsOf (name : List Char) :
    FieldsButPassword (fieldsOf unicode env name) (fieldsOf unicode other name) := by
  intro field
  have reversed := List.forall₂_reverse_iff.mpr same
  unfold SiphonSmpp.fieldsOf Grouping.last
  generalize env.items.reverse = items at reversed ⊢
  generalize other.items.reverse = others at reversed ⊢
  induction reversed with
  | nil => exact Or.inl rfl
  | @cons first second rest later agree _ inductionHypothesis =>
    obtain ⟨key, value⟩ := first
    obtain ⟨sameKey, newValue⟩ := second
    obtain ⟨rfl, values⟩ := agree
    rw [List.findSome?_cons, List.findSome?_cons]
    rcases sets_readBindVar unicode name field key with unset | ⟨⟨segment, read⟩, set⟩
    · rw [unset, unset]
      exact inductionHypothesis
    · rw [set, set]
      rcases values with equal | ⟨⟨other, secret⟩, filled, newFilled⟩
      · exact Or.inl (congrArg some equal)
      · rw [read, Option.some.injEq, Prod.mk.injEq] at secret
        exact Or.inr ⟨secret.2, value, newValue, filled, newFilled, rfl, rfl⟩

theorem SameButPasswords.keys : env.items.map Prod.fst = other.items.map Prod.fst := by
  unfold SameButPasswords at same
  generalize env.items = items at same ⊢
  generalize other.items = others at same ⊢
  induction same with
  | nil => rfl
  | cons agree _ inductionHypothesis =>
    rw [List.map_cons, List.map_cons, agree.1, inductionHypothesis]

omit same in
/-- The names of the binds are read off the names of the variables. -/
theorem mem_bindNames_iff (name : List Char) (env : Environment) :
    name ∈ bindNames unicode env ↔ ∃ key ∈ env.items.map Prod.fst, ∃ segment field,
      bindKey key = some (segment, field) ∧ unicode.toLowercase segment = name := by
  rw [bindNames, Std.ExtTreeMap.mem_keys, Std.ExtTreeMap.mem_iff_isSome_getElem?,
    Grouping.isSome_collect]
  constructor
  · rintro ⟨⟨key, value⟩, member, field, set, read⟩
    obtain ⟨⟨segment, found⟩, split, same⟩ := Option.map_eq_some_iff.mp read
    simp only [Prod.mk.injEq] at same
    exact ⟨key, List.mem_map_of_mem member, segment, found, split, same.1⟩
  · rintro ⟨key, listed, segment, field, split, rfl⟩
    obtain ⟨⟨_, value⟩, member, rfl⟩ := List.mem_map.mp listed
    exact ⟨_, member, field, value, Option.map_eq_some_iff.mpr ⟨_, split, rfl⟩⟩

/-- The names of the binds are the same. -/
theorem SameButPasswords.bindNames_eq : bindNames unicode env = bindNames unicode other := by
  have distinct : ∀ env, (bindNames unicode env).Nodup := by
    intro env
    refine (bindNames_sorted unicode env).imp fun below equal => ?_
    rw [equal, Std.ReflOrd.compare_self] at below
    exact absurd below nofun
  have permuted : (bindNames unicode env).Perm (bindNames unicode other) := by
    rw [List.perm_ext_iff_of_nodup (distinct env) (distinct other)]
    intro name
    rw [mem_bindNames_iff, mem_bindNames_iff, same.keys]
  refine permuted.eq_of_pairwise (fun first second _ _ below above => ?_)
    (bindNames_sorted unicode env) (bindNames_sorted unicode other)
  rw [Std.OrientedOrd.eq_swap, above] at below
  exact absurd below nofun

/-- The binds of the environment are the same but for their passwords, and so is the error. -/
theorem SameButPasswords.bindsFromEnv_eq :
    (bindsFromEnv unicode env).map (List.map BindConfig.conceal) =
      (bindsFromEnv unicode other).map (List.map BindConfig.conceal) := by
  rw [bindsFromEnv_eq_collectBinds, bindsFromEnv_eq_collectBinds, ← same.bindNames_eq unicode]
  induction bindNames unicode env with
  | nil => rfl
  | cons name rest inductionHypothesis =>
    have one := (same.fieldsOf unicode name).bindOf_eq unicode name
    simp only [List.map_cons, collectBinds]
    rw [map_conceal_append, map_conceal_append, one, inductionHypothesis]

/-- A variable that is not the password of a bind has the same value. -/
theorem SameButPasswords.get?_eq {key : List Char} (notSecret : ¬ IsPassword key) :
    env.get? key = other.get? key := by
  refine Option.ext fun value => ?_
  rw [← OrderedDict.mem_items_iff, ← OrderedDict.mem_items_iff]
  unfold SameButPasswords at same
  generalize env.items = items at same ⊢
  generalize other.items = others at same ⊢
  induction same with
  | nil => rfl
  | @cons first second _ _ agree _ inductionHypothesis =>
    have head : (key, value) = first ↔ (key, value) = second := by
      obtain ⟨sameKey, values⟩ := agree
      constructor
      · rintro rfl
        exact Prod.ext sameKey (values.resolve_right fun secret => notSecret secret.1)
      · rintro rfl
        have notFirst : ¬ IsPassword first.1 := by
          rw [sameKey]
          exact notSecret
        exact Prod.ext sameKey.symm (values.resolve_right fun secret => notFirst secret.1).symm
    rw [List.mem_cons, List.mem_cons, head, inductionHypothesis]

end Environments

theorem not_isPassword_of_bindKey {key : List Char} (other : bindKey key = none) :
    ¬ IsPassword key := by
  rintro ⟨segment, secret⟩
  rw [other] at secret
  exact absurd secret nofun

/-- The overrides of the environment are the same. -/
theorem SameButPasswords.override_eq {env other : Environment} (same : SameButPasswords env other)
    (unicode : Lowercase) :
    SmppConfig.override unicode env = SmppConfig.override unicode other := by
  funext cfg
  unfold SmppConfig.override
  rw [same.get?_eq (not_isPassword_of_bindKey (by decide)),
    same.get?_eq (not_isPassword_of_bindKey (by decide)),
    same.get?_eq (not_isPassword_of_bindKey (by decide))]

theorem SmppConfig.fromFile_of_unparsed {unicode : Lowercase}
    {fromYaml : List Char → Except YamlError SmppConfig} {env : Environment} {path text : List Char}
    {problem : YamlError} (parsed : fromYaml (expandEnvVars env text) = .error problem) :
    fromFile unicode fromYaml env path (.ok text) =
      .error (.parse path problem.keyPath problem.source) := by
  show ((fromYaml (expandEnvVars env text)).mapError _ >>= _) = _
  rw [parsed]
  rfl

/-- The environment adds its binds and its overrides without a look at the passwords. -/
theorem SmppConfig.override_conceal (unicode : Lowercase) (env : Environment)
    {declared another : SmppConfig} (same : declared.conceal = another.conceal)
    {binds others : List BindConfig}
    (sameBinds : binds.map BindConfig.conceal = others.map BindConfig.conceal) :
    (SmppConfig.override unicode env
        { declared with binds := declared.binds ++ binds }).conceal =
      (SmppConfig.override unicode env
        { another with binds := another.binds ++ others }).conceal := by
  have added : ∀ (cfg : SmppConfig) (more : List BindConfig),
      (SmppConfig.override unicode env { cfg with binds := cfg.binds ++ more }).conceal =
        SmppConfig.override unicode env { cfg.conceal with
          binds := cfg.conceal.binds ++ more.map BindConfig.conceal } := by
    intro cfg more
    unfold SmppConfig.conceal SmppConfig.override
    dsimp only
    rw [List.map_append]
  rw [added, added, same, sameBinds]

/-- No password of a bind is seen by the script or in an error of loading. Where two environments
differ in the passwords of the binds alone, none of them empty, and the document reads the same
under both but for the passwords in it, loading ends in the same error or in the same
dictionary. -/
theorem passwords_unseen (toYaml : OptionValue → Option (List Char)) (unicode : Lowercase)
    (fromYaml : List Char → Except YamlError SmppConfig) (env other : Environment)
    (path : List Char) (raw : Except (List Char) (List Char)) (same : SameButPasswords env other)
    (document : ∀ text, raw = .ok text →
      (fromYaml (expandEnvVars env text)).map SmppConfig.conceal =
        (fromYaml (expandEnvVars other text)).map SmppConfig.conceal) :
    (SmppConfig.fromFile unicode fromYaml env path raw).map (buildConfigDict toYaml) =
      (SmppConfig.fromFile unicode fromYaml other path raw).map (buildConfigDict toYaml) := by
  cases raw with
  | error source => rfl
  | ok text =>
    have reads := document text rfl
    cases parsed : fromYaml (expandEnvVars env text) with
    | error problem =>
      cases parsedOther : fromYaml (expandEnvVars other text) with
      | error another =>
        rw [parsed, parsedOther] at reads
        rw [SmppConfig.fromFile_of_unparsed parsed, SmppConfig.fromFile_of_unparsed parsedOther,
          Except.error.inj reads]
      | ok another =>
        rw [parsed, parsedOther] at reads
        exact absurd reads nofun
    | ok declared =>
      cases parsedOther : fromYaml (expandEnvVars other text) with
      | error another =>
        rw [parsed, parsedOther] at reads
        exact absurd reads nofun
      | ok another =>
        rw [parsed, parsedOther] at reads
        rw [SmppConfig.fromFile_of_parsed parsed, SmppConfig.fromFile_of_parsed parsedOther,
          same.override_eq]
        have binds := same.bindsFromEnv_eq unicode
        cases read : bindsFromEnv unicode env with
        | error problem =>
          cases readOther : bindsFromEnv unicode other with
          | error otherProblem =>
            rw [read, readOther] at binds
            exact congrArg Except.error (Except.error.inj binds)
          | ok others =>
            rw [read, readOther] at binds
            exact absurd binds nofun
        | ok found =>
          cases readOther : bindsFromEnv unicode other with
          | error otherProblem =>
            rw [read, readOther] at binds
            exact absurd binds nofun
          | ok others =>
            rw [read, readOther] at binds
            have concealed := SmppConfig.override_conceal unicode other (Except.ok.inj reads)
              (Except.ok.inj binds)
            refine congrArg Except.ok ?_
            rw [← buildConfigDict_conceal, concealed, buildConfigDict_conceal]

/-- Two deployments that differ in one password. -/
def rotatedEnv (password : List Char) : Environment where
  items := [
    ("SMPP_BIND_A_HOST".toList, "10.0.0.1".toList),
    ("SMPP_BIND_A_SYSTEM_ID".toList, "a".toList),
    ("SMPP_BIND_A_PASSWORD".toList, password)]
  distinct := by
    show ["SMPP_BIND_A_HOST".toList, "SMPP_BIND_A_SYSTEM_ID".toList,
      "SMPP_BIND_A_PASSWORD".toList].Nodup
    decide

/-- A document that has a bind of its own with that password, and its parser. -/
def sharedDocument : List Char := "$\x7bSMPP_BIND_A_PASSWORD\x7d".toList

def parseShared (text : List Char) : Except YamlError SmppConfig :=
  .ok { alphaConfig with binds := alphaConfig.binds.map fun bind => { bind with password := text } }

theorem passwords_unseen_rotated :
    let env := rotatedEnv "hunter2".toList
    let rotated := rotatedEnv "s3cr3t".toList
    let noOptions : OptionValue → Option (List Char) := fun _ => none
    let passwords : SmppConfig → List (List Char) := fun cfg => cfg.binds.map BindConfig.password
    (SmppConfig.fromFile asciiLowercase parseShared env [] (.ok sharedDocument)).map passwords =
        .ok ["hunter2".toList, "hunter2".toList] ∧
      (SmppConfig.fromFile asciiLowercase parseShared rotated [] (.ok sharedDocument)).map
        passwords = .ok ["s3cr3t".toList, "s3cr3t".toList] ∧
      (SmppConfig.fromFile asciiLowercase parseShared env [] (.ok sharedDocument)).map
          (buildConfigDict noOptions) =
        (SmppConfig.fromFile asciiLowercase parseShared rotated [] (.ok sharedDocument)).map
          (buildConfigDict noOptions) := by
  intro env rotated noOptions passwords
  refine ⟨by decide +kernel, by decide +kernel, ?_⟩
  refine passwords_unseen noOptions asciiLowercase parseShared env rotated [] (.ok sharedDocument)
    ?_ ?_
  · refine .cons ⟨rfl, Or.inl rfl⟩ (.cons ⟨rfl, Or.inl rfl⟩ (.cons ⟨rfl, Or.inr ?_⟩ .nil))
    exact ⟨⟨"A".toList, by decide⟩, by decide, by decide⟩
  · intro text _
    rfl

end SiphonSmpp
