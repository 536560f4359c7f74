/-
This file models the loading of the configuration (`SmppConfig::from_file` in
`src/config.rs`). A text is read from a file, the environment variables in it are
expanded, the YAML parser makes a configuration of it, and the environment then
adds its binds and overrides a few settings. The YAML parser is not part of the
crate; it is a parameter.

A bind is looked up by its name, and one supervisor is started for each bind. The
names of the binds of the environment are distinct, but they are appended to
those of the document without a look at them. `names_identify_iff` says that the
names still identify the binds exactly when the two sources share none.
-/

import SiphonSmpp.EnvBinds
import SiphonSmpp.Expand
import SiphonSmpp.Lifecycle

namespace SiphonSmpp

open Decimal

/-! ### The configuration -/

structure ServerConfig where
  bindAddress : Option (List Char)
  port : Option UInt16
  sessionInitTimerMs : UInt64
  enquireLinkTimerMs : UInt64
  inactivityTimerMs : UInt64
  responseTimerMs : UInt64
  maxMsgPerSec : UInt32
  throttleAction : ThrottleAction
  tls : Option TlsConfig
  deriving DecidableEq, Repr

/-- A value under the options of a routing rule, any YAML node. A floating-point number is its
bits, and the entries of a map are in the order they were written. -/
inductive OptionValue where
  | null
  | bool (value : Bool)
  | int (value : Int64)
  | uint (value : UInt64)
  | float (bits : UInt64)
  | string (text : List Char)
  | seq (items : List OptionValue)
  | map (entries : List (OptionValue × OptionValue))

/-- A rule of the routing table, `start` for its `prefix`, with its options in the order of their
names. -/
structure RoutingRule where
  start : List Char
  chain : List (List Char)
  name : List Char
  options : List (List Char × OptionValue)

structure RoutingConfig where
  defaultChain : List (List Char)
  rules : List RoutingRule

structure SmppConfig where
  server : ServerConfig
  binds : List BindConfig
  routing : RoutingConfig
  bindAddress : Option (List Char)
  port : Option UInt16

/-- Where in a document the parser fails, and why. -/
structure YamlError where
  keyPath : List Char
  source : List Char
  deriving DecidableEq, Repr

/-! ### Loading -/

/-- The steps of a chain, as `SMPP_DEFAULT_CHAIN` lists them. -/
def chainOf (raw : List Char) : List (List Char) :=
  ((raw.splitOn ',').map trim).filter fun step => step ≠ []

/-- The settings that are overridden by the environment: the default chain, and of the server
the rate and what happens above it. An invalid rate or action is ignored. -/
def SmppConfig.override (unicode : Lowercase) (env : Environment) (cfg : SmppConfig) : SmppConfig :=
  let chain := (env.get? "SMPP_DEFAULT_CHAIN".toList).map chainOf
  let rate := (env.get? "SMPP_SERVER_MAX_MPS".toList).bind fun raw =>
    (parseUnsigned (2 ^ 32) (trim raw)).toOption.map UInt32.ofNat
  let action := (env.get? "SMPP_SERVER_THROTTLE_ACTION".toList).bind fun raw =>
    let value := unicode.toLowercase (trim raw)
    if value = "pace".toList then some ThrottleAction.pace
    else if value = "reject".toList then some ThrottleAction.reject
    else none
  { cfg with
    server := { cfg.server with
      maxMsgPerSec := rate.getD cfg.server.maxMsgPerSec
      throttleAction := action.getD cfg.server.throttleAction }
    routing := { cfg.routing with defaultChain := chain.getD cfg.routing.defaultChain } }

/-- Load the configuration from a file, of which `raw` is what reading it gives. -/
def SmppConfig.fromFile (unicode : Lowercase)
    (fromYaml : List Char → Except YamlError SmppConfig) (env : Environment) (path : List Char)
    (raw : Except (List Char) (List Char)) : Except ConfigError SmppConfig := do
  let text ← raw.mapError fun source => .read path source
  let expanded := expandEnvVars env text
  let cfg ← (fromYaml expanded).mapError fun error => .parse path error.keyPath error.source
  let binds ← bindsFromEnv unicode env
  let cfg := { cfg with binds := cfg.binds ++ binds }
  return cfg.override unicode env

section Loaded

variable {unicode : Lowercase} {fromYaml : List Char → Except YamlError SmppConfig}
  {env : Environment} {path text : List Char} {declared cfg : SmppConfig}

theorem SmppConfig.fromFile_of_parsed (parsed : fromYaml (expandEnvVars env text) = .ok declared) :
    fromFile unicode fromYaml env path (.ok text) = do
      let binds ← bindsFromEnv unicode env
      return SmppConfig.override unicode env
        { declared with binds := declared.binds ++ binds } := by
  show ((fromYaml (expandEnvVars env text)).mapError _ >>= _) = _
  rw [parsed]
  rfl

/-- The binds that are loaded are those of the document, and then those of the environment. -/
theorem SmppConfig.fromFile_binds (parsed : fromYaml (expandEnvVars env text) = .ok declared)
    (loaded : fromFile unicode fromYaml env path (.ok text) = .ok cfg) :
    ∃ binds, bindsFromEnv unicode env = .ok binds ∧ cfg.binds = declared.binds ++ binds := by
  rw [fromFile_of_parsed parsed] at loaded
  obtain ⟨binds, read, rest⟩ := (bind_eq_ok_iff _ _ _).mp loaded
  rw [pure_eq_ok_iff] at rest
  subst rest
  exact ⟨binds, read, rfl⟩

end Loaded

/-! ### Sessions of the binds -/

/-- The listener of a bind's supervisor. -/
def BindConfig.listener (bind : BindConfig) : BindListener :=
  ⟨String.ofList bind.name, bind.maxMsgPerSec.toNat, bind.responseTimerMs.toNat / 1000⟩

/-- A history of callbacks, each with the supervisor whose session it is about. There is one
supervisor for each bind, and a session comes up with the listener of its supervisor. -/
def Supervised (binds : List BindConfig) (history : List (Nat × Callback)) : Prop :=
  ∀ supervisor listener smsc, (supervisor, Callback.smscBound listener smsc) ∈ history →
    ∃ bind, binds[supervisor]? = some bind ∧ listener = bind.listener

/-- The session that a supervisor brought up in the course of a history. -/
def BroughtUp (start : State) (history : List (Nat × Callback)) (supervisor : Nat)
    (session : BindSession) : Prop :=
  ∃ before listener smsc later,
    history = before ++ (supervisor, .smscBound listener smsc) :: later ∧
      session = (start.run (before.map Prod.snd)).newBindSession listener smsc

/-- The names identify the binds: they are distinct, and whatever a name resolves to, in the
registry at any time, is a session of the one bind with that name. -/
structure NamesIdentify (binds : List BindConfig) : Prop where
  distinct : (binds.map BindConfig.name).Nodup
  resolves : ∀ (start : State) (history : List (Nat × Callback)) (name : List Char)
    (target : BindTarget), start.binds = [] → Supervised binds history →
    bindHandle (start.run (history.map Prod.snd)) (String.ofList name) = .ok target →
    ∃ supervisor session, BroughtUp start history supervisor session ∧
      target = ⟨session.smsc, session.throttle, session.responseTimer⟩ ∧
      ∀ other bind, binds[other]? = some bind → (bind.name = name ↔ other = supervisor)

/-- Every registered session was brought up by a supervisor. -/
theorem exists_broughtUp {start : State} (empty : start.binds = [])
    (history : List (Nat × Callback)) {session : BindSession}
    (member : session ∈ (start.run (history.map Prod.snd)).binds) :
    ∃ supervisor, BroughtUp start history supervisor session := by
  induction history using List.reverseRecOn with
  | nil =>
    rw [List.map_nil, State.run, List.foldl_nil, empty] at member
    cases member
  | append_singleton front event inductionHypothesis =>
    have earlier : session ∈ (start.run (front.map Prod.snd)).binds →
        ∃ supervisor, BroughtUp start (front ++ [event]) supervisor session := by
      intro before
      obtain ⟨supervisor, first, listener, smsc, later, rfl, made⟩ := inductionHypothesis before
      refine ⟨supervisor, first, listener, smsc, later ++ [event], ?_, made⟩
      rw [List.append_assoc, List.cons_append]
    rw [List.map_append, State.run_append] at member
    obtain ⟨supervisor, callback⟩ := event
    cases callback with
    | esmeBound esme => exact earlier member
    | esmeUnbound sessionId => exact earlier member
    | smscUnbound listener sessionId => exact earlier (List.mem_filter.mp member).1
    | smscBound listener smsc =>
      rcases List.mem_append.mp member with before | last
      · exact earlier before
      · exact ⟨supervisor, front, listener, smsc, [], rfl, List.mem_singleton.mp last⟩

/-- Where the names are distinct, a name resolves to a session of the one bind that has it. -/
theorem namesIdentify_iff_nodup (binds : List BindConfig) :
    NamesIdentify binds ↔ (binds.map BindConfig.name).Nodup := by
  refine ⟨NamesIdentify.distinct, fun distinct => ⟨distinct, ?_⟩⟩
  intro start history name target empty supervised resolved
  obtain ⟨session, member, named, same⟩ := bindHandle_mem _ _ _ resolved
  obtain ⟨supervisor, broughtUp⟩ := exists_broughtUp empty history member
  refine ⟨supervisor, session, broughtUp, same, ?_⟩
  obtain ⟨before, listener, smsc, later, whole, rfl⟩ := broughtUp
  obtain ⟨own, found, rfl⟩ := supervised supervisor listener smsc
    (whole ▸ List.mem_append_right _ List.mem_cons_self)
  have ownName : own.name = name := String.ofList_injective named
  intro other bind foundOther
  constructor
  · intro otherName
    have bounded : other < (binds.map BindConfig.name).length := by
      rw [List.length_map]
      exact (List.getElem?_eq_some_iff.mp foundOther).1
    refine (List.getElem?_inj bounded distinct).mp ?_
    rw [List.getElem?_map, List.getElem?_map, foundOther, found, Option.map_some, Option.map_some,
      otherName, ownName]
  · rintro rfl
    rw [found, Option.some.injEq] at foundOther
    rw [← foundOther, ownName]

/-- After loading, the names identify the binds exactly when no bind of the document has the
name of a bind of the environment. -/
theorem names_identify_iff (unicode : Lowercase)
    (fromYaml : List Char → Except YamlError SmppConfig) (env : Environment)
    (path text : List Char) (declared cfg : SmppConfig)
    (parsed : fromYaml (expandEnvVars env text) = .ok declared)
    (distinct : (declared.binds.map BindConfig.name).Nodup)
    (loaded : SmppConfig.fromFile unicode fromYaml env path (.ok text) = .ok cfg) :
    NamesIdentify cfg.binds ↔ ∀ bind ∈ declared.binds, ¬ Discovered unicode env bind.name := by
  obtain ⟨binds, read, same⟩ := SmppConfig.fromFile_binds parsed loaded
  rw [namesIdentify_iff_nodup, same, List.map_append, List.nodup_append,
    names_of_ok unicode env read]
  constructor
  · rintro ⟨_, _, apart⟩ bind member host
    exact apart bind.name (List.mem_map_of_mem member) bind.name
      ((mem_discovered_iff unicode env bind.name).mpr host) rfl
  · intro apart
    refine ⟨distinct, discovered_nodup unicode env, ?_⟩
    rintro first inDocument second inEnvironment rfl
    obtain ⟨bind, member, rfl⟩ := List.mem_map.mp inDocument
    exact apart bind member ((mem_discovered_iff unicode env bind.name).mp inEnvironment)

/-- A document with one bind, and what the parser makes of it. -/
def alphaDocument : List Char :=
  "binds:\n- name: alpha\n  host: h\n  port: 1\n  system_id: s\n  password: p\n".toList

def alphaConfig : SmppConfig where
  server := ⟨none, none, 0, 0, 0, 0, 0, .pace, none⟩
  binds := [{
    name := "alpha".toList
    host := "h".toList
    port := 1
    systemId := "s".toList
    password := "p".toList
    systemType := []
    bindType := defaultBindType
    maxMsgPerSec := 0
    enquireLinkTimerMs := defaultEnquireLink
    responseTimerMs := defaultResponse
    tls := none }]
  routing := ⟨[], []⟩
  bindAddress := none
  port := none

def parseAlpha (text : List Char) : Except YamlError SmppConfig :=
  if text = alphaDocument then .ok alphaConfig else .error ⟨[], []⟩

theorem parseAlpha_expanded (env : Environment) :
    parseAlpha (expandEnvVars env alphaDocument) = .ok alphaConfig := by
  have plain : ¬ opener <:+: alphaDocument := by
    rw [← Markers.before?_eq_none_iff]
    decide +kernel
  have same : expandEnvVars env alphaDocument = alphaDocument := expandLoop_plain env [] plain
  rw [same, parseAlpha, if_pos rfl]

theorem fromFile_alpha (env : Environment) (names : List (List Char))
    (read : (bindsFromEnv asciiLowercase env).map (List.map BindConfig.name) = .ok names) :
    ∃ cfg, SmppConfig.fromFile asciiLowercase parseAlpha env [] (.ok alphaDocument) = .ok cfg ∧
      cfg.binds.map BindConfig.name = "alpha".toList :: names := by
  cases found : bindsFromEnv asciiLowercase env with
  | error error =>
    rw [found] at read
    cases read
  | ok binds =>
    rw [found] at read
    have environment : binds.map BindConfig.name = names := Except.ok.inj read
    refine ⟨SmppConfig.override asciiLowercase env
      { alphaConfig with binds := alphaConfig.binds ++ binds }, ?_, ?_⟩
    · rw [SmppConfig.fromFile_of_parsed (parseAlpha_expanded env), found]
      rfl
    · show (alphaConfig.binds ++ binds).map BindConfig.name = _
      rw [List.map_append, environment]
      rfl

/-- Variables that declare a bind of the same name. -/
def takenEnv : Environment where
  items := [
    ("SMPP_BIND_ALPHA_HOST".toList, "h2".toList),
    ("SMPP_BIND_ALPHA_SYSTEM_ID".toList, "s2".toList),
    ("SMPP_BIND_ALPHA_PASSWORD".toList, "p2".toList)]
  distinct := by decide

/-- Two binds go by the name `alpha`. -/
theorem bind_name_taken_twice :
    (alphaConfig.binds.map BindConfig.name).Nodup ∧
    ∃ cfg, SmppConfig.fromFile asciiLowercase parseAlpha takenEnv [] (.ok alphaDocument) =
        .ok cfg ∧
      cfg.binds.map BindConfig.name = ["alpha".toList, "alpha".toList] ∧
      ¬ NamesIdentify cfg.binds := by
  obtain ⟨cfg, loaded, names⟩ := fromFile_alpha takenEnv ["alpha".toList] (by decide +kernel)
  refine ⟨List.nodup_singleton _, cfg, loaded, names, fun identify => ?_⟩
  have distinct := identify.distinct
  rw [names] at distinct
  exact (List.nodup_cons.mp distinct).1 List.mem_cons_self

/-- Variables that declare a bind of another name. -/
def freeEnv : Environment where
  items := [
    ("SMPP_BIND_BETA_HOST".toList, "h2".toList),
    ("SMPP_BIND_BETA_SYSTEM_ID".toList, "s2".toList),
    ("SMPP_BIND_BETA_PASSWORD".toList, "p2".toList)]
  distinct := by decide

theorem names_identify_beside_beta :
    ∃ cfg, SmppConfig.fromFile asciiLowercase parseAlpha freeEnv [] (.ok alphaDocument) =
        .ok cfg ∧
      cfg.binds.map BindConfig.name = ["alpha".toList, "beta".toList] ∧
      NamesIdentify cfg.binds := by
  obtain ⟨cfg, loaded, names⟩ := fromFile_alpha freeEnv ["beta".toList] (by decide +kernel)
  refine ⟨cfg, loaded, names, (names_identify_iff asciiLowercase parseAlpha freeEnv [] alphaDocument
    alphaConfig cfg (parseAlpha_expanded freeEnv) (List.nodup_singleton _) loaded).mpr ?_⟩
  have free : ¬ Discovered asciiLowercase freeEnv "alpha".toList := by decide +kernel
  intro bind member
  rw [List.mem_singleton.mp member]
  exact free

end SiphonSmpp
