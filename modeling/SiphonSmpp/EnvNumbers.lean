/-
This file asks what becomes of the numbers of the binds that are declared by
environment variables. All four are read as 64-bit numbers; the timers are kept
as they are, but the port is stored in 16 bits and the rate in 32, by a cast that
drops the rest. A port from 65536 on, or a rate from 2^32 on, is therefore
neither kept nor refused unless it passes 64 bits as well.

`numbers_kept_iff` says that this is all that goes wrong: the numbers are kept,
and the ones out of range refused, exactly when the first bind that is not in
order is not of that kind.
-/

import SiphonSmpp.EnvBinds

namespace SiphonSmpp

open Decimal

/-! ### Numbers and their ranges -/

/-- The number that stands in a field. -/
def numberIn (fields : List Char → Option (List Char)) (field : String) : Option Nat :=
  (given fields field).bind numberOf

/-- A number that is not below a limit. -/
def TooLarge (fields : List Char → Option (List Char)) (field : String) (limit : Nat) : Prop :=
  ∃ number, numberIn fields field = some number ∧ limit ≤ number

/-- A number that is too large for a limit and yet a 64-bit number. -/
def CastFrom (fields : List Char → Option (List Char)) (field : String) (limit : Nat) : Prop :=
  ∃ number, numberIn fields field = some number ∧ limit ≤ number ∧ number < 2 ^ 64

/-- The fields of a bind that can be built with the numbers it declares. -/
structure InOrder (fields : List Char → Option (List Char)) : Prop extends Complete fields where
  port : ¬ TooLarge fields "PORT" (2 ^ 16)
  maxMsgPerSec : ¬ TooLarge fields "MAX_MPS" (2 ^ 32)

/-- The fields of a bind whose port does not fit, or whose port is in order and whose rate does
not fit, without passing 64 bits. -/
def Narrowed (fields : List Char → Option (List Char)) : Prop :=
  CastFrom fields "PORT" (2 ^ 16) ∨
    NumberReads fields "PORT" ∧ ¬ TooLarge fields "PORT" (2 ^ 16) ∧
      CastFrom fields "MAX_MPS" (2 ^ 32)

section Fields

variable {name : List Char} {fields : List Char → Option (List Char)} {field : String}

theorem numberIn_eq_some_iff {number : Nat} :
    numberIn fields field = some number ↔
      ∃ value, given fields field = some value ∧ numberOf value = some number :=
  Option.bind_eq_some_iff

theorem TooLarge.castFrom {limit : Nat} (large : TooLarge fields field limit)
    (reads : NumberReads fields field) : CastFrom fields field limit := by
  obtain ⟨number, found, above⟩ := large
  obtain ⟨value, present, stands⟩ := numberIn_eq_some_iff.mp found
  obtain ⟨other, parsed⟩ := reads value present
  have read := (parseUnsigned_eq_ok_iff (2 ^ 64) (by decide) value other).mp parsed
  rw [stands, Option.some.injEq] at read
  exact ⟨number, found, above, read.1 ▸ read.2⟩

theorem CastFrom.tooLarge {limit : Nat} (cast : CastFrom fields field limit) :
    TooLarge fields field limit := by
  obtain ⟨number, found, above, _⟩ := cast
  exact ⟨number, found, above⟩

/-- A 64-bit number is no error. -/
theorem CastFrom.parses {limit : Nat} (cast : CastFrom fields field limit) {value : List Char}
    {source : IntErrorKind} (present : given fields field = some value) :
    parseUnsigned (2 ^ 64) value ≠ .error source := by
  obtain ⟨number, found, _, bounded⟩ := cast
  obtain ⟨other, same, stands⟩ := numberIn_eq_some_iff.mp found
  rw [present, Option.some.injEq] at same
  rw [(parseUnsigned_eq_ok_iff (2 ^ 64) (by decide) value number).mpr ⟨same ▸ stands, bounded⟩]
  exact nofun

/-- A number that passes 64 bits is an error. -/
theorem TooLarge.parseU_error {limit : Nat} (large : TooLarge fields field limit)
    (cast : ¬ CastFrom fields field limit) (name : List Char) (default : UInt64) :
    ∃ value source, parseU name fields field default =
      .error (.envBindInvalid name field value source) := by
  rcases parseU_cases name fields field default with ⟨absent, _⟩ |
    ⟨value, number, present, parsed, _⟩ | ⟨value, source, _, _, failed⟩
  · obtain ⟨number, found, _⟩ := large
    rw [numberIn, absent] at found
    cases found
  · refine absurd (large.castFrom fun other same => ⟨number, ?_⟩) cast
    rw [present, Option.some.injEq] at same
    rw [← same, parsed]
  · exact ⟨value, source, failed⟩

/-- A number below the width it is stored in is the number that was written. -/
theorem written_of_stored {default limit stored : Nat} (fits : default < limit)
    (small : ¬ TooLarge fields field limit)
    (cast : ∃ number < 2 ^ 64, Written fields field default number ∧ stored = number % limit) :
    Written fields field default stored := by
  obtain ⟨number, _, written, rfl⟩ := cast
  have below : number < limit := by
    rw [Written] at written
    cases present : given fields field with
    | none =>
      rw [present] at written
      rw [written]
      exact fits
    | some value =>
      rw [present] at written
      refine Nat.lt_of_not_le fun above => small ⟨number, ?_, above⟩
      exact numberIn_eq_some_iff.mpr ⟨value, present, written⟩
  rw [Nat.mod_eq_of_lt below]
  exact written

end Fields

/-! ### What becomes of the numbers -/

section Environment

variable (unicode : Lowercase) (env : Environment)

/-- The names with a host up to the first bind that is not in order. -/
def Leads (name : List Char) : Prop :=
  Discovered unicode env name ∧ ∀ smaller, compare smaller name = .lt →
    Discovered unicode env smaller → InOrder (fieldsOf unicode env smaller)

/-- No number is truncated: a bind that is returned has the numbers that are written in its
variables, and a port or a rate out of range is an error that names it, unless an earlier bind
or field is not in order. -/
structure KeepsNumbers : Prop where
  written : ∀ binds, bindsFromEnv unicode env = .ok binds → ∀ bind ∈ binds,
    let fields := fieldsOf unicode env bind.name
    Written fields "PORT" 2775 bind.port.toNat ∧
    Written fields "MAX_MPS" 0 bind.maxMsgPerSec.toNat ∧
    Written fields "ENQUIRE_LINK_MS" 30000 bind.enquireLinkTimerMs.toNat ∧
    Written fields "RESPONSE_MS" 30000 bind.responseTimerMs.toNat
  refusesPort : ∀ name, Leads unicode env name →
    TooLarge (fieldsOf unicode env name) "PORT" (2 ^ 16) →
    ∃ value source, bindsFromEnv unicode env = .error (.envBindInvalid name "PORT" value source)
  refusesRate : ∀ name, Leads unicode env name →
    NumberReads (fieldsOf unicode env name) "PORT" →
    ¬ TooLarge (fieldsOf unicode env name) "PORT" (2 ^ 16) →
    TooLarge (fieldsOf unicode env name) "MAX_MPS" (2 ^ 32) →
    ∃ value source, bindsFromEnv unicode env = .error (.envBindInvalid name "MAX_MPS" value source)

variable {unicode env}

/-- An error that names a number is made by what stands there. -/
theorem invalid_of_error {name value : List Char} {field : String} {source : IntErrorKind}
    (failed : bindsFromEnv unicode env = .error (.envBindInvalid name field value source)) :
    given (fieldsOf unicode env name) field = some value ∧
      parseUnsigned (2 ^ 64) value = .error source := by
  obtain ⟨other, _, made⟩ := (bindsFromEnv_eq_error_iff unicode env _).mp failed
  rcases (bindOf_eq_error made).2 with ⟨field', value', source', present, parsed, same⟩ |
    ⟨_, _, same⟩
  · cases same
    exact ⟨present, parsed⟩
  · cases same

/-- The error of a bind is returned when those before it are in order. -/
theorem Leads.error {name : List Char} (leads : Leads unicode env name) {error : ConfigError}
    (failed : bindOf unicode name (fieldsOf unicode env name) = .error error) :
    bindsFromEnv unicode env = .error error :=
  (bindsFromEnv_eq_error_iff unicode env error).mpr
    ⟨name, fun smaller below host => (leads.2 smaller below host).toComplete, failed⟩

/-- Where all binds are complete and none is narrowed, all are in order. -/
theorem inOrder_of_complete
    (kept : ∀ name, Leads unicode env name → ¬ Narrowed (fieldsOf unicode env name))
    (complete : ∀ name, Discovered unicode env name → Complete (fieldsOf unicode env name)) :
    ∀ name, Discovered unicode env name → InOrder (fieldsOf unicode env name) := by
  have all := Grouping.sorted_induction (discovered_sorted unicode env)
    (motive := fun name => InOrder (fieldsOf unicode env name)) ?_
  · exact fun name host => all name ((mem_discovered_iff unicode env name).mpr host)
  · intro name member smaller
    have host := (mem_discovered_iff unicode env name).mp member
    have leads : Leads unicode env name := ⟨host, fun other below otherHost =>
      smaller other ((mem_discovered_iff unicode env other).mpr otherHost) below⟩
    have reads := (complete name host).numbers
    have port : ¬ TooLarge (fieldsOf unicode env name) "PORT" (2 ^ 16) :=
      fun large => kept name leads (Or.inl (large.castFrom (reads "PORT" (by decide))))
    refine ⟨complete name host, port, fun large => kept name leads (Or.inr ?_)⟩
    exact ⟨reads "PORT" (by decide), port, large.castFrom (reads "MAX_MPS" (by decide))⟩

variable (unicode env)

/-- Numbers are kept or refused exactly when no bind is narrowed up to the first that is not in
order. -/
theorem numbers_kept_iff :
    KeepsNumbers unicode env ↔
      ∀ name, Leads unicode env name → ¬ Narrowed (fieldsOf unicode env name) := by
  constructor
  · rintro keeps name leads (cast | ⟨reads, fits, cast⟩)
    · obtain ⟨value, source, failed⟩ := keeps.refusesPort name leads cast.tooLarge
      obtain ⟨present, error⟩ := invalid_of_error failed
      exact cast.parses present error
    · obtain ⟨value, source, failed⟩ := keeps.refusesRate name leads reads fits cast.tooLarge
      obtain ⟨present, error⟩ := invalid_of_error failed
      exact cast.parses present error
  · intro kept
    refine ⟨?_, ?_, ?_⟩
    · intro binds read bind member
      have configures := configures_of_mem unicode env read member
      have host : Discovered unicode env bind.name := by
        rw [Discovered, configures.host]
        exact Option.some_ne_none _
      have order := inOrder_of_complete kept
        ((bindsFromEnv_ok_iff unicode env).mp ⟨binds, read⟩) bind.name host
      exact ⟨written_of_stored (by decide) order.port configures.port,
        written_of_stored (by decide) order.maxMsgPerSec configures.maxMsgPerSec,
        configures.enquireLinkTimerMs, configures.responseTimerMs⟩
    · intro name leads large
      have cast := fun cast => kept name leads (Or.inl cast)
      obtain ⟨value, source, failed⟩ := large.parseU_error cast name 2775
      exact ⟨value, source, leads.error ((bindOf_eq_port_or_rate_error leads.1).1 failed)⟩
    · intro name leads reads fits large
      have cast := fun cast => kept name leads (Or.inr ⟨reads, fits, cast⟩)
      obtain ⟨value, source, failed⟩ := large.parseU_error cast name 0
      exact ⟨value, source,
        leads.error ((bindOf_eq_port_or_rate_error leads.1).2 reads failed)⟩

end Environment

/-- A bind whose port is 65536 too large and whose rate is 2^32. -/
def overflowingEnv : Environment where
  items := [
    ("SMPP_BIND_ALPHA_HOST".toList, "smpp.example.net".toList),
    ("SMPP_BIND_ALPHA_PORT".toList, "68311".toList),
    ("SMPP_BIND_ALPHA_SYSTEM_ID".toList, "esme".toList),
    ("SMPP_BIND_ALPHA_PASSWORD".toList, "secret".toList),
    ("SMPP_BIND_ALPHA_MAX_MPS".toList, "4294967296".toList)]
  distinct := by decide

/-- The bind is returned with port 2775 and without a cap. -/
theorem port_and_rate_truncated :
    (∃ bind, bindsFromEnv asciiLowercase overflowingEnv = .ok [bind] ∧ bind.port = 2775 ∧
      bind.maxMsgPerSec = 0) ∧
    ¬ KeepsNumbers asciiLowercase overflowingEnv := by
  have read : bindsFromEnv asciiLowercase overflowingEnv = .ok [{
      name := "alpha".toList
      host := "smpp.example.net".toList
      port := 2775
      systemId := "esme".toList
      password := "secret".toList
      systemType := []
      bindType := "transceiver".toList
      maxMsgPerSec := 0
      enquireLinkTimerMs := 30000
      responseTimerMs := 30000
      tls := none }] := by
    decide +kernel
  refine ⟨⟨_, read, rfl, rfl⟩, fun keeps => ?_⟩
  have port := (keeps.written _ read _ List.mem_cons_self).1
  have written : given (fieldsOf asciiLowercase overflowingEnv "alpha".toList) "PORT" =
      some "68311".toList := by
    decide +kernel
  dsimp only at port
  rw [Written, written] at port
  exact absurd port (by decide)

end SiphonSmpp
