/-
This file models the store-and-forward gateway that ships with the crate
(`examples/gateway.py`): a script that relays the messages of its clients to
upstream SMSCs and routes the receipts and replies back. Each handler is a
coroutine over what it awaits: the shared cache, the send helpers, and a fresh
message id. The cache and the peers are not of the crate, so every call of them
may answer anything or raise, and any handler may be cancelled where it awaits.
The configuration the script routes by is the dictionary the crate makes.

`routes_by_longest_prefix` reads the routing off the configuration: of the rules
that match and name a bind the first of the longest wins, then the default
chain, then the first bind.
-/

import SiphonSmpp.ConfigView
import SiphonSmpp.Lib.Coroutine
import SiphonSmpp.PduGetters
import SiphonSmpp.Response
import SiphonSmpp.Sends

namespace SiphonSmpp.Gateway

/-! ### What the script keeps -/

/-- The id a message is known by to its client: the first twelve digits of a `uuid4`. -/
structure OurId where
  text : List Char
  length : text.length = 12
  hex : ∀ character ∈ text, character ∈ "0123456789abcdef".toList
  deriving DecidableEq

/-- What is remembered of a message until its receipt comes. -/
structure Correlation where
  esmeSession : String
  esmeSystem : String
  ourId : OurId
  sourceAddr : String
  destinationAddr : String
  deriving DecidableEq

/-- A value of the cache: a text, or a correlation as the JSON text it is kept as. -/
inductive Cached where
  | text (value : String)
  | json (correlation : Correlation)
  deriving DecidableEq

/-- What the script uses of its interpreter: `str.upper`, `repr`, and `json` on a text that is not
one the script wrote. -/
structure Interpreter where
  upper : List Char → List Char
  repr : String → String
  dumps : Correlation → String
  loads : String → Except PyErr (Option Correlation)

/-- An interpreter that knows the letters of ASCII, and reads no JSON but its own. -/
def plainPython : Interpreter where
  upper text := text.map Char.toUpper
  repr text := "'" ++ text ++ "'"
  dumps _ := ""
  loads _ := .ok none

/-- `json.loads(value or "null")`. -/
def Interpreter.decode (python : Interpreter) : Option Cached → Except PyErr (Option Correlation)
  | none => .ok none
  | some (.json correlation) => .ok (some correlation)
  | some (.text value) => if value = "" then .ok none else python.loads value

/-- The text of a cached value. -/
def Interpreter.textOf (python : Interpreter) : Cached → String
  | .text value => value
  | .json correlation => python.dumps correlation

def dlrKey (bind messageId : String) : String := "dlr:" ++ bind ++ ":" ++ messageId

def esmeSessionKey (systemId : String) : String := "esme_session:" ++ systemId

def esmeSystemKey (sessionId : String) : String := "esme_system:" ++ sessionId

def msisdnOwnerKey (address : String) : String := "msisdn_owner:" ++ address

/-- A text without surrogates is what it is in UTF-8. -/
theorem toCow_pyStr (text : List Char) : (pyStr text).toCow = .ok (String.ofList text) := by
  have read : (pyStr text).mapM PyChar.toScalar? = some text := by
    induction text with
    | nil => rfl
    | cons first rest inductionHypothesis =>
      rw [pyStr, List.map_cons, List.mapM_cons, PyChar.toScalar?]
      rw [pyStr] at inductionHypothesis
      rw [inductionHypothesis]
      rfl
  rw [PyStr.toCow, read]

/-! ### What the script awaits -/

inductive Effect where
  | cacheGet (key : String)
  | cacheSet (key : String) (value : Cached)
  | cacheDelete (key : String)
  | uuid4
  | submitVia (args : SubmitViaArgs)
  | dataVia (args : DataViaArgs)
  | deliverTo (args : DeliverToArgs)

/-- What was raised where a handler awaits. `except Exception` does not catch everything: neither
a cancellation nor a panic is an `Exception`. -/
structure Raised where
  error : PyErr
  isException : Bool
  deriving DecidableEq

/-- What an effect answers. -/
abbrev Answer : Effect → Type
  | .cacheGet _ => Except Raised (Option Cached)
  | .cacheSet _ _ => Except Raised Unit
  | .cacheDelete _ => Except Raised Unit
  | .uuid4 => OurId
  | .submitVia _ => Except Raised SmppResp
  | .dataVia _ => Except Raised SmppResp
  | .deliverTo _ => Except Raised SmppResp

abbrev Handler := ExceptT Raised (Coroutine Effect Answer)

def cacheGet (key : String) : Handler (Option Cached) :=
  ExceptT.mk (Coroutine.perform (Effect.cacheGet key))

def cacheSet (key : String) (value : Cached) : Handler Unit :=
  ExceptT.mk (Coroutine.perform (Effect.cacheSet key value))

def cacheDelete (key : String) : Handler Unit :=
  ExceptT.mk (Coroutine.perform (Effect.cacheDelete key))

/-- `uuid.uuid4().hex[:12]`. -/
def uuid4 : Handler OurId := ExceptT.lift (Coroutine.perform Effect.uuid4)

def awaitSubmitVia (args : SubmitViaArgs) : Handler SmppResp :=
  ExceptT.mk (Coroutine.perform (Effect.submitVia args))

def awaitDataVia (args : DataViaArgs) : Handler SmppResp :=
  ExceptT.mk (Coroutine.perform (Effect.dataVia args))

def awaitDeliverTo (args : DeliverToArgs) : Handler SmppResp :=
  ExceptT.mk (Coroutine.perform (Effect.deliverTo args))

section Exceptions

variable {Value : Type}

/-- A part of a handler that awaits nothing, and raises an `Exception` if anything. -/
def computed : Except PyErr Value → Handler Value
  | .ok value => pure value
  | .error error => throw ⟨error, true⟩

/-- `try` with an `except Exception`: what the body gave, or the exception it raised. -/
def caught (body : Handler Value) : Handler (Except Raised Value) := ExceptT.mk do
  match ← body.run with
  | .ok value => return .ok (.ok value)
  | .error raised => if raised.isException then return .ok (.error raised) else return .error raised

/-- `try` with a `finally`, whose own exception wins. -/
def lastly (body : Handler Value) (cleanup : Handler Unit) : Handler Value := ExceptT.mk do
  let ended ← body.run
  match ← cleanup.run with
  | .ok _ => return ended
  | .error raised => return .error raised

end Exceptions

/-! ### Routing -/

/-- `_bind_from_chain`: the name in the first step that is a bind. -/
def bindFromChain : List ConfigValue → Option (List Char)
  | [] => none
  | step :: rest =>
    if "bind:".toList.isPrefixOf step.text then some (step.text.drop "bind:".length)
    else bindFromChain rest

/-- The loop of `_pick_bind`, with the longest match so far. -/
def bestRule (destination : List Char) :
    List ConfigValue → Option (Nat × List Char) → Option (Nat × List Char)
  | [], best => best
  | rule :: rest, best =>
    let start := ((rule.get? "prefix").map ConfigValue.text).getD []
    if start.isPrefixOf destination then
      match bindFromChain (((rule.get? "chain").map ConfigValue.items).getD []) with
      | some name =>
        if name ≠ [] ∧ (best.all fun found => found.1 < start.length) then
          bestRule destination rest (some (start.length, name))
        else bestRule destination rest best
      | none => bestRule destination rest best
    else bestRule destination rest best

/-- `_pick_bind`. -/
def pickBind (config : ConfigValue) (destinationAddr : String) : Option String :=
  let (defaultChain, rules) := config.routingRules
  match bestRule destinationAddr.toList rules none with
  | some best => some (String.ofList best.2)
  | none =>
    match (bindFromChain defaultChain).filter fun name => name ≠ [] with
    | some name => some (String.ofList name)
    | none => config.binds.head?.map fun bind =>
        String.ofList (((bind.get? "name").map ConfigValue.text).getD [])

/-! ### Optional parameters -/

/-- The parameters that are carried across a hop. -/
def relayedTlvs : List String :=
  ["SAR_MSG_REF_NUM", "SAR_TOTAL_SEGMENTS", "SAR_SEGMENT_SEQNUM", "MORE_MESSAGES_TO_SEND",
   "USER_MESSAGE_REFERENCE", "SOURCE_PORT", "DESTINATION_PORT", "PRIVACY_INDICATOR",
   "PAYLOAD_TYPE"]

def messageStates : List (List Char × Nat) :=
  [("ENROUTE".toList, 1), ("DELIVRD".toList, 2), ("EXPIRED".toList, 3), ("DELETED".toList, 4),
   ("UNDELIV".toList, 5), ("ACCEPTD".toList, 6), ("UNKNOWN".toList, 7), ("REJECTD".toList, 8)]

/-- `str.isspace` on one character. -/
def isSpace (character : Char) : Bool :=
  isWhitespace character || (0x1C ≤ character.toNat && character.toNat ≤ 0x1F)

/-- `str.strip`. -/
def strip (text : List Char) : List Char :=
  ((text.dropWhile isSpace).reverse.dropWhile isSpace).reverse

section Handlers

variable [Smpp34]

/-- The loop of `_relay_kwargs` over the parameters to carry. -/
def carryTlvs (pdu : Pdu) : List String → PyDict → Except PyErr PyDict
  | [], tlvs => .ok tlvs
  | name :: rest, tlvs => do
    match ← pdu.tlv (strKey name) with
    | some value => carryTlvs pdu rest (tlvs.setItem (strKey name) value)
    | none => carryTlvs pdu rest tlvs

/-- `_relay_kwargs`: the body and the optional parameters for the next hop. A body that does not
fit `short_message` moves. -/
def relayKwargs (pdu : Pdu) : Except PyErr (List UInt8 × PyDict) := do
  let tlvs ← carryTlvs pdu relayedTlvs OrderedDict.empty
  let body := pdu.body
  if body.length > shortMessageMax then
    return ([], tlvs.setItem (strKey "MESSAGE_PAYLOAD") (.bytes body))
  else return (body, tlvs)

/-- `return pdu.reply(...)`. -/
def reply (pdu : Pdu) (commandStatus : String) (messageId : Option String)
    (tlvs : Option PyDict) : Handler PyValue :=
  computed ((pdu.reply commandStatus messageId tlvs).map .pduReply)

variable (python : Interpreter) (codec : ReceiptCodec) (config : ConfigValue)

/-! ### The handlers -/

def credentials : List (String × String) := [("acme", "s3cr3t"), ("globex", "hunter2")]

/-- `bind.reject(status, reason)` as a handler returns it. -/
def rejecting (status reason : String) : Except PyErr ScriptBindResult :=
  match made : Bind.reject status reason with
  | .ok result => .ok ⟨result, Or.inr ⟨status, reason, made⟩⟩
  | .error error => .error error

def authorise (bind : Bind) : Except PyErr ScriptBindResult :=
  match credentials.lookup bind.systemId with
  | none => rejecting "ESME_RINVSYSID" ("unknown system_id " ++ python.repr bind.systemId)
  | some expected =>
    if bind.password ≠ expected then
      rejecting "ESME_RINVPASWD" ("bad password for " ++ python.repr bind.systemId)
    else .ok ⟨Bind.accept, Or.inl rfl⟩

def onBound (session : Session) : Handler PyValue := do
  match session.kind with
  | .esmeServer =>
    cacheSet (esmeSessionKey session.systemId) (.text session.sessionId)
    cacheSet (esmeSystemKey session.sessionId) (.text session.systemId)
    return .none
  | .bind => return .none

def onUnbound (session : Session) : Handler PyValue := do
  match session.kind with
  | .esmeServer =>
    cacheDelete (esmeSessionKey session.systemId)
    cacheDelete (esmeSystemKey session.sessionId)
    return .none
  | .bind => return .none

/-- The call of `submit_via` that relays a `submit_sm`. -/
def submitArgs (bind : String) (pdu : Pdu) (kwargs : List UInt8 × PyDict) : SubmitViaArgs where
  bind := bind
  sourceAddr := pdu.sourceAddr
  sourceAddrTon := pdu.sourceAddrTon
  sourceAddrNpi := pdu.sourceAddrNpi
  destinationAddr := pdu.destinationAddr
  destAddrTon := pdu.destAddrTon
  destAddrNpi := pdu.destAddrNpi
  esmClass := pdu.esmClass
  dataCoding := pdu.dataCoding
  registeredDelivery := pdu.registeredDelivery
  shortMessage := kwargs.1
  tlvs := some kwargs.2

def correlationOf (pdu : Pdu) (session : Session) (ourId : OurId) : Correlation where
  esmeSession := session.sessionId
  esmeSystem := session.systemId
  ourId := ourId
  sourceAddr := pdu.sourceAddr
  destinationAddr := pdu.destinationAddr

def onSubmit (pdu : Pdu) (session : Session) : Handler PyValue :=
  match pickBind config pdu.destinationAddr with
  | none => reply pdu "ESME_RINVDSTADR" none none
  | some bind => do
    let ourId ← uuid4
    -- the arguments are made inside the `try`, so an exception there is caught too
    let sent ← caught do
      let kwargs ← computed (relayKwargs pdu)
      awaitSubmitVia (submitArgs bind pdu kwargs)
    match sent with
    | .error _ => reply pdu "ESME_RSUBMITFAIL" none none
    | .ok resp =>
      if !resp.truth then
        if resp.throttled then reply pdu "ESME_RTHROTTLED" none none
        else reply pdu "ESME_RSUBMITFAIL" none none
      else if pdu.registeredDelivery ≠ 0 ∧ resp.messageId ≠ "" then do
        cacheSet (dlrKey bind resp.messageId) (.json (correlationOf pdu session ourId))
        reply pdu "ESME_ROK" (some (String.ofList ourId.text)) none
      else reply pdu "ESME_ROK" (some (String.ofList ourId.text)) none

/-- `receipt.get(name)` of a field of a receipt, all of which are texts. -/
def receiptText (receipt : PyDict) (name : String) : Option (List Char) :=
  match receipt.get? (strKey name) with
  | some (.str text) => some (text.filterMap PyChar.toScalar?)
  | _ => none

/-- `_message_state`. -/
def messageState (stat : Option (List Char)) : Option Nat :=
  messageStates.lookup (python.upper (strip (stat.getD [])))

/-- The text of the receipt that is passed on. -/
def receiptBody (ourId : OurId) (receipt : PyDict) : List Char :=
  "id:".toList ++ ourId.text ++ " sub:001 dlvrd:001 ".toList ++
  "submit date:".toList ++ (receiptText receipt "submit_date").getD [] ++
  " done date:".toList ++ (receiptText receipt "done_date").getD [] ++
  " stat:".toList ++ (receiptText receipt "stat").getD "UNKNOWN".toList ++
  " err:".toList ++ (receiptText receipt "err").getD "000".toList ++
  " text:".toList ++ (receiptText receipt "text").getD []

/-- The optional parameters of the receipt that is passed on. -/
def receiptTlvs (ourId : OurId) (receipt : PyDict) : PyDict :=
  let tlvs := OrderedDict.empty.setItem (strKey "RECEIPTED_MESSAGE_ID") (.str (pyStr ourId.text))
  match messageState python (receiptText receipt "stat") with
  | some state => tlvs.setItem (strKey "MESSAGE_STATE") (.int state)
  | none => tlvs

/-- The call of `deliver_to` that passes a receipt on. -/
def receiptArgs (correlation : Correlation) (receipt : PyDict) : DeliverToArgs where
  sessionId := correlation.esmeSession
  sourceAddr := correlation.destinationAddr
  destinationAddr := correlation.sourceAddr
  shortMessage := (String.ofList (receiptBody correlation.ourId receipt)).toUTF8.data.toList
  esmClass := 0x04
  tlvs := some (receiptTlvs python correlation.ourId receipt)

/-- The id a receipt is about, as the upstream knows it. -/
def upstreamId (receipt : PyDict) : String := String.ofList ((receiptText receipt "id").getD [])

/-- `_route_dlr`. Whatever becomes of the delivery, the correlation is dropped. -/
def routeDlr (pdu : Pdu) (session : Session) : Handler Unit :=
  match pdu.receipt codec with
  | .error _ => throw ⟨⟨.exception "PanicException", ""⟩, false⟩
  | .ok parsed => do
    let receipt := parsed.getD OrderedDict.empty
    let key := dlrKey session.systemId (upstreamId receipt)
    match ← computed (python.decode (← cacheGet key)) with
    | none => return ()
    | some correlation =>
      lastly (do let _ ← caught (awaitDeliverTo (receiptArgs python correlation receipt)))
        (cacheDelete key)

/-- The call of `deliver_to` that passes a reply on. -/
def replyArgs (sessionId : String) (pdu : Pdu) (kwargs : List UInt8 × PyDict) : DeliverToArgs where
  sessionId := sessionId
  sourceAddr := pdu.sourceAddr
  sourceAddrTon := pdu.sourceAddrTon
  sourceAddrNpi := pdu.sourceAddrNpi
  destinationAddr := pdu.destinationAddr
  esmClass := pdu.esmClass
  dataCoding := pdu.dataCoding
  shortMessage := kwargs.1
  tlvs := some kwargs.2

/-- `_route_mo_reply`: to the session of whoever owns the destination. -/
def routeMoReply (pdu : Pdu) : Handler Unit := do
  match (← cacheGet (msisdnOwnerKey pdu.destinationAddr)).map python.textOf with
  | none => return ()
  | some owner =>
    if owner = "" then return ()
    else
      match (← cacheGet (esmeSessionKey owner)).map python.textOf with
      | none => return ()
      | some esmeSession =>
        if esmeSession = "" then return ()
        else
          let _ ← caught do
            let kwargs ← computed (relayKwargs pdu)
            awaitDeliverTo (replyArgs esmeSession pdu kwargs)

def onDeliver (pdu : Pdu) (session : Session) : Handler PyValue := do
  if pdu.isDlr then routeDlr python codec pdu session else routeMoReply python pdu
  reply pdu "ESME_ROK" none none

/-- The call of `data_via` that relays a `data_sm`. -/
def dataArgs (bind : String) (pdu : Pdu) (kwargs : List UInt8 × PyDict) : DataViaArgs where
  bind := bind
  sourceAddr := pdu.sourceAddr
  sourceAddrTon := pdu.sourceAddrTon
  sourceAddrNpi := pdu.sourceAddrNpi
  destinationAddr := pdu.destinationAddr
  destAddrTon := pdu.destAddrTon
  destAddrNpi := pdu.destAddrNpi
  esmClass := pdu.esmClass
  dataCoding := pdu.dataCoding
  registeredDelivery := pdu.registeredDelivery
  shortMessage := kwargs.1
  tlvs := some kwargs.2

/-- The reason that travels with a rejected `data_sm`. -/
def statusInfo (reason : String) : PyDict :=
  OrderedDict.empty.setItem (strKey "ADDITIONAL_STATUS_INFO_TEXT") (.str (pyStr reason.toList))

def onData (pdu : Pdu) : Handler PyValue :=
  match pickBind config pdu.destinationAddr with
  | none => reply pdu "ESME_RINVDSTADR" none none
  | some bind => do
    let sent ← caught do
      let kwargs ← computed (relayKwargs pdu)
      awaitDataVia (dataArgs bind pdu kwargs)
    match sent with
    | .error _ =>
      reply pdu "ESME_RSUBMITFAIL" none (some (statusInfo "upstream relay failed"))
    | .ok resp =>
      if !resp.truth then
        reply pdu "ESME_RSUBMITFAIL" none
          (some (statusInfo ("upstream: " ++ resp.commandStatus)))
      else reply pdu "ESME_ROK" none none

/-! ### The script as a whole -/

end Handlers

/-- What the crate dispatches to the script. -/
inductive Event where
  | bind (bind : Bind)
  | bound (session : Session)
  | unbound (session : Session)
  | submitSm (pdu : Pdu) (session : Session)
  | deliverSm (pdu : Pdu) (session : Session)
  | dataSm (pdu : Pdu) (session : Session)
  | alertNotification (session : Session)
  | cancelSm (pdu : Pdu) (session : Session)

/-- The handler of an event. -/
def handle [Smpp34] (python : Interpreter) (codec : ReceiptCodec) (config : ConfigValue) :
    Event → Handler PyValue
  | .bind bind => computed ((authorise python bind).map .bindResult)
  | .bound session => onBound session
  | .unbound session => onUnbound session
  | .submitSm pdu session => onSubmit config pdu session
  | .deliverSm pdu session => onDeliver python codec pdu session
  | .dataSm pdu _ => onData config pdu
  | .alertNotification _ => return .none
  | .cancelSm pdu _ => reply pdu "ESME_RCANCELFAIL" none none

/-! ### Routes -/

section Routes

variable (toYaml : OptionValue → Option (List Char)) (destination : List Char)

/-- A rule takes a destination, and its chain names a bind. -/
structure Takes (destination : List Char) (rule : RoutingRule) (name : List Char) :
    Prop where
  matched : rule.start <+: destination
  named : bindFromChain (rule.chain.map .str) = some name
  filled : name ≠ []

/-- A rule that wins among others: longer than those before it, and no shorter than those
after. -/
structure Wins (destination : List Char) (rules : List RoutingRule)
    (rule : RoutingRule) (name : List Char) : Prop where
  takes : Takes destination rule name
  among : ∃ front back, rules = front ++ rule :: back ∧
    (∀ other ∈ front, ∀ named, Takes destination other named →
      other.start.length < rule.start.length) ∧
    ∀ other ∈ back, ∀ named, Takes destination other named →
      other.start.length ≤ rule.start.length

/-- One pass of the loop: a rule that takes the destination replaces a shorter match, and any
other rule is passed over. -/
theorem bestRule_cons (rule : RoutingRule) (rest : List ConfigValue)
    (best : Option (Nat × List Char)) :
    (∃ name, Takes destination rule name ∧ (∀ found ∈ best, found.1 < rule.start.length) ∧
      bestRule destination (rule.dict toYaml :: rest) best =
        bestRule destination rest (some (rule.start.length, name))) ∨
    (∀ name, Takes destination rule name → ∃ found ∈ best, rule.start.length ≤ found.1) ∧
      bestRule destination (rule.dict toYaml :: rest) best = bestRule destination rest best := by
  have start : (rule.dict toYaml).get? "prefix" = some (.str rule.start) := rfl
  have chain : (rule.dict toYaml).get? "chain" = some (strings rule.chain) := rfl
  rw [bestRule]
  simp only [start, chain, Option.map_some, Option.getD_some, ConfigValue.text, strings,
    ConfigValue.items]
  split
  · rename_i matched
    rw [List.isPrefixOf_iff_prefix] at matched
    cases named : bindFromChain (rule.chain.map .str) with
    | none =>
      refine Or.inr ⟨fun name takes => ?_, rfl⟩
      exact absurd (named.symm.trans takes.named) nofun
    | some name =>
      dsimp only
      split
      · rename_i wins
        refine Or.inl ⟨name, ⟨matched, named, wins.1⟩, fun found member => ?_, rfl⟩
        have longer := wins.2
        rw [Option.mem_def.mp member] at longer
        simpa using longer
      · rename_i loses
        refine Or.inr ⟨fun other takes => ?_, rfl⟩
        have filled : name ≠ [] := by
          have same := takes.named.symm.trans named
          exact Option.some.inj same ▸ takes.filled
        cases best with
        | none => exact absurd ⟨filled, rfl⟩ loses
        | some found =>
          refine ⟨found, rfl, ?_⟩
          by_contra shorter
          refine loses ⟨filled, ?_⟩
          simpa using Nat.lt_of_not_le shorter
  · rename_i unmatched
    refine Or.inr ⟨fun name takes => absurd ?_ unmatched, rfl⟩
    exact List.isPrefixOf_iff_prefix.mpr takes.matched

/-- The loop keeps the match it started with when no rule is longer, and else ends with the rule
that wins. -/
theorem bestRule_spec (rules : List RoutingRule) (best : Option (Nat × List Char)) :
    (bestRule destination (rules.map (RoutingRule.dict toYaml)) best = best ∧
      ∀ rule ∈ rules, ∀ name, Takes destination rule name →
        ∃ found ∈ best, rule.start.length ≤ found.1) ∨
    ∃ rule name, Wins destination rules rule name ∧
      (∀ found ∈ best, found.1 < rule.start.length) ∧
      bestRule destination (rules.map (RoutingRule.dict toYaml)) best =
        some (rule.start.length, name) := by
  induction rules generalizing best with
  | nil => exact Or.inl ⟨rfl, List.forall_mem_nil _⟩
  | cons rule rest inductionHypothesis =>
    rw [List.map_cons]
    rcases bestRule_cons toYaml destination rule
      (rest.map (RoutingRule.dict toYaml)) best with ⟨name, takes, longer, same⟩ | ⟨passed, same⟩
    · rw [same]
      refine Or.inr ?_
      rcases inductionHypothesis (some (rule.start.length, name)) with ⟨kept, shorter⟩ |
        ⟨winner, named, wins, above, found⟩
      · refine ⟨rule, name, ⟨takes, [], rest, rfl, List.forall_mem_nil _, ?_⟩, longer, kept⟩
        intro other member otherName otherTakes
        obtain ⟨found, held, atMost⟩ := shorter other member otherName otherTakes
        cases held
        exact atMost
      · have longest := above _ rfl
        obtain ⟨front, back, split, before, after⟩ := wins.among
        refine ⟨winner, named, ⟨wins.takes, rule :: front, back, by rw [split]; rfl, ?_, after⟩,
          fun held member => (longer held member).trans longest, found⟩
        intro other member otherName otherTakes
        rcases List.mem_cons.mp member with rfl | inFront
        · exact longest
        · exact before other inFront otherName otherTakes
    · rw [same]
      rcases inductionHypothesis best with ⟨kept, shorter⟩ | ⟨winner, named, wins, above, found⟩
      · exact Or.inl ⟨kept, List.forall_mem_cons.mpr ⟨passed, shorter⟩⟩
      · obtain ⟨front, back, split, before, after⟩ := wins.among
        refine Or.inr ⟨winner, named, ⟨wins.takes, rule :: front, back, by rw [split]; rfl, ?_, after⟩,
          above, found⟩
        intro other member otherName otherTakes
        rcases List.mem_cons.mp member with rfl | inFront
        · obtain ⟨held, member, atMost⟩ := passed otherName otherTakes
          exact atMost.trans_lt (above held member)
        · exact before other inFront otherName otherTakes

/-- A message is routed as the configuration says, through the dictionary the script reads it
from: of the rules that take the destination and name a bind the first of the longest wins, and
where there is none the default chain decides, or else the first bind. -/
theorem routes_by_longest_prefix (cfg : SmppConfig) (destinationAddr : String) :
    let picked := pickBind (buildConfigDict toYaml cfg) destinationAddr
    (∃ rule name, Wins destinationAddr.toList cfg.routing.rules rule name ∧
      picked = some (String.ofList name)) ∨
    (∀ rule ∈ cfg.routing.rules, ∀ name, ¬ Takes destinationAddr.toList rule name) ∧
      ((∃ name, name ≠ [] ∧ bindFromChain (cfg.routing.defaultChain.map .str) = some name ∧
        picked = some (String.ofList name)) ∨
      (∀ name, bindFromChain (cfg.routing.defaultChain.map .str) = some name → name = []) ∧
        picked = cfg.binds.head?.map fun bind => String.ofList bind.name) := by
  intro picked
  have routing : (buildConfigDict toYaml cfg).routingRules =
      (cfg.routing.defaultChain.map .str, cfg.routing.rules.map (RoutingRule.dict toYaml)) := rfl
  have configured : (buildConfigDict toYaml cfg).binds.head?.map (fun bind =>
      String.ofList (((bind.get? "name").map ConfigValue.text).getD [])) =
        cfg.binds.head?.map fun bind => String.ofList bind.name := by
    show (cfg.binds.map BindConfig.dict).head?.map _ = _
    rw [List.head?_map, Option.map_map]
    rfl
  have picks : picked = pickBind (buildConfigDict toYaml cfg) destinationAddr := rfl
  simp only [pickBind, routing, configured] at picks
  rcases bestRule_spec toYaml destinationAddr.toList cfg.routing.rules none with ⟨kept, untaken⟩ |
    ⟨rule, name, wins, _, found⟩
  · refine Or.inr ⟨fun rule member name takes => ?_, ?_⟩
    · obtain ⟨_, absent, _⟩ := untaken rule member name takes
      exact absurd absent nofun
    · rw [kept] at picks
      cases chain : bindFromChain (cfg.routing.defaultChain.map .str) with
      | none =>
        rw [chain] at picks
        exact Or.inr ⟨nofun, picks⟩
      | some name =>
        rw [chain] at picks
        by_cases filled : name = []
        · rw [Option.filter_some, if_neg (by simpa using filled)] at picks
          refine Or.inr ⟨fun other same => ?_, picks⟩
          rw [← Option.some.inj same, filled]
        · rw [Option.filter_some, if_pos (by simpa using filled)] at picks
          exact Or.inl ⟨name, filled, rfl, picks⟩
  · rw [found] at picks
    exact Or.inl ⟨rule, name, wins, picks⟩

end Routes

end SiphonSmpp.Gateway
