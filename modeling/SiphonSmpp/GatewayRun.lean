/-
This file follows the gateway script over whole runs: any number of handlers,
interleaved at their awaits in any way, with any answers of the cache and of the
peers. Whatever they answer, a client is told of its message what `submit_via`
said, and a receipt whose correlation is found is handed to `deliver_to` once and
its correlation is then dropped.

What the script finds in the cache is not its own doing. Where it finds under its
own keys only what it wrote there (nobody else writes under them, and the cache had
none of them when the run began), a receipt is passed on to the session that
submitted the message, under the id that was drawn for it, and a reply to a session
that the owner of the number had bound. Receipt and submission meet in the cache
under the text `dlr:<bind>:<id>`, which tells two messages apart when no bind has
a colon in its name.
-/

import SiphonSmpp.Gateway

namespace SiphonSmpp.Gateway

open Utf8
open Coroutine (Ensures Throughout performed performed_cons_self suffix_of_performed)

abbrev Entry := Coroutine.Entry Effect Answer Event

/-! ### Keys -/

/-- Where no bind name has a colon, a key stands for one message of one bind. -/
theorem dlrKey_inj {first second firstId secondId : String} (plainFirst : ':' ∉ first.toList)
    (plainSecond : ':' ∉ second.toList) (same : dlrKey first firstId = dlrKey second secondId) :
    first = second ∧ firstId = secondId := by
  have texts := congrArg String.toList same
  simp only [dlrKey, String.toList_append, List.append_assoc, List.append_cancel_left_eq] at texts
  have colon : (":" : String).toList = [':'] := rfl
  rw [colon] at texts
  have names : first.toList = second.toList := by
    have cut := congrArg (List.takeWhile fun character => character != ':') texts
    have whole : ∀ (name rest : List Char), ':' ∉ name →
        (name ++ ([':'] ++ rest)).takeWhile (fun character => character != ':') = name := by
      intro name rest plain
      rw [List.takeWhile_append_of_pos]
      · simp
      · intro character member
        rw [bne_iff_ne]
        rintro rfl
        exact plain member
    rwa [whole _ _ plainFirst, whole _ _ plainSecond] at cut
  rw [names, List.append_cancel_left_eq, List.append_cancel_left_eq] at texts
  exact ⟨String.toList_inj.mp names, String.toList_inj.mp texts⟩

theorem append_inj_left {front first second : String} (same : front ++ first = front ++ second) :
    first = second := by
  have texts := congrArg String.toList same
  rw [String.toList_append, String.toList_append, List.append_cancel_left_eq] at texts
  exact String.toList_inj.mp texts

/-- A key of the cache is for one purpose only. -/
theorem dlrKey_ne_esmeSessionKey (bind messageId systemId : String) :
    dlrKey bind messageId ≠ esmeSessionKey systemId := by
  intro same
  have heads := congrArg (fun text => text.toList.head?) same
  simp [dlrKey, esmeSessionKey] at heads

theorem dlrKey_ne_esmeSystemKey (bind messageId sessionId : String) :
    dlrKey bind messageId ≠ esmeSystemKey sessionId := by
  intro same
  have heads := congrArg (fun text => text.toList.head?) same
  simp [dlrKey, esmeSystemKey] at heads

theorem esmeSessionKey_ne_esmeSystemKey (systemId sessionId : String) :
    esmeSessionKey systemId ≠ esmeSystemKey sessionId := by
  intro same
  have fronts := congrArg (fun text => text.toList.take 7) same
  simp [esmeSessionKey, esmeSystemKey] at fronts

/-! ### What each effect is for -/

/-- The keys that the script both writes and looks up. -/
def OwnKey (key : String) : Prop :=
  (∃ bind messageId, key = dlrKey bind messageId) ∨ ∃ systemId, key = esmeSessionKey systemId

/-- What a look-up finds under one of the script's own keys, a handler has asked to be written
there before, whatever it was told of the write. Nothing is said of what is not found. -/
def Finds (entry : Entry) (earlier : List Entry) : Prop :=
  match entry with
  | ⟨_, _, .cacheGet key, .ok (some value)⟩ =>
    OwnKey key → ∃ write ∈ earlier, write.effect = .cacheSet key value
  | _ => True

/-- What the script relies on of the cache. -/
abbrev FindsOwn : List Entry → Prop := Throughout Finds

section Purpose

variable [Smpp34] (python : Interpreter) (codec : ReceiptCodec) (config : ConfigValue)

/-- What a call has performed once `submit_via` has answered. -/
def handed (task : Nat) (message : Pdu) (client : Session) (bind : String) (ourId : OurId)
    (kwargs : List UInt8 × PyDict) (answer : Except Raised SmppResp) : List Entry :=
  [⟨task, .submitSm message client, .submitVia (submitArgs bind message kwargs), answer⟩,
   ⟨task, .submitSm message client, .uuid4, ourId⟩]

/-- A call has relayed a message: it drew an id and handed the message to the bind of its route,
which answered that it took it, and the client wants a receipt. -/
structure Relayed (task : Nat) (message : Pdu) (client : Session) (bind : String) (ourId : OurId)
    (resp : SmppResp) (trace : List Entry) : Prop where
  routed : pickBind config message.destinationAddr = some bind
  taken : resp.truth
  wanted : message.registeredDelivery ≠ 0
  identified : resp.messageId ≠ ""
  own : ∃ kwargs, relayKwargs message = .ok kwargs ∧
    performed task trace = handed task message client bind ourId kwargs (.ok resp)

/-- What a handler writes to the cache: the session of a client that bound, and the correlation of
a message that was relayed. -/
inductive Stored (task : Nat) (earlier : List Entry) : Event → String → Cached → Prop
  | session (client : Session) (kind : client.kind = .esmeServer) :
    Stored task earlier (.bound client) (esmeSessionKey client.systemId) (.text client.sessionId)
  | system (client : Session) (kind : client.kind = .esmeServer) :
    Stored task earlier (.bound client) (esmeSystemKey client.sessionId) (.text client.systemId)
  | correlation (message : Pdu) (client : Session) (bind : String) (ourId : OurId) (resp : SmppResp)
    (relayed : Relayed config task message client bind ourId resp earlier) :
    Stored task earlier (.submitSm message client) (dlrKey bind resp.messageId)
      (.json (correlationOf message client ourId))

/-- What a handler delivers, by what the call has looked up: a receipt to where the correlation
says, and a reply to the session of the owner. -/
inductive Handed (task : Nat) (earlier : List Entry) : Event → DeliverToArgs → Prop
  | receipt (pdu : Pdu) (session : Session) (parsed : Option PyDict) (receipt : pdu.isDlr)
    (read : pdu.receipt codec = .ok parsed) (cached : Option Cached) (correlation : Correlation)
    (found : python.decode cached = .ok (some correlation))
    (own : performed task earlier = [⟨task, .deliverSm pdu session, .cacheGet (dlrKey
      session.systemId (upstreamId (parsed.getD OrderedDict.empty))), .ok cached⟩]) :
    Handed task earlier (.deliverSm pdu session)
      (receiptArgs python correlation (parsed.getD OrderedDict.empty))
  | reply (pdu : Pdu) (session : Session) (receipt : ¬ pdu.isDlr) (owner esmeSession : Cached)
    (kwargs : List UInt8 × PyDict) (carried : relayKwargs pdu = .ok kwargs)
    (own : performed task earlier =
      [⟨task, .deliverSm pdu session, .cacheGet (esmeSessionKey (python.textOf owner)),
          .ok (some esmeSession)⟩,
       ⟨task, .deliverSm pdu session, .cacheGet (msisdnOwnerKey pdu.destinationAddr),
          .ok (some owner)⟩]) :
    Handed task earlier (.deliverSm pdu session) (replyArgs (python.textOf esmeSession) pdu kwargs)

/-- Who a delivery is for. A receipt goes to the session that submitted the message, under the id
that was drawn for it; the bind that took the message and the id it gave name the same key as the
bind and the id the receipt came with. A reply goes to a session that the owner of the number, as
the call looked it up, had bound. -/
inductive Delivered (task : Nat) (earlier : List Entry) : Event → DeliverToArgs → Prop
  | receipt (pdu : Pdu) (session : Session) (parsed : Option PyDict) (receipt : pdu.isDlr)
    (read : pdu.receipt codec = .ok parsed) (sender : Nat) (message : Pdu) (client : Session)
    (bind : String) (ourId : OurId) (resp : SmppResp) (answer : Except Raised Unit)
    (before : List Entry)
    (stored : (⟨sender, .submitSm message client, .cacheSet (dlrKey bind resp.messageId)
      (.json (correlationOf message client ourId)), answer⟩ :: before : List Entry) <:+ earlier)
    (relayed : Relayed config sender message client bind ourId resp before)
    (same : dlrKey bind resp.messageId =
      dlrKey session.systemId (upstreamId (parsed.getD OrderedDict.empty)))
    (exactly : ':' ∉ bind.toList → ':' ∉ session.systemId.toList → bind = session.systemId ∧
      resp.messageId = upstreamId (parsed.getD OrderedDict.empty))
    (own : performed task earlier = [⟨task, .deliverSm pdu session,
      .cacheGet (dlrKey bind resp.messageId),
      .ok (some (.json (correlationOf message client ourId)))⟩]) :
    Delivered task earlier (.deliverSm pdu session) (receiptArgs python
      (correlationOf message client ourId) (parsed.getD OrderedDict.empty))
  | reply (pdu : Pdu) (session : Session) (receipt : ¬ pdu.isDlr) (owner : Cached) (binder : Nat)
    (client : Session) (kind : client.kind = .esmeServer)
    (owns : python.textOf owner = client.systemId) (answer : Except Raised Unit)
    (bound : (⟨binder, .bound client, .cacheSet (esmeSessionKey client.systemId)
      (.text client.sessionId), answer⟩ : Entry) ∈ earlier)
    (kwargs : List UInt8 × PyDict) (carried : relayKwargs pdu = .ok kwargs)
    (own : performed task earlier =
      [⟨task, .deliverSm pdu session, .cacheGet (esmeSessionKey client.systemId),
          .ok (some (.text client.sessionId))⟩,
       ⟨task, .deliverSm pdu session, .cacheGet (msisdnOwnerKey pdu.destinationAddr),
          .ok (some owner)⟩]) :
    Delivered task earlier (.deliverSm pdu session) (replyArgs client.sessionId pdu kwargs)

/-- An effect is one a handler has a reason for. -/
def Fine (entry : Entry) (earlier : List Entry) : Prop :=
  match entry with
  | ⟨task, request, .cacheSet key value, _⟩ => Stored config task earlier request key value
  | ⟨task, request, .deliverTo args, _⟩ => Handed python codec task earlier request args
  | _ => True

/-- What holds between the awaits: every effect had a reason. -/
abbrev Sound : List Entry → Prop := Throughout (Fine python codec config)

variable {python codec config}

/-- One `await` of a handler, with what the call has performed before and after it, and what is
left to do then. -/
theorem ensures_await {Result : Type} {task : Nat} {request : Event} {effect : Effect}
    {next : Answer effect → Coroutine Effect Answer Result} {since before : List Entry}
    {post : Result → List Entry → Prop} (own : performed task since = before)
    (keeps : ∀ trace answer, performed task trace = before →
      performed task (⟨task, request, effect, answer⟩ :: trace) =
        ⟨task, request, effect, answer⟩ :: before →
      Fine python codec config ⟨task, request, effect, answer⟩ trace ∧
        Ensures (Sound python codec config) task request post (next answer)
          (⟨task, request, effect, answer⟩ :: trace)) :
    Ensures (Sound python codec config) task request post (.await effect next) since := by
  intro trace later sound answer
  have same : performed task trace = before := later.own.trans own
  obtain ⟨fine, left⟩ := keeps trace answer same (by rw [performed_cons_self, same])
  exact ⟨Throughout.cons fine sound, left⟩

/-- What was written to the cache was written for a reason. -/
theorem stored_of_sound {trace : List Entry} {key : String} {value : Cached}
    (sound : Sound python codec config trace)
    (written : ∃ entry ∈ trace, entry.effect = .cacheSet key value) :
    ∃ task request answer before,
      (⟨task, request, .cacheSet key value, answer⟩ :: before : List Entry) <:+ trace ∧
      Stored config task before request key value := by
  obtain ⟨⟨task, request, effect, answer⟩, member, same⟩ := written
  dsimp only at same
  subst same
  obtain ⟨later, before, split⟩ := List.append_of_mem member
  have among : (⟨task, request, .cacheSet key value, answer⟩ :: before : List Entry) <:+ trace :=
    ⟨later, split.symm⟩
  exact ⟨task, request, answer, before, among, sound _ _ among⟩

/-- Where a correlation comes from. -/
theorem correlation_of_sound {trace : List Entry} {bind messageId : String} {value : Cached}
    (sound : Sound python codec config trace)
    (written : ∃ entry ∈ trace, entry.effect = .cacheSet (dlrKey bind messageId) value) :
    ∃ sender message client took ourId resp answer before,
      (⟨sender, .submitSm message client, .cacheSet (dlrKey took resp.messageId)
        (.json (correlationOf message client ourId)), answer⟩ :: before : List Entry) <:+ trace ∧
      Relayed config sender message client took ourId resp before ∧
      dlrKey took resp.messageId = dlrKey bind messageId ∧
      value = .json (correlationOf message client ourId) := by
  obtain ⟨task, request, answer, before, among, stored⟩ := stored_of_sound sound written
  generalize key : dlrKey bind messageId = text at stored among
  cases stored with
  | session client kind => exact absurd key (dlrKey_ne_esmeSessionKey _ _ _)
  | system client kind => exact absurd key (dlrKey_ne_esmeSystemKey _ _ _)
  | correlation message client took ourId resp relayed =>
    exact ⟨task, message, client, took, ourId, resp, answer, before, among, relayed, rfl, rfl⟩

/-- Where the session of a client comes from. -/
theorem session_of_sound {trace : List Entry} {systemId : String} {value : Cached}
    (sound : Sound python codec config trace)
    (written : ∃ entry ∈ trace, entry.effect = .cacheSet (esmeSessionKey systemId) value) :
    ∃ binder client answer, client.kind = .esmeServer ∧ client.systemId = systemId ∧
      value = .text client.sessionId ∧
      (⟨binder, .bound client, .cacheSet (esmeSessionKey client.systemId)
        (.text client.sessionId), answer⟩ : Entry) ∈ trace := by
  obtain ⟨task, request, answer, before, among, stored⟩ := stored_of_sound sound written
  generalize key : esmeSessionKey systemId = text at stored among
  cases stored with
  | session client kind =>
    exact ⟨task, client, answer, kind, (append_inj_left key).symm, rfl,
      among.mem List.mem_cons_self⟩
  | system client kind => exact absurd key (esmeSessionKey_ne_esmeSystemKey _ _)
  | correlation message client took ourId resp relayed =>
    exact absurd key.symm (dlrKey_ne_esmeSessionKey _ _ _)

/-- Where the script finds what it wrote, a delivery is for whom it should be. -/
theorem delivered_of_sound {trace earlier : List Entry} {task : Nat} {request : Event}
    {args : DeliverToArgs} {answer : Except Raised SmppResp}
    (sound : Sound python codec config trace) (cache : FindsOwn trace)
    (among : (⟨task, request, .deliverTo args, answer⟩ :: earlier : List Entry) <:+ trace) :
    Delivered python codec config task earlier request args := by
  have handed : Handed python codec task earlier request args := sound _ _ among
  have inside : earlier <:+ trace := (List.suffix_cons _ _).trans among
  cases handed with
  | receipt pdu session parsed receipt read cached correlation found own =>
    obtain ⟨before, looked⟩ := suffix_of_performed own (List.mem_singleton_self _)
    cases cached with
    | none => exact absurd (Except.ok.inj found) nofun
    | some value =>
      obtain ⟨sender, message, client, bind, ourId, resp, done, rest, stored, relayed, same, rfl⟩ :=
        correlation_of_sound (sound.of_suffix ((List.suffix_cons _ _).trans (looked.trans inside)))
          (cache _ _ (looked.trans inside) (Or.inl ⟨_, _, rfl⟩))
      obtain rfl := Option.some.inj (Except.ok.inj found)
      refine .receipt pdu session parsed receipt read sender message client bind ourId resp done
        rest ?_ relayed same (fun plain plainToo => dlrKey_inj plain plainToo same) (same ▸ own)
      exact stored.trans ((List.suffix_cons _ _).trans looked)
  | reply pdu session receipt owner esmeSession kwargs carried own =>
    obtain ⟨before, looked⟩ := suffix_of_performed own List.mem_cons_self
    obtain ⟨binder, client, done, kind, owns, rfl, bound⟩ :=
      session_of_sound (sound.of_suffix ((List.suffix_cons _ _).trans (looked.trans inside)))
        (cache _ _ (looked.trans inside) (Or.inr ⟨_, rfl⟩))
    refine .reply pdu session receipt owner binder client kind owns.symm done ?_ kwargs carried
      (owns ▸ own)
    exact ((List.suffix_cons _ _).trans looked).mem bound

/-! ### The handlers, one by one -/

/-- A `PduReply` that a handler has returned. -/
def told (status : SmppError) (messageId : Option String) : Except Raised PyValue :=
  .ok (.pduReply ⟨status, messageId, none, "", 0, []⟩)

theorem reply_eq_told {pdu : Pdu} {name : String} {status : SmppError} (messageId : Option String)
    (known : parseSmppStatus name = .ok status) :
    reply pdu name messageId none = Coroutine.done (told status messageId) := by
  rw [reply, Pdu.reply, known]
  rfl

/-- What a client is told of its message, by what the call has performed. It is accepted under the
id that was drawn for it when `submit_via` said that the upstream took it, after the correlation
was stored if there is to be a receipt. It is refused when there is no route, when the upstream
answered that it did not take it, and when there was no answer, where it may still have been
taken. The handler raises when it is cancelled in `submit_via`, and when the correlation of a
message that was taken could not be stored. -/
inductive Verdict (config : ConfigValue) (task : Nat) (message : Pdu) (client : Session) :
    Except Raised PyValue → List Entry → Prop
  | unroutable (unrouted : pickBind config message.destinationAddr = none) :
    Verdict config task message client (told .esmeRinvdstadr none) []
  | unbuilt (bind : String) (ourId : OurId) (error : PyErr)
    (routed : pickBind config message.destinationAddr = some bind)
    (failed : relayKwargs message = .error error) :
    Verdict config task message client (told .esmeRsubmitfail none)
      [⟨task, .submitSm message client, .uuid4, ourId⟩]
  | unanswered (bind : String) (ourId : OurId) (kwargs : List UInt8 × PyDict) (raised : Raised)
    (routed : pickBind config message.destinationAddr = some bind)
    (carried : relayKwargs message = .ok kwargs) (exception : raised.isException = true) :
    Verdict config task message client (told .esmeRsubmitfail none)
      (handed task message client bind ourId kwargs (.error raised))
  | cancelled (bind : String) (ourId : OurId) (kwargs : List UInt8 × PyDict) (raised : Raised)
    (routed : pickBind config message.destinationAddr = some bind)
    (carried : relayKwargs message = .ok kwargs) (exception : raised.isException = false) :
    Verdict config task message client (.error raised)
      (handed task message client bind ourId kwargs (.error raised))
  | refused (bind : String) (ourId : OurId) (kwargs : List UInt8 × PyDict) (resp : SmppResp)
    (routed : pickBind config message.destinationAddr = some bind)
    (carried : relayKwargs message = .ok kwargs) (untaken : resp.truth = false) :
    Verdict config task message client
      (told (if resp.throttled then .esmeRthrottled else .esmeRsubmitfail) none)
      (handed task message client bind ourId kwargs (.ok resp))
  | accepted (bind : String) (ourId : OurId) (kwargs : List UInt8 × PyDict) (resp : SmppResp)
    (routed : pickBind config message.destinationAddr = some bind)
    (carried : relayKwargs message = .ok kwargs) (taken : resp.truth)
    (unwanted : ¬ (message.registeredDelivery ≠ 0 ∧ resp.messageId ≠ "")) :
    Verdict config task message client (told .esmeRok (some (String.ofList ourId.text)))
      (handed task message client bind ourId kwargs (.ok resp))
  | remembered (bind : String) (ourId : OurId) (kwargs : List UInt8 × PyDict) (resp : SmppResp)
    (routed : pickBind config message.destinationAddr = some bind)
    (carried : relayKwargs message = .ok kwargs) (taken : resp.truth)
    (wanted : message.registeredDelivery ≠ 0 ∧ resp.messageId ≠ "") :
    Verdict config task message client (told .esmeRok (some (String.ofList ourId.text)))
      (⟨task, .submitSm message client, .cacheSet (dlrKey bind resp.messageId)
        (.json (correlationOf message client ourId)), .ok ()⟩ ::
          handed task message client bind ourId kwargs (.ok resp))
  | unremembered (bind : String) (ourId : OurId) (kwargs : List UInt8 × PyDict) (resp : SmppResp)
    (raised : Raised) (routed : pickBind config message.destinationAddr = some bind)
    (carried : relayKwargs message = .ok kwargs) (taken : resp.truth)
    (wanted : message.registeredDelivery ≠ 0 ∧ resp.messageId ≠ "") :
    Verdict config task message client (.error raised)
      (⟨task, .submitSm message client, .cacheSet (dlrKey bind resp.messageId)
        (.json (correlationOf message client ourId)), .error raised⟩ ::
          handed task message client bind ourId kwargs (.ok resp))

/-- `submit_via` has said that the upstream took the message, and what was to be stored is. -/
structure Taken (own : List Entry) : Prop where
  taken : ∃ task request args resp,
    (⟨task, request, .submitVia args, .ok resp⟩ : Entry) ∈ own ∧ resp.truth = true
  kept : ∀ task request key value answer,
    (⟨task, request, .cacheSet key value, answer⟩ : Entry) ∈ own → answer = .ok ()

omit [Smpp34] in
theorem told_eq_told_iff (status other : SmppError) (messageId otherId : Option String) :
    told status messageId = told other otherId ↔ status = other ∧ messageId = otherId := by
  simp [told]

/-- A message is accepted exactly when it was taken and remembered. -/
theorem Verdict.accepted_iff {task : Nat} {message : Pdu} {client : Session}
    {result : Except Raised PyValue} {own : List Entry}
    (verdict : Verdict config task message client result own) :
    (∃ messageId, result = told .esmeRok messageId) ↔ Taken own := by
  have refusing : ∀ {status : SmppError}, status ≠ .esmeRok → ¬ ∃ messageId,
      told status none = told .esmeRok messageId := by
    rintro status other ⟨messageId, same⟩
    exact other ((told_eq_told_iff _ _ _ _).mp same).1
  have raising : ∀ raised : Raised, ¬ ∃ messageId,
      Except.error raised = told .esmeRok messageId := by
    rintro raised ⟨messageId, same⟩
    cases same
  cases verdict with
  | unroutable => exact iff_of_false (refusing nofun) fun done => by simpa using done.taken
  | unbuilt => exact iff_of_false (refusing nofun) fun done => by simpa using done.taken
  | unanswered => exact iff_of_false (refusing nofun) fun done => by simpa [handed] using done.taken
  | cancelled => exact iff_of_false (raising _) fun done => by simpa [handed] using done.taken
  | refused bind ourId kwargs resp routed carried untaken =>
    refine iff_of_false (refusing ?_) fun done => ?_
    · split
      · exact nofun
      · exact nofun
    · simpa [handed, untaken] using done.taken
  | accepted bind ourId kwargs resp routed carried taken =>
    refine iff_of_true ⟨_, rfl⟩ ⟨⟨_, _, _, _, List.mem_cons_self, taken⟩, ?_⟩
    simp [handed]
  | remembered bind ourId kwargs resp routed carried taken =>
    refine iff_of_true ⟨_, rfl⟩
      ⟨⟨_, _, _, _, List.mem_cons_of_mem _ List.mem_cons_self, taken⟩, ?_⟩
    simp [handed]
  | unremembered =>
    refine iff_of_false (raising _) fun done => ?_
    exact absurd (done.kept _ _ _ _ _ List.mem_cons_self) nofun

theorem onSubmit_ensures {task : Nat} {message : Pdu} {client : Session} {since : List Entry}
    (unstarted : performed task since = []) :
    Ensures (Sound python codec config) task (.submitSm message client)
      (fun result trace => Verdict config task message client result (performed task trace))
      (onSubmit config message client).run since := by
  have replies : ∀ (name : String) (status : SmppError) (messageId : Option String)
      (trace : List Entry), parseSmppStatus name = .ok status →
      Verdict config task message client (told status messageId) (performed task trace) →
      Ensures (Sound python codec config) task (.submitSm message client)
        (fun result trace => Verdict config task message client result (performed task trace))
        (reply message name messageId none).run trace := by
    intro name status messageId trace known verdict
    rw [reply_eq_told messageId known]
    exact verdict
  rw [onSubmit]
  split
  · rename_i unrouted
    refine replies _ .esmeRinvdstadr none since rfl ?_
    rw [unstarted]
    exact .unroutable unrouted
  · rename_i bind routed
    refine ensures_await unstarted fun trace ourId _ drawn => ⟨trivial, ?_⟩
    cases carried : relayKwargs message with
    | error raised =>
      refine replies "ESME_RSUBMITFAIL" .esmeRsubmitfail none _ rfl ?_
      rw [drawn]
      exact .unbuilt bind ourId raised routed carried
    | ok kwargs =>
      refine ensures_await drawn fun trace answer _ sent => ⟨trivial, ?_⟩
      cases answer with
      | error raised =>
        dsimp only [pure, Coroutine.bind, ExceptT.bindCont]
        split
        · rename_i exception
          refine replies "ESME_RSUBMITFAIL" .esmeRsubmitfail none _ rfl ?_
          rw [sent]
          exact .unanswered bind ourId kwargs raised routed carried exception
        · rename_i other
          show Verdict _ _ _ _ _ _
          rw [sent]
          exact .cancelled bind ourId kwargs raised routed carried (by simpa using other)
      | ok resp =>
        dsimp only [pure, Coroutine.bind, ExceptT.bindCont]
        split
        · rename_i refusal
          have untaken : resp.truth = false := by simpa using refusal
          have verdict : Verdict config task message client _ _ :=
            .refused bind ourId kwargs resp routed carried untaken
          rw [handed, ← sent] at verdict
          split
          · rename_i throttled
            rw [if_pos throttled] at verdict
            exact replies _ .esmeRthrottled none _ rfl verdict
          · rename_i other
            rw [if_neg other] at verdict
            exact replies _ .esmeRsubmitfail none _ rfl verdict
        · rename_i taking
          have taken : resp.truth := by simpa using taking
          split
          · rename_i wanted
            refine ensures_await sent fun trace answer before stored => ⟨?_, ?_⟩
            · exact .correlation message client bind ourId resp
                ⟨routed, taken, wanted.1, wanted.2, kwargs, carried, before⟩
            · cases answer with
              | error raised =>
                show Verdict _ _ _ _ _ _
                rw [stored]
                exact .unremembered bind ourId kwargs resp raised routed carried taken wanted
              | ok done =>
                refine replies _ .esmeRok _ _ rfl ?_
                rw [stored]
                exact .remembered bind ourId kwargs resp routed carried taken wanted
          · rename_i unwanted
            refine replies _ .esmeRok _ _ rfl ?_
            rw [sent]
            exact .accepted bind ourId kwargs resp routed carried taken unwanted

theorem onBound_ensures {task : Nat} {client : Session} {since : List Entry} :
    Ensures (Sound python codec config) task (.bound client) (fun _ _ => True)
      (onBound client).run since := by
  rw [onBound]
  split
  · rename_i kind
    refine ensures_await rfl fun trace answer _ _ => ⟨.session client kind, ?_⟩
    cases answer with
    | error raised => trivial
    | ok done =>
      refine ensures_await rfl fun trace answer _ _ => ⟨.system client kind, ?_⟩
      cases answer with
      | error raised => trivial
      | ok done => trivial
  · trivial

theorem onUnbound_ensures {task : Nat} {client : Session} {since : List Entry} :
    Ensures (Sound python codec config) task (.unbound client) (fun _ _ => True)
      (onUnbound client).run since := by
  rw [onUnbound]
  split
  · refine ensures_await rfl fun trace answer _ _ => ⟨trivial, ?_⟩
    cases answer with
    | error raised => trivial
    | ok done =>
      refine ensures_await rfl fun trace answer _ _ => ⟨trivial, ?_⟩
      cases answer with
      | error raised => trivial
      | ok done => trivial
  · trivial

/-- A part of a handler that awaits nothing. -/
theorem ensures_computed {Value : Type} {task : Nat} {request : Event} {since : List Entry}
    (outcome : Except PyErr Value) :
    Ensures (Sound python codec config) task request (fun _ _ => True)
      (computed outcome).run since := by
  cases outcome with
  | error raised => trivial
  | ok value => trivial

theorem onData_ensures {task : Nat} {pdu : Pdu} {session : Session} {since : List Entry} :
    Ensures (Sound python codec config) task (.dataSm pdu session) (fun _ _ => True)
      (onData config pdu).run since := by
  rw [onData]
  split
  · exact ensures_computed _
  · cases relayKwargs pdu with
    | error raised => exact ensures_computed _
    | ok kwargs =>
      refine ensures_await rfl fun trace answer _ _ => ⟨trivial, ?_⟩
      cases answer with
      | error raised =>
        dsimp only [pure, Coroutine.bind, ExceptT.bindCont]
        split
        · exact ensures_computed _
        · trivial
      | ok resp =>
        dsimp only [pure, Coroutine.bind, ExceptT.bindCont]
        split
        · exact ensures_computed _
        · exact ensures_computed _

/-- What a delivery leaves uncaught: it goes on after an `Exception`, and after any answer. -/
def uncaught : Except Raised SmppResp → Except Raised Unit
  | .ok _ => .ok ()
  | .error raised => if raised.isException then .ok () else .error raised

/-- How a receipt ends, by what the call has performed. The correlation is looked up once. Where it
is found, the receipt is handed to `deliver_to` once and the correlation is dropped after that,
also when the delivery was refused, raised or was cancelled. -/
inductive Routed (python : Interpreter) (codec : ReceiptCodec) (task : Nat) (pdu : Pdu)
    (session : Session) : Except Raised Unit → List Entry → Prop
  | unasked (parsed : Option PyDict) (raised : Raised) (read : pdu.receipt codec = .ok parsed) :
    Routed python codec task pdu session (.error raised)
      [⟨task, .deliverSm pdu session, .cacheGet (dlrKey session.systemId
        (upstreamId (parsed.getD OrderedDict.empty))), .error raised⟩]
  | undecoded (parsed : Option PyDict) (cached : Option Cached) (error : PyErr)
    (read : pdu.receipt codec = .ok parsed) (failed : python.decode cached = .error error) :
    Routed python codec task pdu session (.error ⟨error, true⟩)
      [⟨task, .deliverSm pdu session, .cacheGet (dlrKey session.systemId
        (upstreamId (parsed.getD OrderedDict.empty))), .ok cached⟩]
  | unknown (parsed : Option PyDict) (cached : Option Cached)
    (read : pdu.receipt codec = .ok parsed) (missing : python.decode cached = .ok none) :
    Routed python codec task pdu session (.ok ())
      [⟨task, .deliverSm pdu session, .cacheGet (dlrKey session.systemId
        (upstreamId (parsed.getD OrderedDict.empty))), .ok cached⟩]
  | passedOn (parsed : Option PyDict) (cached : Option Cached) (correlation : Correlation)
    (answer : Except Raised SmppResp) (dropped : Except Raised Unit)
    (read : pdu.receipt codec = .ok parsed)
    (found : python.decode cached = .ok (some correlation)) :
    Routed python codec task pdu session (dropped.bind fun _ => uncaught answer)
      [⟨task, .deliverSm pdu session, .cacheDelete (dlrKey session.systemId
        (upstreamId (parsed.getD OrderedDict.empty))), dropped⟩,
       ⟨task, .deliverSm pdu session, .deliverTo
        (receiptArgs python correlation (parsed.getD OrderedDict.empty)), answer⟩,
       ⟨task, .deliverSm pdu session, .cacheGet (dlrKey session.systemId
        (upstreamId (parsed.getD OrderedDict.empty))), .ok cached⟩]

/-- What is dropped at the end, and which exception is left then. -/
theorem ensures_lastly {task : Nat} {request : Event} {since before : List Entry} {key : String}
    {ended : Except Raised Unit} {post : Except Raised Unit → List Entry → Prop}
    (own : performed task since = before)
    (drops : ∀ trace dropped, performed task (⟨task, request, .cacheDelete key, dropped⟩ :: trace) =
        ⟨task, request, .cacheDelete key, dropped⟩ :: before →
      post (dropped.bind fun _ => ended) (⟨task, request, .cacheDelete key, dropped⟩ :: trace)) :
    Ensures (Sound python codec config) task request post
      (lastly (ExceptT.mk (Coroutine.done ended)) (cacheDelete key)).run since := by
  refine ensures_await own fun trace dropped _ done => ⟨trivial, ?_⟩
  have leaves := drops trace dropped done
  cases dropped with
  | error raised => exact leaves
  | ok done => exact leaves

theorem routeDlr_ensures {task : Nat} {pdu : Pdu} {session : Session} {since : List Entry}
    (receipt : pdu.isDlr) (unstarted : performed task since = [])
    {post : Except Raised Unit → List Entry → Prop}
    (ends : ∀ result trace, Routed python codec task pdu session result (performed task trace) →
      post result trace) :
    Ensures (Sound python codec config) task (.deliverSm pdu session) post
      (routeDlr python codec pdu session).run since := by
  have parses := pdu.receipt_of_isDlr codec receipt (Receipt.parse_eq pdu.body)
  rw [routeDlr]
  split
  · rename_i failed
    exact absurd (parses.symm.trans failed) nofun
  · rename_i parsed read
    refine ensures_await unstarted fun trace answer _ asked => ⟨trivial, ?_⟩
    cases answer with
    | error raised =>
      refine ends _ _ ?_
      rw [asked]
      exact .unasked parsed raised read
    | ok cached =>
      dsimp only [pure, Coroutine.bind, ExceptT.bindCont]
      cases decoded : python.decode cached with
      | error error =>
        refine ends _ _ ?_
        rw [asked]
        exact .undecoded parsed cached error read decoded
      | ok found =>
        cases found with
        | none =>
          refine ends _ _ ?_
          rw [asked]
          exact .unknown parsed cached read decoded
        | some correlation =>
          refine ensures_await asked fun trace answer before delivered => ⟨?_, ?_⟩
          · exact .receipt pdu session parsed receipt read cached correlation decoded before
          · have drops : ∀ ended, uncaught answer = ended →
                Ensures (Sound python codec config) task (.deliverSm pdu session) post
                  (lastly (ExceptT.mk (Coroutine.done ended)) (cacheDelete (dlrKey session.systemId
                    (upstreamId (parsed.getD OrderedDict.empty))))).run
                  (⟨task, .deliverSm pdu session, .deliverTo (receiptArgs python correlation
                    (parsed.getD OrderedDict.empty)), answer⟩ :: trace) := by
              rintro ended rfl
              refine ensures_lastly delivered fun trace dropped done => ends _ _ ?_
              rw [done]
              exact .passedOn parsed cached correlation answer dropped read decoded
            cases answer with
            | ok resp => exact drops (.ok ()) rfl
            | error raised =>
              dsimp only [pure, Coroutine.bind, ExceptT.bindCont]
              split
              · rename_i exception
                exact drops (.ok ()) (if_pos exception)
              · rename_i other
                exact drops (.error raised) (if_neg other)

theorem routeMoReply_ensures {task : Nat} {pdu : Pdu} {session : Session} {since : List Entry}
    (receipt : ¬ pdu.isDlr) (unstarted : performed task since = [])
    {post : Except Raised Unit → List Entry → Prop} (anyway : ∀ result trace, post result trace) :
    Ensures (Sound python codec config) task (.deliverSm pdu session) post
      (routeMoReply python pdu).run since := by
  rw [routeMoReply]
  refine ensures_await unstarted fun trace answer _ asked => ⟨trivial, ?_⟩
  cases answer with
  | error raised => exact anyway _ _
  | ok found =>
    cases found with
    | none => exact anyway _ _
    | some owner =>
      dsimp only [pure, Coroutine.bind, ExceptT.bindCont, Option.map_some]
      split
      · exact anyway _ _
      · refine ensures_await asked fun trace answer _ found => ⟨trivial, ?_⟩
        cases answer with
        | error raised => exact anyway _ _
        | ok bound =>
          cases bound with
          | none => exact anyway _ _
          | some esmeSession =>
            dsimp only [pure, Coroutine.bind, ExceptT.bindCont, Option.map_some]
            split
            · exact anyway _ _
            · cases carried : relayKwargs pdu with
              | error raised => exact anyway _ _
              | ok kwargs =>
                refine ensures_await found fun trace answer before _ => ⟨?_, ?_⟩
                · exact .reply pdu session receipt owner esmeSession kwargs carried before
                · cases answer with
                  | ok resp => exact anyway _ _
                  | error raised =>
                    dsimp only [pure, Coroutine.bind, ExceptT.bindCont]
                    split
                    · exact anyway _ _
                    · exact anyway _ _

/-! ### Every interleaving -/

/-- The postcondition of a handler. A receipt is acknowledged unless its routing has raised. -/
def Told (python : Interpreter) (codec : ReceiptCodec) (config : ConfigValue) (task : Nat) :
    Event → Except Raised PyValue → List Entry → Prop
  | .submitSm message client, result, trace =>
    Verdict config task message client result (performed task trace)
  | .deliverSm pdu session, result, trace => pdu.isDlr →
    ∃ routed, Routed python codec task pdu session routed (performed task trace) ∧
      result = routed.bind fun _ => told .esmeRok none
  | _, _, _ => True

theorem told_stable (task : Nat) (request : Event) :
    Coroutine.Stable task (Told python codec config task request) := by
  intro result since trace later holds
  cases request with
  | submitSm message client =>
    rw [Told, later.own]
    exact holds
  | deliverSm pdu session =>
    rw [Told, later.own]
    exact holds
  | _ => trivial

theorem onDeliver_ensures {task : Nat} {pdu : Pdu} {session : Session} {since : List Entry}
    (unstarted : performed task since = []) :
    Ensures (Sound python codec config) task (.deliverSm pdu session)
      (Told python codec config task (.deliverSm pdu session))
      (onDeliver python codec pdu session).run since := by
  have acknowledged : reply pdu "ESME_ROK" none none = Coroutine.done (told .esmeRok none) :=
    reply_eq_told none rfl
  rw [onDeliver, acknowledged]
  split
  · rename_i receipt
    refine Ensures.bind (routeDlr_ensures receipt unstarted fun result trace routed => ?_)
    cases result with
    | error raised => exact fun _ => ⟨_, routed, rfl⟩
    | ok done => exact fun _ => ⟨_, routed, rfl⟩
  · rename_i other
    refine Ensures.bind (routeMoReply_ensures other unstarted fun result trace => ?_)
    cases result with
    | error raised => exact fun receipt => absurd receipt other
    | ok done => exact fun receipt => absurd receipt other

/-- Every handler keeps the invariant whatever the others do at its awaits. -/
theorem handle_ensures {task : Nat} {request : Event} {since : List Entry}
    (unstarted : performed task since = []) :
    Ensures (Sound python codec config) task request (Told python codec config task request)
      (handle python codec config request).run since := by
  cases request with
  | bind bind => exact ensures_computed _
  | bound session => exact onBound_ensures
  | unbound session => exact onUnbound_ensures
  | submitSm message client => exact onSubmit_ensures unstarted
  | deliverSm pdu session => exact onDeliver_ensures unstarted
  | dataSm pdu session => exact onData_ensures
  | alertNotification session => trivial
  | cancelSm pdu session =>
    exact ensures_computed ((pdu.reply "ESME_RCANCELFAIL" none none).map PyValue.pduReply)

abbrev Loop := Coroutine.Loop Effect Answer Event (Except Raised PyValue)

/-- A run of the script. -/
def Reaches (python : Interpreter) (codec : ReceiptCodec) (config : ConfigValue) (loop : Loop) :
    Prop :=
  Run.Reaches (Coroutine.Loop.step fun request => (handle python codec config request).run)
    ⟨[], []⟩ loop

theorem kept_of_reaches {loop : Loop} (reaches : Reaches python codec config loop) :
    loop.Kept (Sound python codec config) (Told python codec config) :=
  Coroutine.Loop.kept_of_reaches _ reaches rfl rfl Throughout.nil (Told python codec config)
    told_stable fun _ _ _ unstarted => handle_ensures unstarted

/-- A client is told what became of its message, in every run and whatever the cache and the
upstream answer. It is accepted exactly when `submit_via` has said that the upstream took it and
its correlation, if there is to be a receipt, is stored. -/
theorem verdict_follows_upstream {loop : Loop} (reaches : Reaches python codec config loop)
    {task : Nat} {message : Pdu} {client : Session} {result : Except Raised PyValue}
    (finished : loop.tasks[task]? = some (.submitSm message client, .done result)) :
    Verdict config task message client result (performed task loop.trace) ∧
      ((∃ messageId, result = told .esmeRok messageId) ↔ Taken (performed task loop.trace)) := by
  have verdict : Verdict config task message client result (performed task loop.trace) :=
    (kept_of_reaches reaches).ensures task _ _ finished
  exact ⟨verdict, verdict.accepted_iff⟩

end Purpose

/-! ### A message and its receipt -/

def oneBind : ConfigValue :=
  .dict [("binds".toList, .list [.dict [("name".toList, .str "up".toList)]])]

def sampleClient : Session := ⟨.esmeServer, "s1", "acme", "192.0.2.1"⟩

def sampleUpstream : Session := ⟨.bind, "b1", "up", "192.0.2.9"⟩

def sampleMessage : Pdu :=
  .fromSubmit ⟨"", 1, 1, "100", 1, 1, "200", 0, 0, 0, "", "", 1, 0, 0, 0,
    asciiOctets "hi".toList, []⟩

def sampleReceipt : Pdu :=
  .fromDeliver ⟨"", 1, 1, "200", 1, 1, "100", 0x04, 0, 0, "", "", 0, 0, 0, 0,
    asciiOctets "id:7 stat:DELIVRD".toList, []⟩

def sampleId : OurId := ⟨"0123456789ab".toList, rfl, List.IsPrefix.subset (by decide)⟩

/-- Peers that take everything, and a cache that says what it is given to say. -/
def sampleAnswers (cached : Option Cached) : (effect : Effect) → Answer effect
  | .cacheGet _ => .ok cached
  | .cacheSet _ _ => .ok ()
  | .cacheDelete _ => .ok ()
  | .uuid4 => sampleId
  | .submitVia _ => .ok ⟨"ESME_ROK", 0, "7"⟩
  | .dataVia _ => .ok ⟨"ESME_ROK", 0, ""⟩
  | .deliverTo _ => .ok ⟨"ESME_ROK", 0, ""⟩

/-- A message is relayed, and its receipt is passed on. -/
def sampleMoves : List (Coroutine.Move Effect Answer Event) :=
  [.start (.submitSm sampleMessage sampleClient), .start (.deliverSm sampleReceipt sampleUpstream),
   .resume 0 (sampleAnswers none), .resume 0 (sampleAnswers none), .resume 0 (sampleAnswers none),
   .resume 1 (sampleAnswers (some (.json (correlationOf sampleMessage sampleClient sampleId)))),
   .resume 1 (sampleAnswers none), .resume 1 (sampleAnswers none)]

/-- What the script reads of the sample receipt. -/
def sampleDict : PyDict :=
  match sampleReceipt.receipt specReceiptCodec with
  | .ok (some dict) => dict
  | _ => OrderedDict.empty

def sampleTrace : List Entry :=
  let correlation := correlationOf sampleMessage sampleClient sampleId
  ⟨1, .deliverSm sampleReceipt sampleUpstream, .cacheDelete (dlrKey "up" "7"), .ok ()⟩ ::
  ⟨1, .deliverSm sampleReceipt sampleUpstream,
    .deliverTo (receiptArgs plainPython correlation sampleDict), .ok ⟨"ESME_ROK", 0, ""⟩⟩ ::
  ⟨1, .deliverSm sampleReceipt sampleUpstream, .cacheGet (dlrKey "up" "7"),
    .ok (some (.json correlation))⟩ ::
  ⟨0, .submitSm sampleMessage sampleClient, .cacheSet (dlrKey "up" "7") (.json correlation),
    .ok ()⟩ ::
  handed 0 sampleMessage sampleClient "up" sampleId
    (asciiOctets "hi".toList, OrderedDict.empty) (.ok ⟨"ESME_ROK", 0, "7"⟩)

def sampleLoop : Loop where
  trace := sampleTrace
  tasks :=
    [(.submitSm sampleMessage sampleClient, .done (told .esmeRok (some "0123456789ab"))),
     (.deliverSm sampleReceipt sampleUpstream, .done (told .esmeRok none))]

theorem sampleLoop_reaches :
    let := storingCodec
    Reaches plainPython specReceiptCodec oneBind sampleLoop := by
  intro
  exact Run.Reaches.of_foldlM sampleMoves rfl

/-- The receipt finds what the message left. -/
theorem sampleLoop_findsOwn : FindsOwn sampleLoop.trace := by
  refine .cons trivial (.cons trivial (.cons (fun _ => ⟨_, List.mem_cons_self, rfl⟩) ?_))
  exact .cons trivial (.cons trivial (.cons trivial .nil))

theorem verdict_follows_upstream_once :
    let := storingCodec
    Verdict oneBind 0 sampleMessage sampleClient (told .esmeRok (some "0123456789ab"))
      (performed 0 sampleLoop.trace) ∧ Taken (performed 0 sampleLoop.trace) := by
  intro
  have finished : sampleLoop.tasks[0]? = some (.submitSm sampleMessage sampleClient,
      .done (told .esmeRok (some "0123456789ab"))) := rfl
  obtain ⟨verdict, accepted⟩ := verdict_follows_upstream sampleLoop_reaches finished
  exact ⟨verdict, accepted.mp ⟨_, rfl⟩⟩

end SiphonSmpp.Gateway
