import Beszel.Machinery.Run
import Beszel.Agent.Handlers

/-!
# Agent/Client — the agent's WebSocket client over successive connections

`agent/client.go`.  One client object outlives its connections: `Connect` dials a new connection and
starts its read loop, messages are handled on the read loop of the connection they arrive on, and
`OnClose` ends that loop.  `hubVerified` is a field of the client, set by a verified challenge and
read when a later message is handled.

The runs here are lists of these events over any number of connections.  The log records, newest
first, each challenge that verified and each handler that was executed, with the connection of the
message.
-/

namespace Beszel

open Machinery

namespace WebSocketClient

/-! ## The client -/

/-- A connection, numbered in the order of the dials that succeed. -/
abbrev ConnId := ℕ

/-- What the client takes from outside: the CBOR decoder, the public keys' signature check and the
bodies of the handlers that do not touch the client (they send their own response). -/
structure Deps (Key : Type) where
  unmarshalHubRequest : Bytes → Except String HubRequest
  unmarshalFingerprintRequest : Bytes → Except String FingerprintRequest
  verify : Key → String → Bytes → Bool
  runHandler : RequestHandler → HubRequest → Except String Unit

/-- The fields of the client and its agent that no event changes.  `name` is `SYSTEM_NAME`, `port`
the port of the SSH server's address. -/
structure Config (Key : Type) where
  keys : List Key
  token : String
  fingerprint : String
  hostname : String
  port : String
  name : String

/-- A frame as the read loop hands it to `OnMessage`. -/
structure Message where
  binary : Bool
  data : Bytes
  deriving DecidableEq, Repr

/-- What the client writes to its connection. -/
inductive Reply
  | fingerprint (id : Option UInt32) (response : FingerprintResponse)
  | error (id : UInt32) (text : String)
  deriving DecidableEq, Repr

/-- What a run shows: a challenge that verified on `c`, a handler executed for a message of `c`, a
reply written to the client's current connection. -/
inductive Obs
  | verified (c : ConnId)
  | executed (c : ConnId) (action : WebSocketAction)
  | sent (conn : Option ConnId) (reply : Reply)
  deriving DecidableEq, Repr

/-- The client between two events.  `reading` lists the connections whose read loop has not ended,
`opened` counts the connections dialled so far. -/
structure State where
  conn : Option ConnId
  hubVerified : Bool
  reading : List ConnId
  opened : ℕ
  log : List Obs

/-- `newWebSocketClient`. -/
def State.init : State where
  conn := none
  hubVerified := false
  reading := []
  opened := 0
  log := []

/-- What can happen to a client.  `dialled` is the outcome of `gws.NewClient`, `write` that of the
writes to the current connection while a message is handled. -/
inductive Event
  | connect (dialled : Bool)
  | close
  | onClose (c : ConnId)
  | onMessage (c : ConnId) (message : Message) (write : Reply → Except String Unit)

section Client

variable {Key : Type} (d : Deps Key) (cfg : Config Key)

/-- `verifySignature`: some key of the agent accepts the signature of the token. -/
def verifySignature (signature : Bytes) : Except String Unit :=
  if cfg.keys.any fun key => d.verify key cfg.token signature then .ok ()
  else .error "invalid signature - check KEY value"

/-- The response to a verified challenge; the system's details go along when the hub asks. -/
def fingerprintResponse (needSysInfo : Bool) : FingerprintResponse where
  fingerprint := cfg.fingerprint
  hostname := if needSysInfo then cfg.hostname else ""
  port := if needSysInfo then cfg.port else ""
  name := if needSysInfo then cfg.name else ""

/-- `sendMessage`: a write that fails asks the connection to close and returns its error. -/
def sendMessage (s : State) (write : Reply → Except String Unit) (reply : Reply) :
    State × Except String Unit :=
  match write reply with
  | .error err => (s, .error err)
  | .ok () => ({ s with log := .sent s.conn reply :: s.log }, .ok ())

/-- `handleAuthChallenge`, for a challenge that arrived on `c`. -/
def handleAuthChallenge (s : State) (c : ConnId) (msg : HubRequest)
    (write : Reply → Except String Unit) : State × Except String Unit :=
  match d.unmarshalFingerprintRequest msg.data with
  | .error err => (s, .error err)
  | .ok authRequest =>
    match verifySignature d cfg authRequest.signature with
    | .error err => (s, .error err)
    | .ok () =>
      sendMessage { s with hubVerified := true, log := .verified c :: s.log } write
        (.fingerprint msg.id (fingerprintResponse cfg authRequest.needSysInfo))

/-- The call `handler.Handle(hctx)` at the end of `HandlerRegistry.Handle`. -/
def callHandler (s : State) (c : ConnId) (handler : RequestHandler) (msg : HubRequest)
    (write : Reply → Except String Unit) : State × Except String Unit :=
  let s := { s with log := .executed c msg.action :: s.log }
  match handler with
  | .checkFingerprint => handleAuthChallenge d cfg s c msg write
  | handler => (s, d.runHandler handler msg)

/-- `HandlerRegistry.Handle` with the client's registry and flag. -/
def dispatch (s : State) (c : ConnId) (msg : HubRequest) (write : Reply → Except String Unit) :
    State × Except String Unit :=
  match HandlerRegistry.newHandlerRegistry.handle msg.action s.hubVerified with
  | .error err => (s, .error err)
  | .ok handler => callHandler d cfg s c handler msg write

/-- An error goes back to the hub when the request has an id. -/
def answer (s : State) (write : Reply → Except String Unit) :
    Except String Unit → Option UInt32 → State
  | .error err, some id => (sendMessage s write (.error id err)).1
  | _, _ => s

/-- `handleHubRequest`. -/
def handleHubRequest (s : State) (c : ConnId) (msg : HubRequest)
    (write : Reply → Except String Unit) : State :=
  answer (dispatch d cfg s c msg write).1 write (dispatch d cfg s c msg write).2 msg.id

/-- `OnMessage`: frames that are not binary or do not decode are dropped. -/
def onMessage (s : State) (c : ConnId) (message : Message) (write : Reply → Except String Unit) :
    State :=
  if message.binary then
    match d.unmarshalHubRequest message.data with
    | .error _ => s
    | .ok msg => handleHubRequest d cfg s c msg write
  else s

/-- `Connect`: the previous connection is asked to close — its read loop ends with its own
`onClose` — and a successful dial becomes the client's connection and starts reading. -/
def connect (s : State) (dialled : Bool) : State :=
  if dialled then
    { s with conn := some s.opened, reading := s.opened :: s.reading, opened := s.opened + 1 }
  else { s with conn := none }

/-- **One event.**  A message arrives, and a connection ends, only while its read loop runs;
`Close` only writes a close frame. -/
def step (s : State) : Event → Option State
  | .connect dialled => some (connect s dialled)
  | .close => some s
  | .onClose c => if c ∈ s.reading then some { s with reading := s.reading.erase c } else none
  | .onMessage c message write =>
    if c ∈ s.reading then some (onMessage d cfg s c message write) else none

/-! ## What handling one message can do

Four things, and no others: nothing but replies; a handler executed behind the gate; a challenge
that fails; a challenge that verifies. -/

/-- The message is a `CheckFingerprint` challenge whose signature verifies under a key of the
agent. -/
def Challenges (message : Message) : Prop :=
  message.binary = true ∧ ∃ msg, d.unmarshalHubRequest message.data = .ok msg ∧
    msg.action = WebSocketAction.checkFingerprint ∧
      ∃ authRequest, d.unmarshalFingerprintRequest msg.data = .ok authRequest ∧
        verifySignature d cfg authRequest.signature = .ok ()

/-- The replies a message leaves on top of the log. -/
def Replies (l : List Obs) : Prop := ∀ o ∈ l, ∃ conn reply, o = .sent conn reply

/-- What one message of `c` makes of a state. -/
inductive Handled (s : State) (c : ConnId) (message : Message) : State → Prop
  | ignored (l : List Obs) (hl : Replies l) : Handled s c message { s with log := l ++ s.log }
  | executed (l : List Obs) (hl : Replies l) (action : WebSocketAction)
      (gate : action = WebSocketAction.checkFingerprint ∨ s.hubVerified = true) :
      Handled s c message { s with log := l ++ .executed c action :: s.log }
  | verified (l : List Obs) (hl : Replies l) (h : Challenges d cfg message) :
      Handled s c message
        { s with
          hubVerified := true
          log := l ++ .verified c :: .executed c WebSocketAction.checkFingerprint :: s.log }

variable {d cfg} {s s' : State} {c : ConnId} {write : Reply → Except String Unit}

theorem replies_nil : Replies [] := fun _ ho => absurd ho (List.not_mem_nil)

theorem Replies.cons {l : List Obs} (h : Replies l) (conn : Option ConnId) (reply : Reply) :
    Replies (.sent conn reply :: l) := by
  intro o ho
  rcases List.mem_cons.mp ho with rfl | ho
  · exact ⟨conn, reply, rfl⟩
  · exact h o ho

/-- A reply on top of a handled message is a handled message. -/
theorem Handled.reply {message : Message} (h : Handled d cfg s c message s')
    (conn : Option ConnId) (reply : Reply) :
    Handled d cfg s c message { s' with log := .sent conn reply :: s'.log } := by
  cases h with
  | ignored l hl => exact .ignored (.sent conn reply :: l) (hl.cons conn reply)
  | executed l hl action gate =>
    exact .executed (.sent conn reply :: l) (hl.cons conn reply) action gate
  | verified l hl h => exact .verified (.sent conn reply :: l) (hl.cons conn reply) h

theorem Handled.sendMessage {message : Message} (h : Handled d cfg s c message s')
    (write : Reply → Except String Unit) (reply : Reply) :
    Handled d cfg s c message (sendMessage s' write reply).1 := by
  unfold WebSocketClient.sendMessage
  split
  · exact h
  · exact h.reply _ _

/-- The challenge handler: the log shows its execution, and the rest is that of a failed or of a
verified challenge. -/
theorem handled_handleAuthChallenge {message : Message} {msg : HubRequest}
    (hb : message.binary = true) (hm : d.unmarshalHubRequest message.data = .ok msg)
    (ha : msg.action = WebSocketAction.checkFingerprint) :
    Handled d cfg s c message
      (handleAuthChallenge d cfg { s with log := .executed c msg.action :: s.log } c msg
        write).1 := by
  have hfail : Handled d cfg s c message { s with log := .executed c msg.action :: s.log } :=
    .executed [] replies_nil msg.action (Or.inl ha)
  unfold handleAuthChallenge
  cases hu : d.unmarshalFingerprintRequest msg.data with
  | error err => exact hfail
  | ok authRequest =>
    cases hv : verifySignature d cfg authRequest.signature with
    | error err => simpa [hv] using hfail
    | ok u =>
      have hch : Challenges d cfg message := ⟨hb, msg, hm, ha, authRequest, hu, hv⟩
      have hver : Handled d cfg s c message
          { s with
            hubVerified := true
            log := .verified c :: .executed c msg.action :: s.log } := by
        rw [ha]
        exact .verified [] replies_nil hch
      simpa [hv] using hver.sendMessage write _

/-- The handler behind the gate, whichever it is. -/
theorem handled_callHandler {message : Message} {msg : HubRequest} {handler : RequestHandler}
    (hb : message.binary = true) (hm : d.unmarshalHubRequest message.data = .ok msg)
    (hh : HandlerRegistry.newHandlerRegistry.handle msg.action s.hubVerified = .ok handler) :
    Handled d cfg s c message (callHandler d cfg s c handler msg write).1 := by
  obtain ⟨hreg, gate⟩ := HandlerRegistry.handle_eq_ok.mp hh
  have hexec : Handled d cfg s c message { s with log := .executed c msg.action :: s.log } :=
    .executed [] replies_nil msg.action gate
  cases handler with
  | checkFingerprint =>
    exact handled_handleAuthChallenge hb hm (HandlerRegistry.eq_checkFingerprint hreg)
  | _ => exact hexec

/-- The registry's gate in front of it. -/
theorem handled_dispatch {message : Message} {msg : HubRequest}
    (hb : message.binary = true) (hm : d.unmarshalHubRequest message.data = .ok msg) :
    Handled d cfg s c message (dispatch d cfg s c msg write).1 := by
  unfold dispatch
  cases hh : HandlerRegistry.newHandlerRegistry.handle msg.action s.hubVerified with
  | error err => exact .ignored [] replies_nil
  | ok handler => exact handled_callHandler hb hm hh

theorem Handled.answer {message : Message} (h : Handled d cfg s c message s')
    (result : Except String Unit) (id : Option UInt32) :
    Handled d cfg s c message (answer s' write result id) := by
  unfold WebSocketClient.answer
  split
  · exact h.sendMessage _ _
  · exact h

/-- **What one message can do**, over every branch of `OnMessage`. -/
theorem handled_onMessage (message : Message) :
    Handled d cfg s c message (onMessage d cfg s c message write) := by
  have hskip : Handled d cfg s c message s := .ignored [] replies_nil
  unfold onMessage
  cases hb : message.binary with
  | false => exact hskip
  | true =>
    cases hm : d.unmarshalHubRequest message.data with
    | error err => simpa [hm] using hskip
    | ok msg =>
      have hd : Handled d cfg s c message (dispatch d cfg s c msg write).1 := handled_dispatch hb hm
      simpa [hm, handleHubRequest] using hd.answer (dispatch d cfg s c msg write).2 msg.id

/-! ## A verification must not leave its connection

`hubVerified` is never cleared, so a connection that is dialled while it is set, or that is still
being read while a challenge verifies on another one, is served without a challenge of its own.
`Confined` excludes these two steps, and no weaker condition will do: after the first step that
breaks it, one more message is executed without authorisation (`exists_unauthorised`). -/

/-- A handler executed for any action but the challenge needs its connection verified. -/
def needs : Obs → Option ConnId
  | .executed c action => if action = WebSocketAction.checkFingerprint then none else some c
  | _ => none

/-- A challenge that verifies gives its own connection. -/
def gives : Obs → Option ConnId
  | .verified c => some c
  | _ => none

/-- **The authorisation law**: a handler other than the challenge's was executed only on a
connection on which a challenge had verified before. -/
def Authorised (s : State) : Prop := Licensed needs gives s.log

/-- A step that does not carry a verification over to another connection: no dial succeeds while
the flag is set, and a challenge verifies only on the one connection that is being read. -/
def Confined (d : Deps Key) (cfg : Config Key) (s : State) : Event → Prop
  | .connect dialled => dialled = true → s.hubVerified = false
  | .onMessage c message _ => Challenges d cfg message → ∀ c' ∈ s.reading, c' = c
  | _ => True

/-- What confined runs keep.  `covered` is the point: while the flag is set, whoever is being read
has verified. -/
structure Inv (s : State) : Prop where
  authorised : Authorised s
  fresh : ∀ c ∈ s.reading, c < s.opened
  seen : ∀ c, Obs.verified c ∈ s.log → s.hubVerified = true ∧ c < s.opened
  covered : s.hubVerified = true → ∀ c ∈ s.reading, Obs.verified c ∈ s.log
  single : s.hubVerified = true → ∀ c ∈ s.reading, ∀ c' ∈ s.reading, c = c'

theorem inv_init : Inv State.init := by
  constructor <;> simp [State.init, Authorised, Licensed]

theorem licensed_replies {l log : List Obs} (hl : Replies l)
    (h : Licensed needs gives log) : Licensed needs gives (l ++ log) := by
  induction l with
  | nil => exact h
  | cons o l ih =>
    obtain ⟨conn, reply, rfl⟩ := hl o List.mem_cons_self
    exact (ih fun o ho => hl o (List.mem_cons_of_mem _ ho)).cons_of_none rfl

theorem verified_mem_replies {l log : List Obs} (hl : Replies l) {c : ConnId} :
    Obs.verified c ∈ l ++ log ↔ Obs.verified c ∈ log := by
  rw [List.mem_append, or_iff_right]
  intro h
  obtain ⟨conn, reply, hc⟩ := hl _ h
  cases hc

/-- Handling a message opens and closes no connection. -/
theorem Handled.reading_eq {message : Message} (h : Handled d cfg s c message s') :
    s'.reading = s.reading := by cases h <;> rfl

/-- The only connection a message can verify is its own. -/
theorem Handled.verified_mem {message : Message} (h : Handled d cfg s c message s') {c' : ConnId}
    (hm : Obs.verified c' ∈ s'.log) : c' = c ∨ Obs.verified c' ∈ s.log := by
  cases h with
  | ignored l hl => exact Or.inr ((verified_mem_replies hl).mp hm)
  | executed l hl action gate => exact Or.inr (by simpa using (verified_mem_replies hl).mp hm)
  | verified l hl hch => simpa using (verified_mem_replies hl).mp hm

/-- A message of a connection that is being read keeps the invariant, if it is confined. -/
theorem Inv.handled (hs : Inv s) {message : Message} (hc : c ∈ s.reading)
    (hok : Confined d cfg s (.onMessage c message write)) (h : Handled d cfg s c message s') :
    Inv s' := by
  cases h with
  | ignored l hl =>
    exact ⟨licensed_replies hl hs.authorised, hs.fresh,
      fun c' h' => hs.seen c' ((verified_mem_replies hl).mp h'),
      fun hv c' h' => (verified_mem_replies hl).mpr (hs.covered hv c' h'), hs.single⟩
  | executed l hl action gate =>
    have hlic : Licensed needs gives (Obs.executed c action :: s.log) := by
      by_cases ha : action = WebSocketAction.checkFingerprint
      · exact hs.authorised.cons_of_none (if_pos ha)
      · exact hs.authorised.cons_of_given (if_neg ha)
          ⟨.verified c, hs.covered (gate.resolve_left ha) c hc, rfl⟩
    refine ⟨licensed_replies hl hlic, hs.fresh, fun c' h' => hs.seen c' ?_,
      fun hv c' h' => (verified_mem_replies hl).mpr
        (List.mem_cons_of_mem _ (hs.covered hv c' h')), hs.single⟩
    simpa using (verified_mem_replies hl).mp h'
  | verified l hl hch =>
    have hone : ∀ c' ∈ s.reading, c' = c := hok hch
    have hlic : Licensed needs gives
        (Obs.verified c :: .executed c WebSocketAction.checkFingerprint :: s.log) :=
      (hs.authorised.cons_of_none (by simp [needs])).cons_of_none rfl
    refine ⟨licensed_replies hl hlic, hs.fresh, fun c' h' => ⟨rfl, ?_⟩, fun _ c' h' => ?_,
      fun _ a ha b hb => (hone a ha).trans (hone b hb).symm⟩
    · rcases (Handled.verified l hl hch).verified_mem h' with rfl | h'
      · exact hs.fresh c' hc
      · exact (hs.seen c' h').2
    · rw [hone c' h']
      exact (verified_mem_replies hl).mpr List.mem_cons_self

/-- **Every confined step keeps the invariant.** -/
theorem Inv.step (hs : Inv s) {e : Event} (hok : Confined d cfg s e)
    (h : step d cfg s e = some s') : Inv s' := by
  cases e with
  | connect dialled =>
    obtain rfl : connect s dialled = s' := Option.some.inj h
    cases dialled with
    | false => exact ⟨hs.authorised, hs.fresh, hs.seen, hs.covered, hs.single⟩
    | true =>
      have hoff : s.hubVerified = false := hok rfl
      have hoff' : ¬ s.hubVerified = true := by rw [hoff]; exact Bool.false_ne_true
      refine ⟨hs.authorised, ?_, fun c h' => absurd (hs.seen c h').1 hoff',
        fun hv => absurd hv hoff', fun hv => absurd hv hoff'⟩
      intro c hc
      rcases List.mem_cons.mp hc with rfl | hc
      · exact Nat.lt_succ_self _
      · exact Nat.lt_succ_of_lt (hs.fresh c hc)
  | close =>
    obtain rfl : s = s' := Option.some.inj h
    exact hs
  | onClose c =>
    have hsub : ∀ {c' : ConnId}, c' ∈ s.reading.erase c → c' ∈ s.reading := List.mem_of_mem_erase
    obtain ⟨-, rfl⟩ := guard_eq_some h
    exact ⟨hs.authorised, fun c' h' => hs.fresh c' (hsub h'), hs.seen,
      fun hv c' h' => hs.covered hv c' (hsub h'),
      fun hv a ha b hb => hs.single hv a (hsub ha) b (hsub hb)⟩
  | onMessage c message write =>
    obtain ⟨hc, rfl⟩ := guard_eq_some h
    exact hs.handled hc hok (handled_onMessage message)

/-! ### …and the condition is the weakest -/

/-- Writing to the connection does not touch the flag. -/
@[simp] theorem hubVerified_sendMessage (reply : Reply) :
    (sendMessage s write reply).1.hubVerified = s.hubVerified := by
  unfold sendMessage
  split <;> rfl

@[simp] theorem hubVerified_answer (result : Except String Unit) (id : Option UInt32) :
    (answer s write result id).hubVerified = s.hubVerified := by
  unfold answer
  split
  · exact hubVerified_sendMessage _
  · rfl

/-- A challenge that verifies sets the flag. -/
theorem hubVerified_onMessage {message : Message} (h : Challenges d cfg message) :
    (onMessage d cfg s c message write).hubVerified = true := by
  obtain ⟨hb, msg, hm, ha, authRequest, hu, hv⟩ := h
  have hreg : HandlerRegistry.newHandlerRegistry.handle msg.action s.hubVerified
      = .ok .checkFingerprint := by
    rw [HandlerRegistry.handle_eq_ok, ha]
    exact ⟨rfl, Or.inl rfl⟩
  simp [onMessage, hb, hm, handleHubRequest, dispatch, hreg, callHandler, handleAuthChallenge, hu,
    hv]

/-- While the flag is set, a `GetData` request is executed on whatever connection it arrives. -/
theorem executes_getData (hs : s.hubVerified = true) {data : Bytes} {msg : HubRequest}
    (hm : d.unmarshalHubRequest data = .ok msg) (ha : msg.action = WebSocketAction.getData) :
    ∃ l, (onMessage d cfg s c ⟨true, data⟩ write).log
      = l ++ .executed c WebSocketAction.getData :: s.log := by
  have hreg : HandlerRegistry.newHandlerRegistry.handle WebSocketAction.getData s.hubVerified
      = .ok .getData := HandlerRegistry.handle_eq_ok.mpr ⟨rfl, Or.inr hs⟩
  have hdisp : dispatch d cfg s c msg write
      = ({ s with log := .executed c WebSocketAction.getData :: s.log },
          d.runHandler .getData msg) := by
    simp only [dispatch, ha, hreg, callHandler]
  simp only [onMessage, hm, handleHubRequest, hdisp, if_true]
  unfold answer sendMessage
  split
  · split
    · exact ⟨[], rfl⟩
    · exact ⟨[_], rfl⟩
  · exact ⟨[], rfl⟩

/-- An execution nobody gave a licence for cannot be hidden under later entries. -/
theorem not_licensed_of_executed {l log : List Obs} (h : Obs.verified c ∉ log) :
    ¬ Licensed needs gives (l ++ .executed c WebSocketAction.getData :: log) := by
  induction l with
  | nil =>
    rintro ⟨hneed, -⟩
    obtain ⟨b, hb, hg⟩ := hneed c rfl
    cases b with
    | verified c' =>
      obtain rfl : c' = c := Option.some.inj hg
      exact h hb
    | executed c' action => cases hg
    | sent conn reply => cases hg
  | cons o l ih => exact fun hl => ih hl.2

/-- The first step that is not confined leaves a connection open to a hub that has not shown the
key on it. -/
theorem Inv.exists_uncovered (hs : Inv s) {e : Event} (hbad : ¬ Confined d cfg s e)
    (h : WebSocketClient.step d cfg s e = some s') :
    s'.hubVerified = true ∧ ∃ c ∈ s'.reading, Obs.verified c ∉ s'.log := by
  cases e with
  | connect dialled =>
    obtain rfl : connect s dialled = s' := Option.some.inj h
    have hd : dialled = true ∧ s.hubVerified = true := by
      simpa [Confined] using hbad
    obtain ⟨rfl, hv⟩ := hd
    exact ⟨hv, s.opened, List.mem_cons_self, fun hm => absurd (hs.seen _ hm).2 (lt_irrefl _)⟩
  | close => exact absurd trivial hbad
  | onClose c => exact absurd trivial hbad
  | onMessage c message write =>
    obtain ⟨hc, rfl⟩ := guard_eq_some h
    obtain ⟨hch, c', hc', hne⟩ : Challenges d cfg message ∧ ∃ c' ∈ s.reading, c' ≠ c := by
      simpa [Confined] using hbad
    have hoff : ¬ s.hubVerified = true := fun hv => hne (hs.single hv c' hc' c hc)
    have hnew : ∀ {c₀ : ConnId}, Obs.verified c₀ ∉ s.log := fun hm => hoff (hs.seen _ hm).1
    refine ⟨hubVerified_onMessage hch, c', ?_, ?_⟩
    · rw [(handled_onMessage message).reading_eq]
      exact hc'
    · exact fun hm => ((handled_onMessage message).verified_mem hm).elim hne hnew

/-- **After the first step that is not confined, one more message breaks the law** — for a decoder
that knows some `GetData` request. -/
theorem Inv.exists_unauthorised (hs : Inv s) {e : Event} (hbad : ¬ Confined d cfg s e)
    (h : WebSocketClient.step d cfg s e = some s') {data : Bytes} {msg : HubRequest}
    (hm : d.unmarshalHubRequest data = .ok msg) (ha : msg.action = WebSocketAction.getData) :
    ∃ e' s'', WebSocketClient.step d cfg s' e' = some s'' ∧ ¬ Authorised s'' := by
  obtain ⟨hv, c, hc, hnot⟩ := hs.exists_uncovered hbad h
  obtain ⟨l, hl⟩ : ∃ l, (onMessage d cfg s' c ⟨true, data⟩ fun _ => .ok ()).log
      = l ++ .executed c WebSocketAction.getData :: s'.log := executes_getData hv hm ha
  refine ⟨.onMessage c ⟨true, data⟩ fun _ => .ok (), _, if_pos hc, ?_⟩
  rw [Authorised, hl]
  exact not_licensed_of_executed hnot

/-- **In every confined run a handler other than the challenge's is executed only on a connection
that verified before; and the first step that is not confined can be followed by one that breaks
this.** -/
theorem authorised_of_confined {es : List Event}
    (hok : Along (WebSocketClient.step d cfg) (Confined d cfg) State.init es)
    (hrun : run (WebSocketClient.step d cfg) State.init es = some s) :
    Authorised s ∧
      ∀ e s', ¬ Confined d cfg s e → WebSocketClient.step d cfg s e = some s' →
        ∀ data msg, d.unmarshalHubRequest data = .ok msg →
          msg.action = WebSocketAction.getData →
            ∃ e' s'', WebSocketClient.step d cfg s' e' = some s'' ∧ ¬ Authorised s'' := by
  have hs : Inv s := inv_of_along (fun hs hok h => hs.step hok h) inv_init hok hrun
  exact ⟨hs.authorised, fun e s' hbad h data msg hm ha => hs.exists_unauthorised hbad h hm ha⟩

end Client

/-! ### A concrete hub

The two requests as CBOR: `{0: 1, 1: {0: h'AA', 1: false}}`, the challenge with signature `AA`, and
`{0: 0}`, a `GetData` request. -/

/-- A challenge with the signature `AA`. -/
def challengeMessage : Message :=
  ⟨true, [0xa2, 0x00, 0x01, 0x01, 0xa2, 0x00, 0x41, 0xaa, 0x01, 0xf4]⟩

/-- A `GetData` request. -/
def getDataMessage : Message := ⟨true, [0xa1, 0x00, 0x00]⟩

/-- A decoder that knows these two messages, and one key that accepts the signature `AA`. -/
def wireDeps : Deps Unit where
  unmarshalHubRequest data :=
    if data = challengeMessage.data then
      .ok ⟨WebSocketAction.checkFingerprint, [0xa2, 0x00, 0x41, 0xaa, 0x01, 0xf4], none⟩
    else if data = getDataMessage.data then .ok ⟨WebSocketAction.getData, [], none⟩
    else .error "EOF"
  unmarshalFingerprintRequest data :=
    if data = [0xa2, 0x00, 0x41, 0xaa, 0x01, 0xf4] then .ok ⟨[0xaa], false⟩ else .error "EOF"
  verify _ _ signature := signature = [0xaa]
  runHandler _ _ := .ok ()

/-- An agent with one key. -/
def wireConfig : Config Unit where
  keys := [()]
  token := "token"
  fingerprint := "fingerprint"
  hostname := "host"
  port := "45876"
  name := ""

/-- **The agent serves a second hub that never showed the key**: the flag of the first connection
outlives it. -/
theorem authorised_fails_on_reconnect :
    ∃ s, run (step wireDeps wireConfig) State.init
        [.connect true, .onMessage 0 challengeMessage (fun _ => .ok ()), .onClose 0, .connect true,
          .onMessage 1 getDataMessage fun _ => .ok ()] = some s ∧ ¬ Authorised s := by
  refine ⟨_, rfl, ?_⟩
  unfold Authorised
  decide

/-- On its first connection the agent serves the hub that showed the key. -/
theorem authorised_first_connection :
    ∃ s, run (step wireDeps wireConfig) State.init
        [.connect true, .onMessage 0 challengeMessage (fun _ => .ok ()),
          .onMessage 0 getDataMessage fun _ => .ok ()] = some s ∧
      Authorised s := by
  suffices hok : Along (step wireDeps wireConfig) (Confined wireDeps wireConfig) State.init
      [.connect true, .onMessage 0 challengeMessage (fun _ => .ok ()),
          .onMessage 0 getDataMessage fun _ => .ok ()] from
    ⟨_, rfl, (authorised_of_confined hok rfl).1⟩
  have hone : ∀ c' ∈ [0], c' = (0 : ConnId) := fun c' hc' => List.mem_singleton.mp hc'
  exact .cons (fun _ => rfl) rfl (.cons (fun _ => hone) rfl (.cons (fun _ => hone) rfl trivial))

end WebSocketClient

end Beszel
