import Beszel.Agent.Server
import Beszel.Hub.RequestManager

/-!
# Hub/Conversation — hub and agent over one connection

    caller ──SendRequest──▸ toAgent ──▸ handleHubRequest
                                              │
    caller ◂──handleResponse── toHub ◂────────╯

The manager of `Hub/RequestManager` and the requests of `Agent/Server`, joined by the two directions
of a WebSocket connection.  Any number of goroutines of the hub have requests under way; a direction
keeps its messages in order, and the connection may break at any time.  `fetched_own` is what a
caller gets in the end, across the routing and both encodings; `answered_of_along` says that no
answer is lost.
-/

namespace Beszel

namespace Conversation

open Machinery Response RequestManager
open Machinery.Wire (Item)
open Transport (GoError)
open Server (Agent Writes Message handleHubRequest errorResponse)

/-! ## The two parties -/

/-- What a caller passes to `SendRequest`: the action, and the data as they are encoded. -/
abbrev Ask := PendingRequest → WebSocketAction × Bytes

/-- The message of a request. -/
def hubRequest (ask : Ask) (r : PendingRequest) : HubRequest :=
  ⟨(ask r).1, (ask r).2, some (UInt32.ofBitVec r.id)⟩

/-- `cbor.Marshal` of a message to the hub. -/
def marshal : Message → Item
  | .response r => r.marshal
  | .legacy h v => h.payload.ty.enc Encoding.cborFormat v

/-- A request that the agent served: the agent as it was then, how its writes ended, and whether the
hub was verified. -/
structure Served where
  request : PendingRequest
  agent : Agent
  writes : Writes
  hubVerified : Bool

/-- The messages that went out for the request. -/
def Served.messages (ask : Ask) (a : Served) : List Item :=
  (handleHubRequest a.agent a.writes a.hubVerified (hubRequest ask a.request)).map marshal

/-- The request was a challenge that verified. -/
def Served.verifies (ask : Ask) (a : Served) : Bool :=
  (ask a.request).1 = WebSocketAction.checkFingerprint &&
    (Server.handle a.agent .checkFingerprint (ask a.request).2).toOption.isSome

/-- Hub and agent: `toAgent` are the requests whose messages are on their way, `toHub` the messages
on their way back, `served` what the agent served, newest first. -/
structure State where
  hub : RequestManager.State
  toAgent : List PendingRequest
  hubVerified : Bool
  served : List Served
  toHub : List Item

/-- A new connection.  The agent keeps its flag from one connection to the next. -/
def State.init (hubVerified : Bool) : State where
  hub := .init
  toAgent := []
  hubVerified := hubVerified
  served := []
  toHub := []

/-- What can happen: a step of the hub's goroutines, the agent serves the next message, the next
message arrives at the hub, or the connection breaks. -/
inductive Event
  | hub (e : RequestManager.Event)
  | serve (agent : Agent) (writes : Writes)
  | arrive (order : Pending)
  | lost

/-- The message that a step of the hub puts on its way. -/
def sent : RequestManager.Event → List PendingRequest
  | .send r true => [r]
  | _ => []

/-- **One step.**  `ask` is what the callers ask for. -/
def step (ask : Ask) (s : State) : Event → Option State
  -- messages come from the agent only
  | .hub (.message _ _) => none
  | .hub e => (RequestManager.step s.hub e).map fun hub =>
      { s with hub := hub, toAgent := s.toAgent ++ sent e }
  | .serve agent writes =>
    match s.toAgent with
    | [] => none
    | r :: toAgent =>
      let a : Served := ⟨r, agent, writes, s.hubVerified⟩
      some { s with
        toAgent := toAgent
        hubVerified := s.hubVerified || a.verifies ask
        served := a :: s.served
        toHub := s.toHub ++ a.messages ask }
  | .arrive order =>
    match s.toHub with
    | [] => none
    | message :: toHub => (RequestManager.step s.hub (.message message order)).map fun hub =>
        { s with hub := hub, toHub := toHub }
  | .lost => some { s with toAgent := [], toHub := [] }

/-! ## What the agent sends -/

section Messages

variable {agent : Agent} {w : Writes} {hubVerified : Bool} {action : WebSocketAction} {data : Bytes}
  {id : UInt32}

theorem mem_sendError {n : ℕ} {err : String} {m : Message}
    (h : m ∈ Server.sendError w n (some id) err) : m = .response (errorResponse (some id) err) := by
  unfold Server.sendError at h
  split_ifs at h
  · exact List.mem_singleton.mp h
  · cases h

/-- **A message for a request with an id** is an error, or the answer of the handler of its action,
executed behind the gate. -/
theorem mem_handleHubRequest {m : Message}
    (h : m ∈ handleHubRequest agent w hubVerified ⟨action, data, some id⟩) :
    (∃ err, m = .response (errorResponse (some id) err)) ∨
      ∃ handler v, HandlerRegistry.newHandlerRegistry.handle action hubVerified = .ok handler ∧
        Server.handle agent handler data = .ok v ∧
          m = .response (newAgentResponse handler.payload v (some id.toBitVec)) := by
  unfold handleHubRequest at h
  dsimp only at h
  cases hgate : HandlerRegistry.newHandlerRegistry.handle action hubVerified with
  | error err =>
    rw [hgate] at h
    exact .inl ⟨err, mem_sendError h⟩
  | ok handler =>
    rw [hgate] at h
    dsimp only at h
    cases hv : Server.handle agent handler data with
    | error err =>
      rw [hv] at h
      exact .inl ⟨err, mem_sendError h⟩
    | ok v =>
      rw [hv] at h
      dsimp only at h
      split_ifs at h
      · exact .inr ⟨handler, v, rfl, hv, List.mem_singleton.mp h⟩
      · exact .inl ⟨w.err, mem_sendError h⟩

theorem length_sendError_le (n : ℕ) (requestID : Option UInt32) (err : String) :
    (Server.sendError w n requestID err).length ≤ 1 := by
  unfold Server.sendError
  split_ifs
  · exact le_rfl
  · exact Nat.zero_le 1

/-- There is one message at most. -/
theorem length_handleHubRequest_le (msg : HubRequest) :
    (handleHubRequest agent w hubVerified msg).length ≤ 1 := by
  unfold handleHubRequest
  split
  · exact length_sendError_le 0 _ _
  · split
    · exact length_sendError_le 0 _ _
    · split_ifs
      · exact le_rfl
      · exact length_sendError_le 1 _ _

end Messages

/-! ## What a caller makes of it -/

section Callers

variable {unmarshalErr : GoError} {sysData : Entities.combinedData.Val}
  {packages : (Machinery.Wire.Ty.slice .string : Machinery.Wire.Ty Encoding).Val} {now : BitVec 64}
  {action : WebSocketAction} {t : GoType} {dest v : t.ty.Val} {message : Item}

/-- A response that arrives has its id. -/
theorem requestID_marshal {r : AgentResponse} (hr : r.Readable) : requestID r.marshal = r.id := by
  rw [requestID, AgentResponse.unmarshal_marshal.mpr ⟨hr, rfl⟩]
  rfl

/-- A caller gets no value out of an error. -/
theorem receive_errorResponse_ne {id : Option UInt32} {text : String} :
    receive unmarshalErr (errorResponse id text).marshal action t dest ≠ .ok v := by
  intro h
  obtain ⟨-, -, h⟩ := receive_eq_ok.mp h
  change unmarshalLegacyResponse (errorResponse id text).transferred action t = .ok v at h
  have hfield {want : GoType} {name missing : String} :
      typedField want none name missing ≠ .ok v := by
    unfold typedField
    split_ifs <;> exact nofun
  unfold unmarshalLegacyResponse at h
  split_ifs at h <;> exact hfield h

/-- A value that a caller gets comes from a response to its action. -/
theorem receive_of_fetch {handler : RequestHandler} {w : handler.payload.ty.Val}
    (hw : fetch unmarshalErr sysData packages now message handler = .ok w) :
    ∃ (t : GoType) (dest v : t.ty.Val),
      receive unmarshalErr message handler.action t dest = .ok v := by
  cases handler with
  | applyPackageUpdates =>
    change applyPackageUpdatesOnAgent unmarshalErr packages now message = .ok w at hw
    unfold applyPackageUpdatesOnAgent at hw
    split at hw
    · cases hw
    · rename_i raw hraw
      exact ⟨.rawMessage, none, raw, hraw⟩
  | _ => exact ⟨_, _, _, hw⟩

end Callers

/-! ## Steps of the hub -/

section Hub

variable {hub hub' : RequestManager.State} {e : RequestManager.Event} {r : PendingRequest}

/-- The message of the request has not gone out. -/
def Unsent (hub : RequestManager.State) (r : PendingRequest) : Prop :=
  (r, Phase.created) ∈ hub.calls ∨ (r, Phase.registered) ∈ hub.calls

/-- **What a step of the hub can do** to requests and messages: a request is sent once, a channel
gets the message that the handler is at work on, and that is one that arrived. -/
structure Change (hub hub' : RequestManager.State) (e : RequestManager.Event) : Prop where
  requests : hub.requests <+: hub'.requests
  done : ∀ r ∈ hub.done, r ∈ hub'.done
  logged : ∀ d ∈ hub.log, d ∈ hub'.log
  log : ∀ d ∈ hub'.log, d ∈ hub.log ∨ hub.handler = .found d
  found : ∀ d, hub'.handler = .found d →
    hub.handler = .found d ∨ ∃ order, e = .message d.message order
  handled : ∀ d, hub.handler = .found d →
    hub'.handler = .found d ∨ d ∈ hub'.log ∨ d.request ∈ hub'.done
  unsent : ∀ r, Unsent hub' r → (Unsent hub r ∨ r ∉ hub.requests) ∧ r ∉ sent e
  sent : ∀ r ∈ sent e, (r, Phase.registered) ∈ hub.calls
  watching : ∀ r, (r, Phase.watching) ∈ hub'.calls →
    (r, Phase.watching) ∈ hub.calls ∨ r ∈ Conversation.sent e
  calls : (∀ c ∈ hub.calls, c.1 ∈ hub.requests) → ∀ c ∈ hub'.calls, c.1 ∈ hub'.requests
  registered : ∀ r, (r, Phase.registered) ∈ hub'.calls →
    (r, Phase.registered) ∈ hub.calls ∨ e = .register r
  removing : ∀ r, hub'.handler = .sent r → hub.handler = .sent r ∨ r ∈ hub'.delivered

/-- A channel that got a message has got it. -/
theorem Change.delivered (h : Change hub hub' e) (hr : r ∈ hub.delivered) : r ∈ hub'.delivered := by
  obtain ⟨d, hd, rfl⟩ := List.mem_map.mp hr
  exact List.mem_map_of_mem (h.logged d hd)

/-- A request whose message has gone out stays one. -/
theorem Change.gone (h : Change hub hub' e) (hr : r ∈ hub.requests ∧ ¬ Unsent hub r) :
    r ∈ hub'.requests ∧ ¬ Unsent hub' r := by
  refine ⟨h.requests.subset hr.1, fun hunsent => ?_⟩
  exact (h.unsent r hunsent).1.elim hr.2 fun hnew => hnew hr.1

/-- Steps that leave the messages alone, and start no call. -/
theorem change_of_same (hrequests : hub'.requests = hub.requests)
    (hdone : ∀ r ∈ hub.done, r ∈ hub'.done) (hlog : hub'.log = hub.log)
    (hhandler : hub'.handler = hub.handler) (hcalls : ∀ c ∈ hub'.calls, c ∈ hub.calls)
    (hsent : sent e = []) : Change hub hub' e where
  requests := hrequests ▸ List.prefix_rfl
  done := hdone
  logged _ hd := hlog ▸ hd
  log _ hd := .inl (hlog ▸ hd)
  found _ hd := .inl (hhandler ▸ hd)
  handled _ hd := .inl (hhandler ▸ hd)
  unsent _ hr := ⟨.inl (hr.imp (hcalls _) (hcalls _)), hsent ▸ List.not_mem_nil⟩
  sent _ hr := absurd (hsent ▸ hr) List.not_mem_nil
  watching _ hr := .inl (hcalls _ hr)
  calls h c hc := hrequests ▸ h c (hcalls c hc)
  registered _ hr := .inl (hcalls _ hr)
  removing _ hr := .inl (hhandler ▸ hr)

/-- Steps of the handler of a message: requests, calls and contexts stay. -/
theorem change_of_handler (hrequests : hub'.requests = hub.requests) (hdone : hub'.done = hub.done)
    (hcalls : hub'.calls = hub.calls) (hsent : sent e = [])
    (hlogged : ∀ d ∈ hub.log, d ∈ hub'.log)
    (hlog : ∀ d ∈ hub'.log, d ∈ hub.log ∨ hub.handler = .found d)
    (hfound : ∀ d, hub'.handler = .found d →
      hub.handler = .found d ∨ ∃ order, e = .message d.message order)
    (hhandled : ∀ d, hub.handler = .found d →
      hub'.handler = .found d ∨ d ∈ hub'.log ∨ d.request ∈ hub'.done)
    (hremoving : ∀ r, hub'.handler = .sent r → hub.handler = .sent r ∨ r ∈ hub'.delivered) :
    Change hub hub' e where
  requests := hrequests ▸ List.prefix_rfl
  done _ hr := hdone ▸ hr
  logged := hlogged
  log := hlog
  found := hfound
  handled := hhandled
  unsent _ hr := ⟨.inl (hr.imp (hcalls ▸ ·) (hcalls ▸ ·)), hsent ▸ List.not_mem_nil⟩
  sent _ hr := absurd (hsent ▸ hr) List.not_mem_nil
  watching _ hr := .inl (hcalls ▸ hr)
  calls h c hc := hrequests ▸ h c (hcalls ▸ hc)
  registered _ hr := .inl (hcalls ▸ hr)
  removing := hremoving

theorem change_cancelRequest (r : PendingRequest) (hsent : sent e = []) :
    Change hub { hub.cancelRequest r.id with calls := Table.remove Prod.fst hub.calls r } e := by
  obtain ⟨-, hrequests, -, hhandler, hlog⟩ := cancelRequest_eq hub r.id
  refine change_of_same hrequests (fun q hq => ?_) hlog hhandler
    (fun c hc => (Table.mem_remove.mp hc).1) hsent
  change q ∈ (hub.cancelRequest r.id).done
  unfold RequestManager.State.cancelRequest
  split
  · exact hq
  · exact List.mem_cons_of_mem _ hq

theorem change_newRequest {now : ℕ} (hinv : hub.Inv)
    (h : RequestManager.step hub (.newRequest now) = some hub') :
    Change hub hub' (.newRequest now) := by
  obtain rfl := Option.some.inj h
  have hnew : (⟨hub.requests.length, hub.nextID + 1, now⟩ : PendingRequest) ∉ hub.requests := by
    intro hr
    have hget := (hinv.requests _ hr).2
    dsimp only at hget
    rw [List.getElem?_eq_none le_rfl] at hget
    cases hget
  refine ⟨List.prefix_append _ _, fun _ hr => hr, fun _ hd => hd, fun _ hd => .inl hd,
    fun _ hd => .inl hd, fun _ hd => .inl hd, fun r hr => ⟨?_, List.not_mem_nil⟩, nofun,
    fun r hr => .inl ?_, fun hcalls c hc => ?_, fun r hr => .inl ?_, fun _ hr => .inl hr⟩
  · obtain hr | hr := hr
    · obtain heq | hr := List.mem_cons.mp hr
      · obtain ⟨rfl, -⟩ := Prod.mk.inj heq
        exact .inr hnew
      · exact .inl (.inl hr)
    · exact .inl (.inr ((List.mem_cons.mp hr).resolve_left nofun))
  · exact (List.mem_cons.mp hr).resolve_left nofun
  · obtain rfl | hc := List.mem_cons.mp hc
    · exact List.mem_append_right _ List.mem_cons_self
    · exact List.mem_append_left _ (hcalls c hc)
  · exact (List.mem_cons.mp hr).resolve_left nofun

/-- A call goes on to its next phase. -/
theorem mem_calls_store {c : PendingRequest × Phase} {phase : Phase}
    (hc : c ∈ Table.store Prod.fst hub.calls (r, phase)) :
    c = (r, phase) ∨ c ∈ hub.calls ∧ c.1 ≠ r := Table.mem_store.mp hc

theorem calls_store {phase phase' : Phase} (hr : (r, phase) ∈ hub.calls)
    (hcalls : ∀ c ∈ hub.calls, c.1 ∈ hub.requests) :
    ∀ c ∈ Table.store Prod.fst hub.calls (r, phase'), c.1 ∈ hub.requests := by
  intro c hc
  obtain rfl | hc := mem_calls_store hc
  · exact hcalls (r, phase) hr
  · exact hcalls c hc.1

theorem change_register (h : RequestManager.step hub (.register r) = some hub') :
    Change hub hub' (.register r) := by
  obtain ⟨hr, rfl⟩ := guard_eq_some h
  refine ⟨List.prefix_rfl, fun _ hr => hr, fun _ hd => hd, fun _ hd => .inl hd,
    fun _ hd => .inl hd, fun _ hd => .inl hd, fun q hq => ⟨.inl ?_, List.not_mem_nil⟩, nofun,
    fun q hq => .inl ?_, calls_store hr, fun q hq => ?_, fun _ hq => .inl hq⟩
  · obtain hq | hq := hq
    · exact .inl ((mem_calls_store hq).resolve_left nofun).1
    · obtain heq | hq := mem_calls_store hq
      · obtain rfl := congrArg Prod.fst heq
        exact .inl hr
      · exact .inr hq.1
  · exact ((mem_calls_store hq).resolve_left nofun).1
  · obtain heq | hq := mem_calls_store hq
    · exact .inr (congrArg RequestManager.Event.register (Prod.mk.inj heq).1.symm)
    · exact .inl hq.1

theorem change_send {ok : Bool} (h : RequestManager.step hub (.send r ok) = some hub') :
    Change hub hub' (.send r ok) := by
  obtain ⟨hr, rfl⟩ := guard_eq_some h
  have hphase {p : Phase} (hp : p = .created ∨ p = .registered) {q : PendingRequest}
      (hq : (q, p) ∈ Table.store Prod.fst hub.calls (r, if ok then .watching else .failed)) :
      (q, p) ∈ hub.calls ∧ q ≠ r := by
    refine (mem_calls_store hq).resolve_left fun heq => ?_
    have hsnd := congrArg Prod.snd heq
    dsimp only at hsnd
    obtain rfl | rfl := hp <;> split_ifs at hsnd
  have hsent {q : PendingRequest} (hq : q ∈ sent (.send r ok)) : q = r := by
    cases ok with
    | true => exact List.mem_singleton.mp hq
    | false => cases hq
  refine ⟨List.prefix_rfl, fun _ hr => hr, fun _ hd => hd, fun _ hd => .inl hd,
    fun _ hd => .inl hd, fun _ hd => .inl hd, fun q hq => ?_, fun q hq => ?_, fun q hq => ?_,
    calls_store hr, fun q hq => .inl (hphase (.inr rfl) hq).1, fun _ hq => .inl hq⟩
  · obtain ⟨hq, hne⟩ | ⟨hq, hne⟩ := hq.imp (hphase (.inl rfl)) (hphase (.inr rfl))
    · exact ⟨.inl (.inl hq), fun hmem => hne (hsent hmem)⟩
    · exact ⟨.inl (.inr hq), fun hmem => hne (hsent hmem)⟩
  · exact hsent hq ▸ hr
  · obtain heq | hq := mem_calls_store hq
    · obtain ⟨rfl, hwatching⟩ := Prod.mk.inj heq
      cases ok with
      | true => exact .inr List.mem_cons_self
      | false => cases hwatching
    · exact .inl hq.1

theorem change_message {message : Item} {order : Pending}
    (h : RequestManager.step hub (.message message order) = some hub') :
    Change hub hub' (.message message order) := by
  simp only [RequestManager.step] at h
  split at h
  · rename_i hidle
    split_ifs at h
    split at h
    · obtain rfl := Option.some.inj h
      exact change_of_same rfl (fun _ hr => hr) rfl rfl (fun _ hc => hc) rfl
    · obtain rfl := Option.some.inj h
      refine change_of_handler rfl rfl rfl rfl (fun _ hd => hd) (fun _ hd => .inl hd)
        (fun d hd => ?_) (fun d hd => Handler.noConfusion (hidle.symm.trans hd))
        fun _ hr => Handler.noConfusion hr
      obtain rfl := Handler.found.inj hd
      exact .inr ⟨order, rfl⟩
  · cases h

theorem change_select {deliver : Bool} (h : RequestManager.step hub (.select deliver) = some hub') :
    Change hub hub' (.select deliver) := by
  simp only [RequestManager.step] at h
  split at h
  · rename_i d hfound
    have heq {d' : Delivery} (hd' : hub.handler = .found d') : d' = d :=
      Handler.found.inj (hd'.symm.trans hfound)
    split_ifs at h with hdeliver hroom hdone
    · obtain rfl := Option.some.inj h
      refine change_of_handler rfl rfl rfl rfl (fun _ hd => List.mem_cons_of_mem _ hd)
        (fun d' hd' => ?_) (fun _ hd' => Handler.noConfusion hd') (fun d' hd' => .inr (.inl ?_))
        fun r hr => .inr ?_
      · obtain rfl | hd' := List.mem_cons.mp hd'
        · exact .inr hfound
        · exact .inl hd'
      · exact heq hd' ▸ List.mem_cons_self
      · obtain rfl := Handler.sent.inj hr
        exact List.mem_cons_self
    · obtain rfl := Option.some.inj h
      exact change_of_handler rfl rfl rfl rfl (fun _ hd => hd) (fun _ hd => .inl hd)
        (fun _ hd' => Handler.noConfusion hd') (fun d' hd' => .inr (.inr (heq hd' ▸ hdone)))
        fun _ hr => Handler.noConfusion hr
  · cases h

/-- **Every step is such a change.** -/
theorem change_step (hinv : hub.Inv) (h : RequestManager.step hub e = some hub') :
    Change hub hub' e := by
  cases e with
  | newRequest now => exact change_newRequest hinv h
  | register r => exact change_register h
  | send r ok => exact change_send h
  | message message order => exact change_message h
  | select deliver => exact change_select h
  | cancel r | cleanup r =>
    obtain ⟨-, rfl⟩ := guard_eq_some h
    exact change_cancelRequest r rfl
  | contextDone r =>
    obtain ⟨-, rfl⟩ := guard_eq_some h
    exact change_of_same rfl (fun _ hq => List.mem_cons_of_mem _ hq) rfl rfl (fun _ hc => hc) rfl
  | receive r =>
    obtain rfl := Option.some.inj h
    exact change_of_same rfl (fun _ hq => hq) rfl rfl (fun _ hc => hc) rfl
  | delete =>
    simp only [RequestManager.step] at h
    split at h
    · rename_i r hsent
      obtain rfl := Option.some.inj h
      exact change_of_handler rfl rfl rfl rfl (fun _ hd => hd) (fun _ hd => .inl hd)
        (fun _ hd => Handler.noConfusion hd)
        (fun d hd => Handler.noConfusion (hsent.symm.trans hd)) fun _ hr => Handler.noConfusion hr
    · cases h
  | close =>
    obtain rfl := Option.some.inj h
    exact change_of_same rfl (fun _ hq => List.mem_append_right _ hq) rfl rfl (fun _ hc => hc) rfl

end Hub

/-! ## What a caller gets -/

section Safety

variable {ask : Ask} {s s' : State} {e : Event}

/-- The requests whose messages have gone out. -/
def State.asked (s : State) : List PendingRequest := s.served.map Served.request ++ s.toAgent

/-- **What every run keeps**: a request goes out once, and what comes back is what the agent sent
for one of them. -/
structure Inv (ask : Ask) (s : State) : Prop where
  hub : s.hub.Inv
  calls : ∀ c ∈ s.hub.calls, c.1 ∈ s.hub.requests
  asked : ∀ r ∈ s.asked, r ∈ s.hub.requests ∧ ¬ Unsent s.hub r
  once : s.asked.Nodup
  toHub : ∀ m ∈ s.toHub, ∃ a ∈ s.served, m ∈ a.messages ask
  found : ∀ d, s.hub.handler = .found d → ∃ a ∈ s.served, d.message ∈ a.messages ask
  log : ∀ d ∈ s.hub.log, ∃ a ∈ s.served, d.message ∈ a.messages ask

theorem inv_init (hubVerified : Bool) : Inv ask (.init hubVerified) where
  hub := RequestManager.inv_init
  calls _ hc := absurd hc List.not_mem_nil
  asked _ hr := absurd hr List.not_mem_nil
  once := List.nodup_nil
  toHub _ hm := absurd hm List.not_mem_nil
  found _ hd := nomatch hd
  log _ hd := absurd hd List.not_mem_nil

theorem nodup_sent (e : RequestManager.Event) : (sent e).Nodup := by
  unfold sent
  split
  · exact List.nodup_singleton _
  · exact List.nodup_nil

theorem step_hub {e : RequestManager.Event} (hstep : step ask s (.hub e) = some s') :
    (∀ message order, e ≠ .message message order) ∧
      ∃ hub, RequestManager.step s.hub e = some hub ∧
        s' = { s with hub := hub, toAgent := s.toAgent ++ sent e } := by
  cases e with
  | message message order => cases hstep
  | _ =>
    simp only [step, Option.map_eq_some_iff] at hstep
    obtain ⟨hub, hhub, rfl⟩ := hstep
    exact ⟨nofun, hub, hhub, rfl⟩

/-- A step of the hub's goroutines. -/
theorem Inv.hubStep (h : Inv ask s) {e : RequestManager.Event} {hub : RequestManager.State}
    (he : ∀ message order, e ≠ .message message order)
    (hstep : RequestManager.step s.hub e = some hub) :
    Inv ask { s with hub := hub, toAgent := s.toAgent ++ sent e } := by
  have hchange := change_step h.hub hstep
  have hasked : State.asked { s with hub := hub, toAgent := s.toAgent ++ sent e } =
      s.asked ++ sent e := (List.append_assoc ..).symm
  have hfound {d : Delivery} (hd : hub.handler = .found d) : s.hub.handler = .found d := by
    obtain hd | ⟨order, rfl⟩ := hchange.found d hd
    · exact hd
    · exact absurd rfl (he d.message order)
  refine ⟨RequestManager.inv_step h.hub hstep, hchange.calls h.calls, fun r hr => ?_, ?_, h.toHub,
    fun d hd => h.found d (hfound hd), fun d hd => ?_⟩
  · rw [hasked] at hr
    obtain hr | hr := List.mem_append.mp hr
    · exact hchange.gone (h.asked r hr)
    · refine ⟨hchange.requests.subset ?_, fun hunsent => (hchange.unsent r hunsent).2 hr⟩
      exact h.calls _ (hchange.sent r hr)
  · rw [hasked]
    refine h.once.append (nodup_sent e) fun r hr hr' => ?_
    exact (h.asked r hr).2 (.inr (hchange.sent r hr'))
  · exact (hchange.log d hd).elim (h.log d) (h.found d)

/-- A request that is served was asked before. -/
theorem perm_asked {r : PendingRequest} {toAgent : List PendingRequest}
    (hto : s.toAgent = r :: toAgent) :
    (r :: (s.served.map Served.request ++ toAgent)).Perm s.asked := by
  rw [State.asked, hto]
  exact List.perm_middle.symm

/-- The agent serves a message. -/
theorem Inv.serve (h : Inv ask s) {r : PendingRequest} {toAgent : List PendingRequest}
    (hto : s.toAgent = r :: toAgent) (agent : Agent) (writes : Writes) (hubVerified : Bool) :
    Inv ask { s with
      toAgent := toAgent
      hubVerified := hubVerified
      served := ⟨r, agent, writes, s.hubVerified⟩ :: s.served
      toHub := s.toHub ++ Served.messages ask ⟨r, agent, writes, s.hubVerified⟩ } := by
  have hperm := perm_asked hto
  have hold {m : Item} (hm : ∃ a ∈ s.served, m ∈ a.messages ask) :
      ∃ a ∈ (⟨r, agent, writes, s.hubVerified⟩ : Served) :: s.served, m ∈ a.messages ask := by
    obtain ⟨a, ha, hm⟩ := hm
    exact ⟨a, List.mem_cons_of_mem _ ha, hm⟩
  refine ⟨h.hub, h.calls, fun q hq => h.asked q (hperm.subset hq), hperm.nodup_iff.mpr h.once,
    fun m hm => ?_, fun d hd => hold (h.found d hd), fun d hd => hold (h.log d hd)⟩
  obtain hm | hm := List.mem_append.mp hm
  · exact hold (h.toHub m hm)
  · exact ⟨_, List.mem_cons_self, hm⟩

/-- A message arrives. -/
theorem Inv.arrive (h : Inv ask s) {message : Item} {toHub : List Item} {order : Pending}
    {hub : RequestManager.State} (hto : s.toHub = message :: toHub)
    (hstep : RequestManager.step s.hub (.message message order) = some hub) :
    Inv ask { s with hub := hub, toHub := toHub } := by
  have hchange := change_step h.hub hstep
  refine ⟨RequestManager.inv_step h.hub hstep, hchange.calls h.calls,
    fun r hr => hchange.gone (h.asked r hr), h.once,
    fun m hm => h.toHub m (hto ▸ List.mem_cons_of_mem _ hm), fun d hd => ?_, fun d hd => ?_⟩
  · obtain hd | ⟨_, heq⟩ := hchange.found d hd
    · exact h.found d hd
    · obtain ⟨rfl, -⟩ := RequestManager.Event.message.inj heq
      exact h.toHub _ (hto ▸ List.mem_cons_self)
  · exact (hchange.log d hd).elim (h.log d) (h.found d)

/-- The connection breaks. -/
theorem Inv.lost (h : Inv ask s) : Inv ask { s with toAgent := [], toHub := [] } := by
  have hsub : (s.served.map Served.request ++ []).Sublist s.asked :=
    (List.append_sublist_append_left _).mpr (List.nil_sublist _)
  exact ⟨h.hub, h.calls, fun r hr => h.asked r (hsub.subset hr), h.once.sublist hsub,
    fun m hm => absurd hm List.not_mem_nil, h.found, h.log⟩

/-- **Every step keeps the invariant.** -/
theorem inv_step (h : Inv ask s) (hstep : step ask s e = some s') : Inv ask s' := by
  cases e with
  | hub e =>
    obtain ⟨he, hub, hhub, rfl⟩ := step_hub hstep
    exact h.hubStep he hhub
  | serve agent writes =>
    simp only [step] at hstep
    split at hstep
    · cases hstep
    · rename_i r toAgent hto
      obtain rfl := Option.some.inj hstep
      exact h.serve hto agent writes _
  | arrive order =>
    simp only [step] at hstep
    split at hstep
    · cases hstep
    · rename_i message toHub hto
      obtain ⟨hub, hhub, rfl⟩ := Option.map_eq_some_iff.mp hstep
      exact h.arrive hto hhub
  | lost =>
    obtain rfl := Option.some.inj hstep
    exact h.lost

/-- **What the agent sent for a request** has its id, and is an error or the answer of a handler. -/
theorem of_mem_messages {a : Served} {m : Item} (hm : m ∈ a.messages ask) :
    ∃ r : AgentResponse, m = r.marshal ∧ r.id = some a.request.id ∧
      ((∃ err, r = errorResponse (some (UInt32.ofBitVec a.request.id)) err) ∨
        ∃ handler v, HandlerRegistry.newHandlerRegistry.handle (ask a.request).1 a.hubVerified =
            .ok handler ∧ Server.handle a.agent handler (ask a.request).2 = .ok v ∧
          r = newAgentResponse handler.payload v (some a.request.id)) := by
  obtain ⟨message, hmessage, rfl⟩ := List.mem_map.mp hm
  obtain ⟨err, rfl⟩ | ⟨handler, v, hgate, hv, rfl⟩ := mem_handleHubRequest hmessage
  · exact ⟨_, rfl, rfl, .inl ⟨err, rfl⟩⟩
  · exact ⟨_, rfl, Server.id_newAgentResponse _ _ _, .inr ⟨handler, v, hgate, hv, rfl⟩⟩

/-- A request is served once. -/
theorem Inv.served_eq (h : Inv ask s) {a a' : Served} (ha : a ∈ s.served) (ha' : a' ∈ s.served)
    (heq : a.request = a'.request) : a = a' :=
  List.inj_on_of_nodup_map (List.Nodup.of_append_left h.once) ha ha' heq

/-- A message with the id of a request that was delivered to another is not there. -/
theorem Inv.request_eq (h : Inv ask s) (hn : s.hub.requests.length < 2 ^ 32) {d : Delivery}
    (hd : d ∈ s.hub.log) {a : Served} (ha : a ∈ s.served)
    (hid : requestID d.message = some a.request.id) : a.request = d.request := by
  obtain ⟨hright, hmem⟩ := h.hub.log d hd
  have hasked := (h.asked a.request (List.mem_append_left _ (List.mem_map_of_mem ha))).1
  exact (routed_of_inv h.hub hn).unique _ hasked _ hmem (hright.by_id _ hid).symm

/-- **A caller gets the answer to its own request.**  In every run of hub and agent on a connection
(any number of requests at once, timeouts, a connection that breaks), with fewer than 2³² requests:
where a caller gets a value, it is what the handler of its action returned for its data, on an agent
that served the request once and behind the gate, carried over both encodings.  A message that the
manager routed to another request for want of a readable id gives no value. -/
theorem fetched_own {hubVerified : Bool} {es : List Event} {unmarshalErr : GoError}
    {sysData : Entities.combinedData.Val}
    {packages : (Machinery.Wire.Ty.slice .string : Machinery.Wire.Ty Encoding).Val}
    {now : BitVec 64} {d : Delivery} {handler : RequestHandler} {w : handler.payload.ty.Val}
    (hrun : run (step ask) (.init hubVerified) es = some s)
    (hn : s.hub.requests.length < 2 ^ 32) (hd : d ∈ s.hub.log)
    (haction : (ask d.request).1 = handler.action)
    (hw : fetch unmarshalErr sysData packages now d.message handler = .ok w) :
    ∃ a ∈ s.served, a.request = d.request ∧ (∀ a' ∈ s.served, a'.request = d.request → a' = a) ∧
      (handler = .checkFingerprint ∨ a.hubVerified = true) ∧
        ∃ v, Server.handle a.agent handler (ask d.request).2 = .ok v ∧
          w = handler.payload.ty.merge Encoding.cborFormat handler.payload.ty.zero v := by
  have hinv : Inv ask s := inv_of_run (fun h hstep => inv_step h hstep) (inv_init hubVerified) hrun
  obtain ⟨a, ha, hm⟩ := hinv.log d hd
  obtain ⟨r, hr, hid, hcases⟩ := of_mem_messages hm
  obtain ⟨t, dest, v', hreceive⟩ := receive_of_fetch hw
  rw [hr] at hreceive
  -- a message that is decoded was routed by its id
  have hrequestID : requestID d.message = some a.request.id := by
    rw [hr, requestID_marshal (receive_eq_ok.mp hreceive).1, hid]
  have hrequest := hinv.request_eq hn hd ha hrequestID
  obtain ⟨err, rfl⟩ | ⟨handler', v, hgate, hv, rfl⟩ := hcases
  · exact absurd hreceive receive_errorResponse_ne
  obtain ⟨hregistered, hverified⟩ := HandlerRegistry.handle_eq_ok.mp hgate
  rw [hrequest, haction] at hregistered hverified
  rw [hrequest] at hv
  obtain rfl : handler = handler' :=
    Option.some.inj ((RequestHandler.handlers_action handler).symm.trans hregistered)
  refine ⟨a, ha, hrequest, fun a' ha' heq => hinv.served_eq ha' ha (heq.trans hrequest.symm),
    hverified.imp_left fun heq => ?_, v, hv, ?_⟩
  · rw [heq] at hregistered
    have hfingerprint := RequestHandler.handlers_action .checkFingerprint
    exact Option.some.inj (hregistered.symm.trans hfingerprint)
  · rw [hr] at hw
    exact (fetch_eq_ok.mp hw).2.2

/-- A second request, one second later. -/
def secondRequest : PendingRequest := ⟨1, 2, 1⟩

/-- One caller asks for the logs of a container, and one for what Docker says of it. -/
def asks : Ask
  | ⟨0, _, _⟩ => (WebSocketAction.getContainerLogs, [])
  | _ => (WebSocketAction.getContainerInfo, [])

/-- An agent with a container. -/
def dockerAgent : Agent where
  __ := Server.bareAgent
  containerRequest := fun _ => .ok (.inl "0123456789ab")
  dockerManager := some
    { getLogs := fun _ => .ok (.inl "started")
      getContainerInfo := fun _ => .ok (.inl "\x7b\x7d") }

/-- The two requests are under way at a time, and the message of the second goes out first. -/
def askBoth : List Event :=
  [.hub (.newRequest 0), .hub (.newRequest 1), .hub (.register firstRequest),
    .hub (.register secondRequest), .hub (.send secondRequest true),
    .hub (.send firstRequest true), .serve dockerAgent ⟨fun _ => true, ""⟩,
    .serve dockerAgent ⟨fun _ => true, ""⟩, .arrive [(1, firstRequest), (2, secondRequest)],
    .hub (.select true), .hub .delete, .arrive [(1, firstRequest)], .hub (.select true)]

theorem fetched_own_askBoth : ∃ s, run (step asks) (.init true) askBoth = some s ∧
    (∃ a ∈ s.served, a.request = firstRequest ∧
      Server.handle a.agent .getContainerLogs [] = .ok (.inl "started")) ∧
    ∃ a ∈ s.served, a.request = secondRequest ∧
      Server.handle a.agent .getContainerInfo [] = .ok (.inl "\x7b\x7d") := by
  have hrun : run (step asks) (.init true) askBoth = some _ := rfl
  have hlogs : fetch (.new "cbor") Entities.combinedData.zero none 0
      (newAgentResponse .string (.inl "started") (some 1)).marshal .getContainerLogs =
        .ok (.inl "started") := rfl
  have hinfo : fetch (.new "cbor") Entities.combinedData.zero none 0
      (newAgentResponse .string (.inl "\x7b\x7d") (some 2)).marshal .getContainerInfo =
        .ok (.inl "\x7b\x7d") := rfl
  obtain ⟨a, ha, hrequest, -, -, v, hv, hw⟩ :=
    fetched_own hrun (by decide) List.mem_cons_self rfl hlogs
  obtain ⟨a', ha', hrequest', -, -, v', hv', hw'⟩ :=
    fetched_own hrun (by decide) (List.mem_cons_of_mem _ List.mem_cons_self) rfl hinfo
  obtain rfl := hw.trans (Encoding.text_cbor v)
  obtain rfl := hw'.trans (Encoding.text_cbor v')
  exact ⟨_, hrun, ⟨a, ha, hrequest, hv⟩, a', ha', hrequest', hv'⟩

end Safety

/-! ## No answer is lost -/

section Delivery

variable {hub hub' : RequestManager.State} {r : PendingRequest}

/-- The manager has the request, has seen its context done, or has a message for it. -/
def Held (hub : RequestManager.State) (r : PendingRequest) : Prop :=
  (r.id, r) ∈ hub.pendingReqs ∨ r ∈ hub.done ∨ r ∈ hub.delivered

/-- A request whose entry is gone for a reason. -/
theorem Held.keep (h : Held hub r) (hdone : ∀ r ∈ hub.done, r ∈ hub'.done)
    (hdelivered : ∀ r ∈ hub.delivered, r ∈ hub'.delivered)
    (hpending : (r.id, r) ∈ hub.pendingReqs → Held hub' r) : Held hub' r :=
  h.elim hpending fun h => .inr (h.imp (hdone r) (hdelivered r))

/-- `cancelRequest` takes the entry of one request, whose context is done then. -/
theorem held_cancelRequest (hinv : hub.Inv) (hn : hub.requests.length < 2 ^ 32)
    (hr : r ∈ hub.requests) (reqID : RequestID) (h : Held hub r) :
    Held (hub.cancelRequest reqID) r := by
  unfold RequestManager.State.cancelRequest
  split
  · exact h
  · rename_i e he
    refine h.keep (fun _ hq => List.mem_cons_of_mem _ hq) (fun _ hq => hq) fun hpending => ?_
    by_cases hid : r.id = reqID
    · obtain ⟨hmem, heid, -⟩ := hinv.pending e (Table.mem_of_lookup he)
      have heq : e.2 = r := (routed_of_inv hinv hn).unique _ hmem _ hr
        (heid.trans ((Table.key_of_lookup he).trans hid.symm))
      exact .inr (.inl (heq ▸ List.mem_cons_self))
    · exact .inl (Table.mem_remove.mpr ⟨hpending, hid⟩)

theorem held_register {q : PendingRequest} (hinv : hub.Inv) (hn : hub.requests.length < 2 ^ 32)
    (hr : r ∈ hub.requests) (hstep : RequestManager.step hub (.register q) = some hub')
    (h : r = q ∨ Held hub r) : Held hub' r := by
  obtain ⟨hq, rfl⟩ := guard_eq_some hstep
  obtain rfl | hne := eq_or_ne r q
  · exact .inl List.mem_cons_self
  refine (h.resolve_left hne).keep (fun _ hq => hq) (fun _ hq => hq) fun hpending => .inl ?_
  refine Table.mem_store.mpr (.inr ⟨hpending, fun hid => hne ?_⟩)
  exact (routed_of_inv hinv hn).unique _ hr _ (hinv.created q hq).1 hid

/-- The handler takes the entry of a request that got its message. -/
theorem held_delete (hinv : hub.Inv) (hn : hub.requests.length < 2 ^ 32) (hr : r ∈ hub.requests)
    (hsent : ∀ q, hub.handler = .sent q → q ∈ hub.delivered)
    (hstep : RequestManager.step hub .delete = some hub') (h : Held hub r) : Held hub' r := by
  simp only [RequestManager.step] at hstep
  split at hstep
  · rename_i q hq
    obtain rfl := Option.some.inj hstep
    refine h.keep (fun _ hq => hq) (fun _ hq => hq) fun hpending => ?_
    by_cases hid : r.id = q.id
    · have hmem := hsent q hq
      obtain rfl : r = q := (routed_of_inv hinv hn).unique _ hr _
        (mem_requests_of_delivered hinv hmem) hid
      exact .inr (.inr hmem)
    · exact .inl (Table.mem_remove.mpr ⟨hpending, hid⟩)
  · cases hstep

/-- **No request is lost sight of.** -/
theorem held_step {e : RequestManager.Event} (hinv : hub.Inv)
    (hn : hub.requests.length < 2 ^ 32) (hr : r ∈ hub.requests)
    (hsent : ∀ q, hub.handler = .sent q → q ∈ hub.delivered)
    (hstep : RequestManager.step hub e = some hub') (h : Held hub r) : Held hub' r := by
  have hchange := change_step hinv hstep
  -- unless the step takes entries away
  have hsame (hpending : hub'.pendingReqs = hub.pendingReqs) : Held hub' r :=
    h.keep hchange.done (fun _ => hchange.delivered) fun hmem => .inl (hpending ▸ hmem)
  cases e with
  | register q => exact held_register hinv hn hr hstep (.inr h)
  | cancel q | cleanup q =>
    obtain ⟨-, rfl⟩ := guard_eq_some hstep
    exact held_cancelRequest hinv hn hr q.id h
  | delete => exact held_delete hinv hn hr hsent hstep h
  | close =>
    obtain rfl := Option.some.inj hstep
    refine h.keep (fun _ hq => List.mem_append_right _ hq) (fun _ hq => hq)
      fun hpending => .inr (.inl (List.mem_append_left _ ?_))
    exact List.mem_map_of_mem hpending
  | message message order =>
    simp only [RequestManager.step] at hstep
    split at hstep
    · split_ifs at hstep
      split at hstep <;> obtain rfl := Option.some.inj hstep <;> exact hsame rfl
    · cases hstep
  | select deliver =>
    simp only [RequestManager.step] at hstep
    split at hstep
    · split_ifs at hstep <;> obtain rfl := Option.some.inj hstep <;> exact hsame rfl
    · cases hstep
  | send q ok | contextDone q =>
    obtain ⟨-, rfl⟩ := guard_eq_some hstep
    exact hsame rfl
  | newRequest now | receive q =>
    obtain rfl := Option.some.inj hstep
    exact hsame rfl

variable {ask : Ask} {s s' : State} {e : Event}

/-- **The connection holds, and the hub can decode what the agent sends.** -/
def Clean (ask : Ask) (s : State) : Event → Prop
  | .serve agent writes => ∀ r ∈ s.toAgent.head?,
      ∀ m ∈ Served.messages ask ⟨r, agent, writes, s.hubVerified⟩,
        (AgentResponse.unmarshal m).isSome
  | .lost => False
  | _ => True

theorem requestID_of_mem_messages {a : Served} {m : Item} (hm : m ∈ a.messages ask)
    (hsome : (AgentResponse.unmarshal m).isSome) : requestID m = some a.request.id := by
  obtain ⟨r, rfl, hid, -⟩ := of_mem_messages hm
  obtain ⟨r', hr'⟩ := Option.isSome_iff_exists.mp hsome
  rw [requestID_marshal (AgentResponse.unmarshal_marshal.mp hr').1, hid]

/-- Of the messages for a request there is one at most. -/
theorem Served.messages_eq_of_mem {a : Served} {m : Item} (hm : m ∈ a.messages ask) :
    a.messages ask = [m] := by
  have hle : (a.messages ask).length ≤ 1 :=
    (List.length_map ..).trans_le (length_handleHubRequest_le _)
  obtain ⟨x, hx⟩ := List.length_eq_one_iff.mp (hle.antisymm (List.length_pos_of_mem hm))
  obtain rfl := List.mem_singleton.mp (hx ▸ hm)
  exact hx

/-- An answer is on its way to its request, has arrived there, or finds nobody waiting. -/
def Comes (s : State) (r : PendingRequest) (m : Item) : Prop :=
  m ∈ s.toHub ∨ (∃ d, s.hub.handler = .found d ∧ d.request = r ∧ d.message = m) ∨
    (∃ d ∈ s.hub.log, d.request = r ∧ d.message = m) ∨ r ∈ s.hub.done

/-- **What clean runs keep**, with fewer than 2³² requests. -/
structure Kept (ask : Ask) (s : State) : Prop where
  inv : Inv ask s
  readable : ∀ a ∈ s.served, ∀ m ∈ a.messages ask, requestID m = some a.request.id
  watching : ∀ r, (r, Phase.watching) ∈ s.hub.calls → r ∈ s.asked
  held : ∀ r, (r, Phase.registered) ∈ s.hub.calls ∨ r ∈ s.asked → Held s.hub r
  removing : ∀ r, s.hub.handler = .sent r → r ∈ s.hub.delivered
  comes : ∀ a ∈ s.served, ∀ m ∈ a.messages ask, Comes s a.request m

theorem kept_init (hubVerified : Bool) : Kept ask (.init hubVerified) where
  inv := inv_init hubVerified
  readable _ ha := absurd ha List.not_mem_nil
  watching _ hr := absurd hr List.not_mem_nil
  held _ hr := hr.elim (absurd · List.not_mem_nil) (absurd · List.not_mem_nil)
  removing _ hr := nomatch hr
  comes _ ha := absurd ha List.not_mem_nil

theorem Kept.mem_requests (h : Kept ask s)
    (hr : (r, Phase.registered) ∈ s.hub.calls ∨ r ∈ s.asked) : r ∈ s.hub.requests :=
  hr.elim (h.inv.calls _) fun hr => (h.inv.asked r hr).1

/-- A step of the hub's goroutines. -/
theorem Kept.hubStep (h : Kept ask s) (hn : s.hub.requests.length < 2 ^ 32)
    {e : RequestManager.Event} (he : ∀ message order, e ≠ .message message order)
    (hstep : RequestManager.step s.hub e = some hub) :
    Kept ask { s with hub := hub, toAgent := s.toAgent ++ sent e } := by
  have hchange := change_step h.inv.hub hstep
  have hasked : State.asked { s with hub := hub, toAgent := s.toAgent ++ sent e } =
      s.asked ++ sent e := (List.append_assoc ..).symm
  have hheld {r : PendingRequest} (hr : (r, Phase.registered) ∈ s.hub.calls ∨ r ∈ s.asked) :
      Held hub r :=
    held_step h.inv.hub hn (h.mem_requests hr) h.removing hstep (h.held r hr)
  refine ⟨h.inv.hubStep he hstep, h.readable, fun r hr => ?_, fun r hr => ?_,
    fun r hr => (hchange.removing r hr).elim (hchange.delivered <| h.removing r ·) id,
    fun a ha m hm => ?_⟩
  · rw [hasked, List.mem_append]
    exact (hchange.watching r hr).imp_left (h.watching r)
  · obtain hr | hr := hr
    · obtain hr | rfl := hchange.registered r hr
      · exact hheld (.inl hr)
      · obtain ⟨hcreated, -⟩ := guard_eq_some hstep
        exact held_register h.inv.hub hn (h.inv.hub.created r hcreated).1 hstep (.inl rfl)
    · rw [hasked] at hr
      obtain hr | hr := List.mem_append.mp hr
      · exact hheld (.inr hr)
      · exact hheld (.inl (hchange.sent r hr))
  · obtain hm | ⟨d, hd, hrequest, hmessage⟩ | ⟨d, hd, hdm⟩ | hdone := h.comes a ha m hm
    · exact .inl hm
    · obtain hd | hd | hd := hchange.handled d hd
      · exact .inr (.inl ⟨d, hd, hrequest, hmessage⟩)
      · exact .inr (.inr (.inl ⟨d, hd, hrequest, hmessage⟩))
      · exact .inr (.inr (.inr (hrequest ▸ hd)))
    · exact .inr (.inr (.inl ⟨d, hchange.logged d hd, hdm⟩))
    · exact .inr (.inr (.inr (hchange.done _ hdone)))

/-- The agent serves a message. -/
theorem Kept.serve (h : Kept ask s) {toAgent : List PendingRequest}
    (hto : s.toAgent = r :: toAgent) {agent : Agent} {writes : Writes}
    (hclean : Clean ask s (.serve agent writes)) (hubVerified : Bool) :
    Kept ask { s with
      toAgent := toAgent
      hubVerified := hubVerified
      served := ⟨r, agent, writes, s.hubVerified⟩ :: s.served
      toHub := s.toHub ++ Served.messages ask ⟨r, agent, writes, s.hubVerified⟩ } := by
  have hperm := perm_asked hto
  refine ⟨h.inv.serve hto agent writes hubVerified, fun a ha m hm => ?_,
    fun q hq => hperm.symm.subset (h.watching q hq),
    fun q hq => h.held q (hq.imp_right fun hq => hperm.subset hq), h.removing,
    fun a ha m hm => ?_⟩
  · obtain rfl | ha := List.mem_cons.mp ha
    · exact requestID_of_mem_messages hm (hclean r (hto ▸ rfl) m hm)
    · exact h.readable a ha m hm
  · obtain rfl | ha := List.mem_cons.mp ha
    · exact .inl (List.mem_append_right _ hm)
    · exact (h.comes a ha m hm).imp_left (List.mem_append_left _)

/-- **An answer that arrives finds its request**, unless that is no longer waited for. -/
theorem Kept.lookup (h : Kept ask s) (hn : s.hub.requests.length < 2 ^ 32) {a : Served}
    (ha : a ∈ s.served) {m : Item} (hm : m ∈ a.messages ask) (order : Pending) :
    s.hub.lookup m order = some a.request ∨
      (∃ d ∈ s.hub.log, d.request = a.request ∧ d.message = m) ∨ a.request ∈ s.hub.done := by
  have hasked : a.request ∈ s.asked := List.mem_append_left _ (List.mem_map_of_mem ha)
  obtain hpending | hdone | hdelivered := h.held a.request (.inr hasked)
  · left
    unfold RequestManager.State.lookup
    rw [h.readable a ha m hm]
    cases hl : Table.lookup Prod.fst s.hub.pendingReqs a.request.id with
    | none => exact absurd rfl (Table.key_ne_of_lookup_eq_none hl _ hpending)
    | some e =>
      obtain ⟨hmem, hid, -⟩ := h.inv.hub.pending e (Table.mem_of_lookup hl)
      obtain heq : e.2 = a.request := (routed_of_inv h.inv.hub hn).unique _ hmem _
        (h.inv.asked _ hasked).1 (hid.trans (Table.key_of_lookup hl))
      dsimp only
      rw [hl, Option.map_some, heq]
  · exact .inr (.inr hdone)
  · obtain ⟨d, hd, hrequest⟩ := List.mem_map.mp hdelivered
    obtain ⟨a', ha', hm'⟩ := h.inv.log d hd
    have heq := h.inv.request_eq hn hd ha' (h.readable a' ha' _ hm')
    obtain rfl := h.inv.served_eq ha' ha (heq.trans hrequest)
    obtain rfl := List.mem_singleton.mp (Served.messages_eq_of_mem hm' ▸ hm)
    exact .inr (.inl ⟨d, hd, hrequest, rfl⟩)

/-- A message arrives. -/
theorem Kept.arrive (h : Kept ask s) (hn : s.hub.requests.length < 2 ^ 32) {message : Item}
    {toHub : List Item} {order : Pending} (hto : s.toHub = message :: toHub)
    (hstep : RequestManager.step s.hub (.message message order) = some hub) :
    Kept ask { s with hub := hub, toHub := toHub } := by
  have hchange := change_step h.inv.hub hstep
  have hsame {r : PendingRequest} (hr : r ∈ sent (.message message order)) :
      (r, Phase.watching) ∈ s.hub.calls := absurd hr List.not_mem_nil
  have hheld {r : PendingRequest} (hr : (r, Phase.registered) ∈ s.hub.calls ∨ r ∈ s.asked) :
      Held hub r :=
    held_step h.inv.hub hn (h.mem_requests hr) h.removing hstep (h.held r hr)
  refine ⟨h.inv.arrive hto hstep, h.readable,
    fun r hr => h.watching r ((hchange.watching r hr).elim id hsame),
    fun r hr => hheld (hr.imp_left fun hr => (hchange.registered r hr).resolve_right nofun),
    fun r hr => (hchange.removing r hr).elim (hchange.delivered <| h.removing r ·) id,
    fun a ha m hm => ?_⟩
  -- what was there before the message
  have hold (hm : (∃ d ∈ s.hub.log, d.request = a.request ∧ d.message = m) ∨
      a.request ∈ s.hub.done) : Comes { s with hub := hub, toHub := toHub } a.request m := by
    obtain ⟨d, hd, hdm⟩ | hdone := hm
    · exact .inr (.inr (.inl ⟨d, hchange.logged d hd, hdm⟩))
    · exact .inr (.inr (.inr (hchange.done _ hdone)))
  simp only [RequestManager.step] at hstep
  split at hstep
  · rename_i hidle
    obtain hm' | ⟨d, hd, -⟩ | hm' := h.comes a ha m hm
    · rw [hto] at hm'
      obtain rfl | hm' := List.mem_cons.mp hm'
      · obtain hlookup | hm' := h.lookup hn ha hm order
        · rw [hlookup] at hstep
          split_ifs at hstep
          obtain rfl := Option.some.inj hstep
          exact .inr (.inl ⟨_, rfl, rfl, rfl⟩)
        · exact hold hm'
      · exact .inl hm'
    · cases hidle.symm.trans hd
    · exact hold hm'
  · cases hstep

/-- **Every clean step keeps it**, while ids do not repeat. -/
theorem kept_step (h : Kept ask s) (hn : s.hub.requests.length < 2 ^ 32) (hclean : Clean ask s e)
    (hstep : step ask s e = some s') : Kept ask s' := by
  cases e with
  | hub e =>
    obtain ⟨he, hub, hhub, rfl⟩ := step_hub hstep
    exact h.hubStep hn he hhub
  | serve agent writes =>
    simp only [step] at hstep
    split at hstep
    · cases hstep
    · rename_i r toAgent hto
      obtain rfl := Option.some.inj hstep
      exact h.serve hto hclean _
  | arrive order =>
    simp only [step] at hstep
    split at hstep
    · cases hstep
    · rename_i message toHub hto
      obtain ⟨hub, hhub, rfl⟩ := Option.map_eq_some_iff.mp hstep
      exact h.arrive hn hto hhub
  | lost => exact hclean.elim

/-- Requests stay. -/
theorem requests_le (h : Inv ask s) (hstep : step ask s e = some s') :
    s.hub.requests.length ≤ s'.hub.requests.length := by
  cases e with
  | hub e =>
    obtain ⟨-, hub, hhub, rfl⟩ := step_hub hstep
    exact (change_step h.hub hhub).requests.length_le
  | serve agent writes =>
    simp only [step] at hstep
    split at hstep
    · cases hstep
    · obtain rfl := Option.some.inj hstep
      exact le_rfl
  | arrive order =>
    simp only [step] at hstep
    split at hstep
    · cases hstep
    · obtain ⟨hub, hhub, rfl⟩ := Option.map_eq_some_iff.mp hstep
      exact (change_step h.hub hhub).requests.length_le
  | lost =>
    obtain rfl := Option.some.inj hstep
    exact le_rfl

theorem kept_of_clean {hubVerified : Bool} {es : List Event}
    (hclean : Along (step ask) (Clean ask) (.init hubVerified) es)
    (hrun : run (step ask) (.init hubVerified) es = some s)
    (hn : s.hub.requests.length < 2 ^ 32) : Kept ask s := by
  have hstep {s s' : State} {e : Event}
      (h : Inv ask s ∧ (s.hub.requests.length < 2 ^ 32 → Kept ask s)) (hclean : Clean ask s e)
      (hstep : step ask s e = some s') :
      Inv ask s' ∧ (s'.hub.requests.length < 2 ^ 32 → Kept ask s') := by
    refine ⟨inv_step h.1 hstep, fun hn => ?_⟩
    have hn := (requests_le h.1 hstep).trans_lt hn
    exact kept_step (h.2 hn) hn hclean hstep
  exact (inv_of_along hstep ⟨inv_init hubVerified, fun _ => kept_init hubVerified⟩ hclean hrun).2 hn

/-- What a channel got is the message of its request. -/
theorem Kept.messages_eq (h : Kept ask s) (hn : s.hub.requests.length < 2 ^ 32) {d : Delivery}
    (hd : d ∈ s.hub.log) :
    ∃ a ∈ s.served, a.request = d.request ∧ a.messages ask = [d.message] := by
  obtain ⟨a, ha, hm⟩ := h.inv.log d hd
  exact ⟨a, ha, h.inv.request_eq hn hd ha (h.readable a ha _ hm), Served.messages_eq_of_mem hm⟩

/-- **No answer is lost, and none goes astray.**  In every run over a connection that holds, of
fewer than 2³² requests, where the hub can decode what the agent sends: what the channel of a
request got is the one message that the agent sent for that request; and once nothing is under way,
every request that still waits was served, and its channel got the message, if one was written. -/
theorem answered_of_along {hubVerified : Bool} {es : List Event}
    (hclean : Along (step ask) (Clean ask) (.init hubVerified) es)
    (hrun : run (step ask) (.init hubVerified) es = some s)
    (hn : s.hub.requests.length < 2 ^ 32) :
    (∀ d ∈ s.hub.log, ∃ a ∈ s.served, a.request = d.request ∧ a.messages ask = [d.message]) ∧
      (s.toAgent = [] → s.toHub = [] → (∀ d, s.hub.handler ≠ .found d) →
        ∀ r, (r, Phase.watching) ∈ s.hub.calls → r ∉ s.hub.done →
          ∃ a ∈ s.served, a.request = r ∧ (a.messages ask = [] ∨
            ∃ d ∈ s.hub.log, d.request = r ∧ a.messages ask = [d.message])) := by
  have hkept := kept_of_clean hclean hrun hn
  refine ⟨fun d hd => hkept.messages_eq hn hd, fun hto hback hidle r hr hdone => ?_⟩
  have hasked := hkept.watching r hr
  rw [State.asked, hto, List.append_nil] at hasked
  obtain ⟨a, ha, rfl⟩ := List.mem_map.mp hasked
  refine ⟨a, ha, rfl, ?_⟩
  cases hmessages : a.messages ask with
  | nil => exact .inl rfl
  | cons m ms =>
    have hm : m ∈ a.messages ask := hmessages ▸ List.mem_cons_self
    have hone := Served.messages_eq_of_mem hm
    right
    obtain hm | ⟨d, hd, -⟩ | ⟨d, hd, hrequest, rfl⟩ | h := hkept.comes a ha m hm
    · exact absurd (hback ▸ hm) List.not_mem_nil
    · exact absurd hd (hidle d)
    · exact ⟨d, hd, hrequest, hmessages ▸ hone⟩
    · exact absurd h hdone

theorem answered_askBoth : ∃ s, run (step asks) (.init true) askBoth = some s ∧
    ∀ r ∈ [firstRequest, secondRequest], ∃ a ∈ s.served, a.request = r ∧
      (a.messages asks = [] ∨ ∃ d ∈ s.hub.log, d.request = r ∧ a.messages asks = [d.message]) := by
  have hrun : run (step asks) (.init true) askBoth = some _ := rfl
  have hreadable (id : BitVec 32) (text : String) :
      (AgentResponse.unmarshal (newAgentResponse .string (.inl text) (some id)).marshal).isSome :=
    Option.isSome_iff_exists.mpr ⟨_, AgentResponse.unmarshal_marshal.mpr
      ⟨readable_newAgentResponse.mpr fun _ => rfl, rfl⟩⟩
  have hserve (hub : RequestManager.State) (toAgent : List PendingRequest) (served : List Served)
      (toHub : List Item) {r : PendingRequest} (hr : r ∈ [firstRequest, secondRequest]) :
      Clean asks ⟨hub, r :: toAgent, true, served, toHub⟩
        (.serve dockerAgent ⟨fun _ => true, ""⟩) := by
    intro q hq m hm
    obtain rfl := Option.some.inj hq
    obtain rfl | hr := List.mem_cons.mp hr
    · obtain rfl := List.mem_singleton.mp hm
      exact hreadable 1 "started"
    · obtain rfl := List.mem_singleton.mp hr
      obtain rfl := List.mem_singleton.mp hm
      exact hreadable 2 "\x7b\x7d"
  have hclean : Along (step asks) (Clean asks) (.init true) askBoth :=
    .cons trivial rfl <| .cons trivial rfl <| .cons trivial rfl <| .cons trivial rfl <|
      .cons trivial rfl <| .cons trivial rfl <|
      .cons (hserve _ _ _ _ (by decide)) rfl <| .cons (hserve _ _ _ _ (by decide)) rfl <|
      .cons trivial rfl <| .cons trivial rfl <| .cons trivial rfl <| .cons trivial rfl <|
      .cons trivial rfl trivial
  have hwatching : ∀ r ∈ [firstRequest, secondRequest],
      (r, Phase.watching) ∈ [(firstRequest, Phase.watching), (secondRequest, .watching)] := by
    decide
  have hanswered := (answered_of_along hclean hrun (by decide)).2 rfl rfl
    (fun d hd => Handler.noConfusion hd)
  exact ⟨_, hrun, fun r hr => hanswered r (hwatching r hr) List.not_mem_nil⟩

/-- A container whose log is no text. -/
def binaryAgent : Agent where
  __ := Server.bareAgent
  containerRequest := fun _ => .ok (.inl "0123456789ab")
  dockerManager := some
    { getLogs := fun _ => .ok (.inr ⟨⟨#[0x1b, 0xff]⟩, by decide +kernel⟩)
      getContainerInfo := fun _ => .ok (.inl "") }

/-- Two callers ask for the logs of a container, and the message of the second goes out first. -/
def askTwice : List Event :=
  [.hub (.newRequest 0), .hub (.newRequest 1), .hub (.register firstRequest),
    .hub (.register secondRequest), .hub (.send secondRequest true),
    .serve binaryAgent ⟨fun _ => true, ""⟩,
    .arrive [(1, firstRequest), (2, secondRequest)], .hub (.select true)]

/-- **An answer that the hub cannot decode goes to the oldest request**, even to one whose own
message has not gone out. -/
theorem astray_askTwice : ∃ s d, run (step fun _ => (WebSocketAction.getContainerLogs, []))
      (.init true) askTwice = some s ∧ d ∈ s.hub.log ∧ d.request = firstRequest ∧
    ∃ a ∈ s.served, a.request = secondRequest ∧
      a.messages (fun _ => (WebSocketAction.getContainerLogs, [])) = [d.message] ∧
        firstRequest ∉ s.asked :=
  ⟨_, _, rfl, List.mem_cons_self, rfl, _, List.mem_cons_self, rfl, rfl, by decide⟩

end Delivery

end Conversation

end Beszel
