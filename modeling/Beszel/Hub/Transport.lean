import Beszel.Common.Protocol
import Mathlib.Data.List.Infix

/-!
# Hub/Transport — one request to an agent, over WebSocket and SSH

    request ──▸ WebSocket ──fallback──▸ SSH ──retry──▸ SSH

`System.request` of `internal/hub/systems/system.go` with the two transports of
`internal/hub/transport`.  What the network and the agent do during one attempt is an exchange: the
outcome of every call that can fail, and whether the agent ran the handler.  A call of `request`
then makes a list of attempts, the last of which gives its result; `request_shape` says when there
is more than one, and `request_executions` how often the handler runs.
-/

namespace Beszel

namespace Transport

/-! ## Errors

A Go error has a text and the sentinel values it wraps: `errors.Is` looks at the second,
`isConnectionError` mostly at the first. -/

/-- The sentinel errors the request path looks for. -/
inductive Sentinel
  | deadlineExceeded
  | canceled
  | errConnClosed
  | errWebSocketNotConnected
  | eof
  deriving DecidableEq, Repr

/-- A non-nil `error`. -/
structure GoError where
  text : String
  wraps : List Sentinel
  deriving DecidableEq, Repr

namespace GoError

/-- `errors.New` of a text that is no sentinel. -/
def new (text : String) : GoError := ⟨text, []⟩

/-- `fmt.Errorf("…: %w", err)`. -/
def wrap (text : String) (err : GoError) : GoError := ⟨text ++ err.text, err.wraps⟩

/-- `errors.Is`. -/
def is (err : GoError) (sentinel : Sentinel) : Bool := err.wraps.contains sentinel

/-- `strings.Contains` on the text. -/
def mentions (err : GoError) (sub : String) : Bool := decide (sub.toList <:+: err.text.toList)

def deadlineExceeded : GoError := ⟨"context deadline exceeded", [.deadlineExceeded]⟩
def canceled : GoError := ⟨"context canceled", [.canceled]⟩
def errConnClosed : GoError := ⟨"use of closed network connection", [.errConnClosed]⟩
def errWebSocketNotConnected : GoError := ⟨"websocket not connected", [.errWebSocketNotConnected]⟩

end GoError

/-- `shouldFallbackToSSH`. -/
def shouldFallbackToSSH (err : GoError) : Bool :=
  if err.is .deadlineExceeded || err.is .canceled then true
  else if err.is .errConnClosed then true
  else err.is .errWebSocketNotConnected

/-- `shouldCloseWebSocket`. -/
def shouldCloseWebSocket (err : GoError) : Bool :=
  err.is .errConnClosed || err.is .errWebSocketNotConnected

/-- `isConnectionError`. -/
def isConnectionError (err : GoError) : Bool :=
  err.mentions "connection" || err.mentions "EOF" || err.mentions "closed" || err.is .eof

/-! ## Responses -/

/-- `common.AgentResponse`; the typed fields of older agents are kept undecoded. -/
structure AgentResponse where
  systemData : Option Bytes
  fingerprint : Option FingerprintResponse
  error : String
  string : Option String
  smartData : Option Bytes
  serviceInfo : Option Bytes
  data : Bytes
  deriving DecidableEq, Repr

/-- What a request leaves in its destination. -/
inductive Reply
  | generic (data : Bytes)
  | systemData (data : Bytes)
  | fingerprint (response : FingerprintResponse)
  | string (text : String)
  | smartData (data : Bytes)
  | serviceInfo (data : Bytes)
  deriving DecidableEq, Repr

/-- A typed field that may be missing. -/
def legacyField {α : Type} (field : Option α) (reply : α → Reply) (missing : String) :
    Except GoError Reply :=
  match field with
  | some value => .ok (reply value)
  | none => .error (.new missing)

/-- `unmarshalLegacyResponse`, for the destination types the callers pass. -/
def unmarshalLegacyResponse (resp : AgentResponse) (action : WebSocketAction) :
    Except GoError Reply :=
  if action = WebSocketAction.getData then
    legacyField resp.systemData .systemData "no system data in response"
  else if action = WebSocketAction.checkFingerprint then
    legacyField resp.fingerprint .fingerprint "no fingerprint in response"
  else if action = WebSocketAction.getContainerLogs then
    legacyField resp.string .string "no logs in response"
  else if action = WebSocketAction.getContainerInfo then
    legacyField resp.string .string "no info in response"
  else if action = WebSocketAction.getSmartData then
    legacyField resp.smartData .smartData "no SMART data in response"
  else if action = WebSocketAction.getSystemdInfo then
    legacyField resp.serviceInfo .serviceInfo "no systemd info in response"
  else .error (.new ("unsupported action: " ++ toString action.toNat))

/-- `UnmarshalResponse`; `unmarshal` is the error of `cbor.Unmarshal` into the destination. -/
def unmarshalResponse (unmarshal : Bytes → Option GoError) (resp : AgentResponse)
    (action : WebSocketAction) : Except GoError Reply :=
  if resp.data ≠ [] then
    match unmarshal resp.data with
    | some err => .error (.wrap "failed to unmarshal generic response data: " err)
    | none => .ok (.generic resp.data)
  else unmarshalLegacyResponse resp action

/-! ## Attempts -/

/-- The two transports. -/
inductive Via
  | webSocket
  | ssh
  deriving DecidableEq, Repr

/-- One attempt: its transport, whether the agent ran the handler of the action, and what the hub
sees. -/
structure Attempt where
  via : Via
  executed : Bool
  result : Except GoError Reply

/-- The errors after which the hub sends the request again. -/
def Via.retries : Via → GoError → Bool
  | .webSocket => shouldFallbackToSSH
  | .ssh => isConnectionError

/-- **The attempt failed, and the hub takes the error for a failure of the transport.** -/
def Attempt.transportFailed (a : Attempt) : Bool :=
  match a.result with
  | .ok _ => false
  | .error err => a.via.retries err

/-! ## The WebSocket transport -/

/-- `ws.WsConn`: whether the connection and the request manager's connection are there, whether the
agent is older than `MinVersionAgentResponse`, and whether the hub has closed the connection. -/
structure WsConn where
  conn : Bool
  managerConn : Bool
  legacyAgent : Bool
  closed : Bool
  deriving DecidableEq, Repr

/-- How the wait for a response ends: with a message, or with the context of the request, whose
deadline passes or which the request manager or a caller cancels. -/
inductive WsAnswer
  | message (raw : Bytes) (response : Except GoError AgentResponse)
  | deadline
  | cancel

/-- What happens during a WebSocket attempt.  `connected` is `IsConnected` inside `Request`, read
after the test in `System.request`. -/
structure WsExchange where
  connected : Bool
  marshal : Option GoError
  write : Option GoError
  executed : Bool
  answer : WsAnswer
  unmarshal : Bytes → Option GoError

/-- `RequestManager.sendMessage`: whether bytes went out, and the error. -/
def WsConn.sendMessage (c : WsConn) (x : WsExchange) : Bool × Option GoError :=
  if c.managerConn = false then (false, some .errConnClosed)
  else
    match x.marshal with
    | some err => (false, some (.wrap "failed to marshal request: " err))
    | none => (true, x.write)

/-- The `select` of `WebSocketTransport.Request`. -/
def WsConn.await (c : WsConn) (x : WsExchange) (action : WebSocketAction) : Except GoError Reply :=
  match x.answer with
  | .deadline => .error .deadlineExceeded
  | .cancel => .error .canceled
  | .message raw response =>
    if c.legacyAgent then
      match x.unmarshal raw with
      | some err => .error err
      | none => .ok (.generic raw)
    else
      match response with
      | .error err => .error err
      | .ok resp =>
        if resp.error ≠ "" then .error (.new resp.error)
        else unmarshalResponse x.unmarshal resp action

/-- `WebSocketTransport.Request`. -/
def WsConn.request (c : WsConn) (x : WsExchange) (action : WebSocketAction) : Attempt :=
  if x.connected = false then ⟨.webSocket, false, .error .errWebSocketNotConnected⟩
  else
    match c.sendMessage x with
    -- a write that fails may still have delivered the frame
    | (sent, some err) =>
      ⟨.webSocket, sent && x.executed, .error (.wrap "failed to send request: " err)⟩
    | (_, none) => ⟨.webSocket, x.executed, c.await x action⟩

/-! ## The SSH transport -/

/-- `SSHTransport`: whether it has a client, and a configuration to dial with. -/
structure SSHTransport where
  client : Bool
  config : Bool
  deriving DecidableEq, Repr

/-- How `NewSession` and its timeout race. -/
inductive NewSession
  | opened
  | failed (err : GoError)
  | timeout
  deriving DecidableEq, Repr

/-- What happens during an SSH attempt. -/
structure SshExchange where
  dial : Option GoError
  newSession : NewSession
  stdoutPipe : Option GoError
  stdinPipe : Option GoError
  shell : Option GoError
  encode : Option GoError
  executed : Bool
  response : Except GoError AgentResponse
  wait : Option GoError
  unmarshal : Bytes → Option GoError

namespace SSHTransport

/-- `SSHTransport.connect`. -/
def connect (t : SSHTransport) (x : SshExchange) : SSHTransport × Option GoError :=
  if t.config = false then (t, some (.new "SSH config not set"))
  else
    match x.dial with
    | some err => (t, some err)
    | none => ({ t with client := true }, none)

/-- `SSHTransport.createSessionWithTimeout`. -/
def createSessionWithTimeout (t : SSHTransport) (x : SshExchange) : Option GoError :=
  if t.client = false then some (.new "client not initialized")
  else
    match x.newSession with
    | .opened => none
    | .failed err => some err
    | .timeout => some (.new "timeout creating session")

/-- `SSHTransport.Request` up to `session.Shell()`: nothing has been sent yet. -/
def openShell (t : SSHTransport) (x : SshExchange) : SSHTransport × Option GoError :=
  let (t, err) := if t.client then (t, none) else t.connect x
  (t, err <|> t.createSessionWithTimeout x <|> x.stdoutPipe <|> x.stdinPipe <|> x.shell)

/-- `SSHTransport.Request` from the encoding of the request on. -/
def exchange (x : SshExchange) (action : WebSocketAction) : Except GoError Reply :=
  match x.encode with
  | some err => .error (.wrap "failed to encode request: " err)
  | none =>
    match x.response with
    | .error err => .error (.wrap "failed to decode response: " err)
    | .ok resp =>
      if resp.error ≠ "" then .error (.new resp.error)
      else
        match x.wait with
        | some err => .error err
        | none => unmarshalResponse x.unmarshal resp action

/-- `SSHTransport.Request`. -/
def request (t : SSHTransport) (x : SshExchange) (action : WebSocketAction) :
    SSHTransport × Attempt :=
  match t.openShell x with
  | (t, some err) => (t, ⟨.ssh, false, .error err⟩)
  | (t, none) => (t, ⟨.ssh, x.executed, exchange x action⟩)

/-- `SSHTransport.Close`. -/
def close (t : SSHTransport) : SSHTransport := { t with client := false }

/-- `SSHTransport.RequestWithRetry`, recursive on the retries that are left: the attempts it makes,
the last of which it returns the result of. -/
def requestWithRetry (action : WebSocketAction) :
    ℕ → (ℕ → SshExchange) → SSHTransport → SSHTransport × List Attempt
  | 0, xs, t =>
    let (t, a) := t.request (xs 0) action
    (t, [a])
  | retries + 1, xs, t =>
    let (t, a) := t.request (xs 0) action
    if a.transportFailed then
      let (t, as) := requestWithRetry action retries (fun n => xs (n + 1)) t.close
      (t, a :: as)
    else (t, [a])

end SSHTransport

/-! ## The request -/

/-- What `System.request` reads and writes of a system and its manager. -/
structure System where
  wsConn : Option WsConn
  sshTransport : Option SSHTransport
  sshConfig : Bool
  client : Bool
  deriving DecidableEq, Repr

/-- What the network and the agent do during one request. -/
structure Network where
  ws : WsExchange
  sshClientConfig : Option GoError
  ssh : ℕ → SshExchange

namespace System

/-- `System.ensureSSHTransport`. -/
def ensureSSHTransport (sys : System) (net : Network) :
    Except GoError (System × SSHTransport) :=
  match sys.sshTransport with
  | some t => .ok (sys, if sys.client then { t with client := true } else t)
  | none =>
    match (if sys.sshConfig then none else net.sshClientConfig) with
    | some err => .error err
    | none => .ok ({ sys with sshConfig := true }, { client := sys.client, config := true })

/-- The SSH half of `System.request`, after the WebSocket attempts `as` it has made already.  The
result is the error of `ensureSSHTransport`, or that of the last attempt. -/
def requestViaSSH (sys : System) (net : Network) (action : WebSocketAction) (as : List Attempt) :
    System × List Attempt × Except GoError Reply :=
  match sys.ensureSSHTransport net with
  | .error err => (sys, as, .error err)
  | .ok (sys, t) =>
    let (t, as') := t.requestWithRetry action 1 net.ssh
    ({ sys with sshTransport := some t, client := t.client }, as ++ as',
      match as'.getLast? with
      | some a => a.result
      | none => .error (.new "")) -- not reached: an attempt is always made

/-- The connection of a system, when `IsConnected` holds of it. -/
def connected (sys : System) : Option WsConn := sys.wsConn.filter (·.conn)

/-- **`System.request`**: the attempts it makes and its result. -/
def request (sys : System) (net : Network) (action : WebSocketAction) :
    System × List Attempt × Except GoError Reply :=
  match sys.connected with
  | none => sys.requestViaSSH net action []
  | some c =>
    let a := c.request net.ws action
    match a.result with
    | .ok reply => (sys, [a], .ok reply)
    | .error err =>
      if shouldFallbackToSSH err = false then (sys, [a], .error err)
      else if shouldCloseWebSocket err then
        { sys with wsConn := some { c with closed := true } }.requestViaSSH net action [a]
      else sys.requestViaSSH net action [a]

end System

/-! ## When a request is sent more than once

Each attempt sends the request once.  There is at most one over WebSocket and, with one retry, at
most two over SSH; every attempt but the last failed in a way the hub takes for a failure of the
transport. -/

/-- Every attempt but the last failed in its transport. -/
def Resends (as : List Attempt) : Prop := as.Pairwise fun a _ => a.transportFailed = true

/-- How often the agent ran the handler. -/
def executions (as : List Attempt) : ℕ := as.countP (·.executed)

theorem wsConn_request_via (c : WsConn) (x : WsExchange) (action : WebSocketAction) :
    (c.request x action).via = .webSocket := by
  unfold WsConn.request
  split
  · rfl
  · split <;> rfl

theorem sshTransport_request_via (t : SSHTransport) (x : SshExchange) (action : WebSocketAction) :
    (t.request x action).2.via = .ssh := by
  unfold SSHTransport.request
  split <;> rfl

/-- **The attempts of one call of `RequestWithRetry`.** -/
theorem requestWithRetry_attempts (action : WebSocketAction) (retries : ℕ) (xs : ℕ → SshExchange)
    (t : SSHTransport) :
    (∀ a ∈ (t.requestWithRetry action retries xs).2, a.via = .ssh) ∧
      (t.requestWithRetry action retries xs).2.length ≤ retries + 1 ∧
      Resends (t.requestWithRetry action retries xs).2 := by
  induction retries generalizing xs t with
  | zero =>
    refine ⟨fun a ha => ?_, le_rfl, List.pairwise_singleton _ _⟩
    obtain rfl : a = _ := List.mem_singleton.mp ha
    exact sshTransport_request_via t (xs 0) action
  | succ retries ih =>
    obtain ⟨hvia, hlen, hresend⟩ := ih (fun n => xs (n + 1)) (t.request (xs 0) action).1.close
    by_cases hf : (t.request (xs 0) action).2.transportFailed = true
    · simp only [SSHTransport.requestWithRetry, if_pos hf]
      refine ⟨fun a ha => ?_, by simpa using hlen, List.pairwise_cons.mpr ⟨fun _ _ => hf, hresend⟩⟩
      rcases List.mem_cons.mp ha with rfl | ha
      · exact sshTransport_request_via t (xs 0) action
      · exact hvia a ha
    · simp only [SSHTransport.requestWithRetry, if_neg hf]
      refine ⟨fun a ha => ?_, by simp, List.pairwise_singleton _ _⟩
      obtain rfl : a = _ := List.mem_singleton.mp ha
      exact sshTransport_request_via t (xs 0) action

/-- The shape of a request's attempts: `ws` over WebSocket, then `ssh` over SSH. -/
structure Shape (ws ssh : List Attempt) : Prop where
  ws_via : ∀ a ∈ ws, a.via = .webSocket
  ws_length : ws.length ≤ 1
  ssh_via : ∀ a ∈ ssh, a.via = .ssh
  ssh_length : ssh.length ≤ 2
  resends : Resends (ws ++ ssh)

/-- WebSocket attempts that failed in their transport may be followed by those of one call of
`RequestWithRetry`. -/
theorem requestViaSSH_shape (sys : System) (net : Network) (action : WebSocketAction)
    {ws : List Attempt} (hvia : ∀ a ∈ ws, a.via = .webSocket) (hlen : ws.length ≤ 1)
    (hf : ∀ a ∈ ws, a.transportFailed = true) :
    ∃ ssh, (sys.requestViaSSH net action ws).2.1 = ws ++ ssh ∧ Shape ws ssh := by
  have hws : Resends ws := List.Pairwise.imp_of_mem (fun ha _ _ => hf _ ha)
    (List.pairwise_of_forall fun _ _ => trivial)
  unfold System.requestViaSSH
  split
  · refine ⟨[], (List.append_nil ws).symm, hvia, hlen, by simp, by simp, ?_⟩
    rwa [List.append_nil]
  · rename_i sys' t _
    obtain ⟨hssh, hlen', hresend⟩ := requestWithRetry_attempts action 1 net.ssh t
    refine ⟨_, rfl, hvia, hlen, hssh, hlen', ?_⟩
    exact List.pairwise_append.mpr ⟨hws, hresend, fun a ha _ _ => hf a ha⟩

/-- A single WebSocket attempt. -/
theorem Shape.single {a : Attempt} (ha : a.via = .webSocket) : Shape [a] [] where
  ws_via b hb := by rwa [List.mem_singleton.mp hb]
  ws_length := le_rfl
  ssh_via _ hb := nomatch hb
  ssh_length := by simp
  resends := List.pairwise_singleton _ _

/-- **The attempts of one request.** -/
theorem request_shape (sys : System) (net : Network) (action : WebSocketAction) :
    ∃ ws ssh, (sys.request net action).2.1 = ws ++ ssh ∧ Shape ws ssh := by
  unfold System.request
  split
  · exact ⟨[], requestViaSSH_shape sys net action (by simp) (by simp) (by simp)⟩
  · rename_i c _
    have hvia := wsConn_request_via c net.ws action
    dsimp only
    split
    · exact ⟨_, [], rfl, .single hvia⟩
    · rename_i err herr
      split_ifs with hfall hclose
      · exact ⟨_, [], rfl, .single hvia⟩
      all_goals
        refine ⟨_, requestViaSSH_shape _ net action (by simpa using hvia) le_rfl fun a ha => ?_⟩
        obtain rfl : a = _ := List.mem_singleton.mp ha
        simpa [Attempt.transportFailed, herr, hvia, Via.retries] using hfall

/-- Where every entry but the last has a property no marked entry has, at most one entry is
marked. -/
theorem countP_le_one {α : Type*} {p r : α → Bool} {l : List α}
    (hl : l.Pairwise fun a _ => r a = true) (hp : ∀ a ∈ l, p a = true → r a = false) :
    l.countP p ≤ 1 := by
  induction l with
  | nil => simp
  | cons a l ih =>
    obtain ⟨ha, hl⟩ := List.pairwise_cons.mp hl
    have ih := ih hl fun b hb => hp b (List.mem_cons_of_mem a hb)
    by_cases hpa : p a = true
    · obtain rfl : l = [] := by
        rw [List.eq_nil_iff_forall_not_mem]
        intro b hb
        have := hp a List.mem_cons_self hpa
        rw [ha b hb] at this
        cases this
      exact List.countP_le_length
    · rwa [List.countP_cons_of_neg hpa]

/-- **How often one request makes the agent run the handler.**  At most once over WebSocket and at
most twice over SSH; and at most once altogether, unless an attempt in which the handler ran ended
in an error the hub takes for a failure of the transport. -/
theorem request_executions (sys : System) (net : Network) (action : WebSocketAction) :
    executions ((sys.request net action).2.1.filter (·.via = .webSocket)) ≤ 1 ∧
      executions ((sys.request net action).2.1.filter (·.via = .ssh)) ≤ 2 ∧
      ((∀ a ∈ (sys.request net action).2.1, a.executed = true → a.transportFailed = false) →
        executions (sys.request net action).2.1 ≤ 1) := by
  obtain ⟨ws, ssh, hreq, h⟩ := request_shape sys net action
  rw [hreq]
  refine ⟨?_, ?_, fun hexec => countP_le_one h.resends hexec⟩
  · have hfilter : (ws ++ ssh).filter (·.via = .webSocket) = ws := by
      rw [List.filter_append, List.filter_eq_self.mpr (by simpa using h.ws_via),
        List.filter_eq_nil_iff.mpr fun a ha => by simp [h.ssh_via a ha], List.append_nil]
    rw [hfilter]
    exact List.countP_le_length.trans h.ws_length
  · have hfilter : (ws ++ ssh).filter (·.via = .ssh) = ssh := by
      rw [List.filter_append, List.filter_eq_nil_iff.mpr fun a ha => by simp [h.ws_via a ha],
        List.filter_eq_self.mpr (by simpa using h.ssh_via), List.nil_append]
    rw [hfilter]
    exact List.countP_le_length.trans h.ssh_length

/-! ### A lost response

The agent is reached over SSH, starts the reboot and loses the connection before its answer is
through; the hub reads `EOF` and sends the request again. -/

/-- A response that reports success in the generic field. -/
def acknowledged : AgentResponse where
  systemData := none
  fingerprint := none
  error := ""
  string := none
  smartData := none
  serviceInfo := none
  data := [0xa0]

/-- An SSH exchange in which the handler runs and the response is `response`. -/
def executedSsh (response : Except GoError AgentResponse) : SshExchange where
  dial := none
  newSession := .opened
  stdoutPipe := none
  stdinPipe := none
  shell := none
  encode := none
  executed := true
  response := response
  wait := none
  unmarshal := fun _ => none

/-- The first response is lost, the second arrives. -/
def lostResponse : Network where
  ws := ⟨false, none, none, false, .cancel, fun _ => none⟩
  sshClientConfig := none
  ssh
    | 0 => executedSsh (.error ⟨"EOF", [.eof]⟩)
    | _ => executedSsh (.ok acknowledged)

/-- **A request whose response is lost runs the handler twice.** -/
theorem lostResponse_executes_twice :
    ¬ ∀ (sys : System) (net : Network) (action : WebSocketAction),
      action ∈ [WebSocketAction.applyPackageUpdates, WebSocketAction.rebootSystem,
        WebSocketAction.updateAgent] →
      executions (sys.request net action).2.1 ≤ 1 := by
  intro h
  have := h ⟨none, none, true, false⟩ lostResponse WebSocketAction.rebootSystem (by decide)
  revert this
  decide

end Transport

end Beszel
