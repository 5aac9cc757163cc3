import Beszel.Hub.Response

/-!
# Agent/Server — what the agent writes for a request, over SSH and over WebSocket

    request ──▸ registry ──▸ handler ──▸ answer ──▸ write
                   ╰───────────╰──error───────────▸ write

`handleSession` of `agent/server.go` and `handleHubRequest` of `agent/client.go`, with the handlers
of `agent/handlers.go` that both call.  A handler fails before it sends anything, or its last act is
to send its answer; if that write fails, the caller writes the error in its turn.
-/

namespace Beszel

namespace Server

open Machinery.Wire Response

/-! ## The handlers -/

/-- `common.DataRequestOptions`. -/
structure DataRequestOptions where
  cacheTimeMs : UInt16
  includeDetails : Bool

/-- `common.AgentUpdateRequest`. -/
structure AgentUpdateRequest where
  url : GoString
  checksums : AList fun _ : GoString => GoString

/-- `dockerManager`, as far as the handlers use it. -/
structure DockerManager where
  getLogs : GoString → Except String GoString
  getContainerInfo : GoString → Except String GoString

/-- `pkgUpdateManager`, as far as the handlers use it. -/
structure PkgUpdateManager where
  refresh : Except String Unit
  getUpdates : GoType.packageUpdates.ty.Val
  startApply : ApplyPackageUpdatesRequest → Except String GoType.packageApplyStatus.ty.Val
  applyStatus : GoType.packageApplyStatus.ty.Val
  setHold : GoString → Bool → Except String Unit

/-- What the handlers take from the agent: the decoders of their requests, the managers (`none` for
one that is nil), and the functions that reboot the host and replace the agent. -/
structure Agent where
  dataRequestOptions : Bytes → DataRequestOptions
  containerRequest : Bytes → Except String GoString
  systemdInfoRequest : Bytes → Except String GoString
  packageUpdatesRequest : Bytes → Bool
  applyPackageUpdatesRequest : Bytes → Except String ApplyPackageUpdatesRequest
  setPackageHoldRequest : Bytes → Except String (GoString × Bool)
  agentUpdateRequest : Bytes → Except String AgentUpdateRequest
  gatherStats : DataRequestOptions → GoType.combinedData.ty.Val
  handleAuthChallenge : Bytes → Except String GoType.fingerprintResponse.ty.Val
  dockerManager : Option DockerManager
  smartManager : Option GoType.smartData.ty.Val
  systemdManager : Option (GoString → Except String GoType.serviceDetails.ty.Val)
  pkgUpdateManager : Option PkgUpdateManager
  rebootHost : Except String Unit
  selfUpdateFromHub : AgentUpdateRequest → Except String GoType.agentUpdateResponse.ty.Val

/-- `errors.ErrUnsupported`. -/
def errUnsupported : String := "unsupported operation"

/-- The map with one entry. -/
def boolMap (key : String) (value : Bool) : GoType.boolMap.ty.Val :=
  some ((∅ : AList fun _ : GoString => Bool).insert (.inl key) value)

/-- The two container handlers: without a manager the answer is the empty string. -/
def getContainer (agent : Agent) (get : DockerManager → GoString → Except String GoString)
    (data : Bytes) : Except String GoString :=
  match agent.dockerManager with
  | none => .ok (.inl "")
  | some dockerManager => (agent.containerRequest data).bind (get dockerManager)

/-- `GetSystemdInfoHandler.Handle`. -/
def getSystemdInfo (agent : Agent) (data : Bytes) : Except String GoType.serviceDetails.ty.Val :=
  match agent.systemdManager with
  | none => .error errUnsupported
  | some getServiceDetails =>
    (agent.systemdInfoRequest data).bind fun serviceName =>
      if serviceName = .inl "" then .error "service name is required"
      else getServiceDetails serviceName

/-- `GetPackageUpdatesHandler.Handle`. -/
def getPackageUpdates (pm : PkgUpdateManager) (refresh : Bool) :
    Except String GoType.packageUpdates.ty.Val :=
  if refresh then pm.refresh.map fun _ => pm.getUpdates else .ok pm.getUpdates

/-- `ApplyPackageUpdatesHandler.Handle`. -/
def applyPackageUpdates (pm : PkgUpdateManager) (req : ApplyPackageUpdatesRequest) :
    Except String GoType.packageApplyStatus.ty.Val :=
  if req.packages = [] ∧ req.all = false then .error "no packages specified"
  else pm.startApply req

/-- The handlers of package updates, on an agent that has a package manager. -/
def withPackages {α : Type} (agent : Agent) (handle : PkgUpdateManager → Except String α) :
    Except String α :=
  match agent.pkgUpdateManager with
  | none => .error errUnsupported
  | some pm => handle pm

/-- **A handler up to its `SendResponse`**: the answer it sends, or the error it returns instead. -/
def handle (agent : Agent) : (h : RequestHandler) → Bytes → Except String h.payload.ty.Val
  | .getData, data => .ok (agent.gatherStats (agent.dataRequestOptions data))
  | .checkFingerprint, data => agent.handleAuthChallenge data
  | .getContainerLogs, data => getContainer agent (·.getLogs) data
  | .getContainerInfo, data => getContainer agent (·.getContainerInfo) data
  | .getSmartData, _ => .ok (agent.smartManager.getD (some ∅))
  | .getSystemdInfo, data => getSystemdInfo agent data
  | .getPackageUpdates, data =>
    withPackages agent fun pm => getPackageUpdates pm (agent.packageUpdatesRequest data)
  | .applyPackageUpdates, data =>
    withPackages agent fun pm =>
      (agent.applyPackageUpdatesRequest data).bind (applyPackageUpdates pm)
  | .getPackageUpdateStatus, _ => withPackages agent fun pm => .ok pm.applyStatus
  | .setPackageHold, data =>
    withPackages agent fun pm =>
      (agent.setPackageHoldRequest data).bind fun req =>
        (pm.setHold req.1 req.2).map fun _ => boolMap "held" req.2
  | .rebootSystem, _ => agent.rebootHost.map fun _ => boolMap "rebooting" true
  | .updateAgent, data => (agent.agentUpdateRequest data).bind agent.selfUpdateFromHub

/-! ## The versions of hubs -/

/-- `semver.Version`; of a pre-release only that it is one, since it is compared with releases. -/
structure Version where
  major : ℕ
  minor : ℕ
  patch : ℕ
  pre : Bool
  deriving DecidableEq, Repr

/-- `v.LT(o)`, for a release `o`. -/
def Version.lt (v o : Version) : Bool :=
  if v.major ≠ o.major then v.major < o.major
  else if v.minor ≠ o.minor then v.minor < o.minor
  else if v.patch ≠ o.patch then v.patch < o.patch
  else v.pre

/-- `beszel.MinVersionCbor`. -/
def minVersionCbor : Version := ⟨0, 12, 0, false⟩

/-- `beszel.MinVersionAgentResponse`. -/
def minVersionAgentResponse : Version := ⟨0, 13, 0, false⟩

/-! ## The writes -/

/-- How the writes for one request end, one after the other: whether each is accepted, and the error
of one that is not. -/
structure Writes where
  accepts : ℕ → Bool
  err : String

/-- A value on the session: a sample in CBOR or JSON, or a response. -/
inductive Written
  | stats (cbor : Bool) (data : GoType.combinedData.ty.Val)
  | response (r : AgentResponse)

/-- `common.AgentResponse{Id: requestID, Error: text}`. -/
def errorResponse (requestID : Option UInt32) (text : String) : AgentResponse :=
  { AgentResponse.new (requestID.map UInt32.toBitVec) with error := .inl text }

section Requests

variable (agent : Agent) (w : Writes)

/-! ### SSH -/

/-- `Encode`, as the write number `n` of the session: what is written, and whether it succeeds. -/
def encode (n : ℕ) (v : Written) : List Written × Bool :=
  if w.accepts n then ([v], true) else ([], false)

/-- `handleLegacyStats`, with `writeToSession`. -/
def handleLegacyStats (n : ℕ) (hubVersion : Version) : List Written × Bool :=
  encode w n (.stats (!hubVersion.lt minVersionCbor) (agent.gatherStats ⟨60000, false⟩))

/-- `handleSSHRequest`. -/
def handleSSHRequest (n : ℕ) (req : HubRequest) : List Written × Bool :=
  if req.action = WebSocketAction.checkFingerprint then
    encode w n (.response (errorResponse none "unsupported action"))
  else
    match HandlerRegistry.newHandlerRegistry.getHandler req.action with
    | none =>
      encode w n (.response (errorResponse none ("unknown action: " ++ toString req.action.toNat)))
    | some h =>
      match handle agent h req.data with
      | .error err => encode w n (.response (errorResponse none err))
      | .ok v =>
        if w.accepts n then ([.response (newAgentResponse h.payload v none)], true)
        else encode w (n + 1) (.response (errorResponse none w.err))

/-- What `handleSession` does after the branch for older hubs: `decoded` is the request, if one can
be decoded. -/
def serveSession (n : ℕ) (hubVersion : Version) : Option HubRequest → List Written × Bool
  | none => handleLegacyStats agent w n hubVersion
  | some req => handleSSHRequest agent w n req

/-- `handleSession`: the values it writes and the status it exits with. -/
def handleSession (hubVersion : Version) (decoded : Option HubRequest) : List Written × ℕ :=
  let first :=
    if hubVersion.lt minVersionAgentResponse then handleLegacyStats agent w 0 hubVersion
    else ([], true)
  if first.2 = false then (first.1, 1)
  else
    -- the branch for older hubs does not return when it has written the sample
    let n := if hubVersion.lt minVersionAgentResponse then 1 else 0
    let rest := serveSession agent w n hubVersion decoded
    (first.1 ++ rest.1, if rest.2 then 0 else 1)

/-! ### WebSocket -/

/-- A message to the hub: a response, or the answer itself for a request without an id. -/
inductive Message
  | response (r : AgentResponse)
  | legacy (h : RequestHandler) (v : h.payload.ty.Val)

/-- The message of `sendResponse`. -/
def answerMessage (h : RequestHandler) (v : h.payload.ty.Val) : Option UInt32 → Message
  | some id => .response (newAgentResponse h.payload v (some id.toBitVec))
  | none => .legacy h v

/-- The error that goes back to the hub if the request has an id. -/
def sendError (n : ℕ) (requestID : Option UInt32) (err : String) : List Message :=
  if requestID.isSome && w.accepts n then [.response (errorResponse requestID err)] else []

/-- `handleHubRequest`: the messages it sends. -/
def handleHubRequest (hubVerified : Bool) (msg : HubRequest) : List Message :=
  match HandlerRegistry.newHandlerRegistry.handle msg.action hubVerified with
  | .error err => sendError w 0 msg.id err
  | .ok h =>
    match handle agent h msg.data with
    | .error err => sendError w 0 msg.id err
    | .ok v =>
      if w.accepts 0 then [answerMessage h v msg.id] else sendError w 1 msg.id w.err

end Requests

/-! ## One value for a request -/

/-- **A session that exits with status 0 has written one value.** -/
def OneValue (session : List Written × ℕ) : Prop := session.2 = 0 → ∃ v, session.1 = [v]

/-- **The one message carries the id.** -/
def OneMessage (messages : List Message) (id : UInt32) : Prop :=
  ∃ r, messages = [.response r] ∧ r.id = some id.toBitVec

/-- A handler has an answer to send, so that a failed write of it is followed by the write of an
error. -/
def answers (agent : Agent) (req : HubRequest) : Option RequestHandler → Bool
  | none => false
  | some h => (handle agent h req.data).toOption.isSome

/-- One of the writes is accepted that begin with number `n`: the first, or the second where there
is one. -/
def taken (w : Writes) (n : ℕ) (again : Bool) : Bool := w.accepts n || (again && w.accepts (n + 1))

/-- The session writes twice for the request, if the first write fails. -/
def sshAgain (agent : Agent) : Option HubRequest → Bool
  | none => false
  | some req =>
    req.action ≠ WebSocketAction.checkFingerprint &&
      answers agent req (HandlerRegistry.newHandlerRegistry.getHandler req.action)

/-- The client writes twice for the request, if the first write fails. -/
def wsAgain (agent : Agent) (hubVerified : Bool) (msg : HubRequest) : Bool :=
  answers agent msg (HandlerRegistry.newHandlerRegistry.handle msg.action hubVerified).toOption

section Proofs

variable {agent : Agent} {w : Writes}

theorem id_newAgentResponse (t : GoType) (v : t.ty.Val) (requestID : Option (BitVec 32)) :
    (newAgentResponse t v requestID).id = requestID := by
  cases t <;> rfl

/-- **One value or none.** -/
theorem encode_cases (n : ℕ) (v : Written) :
    (encode w n v).2 = w.accepts n ∧ ((encode w n v).2 = true → (encode w n v).1 = [v]) := by
  unfold encode
  cases w.accepts n with
  | true => exact ⟨rfl, fun _ => rfl⟩
  | false => exact ⟨rfl, nofun⟩

/-- The answer, or the error that follows when it is not accepted. -/
theorem taken_true (n : ℕ) : taken w n true = if w.accepts n then true else w.accepts (n + 1) := by
  unfold taken
  cases w.accepts n <;> rfl

theorem taken_false (n : ℕ) : taken w n false = w.accepts n := Bool.or_false _

variable (agent w) in
/-- **A request over SSH is served with one value**, if the session accepts it. -/
theorem serveSession_spec (n : ℕ) (hubVersion : Version) (decoded : Option HubRequest) :
    (serveSession agent w n hubVersion decoded).2 = taken w n (sshAgain agent decoded) ∧
      ((serveSession agent w n hubVersion decoded).2 = true →
        ∃ v, (serveSession agent w n hubVersion decoded).1 = [v]) := by
  have hencode (n : ℕ) (v : Written) : (encode w n v).2 = w.accepts n ∧
      ((encode w n v).2 = true → ∃ v', (encode w n v).1 = [v']) :=
    ⟨(encode_cases n v).1, fun h => ⟨v, (encode_cases n v).2 h⟩⟩
  cases decoded with
  | none =>
    rw [sshAgain, taken_false]
    exact hencode n _
  | some req =>
    rw [sshAgain, serveSession, handleSSHRequest]
    by_cases hfp : req.action = WebSocketAction.checkFingerprint
    · rw [if_pos hfp, decide_eq_false (not_not.mpr hfp), Bool.false_and, taken_false]
      exact hencode n _
    · rw [if_neg hfp, decide_eq_true hfp, Bool.true_and]
      cases HandlerRegistry.newHandlerRegistry.getHandler req.action with
      | none =>
        rw [answers, taken_false]
        exact hencode n _
      | some h =>
        rw [answers]
        dsimp only
        cases handle agent h req.data with
        | error err =>
          rw [Except.toOption, Option.isSome_none, taken_false]
          exact hencode n _
        | ok v =>
          rw [Except.toOption, Option.isSome_some, taken_true]
          dsimp only
          split_ifs
          · exact ⟨rfl, fun _ => ⟨_, rfl⟩⟩
          · exact hencode (n + 1) _

/-- **When a session writes one value**: if the hub is not an older one, or the session does not
accept two. -/
theorem oneValue_handleSession (hubVersion : Version) (decoded : Option HubRequest) :
    OneValue (handleSession agent w hubVersion decoded) ↔
      hubVersion.lt minVersionAgentResponse = false ∨
        (w.accepts 0 && taken w 1 (sshAgain agent decoded)) = false := by
  unfold handleSession OneValue
  cases hlt : hubVersion.lt minVersionAgentResponse with
  | false =>
    refine iff_of_true ?_ (.inl rfl)
    obtain ⟨-, hone⟩ := serveSession_spec agent w 0 hubVersion decoded
    simpa using hone
  | true =>
    obtain ⟨hok, hone⟩ := serveSession_spec agent w 1 hubVersion decoded
    simp only [if_true, handleLegacyStats, encode]
    cases w.accepts 0 with
    | false => simp
    | true =>
      rw [← hok]
      cases hrest : (serveSession agent w 1 hubVersion decoded).2 with
      | false => simp
      | true =>
        obtain ⟨v, hv⟩ := hone hrest
        simp [hv]

/-- An error message answers a request with an id, if it is accepted. -/
theorem oneMessage_sendError (n : ℕ) (id : UInt32) (err : String) :
    OneMessage (sendError w n (some id) err) id ↔ w.accepts n = true := by
  unfold sendError OneMessage
  cases w.accepts n with
  | true => exact iff_of_true ⟨_, rfl, rfl⟩ rfl
  | false => simp

/-- **A request over WebSocket is answered with one message**, if the connection accepts it. -/
theorem oneMessage_handleHubRequest (hubVerified : Bool) (action : WebSocketAction) (data : Bytes)
    (id : UInt32) :
    OneMessage (handleHubRequest agent w hubVerified ⟨action, data, some id⟩) id ↔
      taken w 0 (wsAgain agent hubVerified ⟨action, data, some id⟩) = true := by
  unfold handleHubRequest wsAgain
  dsimp only
  cases HandlerRegistry.newHandlerRegistry.handle action hubVerified with
  | error err =>
    rw [Except.toOption, answers, taken_false]
    exact oneMessage_sendError 0 id err
  | ok h =>
    rw [Except.toOption, answers]
    dsimp only
    cases handle agent h data with
    | error err =>
      rw [Except.toOption, Option.isSome_none, taken_false]
      exact oneMessage_sendError 0 id err
    | ok v =>
      rw [Except.toOption, Option.isSome_some, taken_true]
      dsimp only
      split_ifs
      · exact iff_of_true ⟨_, rfl, id_newAgentResponse _ _ _⟩ rfl
      · exact oneMessage_sendError 1 id w.err

end Proofs

/-- An agent without managers. -/
def bareAgent : Agent where
  dataRequestOptions := fun _ => ⟨0, false⟩
  containerRequest := fun _ => .error "EOF"
  systemdInfoRequest := fun _ => .error "EOF"
  packageUpdatesRequest := fun _ => false
  applyPackageUpdatesRequest := fun _ => .error "EOF"
  setPackageHoldRequest := fun _ => .error "EOF"
  agentUpdateRequest := fun _ => .error "EOF"
  gatherStats := fun _ => Entities.combinedData.zero
  handleAuthChallenge := fun _ => .error "EOF"
  dockerManager := none
  smartManager := none
  systemdManager := none
  pkgUpdateManager := none
  rebootHost := .error errUnsupported
  selfUpdateFromHub := fun _ => .error errUnsupported

end Server

end Beszel
