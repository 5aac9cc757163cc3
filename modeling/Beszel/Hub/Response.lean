import Beszel.Agent.Handlers
import Beszel.Common.Entities
import Beszel.Hub.Transport

/-!
# Hub/Response — an answer of the agent, from the handler to the caller on the hub

    handler ──newAgentResponse──▸ AgentResponse ──CBOR──▸ AgentResponse ──Unmarshal──▸ caller

`agent/response.go` puts the value a handler sends into a field of `AgentResponse` that its type
selects; `internal/hub/transport` takes it out of the field that the action selects, and the callers
in `internal/hub/systems/system.go` provide the destination.  `roundTrips_iff` says for which values
the caller gets what the handler sent.
-/

namespace Beszel

namespace Response

open Machinery.Wire Entities Transport

/-! ## Dynamic types -/

/-- The types of the values handlers send and of the destinations callers provide. -/
inductive GoType
  | combinedData
  | fingerprintResponse
  | string
  | smartData
  | serviceDetails
  | packageUpdates
  | packageApplyStatus
  | agentUpdateResponse
  | boolMap
  | rawMessage
  deriving DecidableEq, Repr

namespace GoType

/-- The values of the type. -/
@[reducible] def ty : GoType → Ty Encoding
  | .combinedData => Entities.combinedData
  | .fingerprintResponse => Entities.fingerprintResponse
  | .string => .string
  | .smartData => .map Entities.smartData
  | .serviceDetails => .map .any
  | .packageUpdates => .slice packageUpdate
  | .packageApplyStatus => Entities.packageApplyStatus
  | .agentUpdateResponse => Entities.agentUpdateResponse
  | .boolMap => .map .bool
  | .rawMessage => .raw

/-- `%T` of a pointer to the type. -/
def name : GoType → String
  | .combinedData => "*system.CombinedData"
  | .fingerprintResponse => "*common.FingerprintResponse"
  | .string => "*string"
  | .smartData => "*map[string]smart.SmartData"
  | .serviceDetails => "*systemd.ServiceDetails"
  | .packageUpdates => "*[]system.PackageUpdate"
  | .packageApplyStatus => "*common.PackageApplyStatus"
  | .agentUpdateResponse => "*common.AgentUpdateResponse"
  | .boolMap => "*map[string]bool"
  | .rawMessage => "*cbor.RawMessage"

/-- The response has a field of its own for the type. -/
def typed : GoType → Bool
  | .combinedData | .fingerprintResponse | .string | .smartData | .serviceDetails => true
  | _ => false

theorem wf (t : GoType) (encoding : Encoding) : t.ty.Wf encoding := by
  cases t with
  | combinedData => exact wf_combinedData encoding
  | fingerprintResponse => exact wf_fingerprintResponse encoding
  | smartData => exact wf_smartData encoding
  | packageUpdates => exact wf_packageUpdate encoding
  | packageApplyStatus => exact wf_packageApplyStatus encoding
  | agentUpdateResponse => exact wf_agentUpdateResponse encoding
  | string | serviceDetails | boolMap | rawMessage => trivial

end GoType

/-! ## The response -/

/-- `common.AgentResponse`. -/
structure AgentResponse where
  id : Option (BitVec 32)
  systemData : Option combinedData.Val
  fingerprint : Option fingerprintResponse.Val
  error : GoString
  string : Option GoString
  smartData : (Ty.map smartData).Val
  serviceInfo : (Ty.map Ty.any : Ty Encoding).Val
  data : Option Item

namespace AgentResponse

/-- The fields in their order. -/
def toVal (r : AgentResponse) : agentResponse.Val
  | ⟨0, _⟩ => r.id
  | ⟨1, _⟩ => r.systemData
  | ⟨2, _⟩ => r.fingerprint
  | ⟨3, _⟩ => r.error
  | ⟨4, _⟩ => r.string
  | ⟨5, _⟩ => r.smartData
  | ⟨6, _⟩ => r.serviceInfo
  | ⟨7, _⟩ => r.data

/-- The response with these fields. -/
def ofVal (v : agentResponse.Val) : AgentResponse where
  id := v 0
  systemData := v 1
  fingerprint := v 2
  error := v 3
  string := v 4
  smartData := v 5
  serviceInfo := v 6
  data := v 7

/-- `cbor.Marshal` of a response. -/
def marshal (r : AgentResponse) : Item := agentResponse.enc Encoding.cborFormat r.toVal

/-- `cbor.Unmarshal` into a new response. -/
def unmarshal (message : Item) : Option AgentResponse :=
  (agentResponse.dec .cbor agentResponse.zero message).map ofVal

/-- `common.AgentResponse{Id: requestID}`. -/
def new (requestID : Option (BitVec 32)) : AgentResponse where
  id := requestID
  systemData := none
  fingerprint := none
  error := .inl ""
  string := none
  smartData := none
  serviceInfo := none
  data := none

/-- A response that carries its payload in the generic field. -/
def withData (requestID : Option (BitVec 32)) (data : Item) : AgentResponse :=
  { new requestID with data := some data }

end AgentResponse

/-- `newAgentResponse`. -/
def newAgentResponse : (t : GoType) → t.ty.Val → Option (BitVec 32) → AgentResponse
  | .combinedData, v, requestID => { AgentResponse.new requestID with systemData := some v }
  | .fingerprintResponse, v, requestID =>
    { AgentResponse.new requestID with fingerprint := some v }
  | .string, v, requestID => { AgentResponse.new requestID with string := some v }
  | .smartData, v, requestID => { AgentResponse.new requestID with smartData := v }
  | .serviceDetails, v, requestID => { AgentResponse.new requestID with serviceInfo := v }
  | t, v, requestID => AgentResponse.withData requestID (t.ty.enc Encoding.cborFormat v)

/-! ## The hub

`unmarshalErr` is the error that `cbor.Unmarshal` returns when it fails. -/

variable (unmarshalErr : GoError)

/-- A typed field that may be missing, into a destination of the type it has to have. -/
def typedField {t : GoType} (want : GoType) (field : Option want.ty.Val)
    (action missing : String) : Except GoError t.ty.Val :=
  if h : want = t then
    match field with
    | none => .error (.new missing)
    | some v => .ok (h ▸ v)
  else .error (.new ("unexpected dest type for " ++ action ++ ": " ++ t.name))

/-- `unmarshalLegacyResponse`. -/
def unmarshalLegacyResponse (resp : AgentResponse) (action : WebSocketAction) (t : GoType) :
    Except GoError t.ty.Val :=
  if action = WebSocketAction.getData then
    typedField .combinedData resp.systemData "GetData" "no system data in response"
  else if action = WebSocketAction.checkFingerprint then
    typedField .fingerprintResponse resp.fingerprint "CheckFingerprint"
      "no fingerprint in response"
  else if action = WebSocketAction.getContainerLogs then
    typedField .string resp.string "GetContainerLogs" "no logs in response"
  else if action = WebSocketAction.getContainerInfo then
    typedField .string resp.string "GetContainerInfo" "no info in response"
  else if action = WebSocketAction.getSmartData then
    typedField .smartData (resp.smartData.map some) "GetSmartData" "no SMART data in response"
  else if action = WebSocketAction.getSystemdInfo then
    typedField .serviceDetails (resp.serviceInfo.map some) "GetSystemdInfo"
      "no systemd info in response"
  else .error (.new ("unsupported action: " ++ toString action.toNat))

/-- `UnmarshalResponse` into a destination with a content. -/
def unmarshalResponse (resp : AgentResponse) (action : WebSocketAction) (t : GoType)
    (dest : t.ty.Val) : Except GoError t.ty.Val :=
  match resp.data with
  | some data =>
    match t.ty.dec .cbor dest data with
    | some v => .ok v
    | none => .error (.wrap "failed to unmarshal generic response data: " unmarshalErr)
  | none => unmarshalLegacyResponse resp action t

/-- `WebSocketTransport.Request`, from the message on. -/
def receive (message : Item) (action : WebSocketAction) (t : GoType) (dest : t.ty.Val) :
    Except GoError t.ty.Val :=
  match AgentResponse.unmarshal message with
  | none => .error unmarshalErr
  | some resp =>
    if resp.error ≠ .inl "" then .error (.new (resp.error.elim id fun _ => ""))
    else unmarshalResponse unmarshalErr resp action t dest

/-! ## The callers -/

/-- `status.Status` of a `PackageApplyStatus`. -/
def applyState (status : packageApplyStatus.Val) : GoString := status 0

/-- What `ApplyPackageUpdatesOnAgent` makes of the answer of an agent that installs synchronously: a
map from packages to error messages. -/
def legacyApplyStatus (packages : (Ty.slice Ty.string : Ty Encoding).Val) (now : BitVec 64)
    (legacy : AList fun _ : GoString => GoString) : packageApplyStatus.Val :=
  -- what was decoded is UTF-8
  let failed := legacy.entries.filterMap fun e => match e.1, e.2 with
    | .inl pkg, .inl msg => if msg ≠ "" then some (pkg ++ ": " ++ msg) else none
    | _, _ => none
  fun
    | ⟨0, _⟩ => if failed = [] then .inl "done" else .inl "failed"
    | ⟨1, _⟩ => packages
    | ⟨2, _⟩ => .inl ("\n".intercalate (failed.mergeSort fun a b => decide (a ≤ b)))
    | ⟨3, _⟩ => (0 : BitVec 64)
    | ⟨4, _⟩ => now

/-- `ApplyPackageUpdatesOnAgent`, from the message on. -/
def applyPackageUpdatesOnAgent (packages : (Ty.slice Ty.string : Ty Encoding).Val)
    (now : BitVec 64) (message : Item) : Except GoError packageApplyStatus.Val :=
  match receive unmarshalErr message WebSocketAction.applyPackageUpdates .rawMessage none with
  | .error err => .error err
  | .ok raw =>
    match packageApplyStatus.dec .cbor packageApplyStatus.zero (raw.getD .null) with
    | some status => if applyState status ≠ .inl "" then .ok status else legacy raw
    | none => legacy raw
where
  /-- The answer of a legacy agent. -/
  legacy (raw : Option Item) : Except GoError packageApplyStatus.Val :=
    match (Ty.map Ty.string : Ty Encoding).dec .cbor none (raw.getD .null) with
    | some (some m) =>
      if m.entries = [] then .error (.new "unrecognized apply response from agent")
      else .ok (legacyApplyStatus packages now m)
    | _ => .error (.new "unrecognized apply response from agent")

end Response

open Response Machinery.Wire

namespace RequestHandler

/-- The action a handler is registered for. -/
def action : RequestHandler → WebSocketAction
  | .getData => WebSocketAction.getData
  | .checkFingerprint => WebSocketAction.checkFingerprint
  | .getContainerLogs => WebSocketAction.getContainerLogs
  | .getContainerInfo => WebSocketAction.getContainerInfo
  | .getSmartData => WebSocketAction.getSmartData
  | .getSystemdInfo => WebSocketAction.getSystemdInfo
  | .getPackageUpdates => WebSocketAction.getPackageUpdates
  | .applyPackageUpdates => WebSocketAction.applyPackageUpdates
  | .getPackageUpdateStatus => WebSocketAction.getPackageUpdateStatus
  | .updateAgent => WebSocketAction.updateAgent
  | .rebootSystem => WebSocketAction.rebootSystem
  | .setPackageHold => WebSocketAction.setPackageHold

/-- The type of the value the handler passes to `SendResponse`. -/
@[reducible] def payload : RequestHandler → GoType
  | .getData => .combinedData
  | .checkFingerprint => .fingerprintResponse
  | .getContainerLogs | .getContainerInfo => .string
  | .getSmartData => .smartData
  | .getSystemdInfo => .serviceDetails
  | .getPackageUpdates => .packageUpdates
  | .applyPackageUpdates | .getPackageUpdateStatus => .packageApplyStatus
  | .updateAgent => .agentUpdateResponse
  | .rebootSystem | .setPackageHold => .boolMap

/-- The handlers are registered for their actions. -/
theorem handlers_action (h : RequestHandler) :
    HandlerRegistry.newHandlerRegistry.handlers h.action = some h := by
  cases h <;> rfl

end RequestHandler

namespace Response

open Entities Transport
open Encoding (cborFormat text_cbor)

/-- **What the caller on the hub gets** from a message that answers its request: `sysData` is the
`sys.data` that samples are fetched into, `packages` and `now` are the request and the clock of
`ApplyPackageUpdatesOnAgent`. -/
def fetch (unmarshalErr : GoError) (sysData : combinedData.Val)
    (packages : (Ty.slice Ty.string : Ty Encoding).Val) (now : BitVec 64) (message : Item) :
    (h : RequestHandler) → Except GoError h.payload.ty.Val
  | .getData => receive unmarshalErr message WebSocketAction.getData .combinedData sysData
  | .applyPackageUpdates => applyPackageUpdatesOnAgent unmarshalErr packages now message
  | h => receive unmarshalErr message h.action h.payload h.payload.ty.zero

/-! ## What arrives -/

namespace AgentResponse

/-- A map field with `omitempty`: an empty map does not arrive. -/
def mapField (t : Ty Encoding) (v : (Ty.map t).Val) : (Ty.map t).Val :=
  if (Ty.map t).isEmpty v then none else (Ty.map t).merge cborFormat none v

/-- **The response after it was encoded and decoded.** -/
def transferred (r : AgentResponse) : AgentResponse where
  id := r.id
  systemData := r.systemData.map (combinedData.merge cborFormat combinedData.zero)
  fingerprint := r.fingerprint.map (fingerprintResponse.merge cborFormat fingerprintResponse.zero)
  error := r.error
  string := r.string
  smartData := mapField Entities.smartData r.smartData
  serviceInfo := mapField .any r.serviceInfo
  data := r.data

/-- The text in the response is UTF-8. -/
structure Readable (r : AgentResponse) : Prop where
  systemData : (Ty.ptr combinedData).Readable cborFormat r.systemData
  fingerprint : (Ty.ptr fingerprintResponse).Readable cborFormat r.fingerprint
  error : r.error.isLeft
  string : ∀ s ∈ r.string, s.isLeft
  smartData : (Ty.map Entities.smartData).Readable cborFormat r.smartData
  serviceInfo : (Ty.map Ty.any).Readable cborFormat r.serviceInfo

theorem mapField_eq {t : Ty Encoding} {key : ℕ} (v : (Ty.map t).Val) :
    (if (!(cbor key).orEmpty.orZero.omits (Ty.map t) v) = true
      then (Ty.map t).merge cborFormat none v else none) = mapField t v := by
  unfold mapField
  cases v with
  | none => rfl
  | some m =>
    cases h : (Ty.map t).isEmpty (some m) <;>
      simp [Rule.omits, Rule.orEmpty, Rule.orZero, cbor, h, Ty.isZero]

theorem ofVal_merge (r : AgentResponse) :
    ofVal (agentResponse.merge cborFormat agentResponse.zero r.toVal) = r.transferred := by
  obtain ⟨id, systemData, fingerprint, error, string, smartData, serviceInfo, data⟩ := r
  rw [transferred, AgentResponse.mk.injEq]
  refine ⟨?_, ?_, ?_, ?_, ?_, ?_, ?_, ?_⟩
  · cases id <;> rfl
  · cases systemData <;> rfl
  · cases fingerprint <;> rfl
  · by_cases he : error = .inl ""
    · rw [he]
      rfl
    · refine (if_pos ?_).trans (text_cbor error)
      change (!(cbor 3).orEmpty.orZero.omits (Ty.string : Ty Encoding) error) = true
      simp [Rule.omits, Rule.orEmpty, Rule.orZero, cbor, Ty.isEmpty, Ty.isZero, he]
  · cases string with
    | none => rfl
    | some s => cases s <;> rfl
  · exact mapField_eq smartData
  · exact mapField_eq serviceInfo
  · cases data <;> rfl

theorem readable_toVal (r : AgentResponse) :
    agentResponse.Readable cborFormat r.toVal ↔ r.Readable := by
  constructor
  · intro h
    refine ⟨h 1 rfl, h 2 rfl, ?_, fun s hs => ?_, h 5 rfl, h 6 rfl⟩
    · rw [← text_cbor r.error]
      exact h 3 rfl
    · rw [← text_cbor s]
      exact h 4 rfl s hs
  · intro h i _
    match i with
    | ⟨0, _⟩ => exact fun _ _ => trivial
    | ⟨1, _⟩ => exact h.systemData
    | ⟨2, _⟩ => exact h.fingerprint
    | ⟨3, _⟩ =>
      change (cborFormat.text r.error).isLeft
      rw [text_cbor]
      exact h.error
    | ⟨4, _⟩ =>
      intro s hs
      change (cborFormat.text s).isLeft
      rw [text_cbor]
      exact h.string s hs
    | ⟨5, _⟩ => exact h.smartData
    | ⟨6, _⟩ => exact h.serviceInfo
    | ⟨7, _⟩ => trivial

/-- **A response arrives** exactly if its text is UTF-8. -/
theorem unmarshal_marshal {r r' : AgentResponse} :
    unmarshal r.marshal = some r' ↔ r.Readable ∧ r' = r.transferred := by
  have hdec : ∀ w, agentResponse.dec .cbor agentResponse.zero
      (agentResponse.enc cborFormat r.toVal) = some w ↔
        r.Readable ∧ w = agentResponse.merge cborFormat agentResponse.zero r.toVal := fun w => by
    rw [← readable_toVal]
    exact Ty.dec_eq_some cborFormat (wf_agentResponse .cbor)
  unfold unmarshal marshal
  rw [Option.map_eq_some_iff]
  simp only [hdec]
  constructor
  · rintro ⟨w, ⟨hr, rfl⟩, rfl⟩
    exact ⟨hr, ofVal_merge r⟩
  · rintro ⟨hr, rfl⟩
    exact ⟨_, ⟨hr, rfl⟩, ofVal_merge r⟩

end AgentResponse

/-! ## What the hub makes of it -/

variable {unmarshalErr : GoError} {id : Option (BitVec 32)} {r : AgentResponse}
  {action : WebSocketAction} {t : GoType} {dest v : t.ty.Val}

/-- A caller gets a value exactly if the response arrives without an error in it. -/
theorem receive_eq_ok :
    receive unmarshalErr r.marshal action t dest = .ok v ↔
      r.Readable ∧ r.error = .inl "" ∧
        unmarshalResponse unmarshalErr r.transferred action t dest = .ok v := by
  unfold receive
  cases h : AgentResponse.unmarshal r.marshal with
  | none =>
    have hr : ¬ r.Readable := fun hr => by
      rw [AgentResponse.unmarshal_marshal.mpr ⟨hr, rfl⟩] at h
      cases h
    simp [hr]
  | some r' =>
    obtain ⟨hr, rfl⟩ := AgentResponse.unmarshal_marshal.mp h
    have he : r.transferred.error = r.error := rfl
    by_cases hne : r.error = .inl "" <;> simp [hr, he, hne]

theorem readable_new (id : Option (BitVec 32)) : (AgentResponse.new id).Readable := by
  constructor <;> simp [AgentResponse.new, Ty.Readable]

theorem readable_withData (id : Option (BitVec 32)) (data : Item) :
    (AgentResponse.withData id data).Readable := by
  constructor <;> simp [AgentResponse.withData, AgentResponse.new, Ty.Readable]

theorem readable_newAgentResponse :
    (newAgentResponse t v id).Readable ↔ (t.typed → t.ty.Readable cborFormat v) := by
  have hnew := readable_new id
  cases t with
  | combinedData =>
    exact ⟨fun h _ => h.systemData v rfl,
      fun h => { hnew with systemData := fun w hw => Option.some.inj hw ▸ h rfl }⟩
  | fingerprintResponse =>
    exact ⟨fun h _ => h.fingerprint v rfl,
      fun h => { hnew with fingerprint := fun w hw => Option.some.inj hw ▸ h rfl }⟩
  | string =>
    simp only [GoType.typed, Ty.Readable, text_cbor, true_imp_iff]
    exact ⟨fun h => h.string v rfl,
      fun h => { hnew with string := fun w hw => Option.some.inj hw ▸ h }⟩
  | smartData => exact ⟨fun h _ => h.smartData, fun h => { hnew with smartData := h rfl }⟩
  | serviceDetails => exact ⟨fun h _ => h.serviceInfo, fun h => { hnew with serviceInfo := h rfl }⟩
  | packageUpdates | packageApplyStatus | agentUpdateResponse | boolMap | rawMessage =>
    exact iff_of_true (readable_withData id _) fun h => absurd h Bool.false_ne_true

theorem unmarshalResponse_data {data : Item} {w : t.ty.Val} (hdata : r.data = some data) :
    unmarshalResponse unmarshalErr r action t dest = .ok w ↔
      t.ty.dec .cbor dest data = some w := by
  unfold unmarshalResponse
  rw [hdata]
  dsimp only
  split
  · rename_i u hu
    simp [hu]
  · rename_i hu
    simp [hu]

/-- A value in the generic field is decoded into the destination. -/
theorem receive_data {w : t.ty.Val} (hdata : r.data = some (t.ty.enc cborFormat v))
    (hr : r.Readable) (herr : r.error = .inl "") :
    receive unmarshalErr r.marshal action t dest = .ok w ↔
      t.ty.Readable cborFormat v ∧ w = t.ty.merge cborFormat dest v := by
  have htrans : r.transferred.data = some (t.ty.enc cborFormat v) := hdata
  rw [receive_eq_ok, and_iff_right hr, and_iff_right herr, unmarshalResponse_data htrans]
  exact Ty.dec_eq_some cborFormat (t.wf .cbor)

/-- A value without a field of its own. -/
theorem receive_generic {w : t.ty.Val} (ht : t.typed = false) :
    receive unmarshalErr (newAgentResponse t v id).marshal action t dest = .ok w ↔
      t.ty.Readable cborFormat v ∧ w = t.ty.merge cborFormat dest v := by
  have hr : (newAgentResponse t v id).Readable := readable_newAgentResponse.mpr (by simp [ht])
  cases t with
  | packageUpdates | packageApplyStatus | agentUpdateResponse | boolMap | rawMessage =>
    exact receive_data rfl hr rfl
  | combinedData | fingerprintResponse | string | smartData | serviceDetails => cases ht

/-- A value in a field of its own: what the field holds after the transfer. -/
theorem receive_typed {field : Option t.ty.Val} {name missing : String} {w : t.ty.Val}
    (ht : t.typed = true)
    (hun : unmarshalResponse unmarshalErr (newAgentResponse t v id).transferred action t dest
      = typedField t field name missing) :
    receive unmarshalErr (newAgentResponse t v id).marshal action t dest = .ok w ↔
      t.ty.Readable cborFormat v ∧ field = some w := by
  have herr : (newAgentResponse t v id).error = .inl "" := by cases t <;> rfl
  rw [receive_eq_ok, readable_newAgentResponse, hun, and_iff_right herr]
  cases field <;> simp [typedField, ht]

/-- A sample in its own field replaces the destination. -/
theorem receive_systemData {v w sysData : combinedData.Val} :
    receive unmarshalErr (newAgentResponse .combinedData v id).marshal WebSocketAction.getData
        .combinedData sysData = .ok w ↔
      combinedData.Readable cborFormat v ∧
        w = combinedData.merge cborFormat combinedData.zero v := by
  have hun : unmarshalResponse unmarshalErr (newAgentResponse .combinedData v id).transferred
      WebSocketAction.getData .combinedData sysData
    = typedField .combinedData (some (combinedData.merge cborFormat combinedData.zero v))
        "GetData" "no system data in response" := rfl
  rw [receive_typed rfl hun, Option.some.injEq, eq_comm (a := w)]

/-- An empty map does not arrive. -/
theorem mapField_eq_some {s : Ty Encoding} {m w : (Ty.map s).Val} :
    (AgentResponse.mapField s m).map some = some w ↔
      (Ty.map s).isEmpty m = false ∧ w = (Ty.map s).merge cborFormat none m := by
  unfold AgentResponse.mapField
  cases m with
  | none => simp [Ty.isEmpty]
  | some m =>
    cases (Ty.map s).isEmpty (some m) with
    | true => simp
    | false => simp [Ty.merge, eq_comm]

theorem some_eq_some_iff {α : Type} {a b : α} : some a = some b ↔ True ∧ b = a := by
  rw [true_and, Option.some.injEq, eq_comm]

/-- The answer of this agent is no map from packages to messages. -/
theorem legacy_enc {packages : (Ty.slice Ty.string : Ty Encoding).Val} {now : BitVec 64}
    (v : packageApplyStatus.Val) :
    applyPackageUpdatesOnAgent.legacy packages now (some (packageApplyStatus.enc cborFormat v))
      = .error (.new "unrecognized apply response from agent") := by
  have henc : ∃ item rest, packageApplyStatus.enc cborFormat v = .map ((.int 0, item) :: rest) :=
    ⟨_, _, rfl⟩
  obtain ⟨item, rest, henc⟩ := henc
  rw [applyPackageUpdatesOnAgent.legacy, Option.getD_some, henc]
  simp [Ty.dec]

theorem applyPackageUpdatesOnAgent_eq_ok {packages : (Ty.slice Ty.string : Ty Encoding).Val}
    {now : BitVec 64} {v w : packageApplyStatus.Val} :
    applyPackageUpdatesOnAgent unmarshalErr packages now
        (newAgentResponse .packageApplyStatus v id).marshal = .ok w ↔
      packageApplyStatus.Readable cborFormat v ∧ applyState v ≠ .inl "" ∧
        w = packageApplyStatus.merge cborFormat packageApplyStatus.zero v := by
  have hraw : receive unmarshalErr (newAgentResponse .packageApplyStatus v id).marshal
      WebSocketAction.applyPackageUpdates .rawMessage none
        = .ok (some (packageApplyStatus.enc cborFormat v)) := by
    rw [receive_eq_ok]
    exact ⟨readable_newAgentResponse.mpr nofun, rfl, rfl⟩
  have hstate : applyState (packageApplyStatus.merge cborFormat packageApplyStatus.zero v)
      = applyState v := text_cbor (applyState v)
  have hdec : ∀ u, packageApplyStatus.dec .cbor packageApplyStatus.zero
      (packageApplyStatus.enc cborFormat v) = some u ↔
        packageApplyStatus.Readable cborFormat v ∧
          u = packageApplyStatus.merge cborFormat packageApplyStatus.zero v :=
    fun u => Ty.dec_eq_some cborFormat (wf_packageApplyStatus .cbor)
  rw [applyPackageUpdatesOnAgent, hraw]
  simp only [Option.getD_some]
  split
  · rename_i status hs
    obtain ⟨hr, rfl⟩ := (hdec _).mp hs
    by_cases hne : applyState v = .inl ""
    · simp [hstate, hne, legacy_enc]
    · simp [hstate, hne, hr, eq_comm]
  · rename_i hs
    have hr : ¬ packageApplyStatus.Readable cborFormat v := fun hr => by
      rw [(hdec _).mpr ⟨hr, rfl⟩] at hs
      cases hs
    simp [hr, legacy_enc]

/-- **What the hub takes for an answer** beyond readable text: a SMART or systemd map that is not
empty, an apply status with a state. -/
def Accepted : (h : RequestHandler) → h.payload.ty.Val → Prop
  | .getSmartData, m => (Ty.map smartData).isEmpty m = false
  | .getSystemdInfo, m => (Ty.map Ty.any : Ty Encoding).isEmpty m = false
  | .applyPackageUpdates, status => applyState status ≠ .inl ""
  | _, _ => True

/-- **What the caller gets**: what is readable and accepted arrives, merged into a zero value. -/
theorem fetch_eq_ok {sysData : combinedData.Val}
    {packages : (Ty.slice Ty.string : Ty Encoding).Val} {now : BitVec 64}
    {h : RequestHandler} {v w : h.payload.ty.Val} :
    fetch unmarshalErr sysData packages now (newAgentResponse h.payload v id).marshal h = .ok w ↔
      h.payload.ty.Readable cborFormat v ∧ Accepted h v ∧
        w = h.payload.ty.merge cborFormat h.payload.ty.zero v := by
  cases h with
  | getData =>
    exact receive_systemData.trans (and_congr_right fun _ => Iff.of_eq (true_and _).symm)
  | checkFingerprint =>
    have hun : unmarshalResponse unmarshalErr
        (newAgentResponse .fingerprintResponse v id).transferred
        WebSocketAction.checkFingerprint .fingerprintResponse fingerprintResponse.zero
      = typedField .fingerprintResponse
          (some (fingerprintResponse.merge cborFormat fingerprintResponse.zero v))
          "CheckFingerprint" "no fingerprint in response" := rfl
    exact (receive_typed rfl hun).trans (and_congr_right fun _ => some_eq_some_iff)
  | getContainerLogs =>
    have hun : unmarshalResponse unmarshalErr (newAgentResponse .string v id).transferred
        WebSocketAction.getContainerLogs .string (.inl "")
      = typedField .string (some (cborFormat.text v)) "GetContainerLogs" "no logs in response" := by
      rw [text_cbor]
      rfl
    exact (receive_typed rfl hun).trans (and_congr_right fun _ => some_eq_some_iff)
  | getContainerInfo =>
    have hun : unmarshalResponse unmarshalErr (newAgentResponse .string v id).transferred
        WebSocketAction.getContainerInfo .string (.inl "")
      = typedField .string (some (cborFormat.text v)) "GetContainerInfo" "no info in response" := by
      rw [text_cbor]
      rfl
    exact (receive_typed rfl hun).trans (and_congr_right fun _ => some_eq_some_iff)
  | getSmartData =>
    have hun : unmarshalResponse unmarshalErr (newAgentResponse .smartData v id).transferred
        WebSocketAction.getSmartData .smartData none
      = typedField .smartData ((AgentResponse.mapField smartData v).map some)
          "GetSmartData" "no SMART data in response" := rfl
    exact (receive_typed rfl hun).trans (and_congr_right fun _ => mapField_eq_some)
  | getSystemdInfo =>
    have hun : unmarshalResponse unmarshalErr (newAgentResponse .serviceDetails v id).transferred
        WebSocketAction.getSystemdInfo .serviceDetails none
      = typedField .serviceDetails ((AgentResponse.mapField .any v).map some)
          "GetSystemdInfo" "no systemd info in response" := rfl
    exact (receive_typed rfl hun).trans (and_congr_right fun _ => mapField_eq_some)
  | applyPackageUpdates => exact applyPackageUpdatesOnAgent_eq_ok
  | getPackageUpdates | getPackageUpdateStatus | updateAgent | rebootSystem | setPackageHold =>
    exact (receive_generic rfl).trans (and_congr_right fun _ => Iff.of_eq (true_and _).symm)

/-! ## The round trip -/

/-- **The answer round-trips**: the caller gets exactly the value the handler sent. -/
def RoundTrips (unmarshalErr : GoError) (sysData : combinedData.Val)
    (packages : (Ty.slice Ty.string : Ty Encoding).Val) (now : BitVec 64)
    (id : Option (BitVec 32)) (h : RequestHandler) (v : h.payload.ty.Val) : Prop :=
  ∃ w, fetch unmarshalErr sysData packages now (newAgentResponse h.payload v id).marshal h = .ok w
    ∧ h.payload.ty.Same w v

/-- **Which answers round-trip**, for every handler, every value of the type it sends, with or
without a request id and whatever the hub's `sys.data` held: those whose text is UTF-8 and whose
content CBOR has a place for, except an empty SMART or systemd map and an apply status without a
state. -/
theorem roundTrips_iff (unmarshalErr : GoError) (sysData : combinedData.Val)
    (packages : (Ty.slice Ty.string : Ty Encoding).Val) (now : BitVec 64)
    (id : Option (BitVec 32)) (h : RequestHandler) (v : h.payload.ty.Val) :
    RoundTrips unmarshalErr sysData packages now id h v ↔
      h.payload.ty.Readable cborFormat v ∧ h.payload.ty.Carried cborFormat v ∧ Accepted h v := by
  have hsame : h.payload.ty.Same (h.payload.ty.merge cborFormat h.payload.ty.zero v) v ↔
      h.payload.ty.Carried cborFormat v :=
    (Ty.same_merge_iff (.inr rfl)).trans Ty.faithful_zero_iff
  unfold RoundTrips
  simp only [fetch_eq_ok]
  constructor
  · rintro ⟨w, ⟨hr, ha, rfl⟩, hw⟩
    exact ⟨hr, hsame.mp hw, ha⟩
  · rintro ⟨hr, hc, ha⟩
    exact ⟨_, ⟨hr, ha, rfl⟩, hsame.mpr hc⟩

/-- A machine without SMART data: the handler sends an empty map, the caller gets an error. -/
theorem not_roundTrips_emptySmartData :
    fetch (.new "cbor") combinedData.zero none 0
        (newAgentResponse .smartData (some ∅) (some 1)).marshal .getSmartData
      = .error (.new "no SMART data in response") ∧
    ¬ RoundTrips (.new "cbor") combinedData.zero none 0 (some 1) .getSmartData (some ∅) := by
  refine ⟨rfl, ?_⟩
  rintro ⟨w, hw, -⟩
  cases hw

end Response

end Beszel
