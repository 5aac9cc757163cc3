import Beszel.Hub.CollectionRules
import Mathlib.Data.Rat.Defs
import Mathlib.Data.List.Infix
import Mathlib.Data.Fintype.EquivFin

/-!
# Hub/Routes — the custom routes that reach systems

    request ──RequireAuth──▸ handler ──GetSystem──▸ agent
                                     ──transaction──▸ alerts

The handlers of `internal/hub/hub.go`, `internal/hub/agent_install.go` and
`internal/alerts/alerts_api.go` that name a system or fan out to several.  The rules of the
collections are evaluated by PocketBase on its own record routes only, so what protects a system
here is what a handler checks by itself.  `Respects` compares a request with the rules;
`reaches_iff` says what a handler does check, and `respects_iff` draws the consequence.
-/

namespace Beszel

open CollectionRules

namespace Routes

/-! ## The hub -/

/-- A record of `systems`: the fields the routes read, with `pu` and `pus` of its `info`. -/
structure SystemRecord where
  id : SystemId
  name : String
  status : SystemStatus
  users : List String
  pu : UInt16
  pus : UInt16
  deriving DecidableEq, Repr

/-- A record of `alerts`. -/
structure AlertRecord where
  user : String
  system : SystemId
  name : String
  value : ℚ
  min : UInt8
  deriving DecidableEq

/-- What the agents and the hub's own storage answer during a request; an error is its text. -/
structure Agents where
  getContainerLogs : SystemId → String → Except String String
  getContainerInfo : SystemId → String → Except String String
  getSystemdInfo : SystemId → String → Except String String
  getSmartData : SystemId → Except String Unit
  getPackageUpdates : SystemId → Bool → Except String (List String)
  applyPackageUpdates : SystemId → List String → Bool → Bool → Except String String
  setPackageHold : SystemId → String → Bool → Except String Unit
  getPackageUpdateStatus : SystemId → Except String String
  updateAgent : SystemId → Except String Bool
  rebootSystem : SystemId → Except String Unit

/-- The hub: the two environment variables, the records, the ids in the store of the system manager
and the agent binaries staged in the data directory. -/
structure Hub where
  shareAllSystems : String
  containerDetails : String
  users : List User
  systems : List SystemRecord
  store : List SystemId
  alerts : List AlertRecord
  stagedAgentChecksums : List (String × String)
  appURL : String

/-- A request body after `BindBody`: what it has left in the struct, and whether it failed. -/
structure Bound (α : Type) where
  value : α
  failed : Bool

/-- The body of `POST /updates/apply`. -/
structure ApplyBody where
  packages : List String
  all : Bool
  securityOnly : Bool

/-- The body of `POST /updates/hold`. -/
structure HoldBody where
  package : String
  hold : Bool

/-- The body of `POST /user-alerts`. -/
structure AlertsBody where
  min : UInt8
  value : ℚ
  name : String
  systems : List SystemId
  overwrite : Bool

/-- The errors the database gives during `UpsertUserAlerts`. -/
structure AlertsDb where
  collection : Option String
  find : SystemId → Option String
  save : SystemId → Option String

/-- The custom routes that name systems or fan out to them, with their parameters. -/
inductive Request
  | getContainerLogs (system container : String)
  | getContainerInfo (system container : String)
  | getSystemdInfo (system service : String)
  | refreshSmartData (system : String)
  | upsertUserAlerts (body : Bound AlertsBody) (db : AlertsDb)
  | checkPackageUpdates (id : String) (refresh : Bool)
  | applyPackageUpdates (id : String) (body : Bound ApplyBody)
  | applyAllPackageUpdates (securityOnly : Bool) (find : Option String)
  | setPackageHold (id : String) (body : Bound HoldBody)
  | packageUpdateStatus (id : String)
  | updateAgent (id : String)
  | updateAllAgents (find : Option String)
  | rebootSystem (id : String)

/-- **The routes that change the state of a host** — the others read from the agent, or write only
records of the user. -/
def Request.stateChanging : Request → Bool
  | .applyPackageUpdates .. | .applyAllPackageUpdates .. | .setPackageHold .. | .updateAgent ..
  | .updateAllAgents .. | .rebootSystem .. => true
  | _ => false

/-! ## Effects and responses -/

/-- A call of `System.request`: the action with its data. -/
inductive Call
  | getContainerLogs (container : String)
  | getContainerInfo (container : String)
  | getSystemdInfo (service : String)
  | getSmartData
  | getPackageUpdates (refresh : Bool)
  | applyPackageUpdates (packages : List String) (all securityOnly : Bool)
  | setPackageHold (package : String) (hold : Bool)
  | getPackageUpdateStatus
  | updateAgent (url : String) (checksums : List (String × String))
  | rebootSystem

/-- What a request does besides answering. -/
inductive Effect
  | sent (system : SystemId) (call : Call)
  | alertCreated (alert : AlertRecord)
  | alertUpdated (alert : AlertRecord)

/-- The system an effect is on, if it is one the rules are about: a request to its agent, or a new
alert on it. -/
def Effect.system? : Effect → Option SystemId
  | .sent system _ => some system
  | .alertCreated alert => some alert.system
  | .alertUpdated _ => none

/-- The body of a response. -/
inductive Body
  | message (text : String)
  | error (text : String)
  | field (key value : String)
  | updates (packages : List String)
  | held (hold : Bool)
  | updated (updated : Bool)
  | success
  | unreachable (text : String)
  | results (outcomes : List (String × String))

/-- A response, the error a handler returns to the router, or the router's own answer for a path
that is not registered. -/
inductive Response
  | json (status : ℕ) (body : Body)
  | failure (text : String)
  | notRegistered

/-- What a handler does. -/
abbrev Outcome := List Effect × Response

/-- `e.NotFoundError`, `e.BadRequestError`, `apis.NewApiError`. -/
def apiError (status : ℕ) (text : String) : Response := .json status (.message text)

/-- `e.JSON(status, map[string]string{"error": …})`. -/
def errorJson (status : ℕ) (text : String) : Response := .json status (.error text)

/-- `SystemManager.GetSystem`: whether the store has the system, with the error it gives. -/
def Hub.getSystem (h : Hub) (id : SystemId) : Except String SystemId :=
  if id ∈ h.store then .ok id else .error "system not found"

/-- The characters `validPackageName` allows at the start of a name. -/
def packageStart (c : Char) : Bool := c.isAlphanum

/-- …and after it. -/
def packageRest (c : Char) : Bool :=
  c.isAlphanum || c = '.' || c = '+' || c = ':' || c = '_' || c = '-'

/-- `validPackageName`, the pattern `^[A-Za-z0-9][A-Za-z0-9.+:_-]*$`. -/
def validPackageName (name : String) : Bool :=
  match name.toList with
  | [] => false
  | c :: cs => packageStart c && cs.all packageRest

/-! ## Handlers that name one system -/

section Handlers

variable (h : Hub) (agents : Agents)

/-- `containerRequestHandler`. -/
def containerRequestHandler (system container : String) (call : String → Call)
    (fetchFunc : SystemId → String → Except String String) (responseKey : String) : Outcome :=
  if system = "" ∨ container = "" then
    ([], errorJson 400 "system and container parameters are required")
  else
    match h.getSystem system with
    | .error _ => ([], errorJson 404 "system not found")
    | .ok system =>
      ([.sent system (call container)],
        match fetchFunc system container with
        | .error err => errorJson 404 err
        | .ok data => .json 200 (.field responseKey data))

/-- `getContainerLogs`. -/
def getContainerLogs (system container : String) : Outcome :=
  containerRequestHandler h system container .getContainerLogs agents.getContainerLogs "logs"

/-- `getContainerInfo`. -/
def getContainerInfo (system container : String) : Outcome :=
  containerRequestHandler h system container .getContainerInfo agents.getContainerInfo "info"

/-- `getSystemdInfo`. -/
def getSystemdInfo (system service : String) : Outcome :=
  if system = "" ∨ service = "" then
    ([], errorJson 400 "system and service parameters are required")
  else
    match h.getSystem system with
    | .error _ => ([], errorJson 404 "system not found")
    | .ok system =>
      ([.sent system (.getSystemdInfo service)],
        match agents.getSystemdInfo system service with
        | .error err => errorJson 404 err
        | .ok details => .json 200 (.field "details" details))

/-- `refreshSmartData`. -/
def refreshSmartData (system : String) : Outcome :=
  if system = "" then ([], errorJson 400 "system parameter is required")
  else
    match h.getSystem system with
    | .error _ => ([], errorJson 404 "system not found")
    | .ok system =>
      ([.sent system .getSmartData],
        match agents.getSmartData system with
        | .error err => errorJson 500 err
        | .ok _ => .json 200 (.field "status" "ok"))

/-- `checkPackageUpdates`. -/
def checkPackageUpdates (id : String) (refresh : Bool) : Outcome :=
  match h.getSystem id with
  | .error _ => ([], apiError 404 "system not found")
  | .ok system =>
    ([.sent system (.getPackageUpdates refresh)],
      match agents.getPackageUpdates system refresh with
      | .error err => apiError 502 ("agent request failed: " ++ err)
      | .ok updates => .json 200 (.updates updates))

/-- `applyPackageUpdates`. -/
def applyPackageUpdates (id : String) (body : Bound ApplyBody) : Outcome :=
  match h.getSystem id with
  | .error _ => ([], apiError 404 "system not found")
  | .ok system =>
    if body.failed then ([], apiError 400 "invalid request body")
    else if body.value.packages = [] ∧ body.value.all = false then
      ([], apiError 400 "no packages specified")
    else
      match body.value.packages.find? (!validPackageName ·) with
      | some pkg => ([], apiError 400 ("invalid package name: " ++ pkg))
      | none =>
        let ⟨packages, all, securityOnly⟩ := body.value
        ([.sent system (.applyPackageUpdates packages all securityOnly)],
          match agents.applyPackageUpdates system packages all securityOnly with
          | .error err => apiError 502 ("agent apply failed: " ++ err)
          | .ok status => .json 202 (.field "status" status))

/-- `setPackageHold`. -/
def setPackageHold (id : String) (body : Bound HoldBody) : Outcome :=
  match h.getSystem id with
  | .error _ => ([], apiError 404 "system not found")
  | .ok system =>
    if body.failed ∨ body.value.package = "" then ([], apiError 400 "package is required")
    else if validPackageName body.value.package = false then
      ([], apiError 400 "invalid package name")
    else
      ([.sent system (.setPackageHold body.value.package body.value.hold)],
        match agents.setPackageHold system body.value.package body.value.hold with
        | .error err => apiError 502 err
        | .ok _ => .json 200 (.held body.value.hold))

/-- `packageUpdateStatus`. -/
def packageUpdateStatus (id : String) : Outcome :=
  match h.getSystem id with
  | .error _ => ([], apiError 404 "system not found")
  | .ok system =>
    ([.sent system .getPackageUpdateStatus],
      match agents.getPackageUpdateStatus system with
      | .error err => .json 200 (.unreachable err)
      | .ok status => .json 200 (.field "status" status))

/-- The text both update handlers give when nothing is staged. -/
def noneStaged : Response :=
  apiError 503 "no agent binaries staged on the hub (data dir /agents)"

/-- The message `updateAgent` gives for an agent's error: old fork agents don't know the action. -/
def updateMessage (err : String) : String :=
  if err = "unknown action: 9" ∨ err = "unsupported operation" then
    "this agent is too old for remote update - reinstall it once with the Add System command"
  else err

/-- `updateAgent`. -/
def updateAgent (id : String) : Outcome :=
  match h.getSystem id with
  | .error _ => ([], apiError 404 "system not found")
  | .ok system =>
    if h.stagedAgentChecksums = [] then ([], noneStaged)
    else
      ([.sent system (.updateAgent h.appURL h.stagedAgentChecksums)],
        match agents.updateAgent system with
        | .error err => apiError 502 ("agent update failed: " ++ updateMessage err)
        | .ok updated => .json 200 (.updated updated))

/-- `rebootSystem`. -/
def rebootSystem (id : String) : Outcome :=
  match h.getSystem id with
  | .error _ => ([], apiError 404 "system not found")
  | .ok system =>
    ([.sent system .rebootSystem],
      match agents.rebootSystem system with
      | .error err => apiError 502 ("reboot failed: " ++ err)
      | .ok _ => .json 200 (.field "status" "rebooting"))

/-! ## Handlers that fan out

One goroutine a record; the effects do not depend on their order, and the outcomes are listed in
the order of the records. -/

/-- `FindRecordsByFilter("systems", "status = 'up'", "", 500, 0)`. -/
def upRecords : List SystemRecord := (h.systems.filter (·.status = .up)).take 500

/-- The number of updates `applyAllPackageUpdates` reads from a record. -/
def SystemRecord.count (rec : SystemRecord) (securityOnly : Bool) : UInt16 :=
  if securityOnly then rec.pus else rec.pu

/-- `applyAllPackageUpdates`, for one record. -/
def applyAllOne (securityOnly : Bool) (rec : SystemRecord) : List Effect × String :=
  if rec.count securityOnly = 0 then ([], "no updates")
  else
    match h.getSystem rec.id with
    | .error err => ([], "error: " ++ err)
    | .ok system =>
      ([.sent system (.applyPackageUpdates [] true securityOnly)],
        match agents.applyPackageUpdates system [] true securityOnly with
        | .error err => "error: " ++ err
        | .ok status => status ++ " (" ++ toString (rec.count securityOnly).toNat ++ ")")

/-- The message `updateAllAgents` gives for an agent's error. -/
def updateAllMessage (err : String) : String :=
  if "unknown action".toList <:+: err.toList then
    "agent too old for remote update - reinstall once"
  else err

/-- `updateAllAgents`, for one record. -/
def updateAllOne (rec : SystemRecord) : List Effect × String :=
  match h.getSystem rec.id with
  | .error err => ([], "error: " ++ err)
  | .ok system =>
    ([.sent system (.updateAgent h.appURL h.stagedAgentChecksums)],
      match agents.updateAgent system with
      | .error err => "error: " ++ updateAllMessage err
      | .ok true => "updated"
      | .ok false => "up to date")

/-- The loop over the records, with what it does for each of them. -/
def fanOut (one : SystemRecord → List Effect × String) (records : List SystemRecord) : Outcome :=
  (records.flatMap fun rec => (one rec).1,
    .json 200 (.results (records.map fun rec => (rec.name, (one rec).2))))

/-- `applyAllPackageUpdates`. -/
def applyAllPackageUpdates (securityOnly : Bool) (find : Option String) : Outcome :=
  match find with
  | some err => ([], apiError 500 err)
  | none => fanOut (applyAllOne h agents securityOnly) (upRecords h)

/-- `updateAllAgents`. -/
def updateAllAgents (find : Option String) : Outcome :=
  if h.stagedAgentChecksums = [] then ([], noneStaged)
  else
    match find with
    | some err => ([], apiError 500 err)
    | none => fanOut (updateAllOne h agents) (upRecords h)

end Handlers

/-! ## User alerts -/

section Alerts

variable (userID : String) (body : AlertsBody) (db : AlertsDb)

/-- The filter `system={:system} && name={:name} && user={:user}`. -/
def AlertRecord.matches (alert : AlertRecord) (name : String) (system : SystemId) : Bool :=
  alert.system = system && alert.name = name && alert.user = userID

/-- The loop of `UpsertUserAlerts` for one system: the alerts afterwards and what was saved. -/
def upsertOne (alerts : List AlertRecord) (system : SystemId) :
    Except String (List AlertRecord × List Effect) :=
  match db.find system with
  | some err => .error err
  | none =>
    match alerts.find? (·.matches userID body.name system) with
    | some alert =>
      if body.overwrite = false then .ok (alerts, [])
      else
        match db.save system with
        | some err => .error err
        | none =>
          let saved := { alert with value := body.value, min := body.min }
          .ok (alerts.map fun a => if a.matches userID body.name system then saved else a,
            [.alertUpdated saved])
    | none =>
      match db.save system with
      | some err => .error err
      | none =>
        let created := ⟨userID, system, body.name, body.value, body.min⟩
        .ok (created :: alerts, [.alertCreated created])

/-- The transaction of `UpsertUserAlerts`. -/
def upsertLoop : List SystemId → List AlertRecord → Except String (List Effect)
  | [], _ => .ok []
  | system :: systems, alerts =>
    match upsertOne userID body db alerts system with
    | .error err => .error err
    | .ok (alerts, effects) =>
      match upsertLoop systems alerts with
      | .error err => .error err
      | .ok effects' => .ok (effects ++ effects')

end Alerts

/-- `UpsertUserAlerts`.  An error rolls the transaction back. -/
def upsertUserAlerts (h : Hub) (userID : String) (body : Bound AlertsBody) (db : AlertsDb) :
    Outcome :=
  if body.failed ∨ userID = "" ∨ body.value.name = "" ∨ body.value.systems = [] then
    ([], apiError 400 "Bad data")
  else
    match db.collection with
    | some err => ([], .failure err)
    | none =>
      match upsertLoop userID body.value db body.value.systems h.alerts with
      | .error err => ([], .failure err)
      | .ok effects => (effects, .json 200 .success)

/-! ## The routes -/

/-- A route that `registerApiRoutes` registers only with container details enabled. -/
def containerRoute (h : Hub) (outcome : Outcome) : Outcome :=
  if h.containerDetails = "false" then ([], .notRegistered) else outcome

/-- **A request** of a user that `RequireAuth` let through. -/
def handle (h : Hub) (agents : Agents) (u : User) : Request → Outcome
  | .getContainerLogs system container =>
    containerRoute h (getContainerLogs h agents system container)
  | .getContainerInfo system container =>
    containerRoute h (getContainerInfo h agents system container)
  | .getSystemdInfo system service => getSystemdInfo h agents system service
  | .refreshSmartData system => refreshSmartData h agents system
  | .upsertUserAlerts body db => upsertUserAlerts h u.id body db
  | .checkPackageUpdates id refresh => checkPackageUpdates h agents id refresh
  | .applyPackageUpdates id body => applyPackageUpdates h agents id body
  | .applyAllPackageUpdates securityOnly find => applyAllPackageUpdates h agents securityOnly find
  | .setPackageHold id body => setPackageHold h agents id body
  | .packageUpdateStatus id => packageUpdateStatus h agents id
  | .updateAgent id => updateAgent h agents id
  | .updateAllAgents find => updateAllAgents h agents find
  | .rebootSystem id => rebootSystem h agents id

/-- **The request reaches a system**: it is sent to its agent, or an alert on it is created. -/
def Reaches (h : Hub) (agents : Agents) (u : User) (req : Request) (id : SystemId) : Prop :=
  ∃ effect ∈ (handle h agents u req).1, effect.system? = some id

/-- **The request respects the rules of the systems collection**: every system it reaches is one
the read rule admits the user for, and a route that changes state asks for a role other than
`readonly` besides. -/
def Respects (h : Hub) (agents : Agents) (u : User) (req : Request) : Prop :=
  ∀ rec ∈ h.systems, Reaches h agents u req rec.id →
    (systemsReadRule h.shareAllSystems).admits u rec.users = true ∧
      (req.stateChanging = true → u.role ≠ .readonly)

/-! ## What the handlers check

The parameters of the request, and that the system manager has the system; nothing about the
user. -/

/-- The checks of a request's own parameters. -/
def Request.Valid (h : Hub) : Request → Prop
  | .getContainerLogs system container | .getContainerInfo system container =>
    h.containerDetails ≠ "false" ∧ system ≠ "" ∧ container ≠ ""
  | .getSystemdInfo system service => system ≠ "" ∧ service ≠ ""
  | .refreshSmartData system => system ≠ ""
  | .upsertUserAlerts body _ =>
    body.failed = false ∧ body.value.name ≠ "" ∧ body.value.systems ≠ []
  | .applyPackageUpdates _ body =>
    body.failed = false ∧ (body.value.packages ≠ [] ∨ body.value.all = true) ∧
      ∀ pkg ∈ body.value.packages, validPackageName pkg = true
  | .setPackageHold _ body =>
    body.failed = false ∧ body.value.package ≠ "" ∧ validPackageName body.value.package = true
  | .updateAgent _ => h.stagedAgentChecksums ≠ []
  | .updateAllAgents find => h.stagedAgentChecksums ≠ [] ∧ find = none
  | .applyAllPackageUpdates _ find => find = none
  | .checkPackageUpdates .. | .packageUpdateStatus _ | .rebootSystem _ => True

/-- The user has an alert of this name on the system. -/
def HasAlert (userID name : String) (alerts : List AlertRecord) (system : SystemId) : Prop :=
  ∃ alert ∈ alerts, alert.matches userID name system = true

/-- The database gives no error for the system: it is looked up, and saved unless an alert exists
and is not to be overwritten. -/
def Stores (userID : String) (body : AlertsBody) (db : AlertsDb) (alerts : List AlertRecord)
    (system : SystemId) : Prop :=
  db.find system = none ∧
    (body.overwrite = true ∨ ¬ HasAlert userID body.name alerts system → db.save system = none)

/-- The systems a request names or fans out to. -/
def Request.Names (h : Hub) (u : User) : Request → SystemId → Prop
  | .getContainerLogs system _, id | .getContainerInfo system _, id | .getSystemdInfo system _, id
  | .refreshSmartData system, id | .checkPackageUpdates system _, id
  | .applyPackageUpdates system _, id | .setPackageHold system _, id
  | .packageUpdateStatus system, id | .updateAgent system, id | .rebootSystem system, id =>
    id = system ∧ id ∈ h.store
  | .applyAllPackageUpdates securityOnly _, id =>
    ∃ rec ∈ upRecords h, rec.count securityOnly ≠ 0 ∧ rec.id = id ∧ id ∈ h.store
  | .updateAllAgents _, id => ∃ rec ∈ upRecords h, rec.id = id ∧ id ∈ h.store
  | .upsertUserAlerts body db, id =>
    db.collection = none ∧ (∀ s ∈ body.value.systems, Stores u.id body.value db h.alerts s) ∧
      id ∈ body.value.systems ∧ ¬ HasAlert u.id body.value.name h.alerts id

/-! ### One system -/

/-- Some effect of the list is on the system. -/
def On (effects : List Effect) (id : SystemId) : Prop :=
  ∃ effect ∈ effects, effect.system? = some id

@[simp] theorem on_nil (id : SystemId) : ¬ On [] id := by
  rintro ⟨_, h, _⟩
  exact nomatch h

@[simp] theorem on_append (es es' : List Effect) (id : SystemId) :
    On (es ++ es') id ↔ On es id ∨ On es' id := by
  simp only [On, List.mem_append, or_and_right, exists_or]

@[simp] theorem on_sent (system : SystemId) (call : Call) (id : SystemId) :
    On [.sent system call] id ↔ id = system := by
  simp [On, Effect.system?, eq_comm]

@[simp] theorem on_alertCreated (alert : AlertRecord) (id : SystemId) :
    On [.alertCreated alert] id ↔ id = alert.system := by
  simp [On, Effect.system?, eq_comm]

@[simp] theorem on_alertUpdated (alert : AlertRecord) (id : SystemId) :
    ¬ On [.alertUpdated alert] id := by
  simp [On, Effect.system?]

theorem on_flatMap {records : List SystemRecord} {f : SystemRecord → List Effect} {id : SystemId} :
    On (records.flatMap f) id ↔ ∃ rec ∈ records, On (f rec) id := by
  simp only [On, List.mem_flatMap]
  tauto

variable {h : Hub} {agents : Agents} {u : User}

/-- The system a handler sends to is the one it was given and has found in the store. -/
theorem registered_iff {c : Prop} {system id : SystemId} :
    (c ∧ system ∈ h.store) ∧ id = system ↔ c ∧ id = system ∧ id ∈ h.store := by
  constructor
  · rintro ⟨⟨hc, hmem⟩, rfl⟩
    exact ⟨hc, rfl, hmem⟩
  · rintro ⟨hc, rfl, hmem⟩
    exact ⟨⟨hc, hmem⟩, rfl⟩

/-- A call that is sent under a condition. -/
theorem on_ite_sent {c : Prop} [Decidable c] {system : SystemId} {call : Call} {id : SystemId} :
    On (if c then [.sent system call] else []) id ↔ c ∧ id = system := by
  split_ifs with hc
  · rw [on_sent, iff_true_intro hc, true_and]
  · exact iff_of_false (on_nil id) fun h' => hc h'.1

theorem containerRequestHandler_effects {system container : String} {call : String → Call}
    {fetchFunc : SystemId → String → Except String String} {key : String} :
    (containerRequestHandler h system container call fetchFunc key).1 =
      if (system ≠ "" ∧ container ≠ "") ∧ system ∈ h.store then [.sent system (call container)]
      else [] := by
  by_cases hid : system ∈ h.store <;> by_cases hs : system = "" <;>
    by_cases hc : container = "" <;> simp [containerRequestHandler, Hub.getSystem, hid, hs, hc]

theorem on_containerRoute {system container : String} {call : String → Call}
    {fetchFunc : SystemId → String → Except String String} {key : String} {id : SystemId} :
    On (containerRoute h (containerRequestHandler h system container call fetchFunc key)).1 id ↔
      (h.containerDetails ≠ "false" ∧ system ≠ "" ∧ container ≠ "") ∧
        id = system ∧ id ∈ h.store := by
  unfold containerRoute
  split_ifs with hd
  · simp [hd]
  · rw [containerRequestHandler_effects, on_ite_sent, registered_iff]
    simp [hd]

theorem getSystemdInfo_effects {system service : String} :
    (getSystemdInfo h agents system service).1 =
      if (system ≠ "" ∧ service ≠ "") ∧ system ∈ h.store then
        [.sent system (.getSystemdInfo service)]
      else [] := by
  by_cases hid : system ∈ h.store <;> by_cases hs : system = "" <;>
    by_cases hc : service = "" <;> simp [getSystemdInfo, Hub.getSystem, hid, hs, hc]

theorem refreshSmartData_effects {system : String} :
    (refreshSmartData h agents system).1 =
      if system ≠ "" ∧ system ∈ h.store then [.sent system .getSmartData] else [] := by
  by_cases hid : system ∈ h.store <;> by_cases hs : system = "" <;>
    simp [refreshSmartData, Hub.getSystem, hid, hs]

theorem checkPackageUpdates_effects {id : String} {refresh : Bool} :
    (checkPackageUpdates h agents id refresh).1 =
      if id ∈ h.store then [.sent id (.getPackageUpdates refresh)] else [] := by
  by_cases hid : id ∈ h.store <;> simp [checkPackageUpdates, Hub.getSystem, hid]

theorem packageUpdateStatus_effects {id : String} :
    (packageUpdateStatus h agents id).1 =
      if id ∈ h.store then [.sent id .getPackageUpdateStatus] else [] := by
  by_cases hid : id ∈ h.store <;> simp [packageUpdateStatus, Hub.getSystem, hid]

theorem rebootSystem_effects {id : String} :
    (rebootSystem h agents id).1 = if id ∈ h.store then [.sent id .rebootSystem] else [] := by
  by_cases hid : id ∈ h.store <;> simp [rebootSystem, Hub.getSystem, hid]

theorem updateAgent_effects {id : String} :
    (updateAgent h agents id).1 =
      if h.stagedAgentChecksums ≠ [] ∧ id ∈ h.store then
        [.sent id (.updateAgent h.appURL h.stagedAgentChecksums)]
      else [] := by
  by_cases hid : id ∈ h.store <;> by_cases hs : h.stagedAgentChecksums = [] <;>
    simp [updateAgent, Hub.getSystem, hid, hs]

theorem setPackageHold_effects {id : String} {body : Bound HoldBody} :
    (setPackageHold h agents id body).1 =
      if (body.failed = false ∧ body.value.package ≠ "" ∧
          validPackageName body.value.package = true) ∧ id ∈ h.store then
        [.sent id (.setPackageHold body.value.package body.value.hold)]
      else [] := by
  by_cases hid : id ∈ h.store <;> by_cases hf : body.failed = true <;>
    by_cases hp : body.value.package = "" <;>
    by_cases hv : validPackageName body.value.package = true <;>
    simp [setPackageHold, Hub.getSystem, hid, hf, hp, hv]

theorem applyPackageUpdates_effects {id : String} {body : Bound ApplyBody} :
    (applyPackageUpdates h agents id body).1 =
      if (body.failed = false ∧ (body.value.packages ≠ [] ∨ body.value.all = true) ∧
          ∀ pkg ∈ body.value.packages, validPackageName pkg = true) ∧ id ∈ h.store then
        [.sent id (.applyPackageUpdates body.value.packages body.value.all body.value.securityOnly)]
      else [] := by
  unfold applyPackageUpdates Hub.getSystem
  by_cases hid : id ∈ h.store
  · simp only [hid, and_true, if_true]
    by_cases hf : body.failed = true
    · simp [hf]
    by_cases he : body.value.packages = [] ∧ body.value.all = false
    · simp [hf, he]
    have he' : body.value.packages ≠ [] ∨ body.value.all = true := by
      rw [not_and_or] at he
      simpa using he
    cases hfind : body.value.packages.find? (!validPackageName ·) with
    | some pkg =>
      have hpkg : validPackageName pkg = false := by simpa using List.find?_some hfind
      have hv : ¬ ∀ pkg ∈ body.value.packages, validPackageName pkg = true := fun hv =>
        Bool.false_ne_true (hpkg.symm.trans (hv pkg (List.mem_of_find?_eq_some hfind)))
      simp [hf, he, hv]
    | none =>
      have hv : ∀ pkg ∈ body.value.packages, validPackageName pkg = true := by
        simpa using List.find?_eq_none.mp hfind
      simpa [hf, he, he'] using hv
  · simp [hid]

/-! ### The fan-outs -/

theorem applyAllOne_effects {securityOnly : Bool} {rec : SystemRecord} :
    (applyAllOne h agents securityOnly rec).1 =
      if rec.count securityOnly ≠ 0 ∧ rec.id ∈ h.store then
        [.sent rec.id (.applyPackageUpdates [] true securityOnly)]
      else [] := by
  by_cases hc : rec.count securityOnly = 0 <;> by_cases hid : rec.id ∈ h.store <;>
    simp [applyAllOne, Hub.getSystem, hc, hid]

theorem updateAllOne_effects {rec : SystemRecord} :
    (updateAllOne h agents rec).1 =
      if rec.id ∈ h.store then [.sent rec.id (.updateAgent h.appURL h.stagedAgentChecksums)]
      else [] := by
  by_cases hid : rec.id ∈ h.store <;> simp [updateAllOne, Hub.getSystem, hid]

/-! ### The transaction over the alerts -/

section Transaction

variable {userID : String} {body : AlertsBody} {db : AlertsDb} {alerts : List AlertRecord}

theorem matches_iff {alert : AlertRecord} {name : String} {system : SystemId} :
    alert.matches userID name system = true ↔
      alert.system = system ∧ alert.name = name ∧ alert.user = userID := by
  simp [AlertRecord.matches, and_assoc]

/-- An alert with another value matches what it matched. -/
theorem hasAlert_update {system system' : SystemId} {saved : AlertRecord}
    (hs : saved.matches userID body.name system = true) :
    HasAlert userID body.name
        (alerts.map fun a => if a.matches userID body.name system then saved else a) system' ↔
      HasAlert userID body.name alerts system' := by
  simp only [HasAlert, List.mem_map, exists_exists_and_eq_and]
  have hkey : ∀ a : AlertRecord, a.matches userID body.name system = true →
      (saved.matches userID body.name system' = true ↔
        a.matches userID body.name system' = true) := by
    intro a ha
    obtain ⟨h₁, h₂, h₃⟩ := matches_iff.mp ha
    obtain ⟨h₁', h₂', h₃'⟩ := matches_iff.mp hs
    rw [matches_iff, matches_iff, h₁, h₂, h₃, h₁', h₂', h₃']
  refine exists_congr fun a => and_congr_right fun _ => ?_
  split_ifs with ha
  · exact hkey a ha
  · rfl

/-- **One round of the transaction**: it succeeds exactly when the database gives no error, adds the
system to those with an alert, and creates one where there was none. -/
theorem upsertOne_spec (system : SystemId) :
    (¬ Stores userID body db alerts system ∧
        ∃ err, upsertOne userID body db alerts system = .error err) ∨
      (Stores userID body db alerts system ∧
        ∃ alerts' effects, upsertOne userID body db alerts system = .ok (alerts', effects) ∧
          (∀ t, HasAlert userID body.name alerts' t ↔
            HasAlert userID body.name alerts t ∨ t = system) ∧
          ∀ id, On effects id ↔ id = system ∧ ¬ HasAlert userID body.name alerts system) := by
  unfold upsertOne Stores
  cases hfind : db.find system with
  | some err => exact Or.inl ⟨fun hs => (nomatch hs.1), err, rfl⟩
  | none =>
    cases halert : alerts.find? (·.matches userID body.name system) with
    | some alert =>
      have hmem := List.mem_of_find?_eq_some halert
      have hm : alert.matches userID body.name system = true := by
        simpa using List.find?_some halert
      have hhas : HasAlert userID body.name alerts system := ⟨alert, hmem, hm⟩
      have habsorb : ∀ t, HasAlert userID body.name alerts t ↔
          HasAlert userID body.name alerts t ∨ t = system := fun t =>
        ⟨Or.inl, fun ht => ht.elim id fun ht => ht ▸ hhas⟩
      by_cases ho : body.overwrite = false
      · refine Or.inr ⟨⟨rfl, ?_⟩, alerts, [], by simp [ho], habsorb, ?_⟩
        · simp [ho, hhas]
        · simp [hhas]
      · cases hsave : db.save system with
        | some err =>
          exact Or.inl ⟨fun hs => (nomatch hs.2 (Or.inl (by simpa using ho))), err, by simp [ho]⟩
        | none =>
          refine Or.inr ⟨⟨rfl, fun _ => rfl⟩, _, _, by simp only [ho]; rfl, fun t => ?_, ?_⟩
          · refine (hasAlert_update ?_).trans (habsorb t)
            exact matches_iff.mpr (matches_iff.mp hm)
          · simp [hhas]
    | none =>
      have hhas : ¬ HasAlert userID body.name alerts system := by
        rintro ⟨a, ha, hm⟩
        exact List.find?_eq_none.mp halert a ha hm
      cases hsave : db.save system with
      | some err => exact Or.inl ⟨fun hs => (nomatch hs.2 (Or.inr hhas)), err, rfl⟩
      | none =>
        refine Or.inr ⟨⟨rfl, fun _ => rfl⟩, _, _, rfl, fun t => ?_, ?_⟩
        · simp only [HasAlert, List.mem_cons, exists_eq_or_imp, matches_iff]
          rw [or_comm]
          simp [eq_comm]
        · simp [hhas]

/-- **The transaction**: it commits exactly when the database gives no error for any of the systems,
and then creates an alert on those that had none. -/
theorem upsertLoop_spec (userID : String) (body : AlertsBody) (db : AlertsDb)
    (systems : List SystemId) (alerts : List AlertRecord) :
    ((¬ ∀ s ∈ systems, Stores userID body db alerts s) ∧
        ∃ err, upsertLoop userID body db systems alerts = .error err) ∨
      ((∀ s ∈ systems, Stores userID body db alerts s) ∧
        ∃ effects, upsertLoop userID body db systems alerts = .ok effects ∧
          ∀ id, On effects id ↔ id ∈ systems ∧ ¬ HasAlert userID body.name alerts id) := by
  induction systems generalizing alerts with
  | nil => exact Or.inr ⟨by simp, [], rfl, by simp⟩
  | cons s systems ih =>
    unfold upsertLoop
    rcases upsertOne_spec s with ⟨hs, err, herr⟩ | ⟨hs, alerts', effects, hok, hhas, hon⟩
    · rw [herr]
      exact Or.inl ⟨fun hall => hs (hall s List.mem_cons_self), err, rfl⟩
    · -- an error for a later system is one in the state before `s`: only `s` itself got an alert
      have hlater : (∀ t ∈ systems, Stores userID body db alerts' t) ↔
          ∀ t ∈ s :: systems, Stores userID body db alerts t := by
        rw [List.forall_mem_cons]
        refine ⟨fun hall => ⟨hs, fun t ht => ⟨(hall t ht).1, ?_⟩⟩,
          fun hall t ht => ⟨(hall.2 t ht).1, ?_⟩⟩
        · rintro (ho | hn)
          · exact (hall t ht).2 (Or.inl ho)
          · by_cases hts : t = s
            · exact hts ▸ hs.2 (Or.inr (hts ▸ hn))
            · refine (hall t ht).2 (Or.inr fun h' => ?_)
              exact ((hhas t).mp h').elim hn hts
        · rintro (ho | hn)
          · exact (hall.2 t ht).2 (Or.inl ho)
          · exact (hall.2 t ht).2 (Or.inr fun h' => hn ((hhas t).mpr (Or.inl h')))
      rw [hok, ← hlater]
      rcases ih alerts' with ⟨hn, err, herr⟩ | ⟨hall, effects', hok', hon'⟩
      · simp only [herr]
        exact Or.inl ⟨hn, err, rfl⟩
      · simp only [hok']
        refine Or.inr ⟨hall, _, rfl, fun id => ?_⟩
        rw [on_append, hon, hon', hhas, List.mem_cons]
        by_cases hid : id = s
        · subst hid
          tauto
        · tauto

end Transaction

theorem on_upsertUserAlerts {body : Bound AlertsBody} {db : AlertsDb} {id : SystemId} :
    On (upsertUserAlerts h u.id body db).1 id ↔
      (Request.upsertUserAlerts body db).Valid h ∧
        (Request.upsertUserAlerts body db).Names h u id := by
  simp only [Request.Valid, Request.Names, upsertUserAlerts]
  split_ifs with hbad
  · refine iff_of_false (on_nil id) fun hv => ?_
    rcases hbad with hbad | hbad | hbad | hbad
    · simp [hbad] at hv
    · exact u.id_ne hbad
    · exact hv.1.2.1 hbad
    · exact hv.1.2.2 hbad
  · simp only [not_or, Bool.not_eq_true] at hbad
    obtain ⟨hf, -, hname, hsystems⟩ := hbad
    simp only [hf, ne_eq, hname, hsystems, not_false_eq_true, and_self, true_and]
    cases hcol : db.collection with
    | some err => simp
    | none =>
      simp only [true_and]
      rcases upsertLoop_spec u.id body.value db body.value.systems h.alerts with
        ⟨hn, err, herr⟩ | ⟨hall, effects, hok, hon⟩
      · simp only [herr, on_nil, false_iff]
        exact fun h' => hn h'.1
      · simp only [hok, hon]
        exact ⟨fun h' => ⟨hall, h'⟩, And.right⟩

/-- **What a request reaches**: if its own parameters are valid, every registered system it names —
whoever sends it. -/
theorem reaches_iff {req : Request} {id : SystemId} :
    Reaches h agents u req id ↔ req.Valid h ∧ req.Names h u id := by
  change On (handle h agents u req).1 id ↔ _
  cases req with
  | getContainerLogs system container => exact on_containerRoute
  | getContainerInfo system container => exact on_containerRoute
  | getSystemdInfo system service =>
    simp only [handle, getSystemdInfo_effects, on_ite_sent, registered_iff, Request.Valid,
      Request.Names]
  | refreshSmartData system =>
    simp only [handle, refreshSmartData_effects, on_ite_sent, registered_iff, Request.Valid,
      Request.Names]
  | upsertUserAlerts body db => exact on_upsertUserAlerts
  | checkPackageUpdates system refresh =>
    simp only [handle, checkPackageUpdates_effects, on_ite_sent, Request.Valid, Request.Names]
    rw [← registered_iff, true_and]
  | applyPackageUpdates system body =>
    simp only [handle, applyPackageUpdates_effects, on_ite_sent, registered_iff, Request.Valid,
      Request.Names]
  | applyAllPackageUpdates securityOnly find =>
    cases find with
    | some err => simp [handle, applyAllPackageUpdates, Request.Valid]
    | none =>
      simp only [handle, applyAllPackageUpdates, fanOut, on_flatMap, applyAllOne_effects,
        on_ite_sent, registered_iff, Request.Valid, Request.Names, true_and, eq_comm]
  | setPackageHold system body =>
    simp only [handle, setPackageHold_effects, on_ite_sent, registered_iff, Request.Valid,
      Request.Names]
  | packageUpdateStatus system =>
    simp only [handle, packageUpdateStatus_effects, on_ite_sent, Request.Valid, Request.Names]
    rw [← registered_iff, true_and]
  | updateAgent system =>
    simp only [handle, updateAgent_effects, on_ite_sent, registered_iff, Request.Valid,
      Request.Names]
  | updateAllAgents find =>
    simp only [handle, updateAllAgents, Request.Valid, Request.Names]
    split_ifs with hs
    · simp [hs]
    · cases find with
      | some err => simp
      | none =>
        simp only [fanOut, on_flatMap, updateAllOne_effects, on_ite_sent, true_and, hs, ne_eq,
          not_false_eq_true, and_self]
        refine exists_congr fun rec => and_congr_right fun _ => ?_
        rw [← true_and (rec.id ∈ h.store), registered_iff, true_and, eq_comm]
  | rebootSystem system =>
    simp only [handle, rebootSystem_effects, on_ite_sent, Request.Valid, Request.Names]
    rw [← registered_iff, true_and]

/-! ## Where the rules are respected -/

/-- **The request is one the rules allow**: it is refused for its own parameters, or it names only
systems that are shared with the user, and, where it changes state, the user is not `readonly`. -/
def Permitted (h : Hub) (u : User) (req : Request) : Prop :=
  req.Valid h → ∀ rec ∈ h.systems, req.Names h u rec.id →
    (h.shareAllSystems = "true" ∨ u.id ∈ rec.users) ∧
      (req.stateChanging = true → u.role ≠ .readonly)

/-- **The hub has nothing to protect**: every user may read every system, and none that is
registered is there while some user is `readonly`. -/
def Hub.Open (h : Hub) : Prop :=
  ∀ u ∈ h.users, ∀ rec ∈ h.systems, (h.shareAllSystems = "true" ∨ u.id ∈ rec.users) ∧
    (rec.id ∈ h.store → u.role ≠ .readonly)

theorem respects_iff_permitted {req : Request} :
    Respects h agents u req ↔ Permitted h u req := by
  simp only [Respects, Permitted, reaches_iff, admits_systemsReadRule, and_imp]
  exact ⟨fun h' hv rec hrec hn => h' rec hrec hv hn, fun h' rec hrec hv hn => h' hv rec hrec hn⟩

/-- A route that changes state names registered systems only. -/
theorem mem_store_of_stateChanging {req : Request} {id : SystemId} (hn : req.Names h u id)
    (hs : req.stateChanging = true) : id ∈ h.store := by
  cases req with
  | applyPackageUpdates | setPackageHold | updateAgent | rebootSystem => exact hn.2
  | applyAllPackageUpdates =>
    obtain ⟨_, _, _, _, hmem⟩ := hn
    exact hmem
  | updateAllAgents =>
    obtain ⟨_, _, _, hmem⟩ := hn
    exact hmem
  | _ => cases hs

/-- There is always an alert a user does not have yet. -/
theorem exists_fresh_name (alerts : List AlertRecord) :
    ∃ name : String, name ≠ "" ∧ ∀ alert ∈ alerts, alert.name ≠ name := by
  obtain ⟨name, hname⟩ := Infinite.exists_notMem_finset (insert "" (alerts.map (·.name)).toFinset)
  rw [Finset.mem_insert, not_or, List.mem_toFinset] at hname
  refine ⟨name, hname.1, fun alert halert heq => hname.2 ?_⟩
  exact List.mem_map.mpr ⟨alert, halert, heq⟩

/-- A request for one alert on one system, which the database serves. -/
def oneAlert (name : String) (system : SystemId) : Request :=
  .upsertUserAlerts ⟨⟨1, 0, name, [system], false⟩, false⟩ ⟨none, fun _ => none, fun _ => none⟩

theorem oneAlert_names {name : String} {system : SystemId}
    (hname : ∀ alert ∈ h.alerts, alert.name ≠ name) : (oneAlert name system).Names h u system := by
  have hno : ¬ HasAlert u.id name h.alerts system := by
    rintro ⟨alert, halert, hm⟩
    exact hname alert halert (matches_iff.mp hm).2.1
  exact ⟨rfl, fun _ _ => ⟨rfl, fun _ => rfl⟩, by simp, hno⟩

/-- **When the custom routes respect the rules of the systems collection.**  A request does exactly
when it is refused for its own parameters or names only systems its user has access to; and a hub
serves only such requests exactly when it has nothing to protect. -/
theorem respects_iff (h : Hub) (agents : Agents) :
    (∀ u req, Respects h agents u req ↔ Permitted h u req) ∧
      ((∀ u ∈ h.users, ∀ req, Respects h agents u req) ↔ h.Open) := by
  refine ⟨fun u req => respects_iff_permitted, ?_⟩
  simp only [respects_iff_permitted]
  refine ⟨fun hall u hu rec hrec => ⟨?_, fun hstore => ?_⟩, fun hopen u hu req _ rec hrec hn => ?_⟩
  · obtain ⟨name, hne, hfresh⟩ := exists_fresh_name h.alerts
    have hvalid : (oneAlert name rec.id).Valid h := ⟨rfl, hne, by simp⟩
    exact (hall u hu _ hvalid rec hrec (oneAlert_names hfresh)).1
  · exact (hall u hu (.rebootSystem rec.id) trivial rec hrec ⟨rfl, hstore⟩).2 rfl
  · obtain ⟨hread, hrole⟩ := hopen u hu rec hrec
    exact ⟨hread, fun hs => hrole (mem_store_of_stateChanging hn hs)⟩

/-! ### A readonly user reboots somebody else's host -/

/-- A user with the role `readonly`. -/
def viewer : User := ⟨"viewer", .readonly, by decide⟩

/-- A system that is shared with another user only. -/
def ownersSystem : SystemRecord := ⟨"sys1", "db", .up, ["owner"], 0, 0⟩

/-- A hub with that system, connected, and with systems not shared. -/
def unsharedHub : Hub where
  shareAllSystems := ""
  containerDetails := ""
  users := [viewer]
  systems := [ownersSystem]
  store := ["sys1"]
  alerts := []
  stagedAgentChecksums := []
  appURL := "http://localhost:8090"

/-- Agents that answer every request. -/
def healthyAgents : Agents where
  getContainerLogs _ _ := .ok ""
  getContainerInfo _ _ := .ok ""
  getSystemdInfo _ _ := .ok ""
  getSmartData _ := .ok ()
  getPackageUpdates _ _ := .ok []
  applyPackageUpdates _ _ _ _ := .ok "running"
  setPackageHold _ _ _ := .ok ()
  getPackageUpdateStatus _ := .ok "idle"
  updateAgent _ := .ok true
  rebootSystem _ := .ok ()

/-- **The reboot route lets a `readonly` user reboot a system that is not shared with them.** -/
theorem reboot_ignores_rules :
    ¬ ∀ (h : Hub) (agents : Agents), ∀ u ∈ h.users, ∀ req, Respects h agents u req := by
  intro hall
  have hsent : Reaches unsharedHub healthyAgents viewer (.rebootSystem "sys1") "sys1" :=
    ⟨_, List.mem_singleton_self _, rfl⟩
  have hread := (hall unsharedHub healthyAgents viewer (by decide) (.rebootSystem "sys1")
    ownersSystem (by decide) hsent).1
  revert hread
  decide

end Routes

end Beszel
