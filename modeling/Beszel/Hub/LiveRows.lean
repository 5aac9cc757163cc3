import Beszel.Agent.Docker
import Beszel.Alerts.History
import Beszel.Alerts.QuietHours
import Beszel.Hub.Records
import Beszel.Hub.StableIds
import Beszel.Machinery.Upserts

/-!
# Hub/LiveRows — the rows of containers and services live on reports

    createRecords ──insert or write over──▸ containers · systemd_services ──DeleteOldRecords──▸ …
                                              ▴ deletion of a system

`createContainerRecords` of `internal/hub/systems/system.go`, next to `createSystemdStatsRecords`,
and `DeleteOldRecords` of `internal/records/records.go`, one transaction over all that is kept for a
time only.  The `system` field of a container cascades no deletion: it is emptied when its system is
deleted.  That of a service does.  Times are nanoseconds, those that are stored milliseconds.
-/

namespace Beszel

open Machinery

namespace LiveRows

/-! ## Containers -/

/-- A row of `containers`. -/
structure ContainerRow where
  id : String
  system : String
  name : String
  image : String
  status : String
  health : Agent.Docker.DockerHealth
  cpu : ℚ
  memory : ℚ
  net : UInt64
  updated : ℤ
  deriving DecidableEq

/-- `Time.UnixMilli`. -/
def unixMilli (t : ℤ) : ℤ := t / 1000000

/-- The bytes per second of a container: an agent before 0.18.3 sends megabytes. -/
def netBytes (container : Agent.Docker.Stats) : UInt64 :=
  let net := container.bandwidth.1 + container.bandwidth.2
  if net = 0 then
    UInt64.ofNat ⌊(container.networkSent + container.networkRecv) * 1024 * 1024⌋₊
  else net

/-- The values that are inserted for a container. -/
def containerRow (systemId : String) (updated : ℤ) (container : Agent.Docker.Stats) :
    ContainerRow where
  id := container.id
  system := systemId
  name := container.name
  image := container.image
  status := container.status
  health := container.health
  cpu := container.cpu
  memory := container.mem
  net := netBytes container
  updated := updated

/-- `createContainerRecords`: on a conflict of the id, every column is written over. -/
def createContainerRecords (rows : List ContainerRow) (data : List Agent.Docker.Stats)
    (systemId : String) (updated : ℤ) : List ContainerRow :=
  data.foldl (fun rows container =>
    Table.store (·.id) rows (containerRow systemId updated container)) rows

/-- The containers of a sample, as `createRecords` goes on with them: those of an old agent have no
id. -/
def withIds : List Agent.Docker.Stats → List Agent.Docker.Stats
  | [] => []
  | c :: cs => if c.id ≠ "" then c :: cs else []

/-! ## The clean-up -/

/-- The rows that are kept for a time. -/
structure Db (α : Type) where
  stats : Records.Db α
  containers : List ContainerRow
  services : List StableIds.ServiceRow
  alerts : AlertsHistory.Db
  quietHours : List QuietHours.Window

/-- The statements of the transaction that can fail, and its commit. -/
inductive Statement
  | systemStats
  | containerStats
  | containers
  | services
  | alertsHistory
  | quietHours
  | commit
  deriving DecidableEq

def Statement.all : List Statement :=
  [.systemStats, .containerStats, .containers, .services, .alertsHistory, .quietHours, .commit]

theorem Statement.mem_all (stmt : Statement) : stmt ∈ Statement.all := by
  cases stmt <;> decide

/-- What the statements of a clean-up read: each its own clock, which for the statistics is how long
before the commit it was read, and the order in which the history is read. -/
structure Readings where
  statsLag : ℕ
  containers : ℤ
  services : ℤ
  quietHours : ℤ
  historyOrder : List AlertsHistory.AlertHistory

/-- Ten minutes. -/
def containersKept : ℤ := 600000000000

/-- Twenty minutes. -/
def servicesKept : ℤ := 1200000000000

/-- `deleteOldContainerRecords`. -/
def deleteOldContainerRecords (rows : List ContainerRow) (now : ℤ) : List ContainerRow :=
  rows.filter fun row => unixMilli (now - containersKept) ≤ row.updated

/-- `deleteOldSystemdServiceRecords`. -/
def deleteOldSystemdServiceRecords (rows : List StableIds.ServiceRow) (now : ℤ) :
    List StableIds.ServiceRow :=
  rows.filter fun row => unixMilli (now - servicesKept) ≤ row.updated

section CleanUp

variable {α : Type} (fails : Statement → Bool) (earlier : ℤ → ℤ → Bool)

/-- A statement of the transaction. -/
def execute (stmt : Statement) (f : Db α → Db α) (db : Db α) : Option (Db α) :=
  if fails stmt then none else some (f db)

/-- The statements of `DeleteOldRecords`, up to the first that fails. -/
def deleteOldRecordsTx (r : Readings) (db : Db α) : Option (Db α) := do
  let db ← execute fails .systemStats id db
  let db ← execute fails .containerStats
    (fun db => { db with stats := db.stats.deleteOld r.statsLag }) db
  let db ← execute fails .containers
    (fun db => { db with containers := deleteOldContainerRecords db.containers r.containers }) db
  let db ← execute fails .services
    (fun db => { db with services := deleteOldSystemdServiceRecords db.services r.services }) db
  let db ← execute fails .alertsHistory
    (fun db =>
      { db with alerts := AlertsHistory.deleteOldAlertsHistory db.alerts 200 250 r.historyOrder })
    db
  let db ← execute fails .quietHours
    (fun db =>
      { db with quietHours := QuietHours.deleteOldQuietHours earlier db.quietHours r.quietHours })
    db
  execute fails .commit id db

/-- **`DeleteOldRecords`**: what a transaction that fails has done is rolled back. -/
def deleteOldRecords (r : Readings) (db : Db α) : Db α :=
  (deleteOldRecordsTx fails earlier r db).getD db

/-- The transaction is committed. -/
def committed : Prop := ∀ stmt, fails stmt = false

instance : Decidable (committed fails) :=
  decidable_of_iff (∀ stmt ∈ Statement.all, fails stmt = false)
    ⟨fun h stmt => h stmt stmt.mem_all, fun h stmt _ => h stmt⟩

end CleanUp

/-! ## Runs -/

/-- What happens to the rows: a sample is stored, or its transaction fails; a clean-up; a system is
deleted; something else is done to the other tables. -/
inductive Event (α : Type)
  | createRecords (system : String) (containersNow servicesNow : ℤ)
      (containers : List Agent.Docker.Stats) (services : List Agent.Systemd.Service) (ok : Bool)
  | deleteOldRecords (fails : Statement → Bool) (r : Readings)
  | deleteSystem (system : String)
  | other (stats : Records.Db α) (alerts : AlertsHistory.Db) (quietHours : List QuietHours.Window)

/-- A container whose system is deleted. -/
def unsetSystem (system : String) (row : ContainerRow) : ContainerRow :=
  if row.system = system then { row with system := "" } else row

section Step

variable {α : Type} (earlier : ℤ → ℤ → Bool)

/-- **One step.** -/
def step (db : Db α) : Event α → Db α
  | .createRecords system containersNow servicesNow containers services ok =>
    if ok then
      { db with
        containers := createContainerRecords db.containers (withIds containers) system
          (unixMilli containersNow)
        services := StableIds.createSystemdStatsRecords db.services services system
          (unixMilli servicesNow) }
    else db
  | .deleteOldRecords fails r => deleteOldRecords fails earlier r db
  | .deleteSystem system =>
    { db with
      containers := db.containers.map (unsetSystem system)
      services := db.services.filter (·.system ≠ system) }
  | .other stats alerts quietHours =>
    { db with stats := stats, alerts := alerts, quietHours := quietHours }

/-- The rows after a run from the empty tables. -/
def rowsAfter (stats : Records.Db α) (alerts : AlertsHistory.Db) (events : List (Event α)) : Db α :=
  events.foldl (step earlier) ⟨stats, [], [], alerts, []⟩

end Step

/-! ## The clean-up is all or nothing -/

section CleanUp

variable {α : Type} {fails : Statement → Bool} {earlier : ℤ → ℤ → Bool}

theorem execute_bind {stmt : Statement} {f : Db α → Db α} {g : Db α → Option (Db α)} {db : Db α} :
    (execute fails stmt f db).bind g = if fails stmt then none else g (f db) := by
  unfold execute
  split_ifs <;> rfl

/-- **What a clean-up does**: all of it, or nothing. -/
theorem deleteOldRecords_eq (r : Readings) (db : Db α) :
    (committed fails → deleteOldRecords fails earlier r db =
      { stats := db.stats.deleteOld r.statsLag
        containers := deleteOldContainerRecords db.containers r.containers
        services := deleteOldSystemdServiceRecords db.services r.services
        alerts := AlertsHistory.deleteOldAlertsHistory db.alerts 200 250 r.historyOrder
        quietHours := QuietHours.deleteOldQuietHours earlier db.quietHours r.quietHours }) ∧
    (¬ committed fails → deleteOldRecords fails earlier r db = db) := by
  constructor
  · intro h
    have hnone : ∀ stmt, fails stmt = false := h
    simp only [deleteOldRecords, deleteOldRecordsTx, bind, execute, hnone, Bool.false_eq_true,
      if_false]
    rfl
  · intro h
    obtain ⟨stmt, hstmt⟩ := not_forall.mp h
    rw [Bool.not_eq_false] at hstmt
    have hnone : deleteOldRecordsTx fails earlier r db = none := by
      unfold deleteOldRecordsTx
      simp only [bind, execute_bind]
      cases stmt <;> simp [execute, hstmt]
    rw [deleteOldRecords, hnone]
    rfl

end CleanUp

/-! ## What happens to one row -/

section Events

variable {α : Type}

/-- A row of the id is put into `containers`. -/
def Event.reportsContainer (id : String) : Event α → Prop
  | .createRecords _ _ _ containers _ ok => ok = true ∧ ∃ c ∈ withIds containers, c.id = id
  | _ => False

/-- A row of the id is put into `systemd_services`. -/
def Event.reportsService (id : String) : Event α → Prop
  | .createRecords system _ _ _ services ok =>
    ok = true ∧ ∃ service ∈ services, StableIds.makeStableHashId [system, service.name] = id
  | _ => False

/-- Containers that were written then are deleted. -/
def Event.expiresContainer (updated : ℤ) : Event α → Prop
  | .deleteOldRecords fails r =>
    committed fails ∧ updated < unixMilli (r.containers - containersKept)
  | _ => False

/-- Services that were written then are deleted. -/
def Event.expiresService (updated : ℤ) : Event α → Prop
  | .deleteOldRecords fails r => committed fails ∧ updated < unixMilli (r.services - servicesKept)
  | _ => False

/-- The system is deleted. -/
def Event.deletes (system : String) : Event α → Bool
  | .deleteSystem deleted => deleted = system
  | _ => false

/-- What an event does to `containers`. -/
def containerOp : Event α → Option (Upserts.Op ContainerRow ℤ)
  | .createRecords system containersNow _ containers _ ok =>
    if ok then
      some (.put ((withIds containers).map (containerRow system (unixMilli containersNow))))
    else none
  | .deleteOldRecords fails r =>
    if committed fails then some (.expire (unixMilli (r.containers - containersKept))) else none
  | .deleteSystem system => some (.edit fun row => some (unsetSystem system row))
  | .other _ _ _ => none

/-- What an event does to `systemd_services`. -/
def serviceOp : Event α → Option (Upserts.Op StableIds.ServiceRow ℤ)
  | .createRecords system _ servicesNow _ services ok =>
    if ok then some (.put (services.map (StableIds.serviceRow system (unixMilli servicesNow))))
    else none
  | .deleteOldRecords fails r =>
    if committed fails then some (.expire (unixMilli (r.services - servicesKept))) else none
  | .deleteSystem system => some (.edit (Option.guard fun row => row.system ≠ system))
  | .other _ _ _ => none

variable {earlier : ℤ → ℤ → Bool}

/-- Rows put by a loop are rows of a batch. -/
theorem createContainerRecords_eq (rows : List ContainerRow) (data : List Agent.Docker.Stats)
    (system : String) (updated : ℤ) :
    createContainerRecords rows data system updated =
      (data.map (containerRow system updated)).foldl (Table.store (·.id)) rows := by
  rw [List.foldl_map]
  rfl

theorem createSystemdStatsRecords_eq (rows : List StableIds.ServiceRow)
    (data : List Agent.Systemd.Service) (system : String) (updated : ℤ) :
    StableIds.createSystemdStatsRecords rows data system updated =
      (data.map (StableIds.serviceRow system updated)).foldl (Table.store (·.id)) rows := by
  rw [List.foldl_map]
  rfl

/-- **A step, on `containers`.** -/
theorem step_containers (db : Db α) (e : Event α) :
    (step earlier db e).containers =
      Upserts.applyEvent (·.id) (·.updated) containerOp db.containers e := by
  unfold Upserts.applyEvent
  cases e with
  | createRecords system containersNow servicesNow containers services ok =>
    cases ok with
    | false => rfl
    | true => exact createContainerRecords_eq _ _ _ _
  | deleteOldRecords fails r =>
    by_cases h : committed fails
    · simp only [containerOp, if_pos h]
      exact congrArg Db.containers ((deleteOldRecords_eq r db).1 h)
    · simp only [containerOp, if_neg h]
      exact congrArg Db.containers ((deleteOldRecords_eq r db).2 h)
  | deleteSystem system => exact (congrFun List.filterMap_eq_map' db.containers).symm
  | other => rfl

/-- **A step, on `systemd_services`.** -/
theorem step_services (db : Db α) (e : Event α) :
    (step earlier db e).services =
      Upserts.applyEvent (·.id) (·.updated) serviceOp db.services e := by
  unfold Upserts.applyEvent
  cases e with
  | createRecords system containersNow servicesNow containers services ok =>
    cases ok with
    | false => rfl
    | true => exact createSystemdStatsRecords_eq _ _ _ _
  | deleteOldRecords fails r =>
    by_cases h : committed fails
    · simp only [serviceOp, if_pos h]
      exact congrArg Db.services ((deleteOldRecords_eq r db).1 h)
    · simp only [serviceOp, if_neg h]
      exact congrArg Db.services ((deleteOldRecords_eq r db).2 h)
  | deleteSystem system => exact (congrFun List.filterMap_eq_filter db.services).symm
  | other => rfl

theorem keeps_containerOp (e : Event α) :
    ∀ op ∈ containerOp e, op.Keeps (ContainerRow.id) (ContainerRow.updated) := by
  intro op hop
  cases e with
  | createRecords =>
    obtain ⟨-, rfl⟩ := guard_eq_some hop
    trivial
  | deleteOldRecords =>
    obtain ⟨-, rfl⟩ := guard_eq_some hop
    trivial
  | deleteSystem system =>
    obtain rfl := Option.some.inj hop
    intro row row' hrow
    obtain rfl := Option.some.inj hrow
    unfold unsetSystem
    split_ifs <;> exact ⟨rfl, rfl⟩
  | other => cases hop

theorem keeps_serviceOp (e : Event α) :
    ∀ op ∈ serviceOp e, op.Keeps (StableIds.ServiceRow.id) (StableIds.ServiceRow.updated) := by
  intro op hop
  cases e with
  | createRecords =>
    obtain ⟨-, rfl⟩ := guard_eq_some hop
    trivial
  | deleteOldRecords =>
    obtain ⟨-, rfl⟩ := guard_eq_some hop
    trivial
  | deleteSystem system =>
    obtain rfl := Option.some.inj hop
    intro row row' hrow
    obtain ⟨rfl, -⟩ := Option.guard_eq_some_iff.mp hrow
    exact ⟨rfl, rfl⟩
  | other => cases hop

/-- A row whose system is deleted, or is not. -/
def unsetIf (deleted : Bool) (row : ContainerRow) : ContainerRow :=
  if deleted then { row with system := "" } else row

/-- **What one event leaves of a row of a container.** -/
theorem carry_containerOp (e : Event α) (row row' : ContainerRow) :
    Upserts.carryEvent ContainerRow.id ContainerRow.updated containerOp row e = some row' ↔
      (¬ e.reportsContainer row.id ∧ ¬ e.expiresContainer row.updated) ∧
        row' = unsetIf (e.deletes row.system) row := by
  unfold Upserts.carryEvent
  cases e with
  | createRecords system containersNow servicesNow containers services ok =>
    cases ok with
    | false => simp [containerOp, Event.reportsContainer, Event.expiresContainer, Event.deletes,
        unsetIf, eq_comm]
    | true => simp [containerOp, Upserts.carry, Event.reportsContainer, Event.expiresContainer,
        Event.deletes, unsetIf, containerRow, eq_comm]
  | deleteOldRecords fails r =>
    by_cases h : committed fails
    · simp [containerOp, h, Upserts.carry, Upserts.fresh, Event.reportsContainer,
        Event.expiresContainer, Event.deletes, unsetIf, eq_comm]
    · simp [containerOp, h, Event.reportsContainer, Event.expiresContainer, Event.deletes, unsetIf,
        eq_comm]
  | deleteSystem system =>
    simp [containerOp, Upserts.carry, Event.reportsContainer, Event.expiresContainer,
      Event.deletes, unsetIf, unsetSystem, eq_comm]
  | other => simp [containerOp, Event.reportsContainer, Event.expiresContainer, Event.deletes,
      unsetIf, eq_comm]

/-- **What one event leaves of a row of a service.** -/
theorem carry_serviceOp (e : Event α) (row row' : StableIds.ServiceRow) :
    Upserts.carryEvent StableIds.ServiceRow.id StableIds.ServiceRow.updated serviceOp row e
        = some row' ↔
      (¬ e.reportsService row.id ∧ ¬ e.expiresService row.updated ∧
        e.deletes row.system = false) ∧ row' = row := by
  unfold Upserts.carryEvent
  cases e with
  | createRecords system containersNow servicesNow containers services ok =>
    cases ok with
    | false => simp [serviceOp, Event.reportsService, Event.expiresService, Event.deletes, eq_comm]
    | true => simp [serviceOp, Upserts.carry, Event.reportsService, Event.expiresService,
        Event.deletes, StableIds.serviceRow, eq_comm]
  | deleteOldRecords fails r =>
    by_cases h : committed fails
    · simp [serviceOp, h, Upserts.carry, Upserts.fresh, Event.reportsService,
        Event.expiresService, Event.deletes, eq_comm]
    · simp [serviceOp, h, Event.reportsService, Event.expiresService, Event.deletes, eq_comm]
  | deleteSystem system =>
    by_cases h : row.system = system
    · simp [serviceOp, Upserts.carry, Option.guard, h, Event.deletes]
    · simp [serviceOp, Upserts.carry, Option.guard, Ne.symm h, Event.reportsService,
        Event.expiresService, Event.deletes, eq_comm]
  | other => simp [serviceOp, Event.reportsService, Event.expiresService, Event.deletes, eq_comm]

/-- Once its system is deleted, a container has none. -/
theorem foldl_unsetIf (events : List (Event α)) (row : ContainerRow) :
    events.foldl (fun row e => unsetIf (e.deletes row.system) row) row
      = unsetIf (events.any (·.deletes row.system)) row := by
  induction events generalizing row with
  | nil => rfl
  | cons e events ih =>
    rw [List.foldl_cons, ih, List.any_cons]
    cases e.deletes row.system with
    | false => rfl
    | true =>
      simp only [unsetIf, if_true, Bool.true_or]
      split_ifs <;> rfl

/-- **What a run leaves of a row of a container.** -/
theorem carryAll_containerOp {events : List (Event α)} {row row' : ContainerRow} :
    Upserts.carryAll ContainerRow.id ContainerRow.updated (events.filterMap containerOp) row
        = some row' ↔
      (∀ e ∈ events, ¬ e.reportsContainer row.id ∧ ¬ e.expiresContainer row.updated) ∧
        row' = unsetIf (events.any (·.deletes row.system)) row := by
  rw [Upserts.carryAll_filterMap_iff carry_containerOp fun e e' row => by
    unfold unsetIf
    split_ifs <;> rfl]
  rw [foldl_unsetIf]

/-- **What a run leaves of a row of a service.** -/
theorem carryAll_serviceOp {events : List (Event α)} {row row' : StableIds.ServiceRow} :
    Upserts.carryAll StableIds.ServiceRow.id StableIds.ServiceRow.updated
        (events.filterMap serviceOp) row = some row' ↔
      (∀ e ∈ events, ¬ e.reportsService row.id ∧ ¬ e.expiresService row.updated ∧
        e.deletes row.system = false) ∧ row' = row := by
  rw [Upserts.carryAll_filterMap_iff carry_serviceOp fun _ _ _ => Iff.rfl, List.foldl_fixed]

end Events

/-! ## The rows at any time -/

section Rows

variable {α : Type} {earlier : ℤ → ℤ → Bool} {stats : Records.Db α} {alerts : AlertsHistory.Db}
  {events : List (Event α)} {id : String}

/-- What is found under the id of a container. -/
def Db.container (db : Db α) (id : String) : Option ContainerRow :=
  Table.lookup (·.id) db.containers id

/-- What is found under the id of a service. -/
def Db.service (db : Db α) (id : String) : Option StableIds.ServiceRow :=
  Table.lookup (·.id) db.services id

/-- The last element of a batch that has a property is the last of the rows. -/
theorem latest_map {β ρ : Type} {key : ρ → String} {f : β → ρ} {data : List β} {row : ρ} :
    Upserts.latest key id (data.map f) = some row ↔
      ∃ b, data.reverse.find? (fun b => key (f b) = id) = some b ∧ row = f b := by
  rw [Upserts.latest, ← List.map_reverse, Table.lookup, List.find?_map, Option.map_eq_some_iff]
  exact exists_congr fun b => and_congr_right fun _ => eq_comm

/-- **The row of a container, from the run alone**: it is that of the last sample that was stored
with the container in it, and of the last in the sample, unless a clean-up came more than ten
minutes later; and it has no system any more if its system was deleted meanwhile. -/
theorem container_found_iff {row : ContainerRow} :
    (rowsAfter earlier stats alerts events).container id = some row ↔
      ∃ before system containersNow servicesNow containers services later c,
        events = before ++
          .createRecords system containersNow servicesNow containers services true :: later ∧
        (withIds containers).reverse.find? (·.id = id) = some c ∧
        (∀ e ∈ later, ¬ e.reportsContainer id ∧ ¬ e.expiresContainer (unixMilli containersNow)) ∧
        row = unsetIf (later.any (·.deletes system))
          (containerRow system (unixMilli containersNow) c) := by
  rw [Db.container, rowsAfter,
    Upserts.lookup_view_iff Db.containers step_containers rfl keeps_containerOp]
  constructor
  · rintro ⟨before, e, rows, later, a, rfl, he, hlatest, hlater⟩
    cases e with
    | createRecords system containersNow servicesNow containers services ok =>
      obtain ⟨rfl, hrows⟩ := guard_eq_some he
      cases hrows
      obtain ⟨c, hc, rfl⟩ := latest_map.mp hlatest
      obtain rfl : (containerRow system (unixMilli containersNow) c).id = id := by
        simpa using List.find?_some hc
      obtain ⟨hspared, hrow⟩ := carryAll_containerOp.mp hlater
      exact ⟨before, system, containersNow, servicesNow, containers, services, later, c, rfl, hc,
        hspared, hrow⟩
    | deleteOldRecords =>
      obtain ⟨-, hop⟩ := guard_eq_some he
      cases hop
    | deleteSystem | other => cases he
  · rintro ⟨before, system, containersNow, servicesNow, containers, services, later, c, rfl, hc,
      hspared, hrow⟩
    obtain rfl : c.id = id := by simpa using List.find?_some hc
    exact ⟨before, _, _, later, _, rfl, rfl, latest_map.mpr ⟨c, hc, rfl⟩,
      carryAll_containerOp.mpr ⟨hspared, hrow⟩⟩

/-- **The row of a service, from the run alone**: the same with twenty minutes, and no row is left
of a service whose system was deleted. -/
theorem service_found_iff {row : StableIds.ServiceRow} :
    (rowsAfter earlier stats alerts events).service id = some row ↔
      ∃ before system containersNow servicesNow containers services later service,
        events = before ++
          .createRecords system containersNow servicesNow containers services true :: later ∧
        services.reverse.find?
          (fun service => StableIds.makeStableHashId [system, service.name] = id) = some service ∧
        (∀ e ∈ later, ¬ e.reportsService id ∧ ¬ e.expiresService (unixMilli servicesNow) ∧
          e.deletes system = false) ∧
        row = StableIds.serviceRow system (unixMilli servicesNow) service := by
  rw [Db.service, rowsAfter,
    Upserts.lookup_view_iff Db.services step_services rfl keeps_serviceOp]
  constructor
  · rintro ⟨before, e, rows, later, a, rfl, he, hlatest, hlater⟩
    cases e with
    | createRecords system containersNow servicesNow containers services ok =>
      obtain ⟨rfl, hrows⟩ := guard_eq_some he
      cases hrows
      obtain ⟨service, hservice, rfl⟩ := latest_map.mp hlatest
      obtain rfl : (StableIds.serviceRow system (unixMilli servicesNow) service).id = id := by
        simpa using List.find?_some hservice
      obtain ⟨hspared, hrow⟩ := carryAll_serviceOp.mp hlater
      exact ⟨before, system, containersNow, servicesNow, containers, services, later, service, rfl,
        hservice, hspared, hrow⟩
    | deleteOldRecords =>
      obtain ⟨-, hop⟩ := guard_eq_some he
      cases hop
    | deleteSystem | other => cases he
  · rintro ⟨before, system, containersNow, servicesNow, containers, services, later, service, rfl,
      hservice, hspared, hrow⟩
    obtain rfl : StableIds.makeStableHashId [system, service.name] = id := by
      simpa using List.find?_some hservice
    exact ⟨before, _, _, later, _, rfl, rfl, latest_map.mpr ⟨service, hservice, rfl⟩,
      carryAll_serviceOp.mpr ⟨hspared, hrow⟩⟩

/-! ## After a clean-up -/

/-- Whether it is a clean-up. -/
def Event.isCleanUp : Event α → Bool
  | .deleteOldRecords _ _ => true
  | _ => false

/-- The operations without the expiries are those without the clean-ups. -/
theorem unexpired_filterMap {ρ : Type} {opOf : Event α → Option (Upserts.Op ρ ℤ)}
    (hexpire : ∀ e, ∀ op ∈ opOf e, op.isExpire = e.isCleanUp) (events : List (Event α)) :
    Upserts.unexpired (events.filterMap opOf)
      = (events.filter (!·.isCleanUp)).filterMap opOf := by
  induction events with
  | nil => rfl
  | cons e events ih =>
    unfold Upserts.unexpired at ih ⊢
    cases hop : opOf e with
    | none =>
      rw [List.filterMap_cons_none hop, ih]
      cases hclean : e.isCleanUp with
      | true => rw [List.filter_cons_of_neg (by simp [hclean])]
      | false => rw [List.filter_cons_of_pos (by simp [hclean]), List.filterMap_cons_none hop]
    | some op =>
      have hsame := hexpire e op hop
      rw [List.filterMap_cons_some hop]
      cases hclean : e.isCleanUp with
      | true =>
        rw [List.filter_cons_of_neg (by simp [hsame, hclean]), ih,
          List.filter_cons_of_neg (by simp [hclean])]
      | false =>
        rw [List.filter_cons_of_pos (by simp [hsame, hclean]), ih,
          List.filter_cons_of_pos (by simp [hclean]), List.filterMap_cons_some hop]

theorem isExpire_containerOp (e : Event α) : ∀ op ∈ containerOp e, op.isExpire = e.isCleanUp := by
  intro op hop
  cases e with
  | createRecords | deleteOldRecords =>
    obtain ⟨-, rfl⟩ := guard_eq_some hop
    rfl
  | deleteSystem =>
    obtain rfl := Option.some.inj hop
    rfl
  | other => cases hop

theorem isExpire_serviceOp (e : Event α) : ∀ op ∈ serviceOp e, op.isExpire = e.isCleanUp := by
  intro op hop
  cases e with
  | createRecords | deleteOldRecords =>
    obtain ⟨-, rfl⟩ := guard_eq_some hop
    rfl
  | deleteSystem =>
    obtain rfl := Option.some.inj hop
    rfl
  | other => cases hop

/-- A table after a clean-up, where no earlier one had a later cutoff. -/
theorem lookup_cleanUp {ρ : Type} {key : ρ → String} {stamp : ρ → ℤ} {view : Db α → List ρ}
    {opOf : Event α → Option (Upserts.Op ρ ℤ)} {db : Db α} {e : Event α} {cutoff : ℤ}
    (hstep : ∀ db e, view (step earlier db e) = Upserts.applyEvent key stamp opOf (view db) e)
    (hdb : view db = []) (hkeeps : ∀ e, ∀ op ∈ opOf e, op.Keeps key stamp)
    (hexpire : ∀ e, ∀ op ∈ opOf e, op.isExpire = e.isCleanUp)
    (he : opOf e = some (.expire cutoff))
    (hcutoffs : ∀ e ∈ events, ∀ c, opOf e = some (.expire c) → c ≤ cutoff) :
    Table.lookup key (view ((events ++ [e]).foldl (step earlier) db)) id
      = (Table.lookup key (view ((events.filter (!·.isCleanUp)).foldl (step earlier) db)) id).filter
          (cutoff ≤ stamp ·) := by
  rw [Upserts.view_eq_runOps view hstep hdb, Upserts.view_eq_runOps view hstep hdb,
    ← unexpired_filterMap hexpire, List.filterMap_append, List.filterMap_cons_some he,
    List.filterMap_nil]
  refine Upserts.lookup_expire (fun op hop => ?_) fun c hc => ?_
  · obtain ⟨e', -, he'⟩ := List.mem_filterMap.mp hop
    exact hkeeps e' op he'
  · obtain ⟨e', hmem, he'⟩ := List.mem_filterMap.mp hc
    exact hcutoffs e' hmem c he'

/-- **Cleaning up often is cleaning up once.**  After a clean-up that is committed, if the clock was
never ahead of it, the containers are those that would be there had nothing been cleaned up before,
less those last written more than ten minutes ago; and so are the services, with twenty. -/
theorem rows_of_cleanUp {fails : Statement → Bool} {r : Readings} (hok : committed fails)
    (hclock : ∀ fails' r', .deleteOldRecords fails' r' ∈ events →
      r'.containers ≤ r.containers ∧ r'.services ≤ r.services) :
    (rowsAfter earlier stats alerts (events ++ [.deleteOldRecords fails r])).container id =
        ((rowsAfter earlier stats alerts (events.filter (!·.isCleanUp))).container id).filter
          (unixMilli (r.containers - containersKept) ≤ ·.updated) ∧
      (rowsAfter earlier stats alerts (events ++ [.deleteOldRecords fails r])).service id =
        ((rowsAfter earlier stats alerts (events.filter (!·.isCleanUp))).service id).filter
          (unixMilli (r.services - servicesKept) ≤ ·.updated) := by
  have hmono : ∀ {a b : ℤ}, a ≤ b → unixMilli a ≤ unixMilli b :=
    fun hle => Int.ediv_le_ediv (by decide) hle
  constructor
  · refine lookup_cleanUp step_containers rfl keeps_containerOp isExpire_containerOp
      (if_pos hok) fun e he c hc => ?_
    cases e with
    | deleteOldRecords fails' r' =>
      obtain ⟨-, hop⟩ := guard_eq_some hc
      cases hop
      exact hmono (Int.sub_le_sub_right (hclock fails' r' he).1 _)
    | createRecords =>
      obtain ⟨-, hop⟩ := guard_eq_some hc
      cases hop
    | deleteSystem | other => cases hc
  · refine lookup_cleanUp step_services rfl keeps_serviceOp isExpire_serviceOp
      (if_pos hok) fun e he c hc => ?_
    cases e with
    | deleteOldRecords fails' r' =>
      obtain ⟨-, hop⟩ := guard_eq_some hc
      cases hop
      exact hmono (Int.sub_le_sub_right (hclock fails' r' he).2 _)
    | createRecords =>
      obtain ⟨-, hop⟩ := guard_eq_some hc
      cases hop
    | deleteSystem | other => cases hc

/-- The readings of a clean-up. -/
def readingsAt (now : ℤ) : Readings := ⟨0, now, now, now, []⟩

/-- A container is reported, and not again: the second clean-up comes ten minutes and a second
later. -/
theorem rows_of_cleanUp_silent :
    (rowsAfter (· < ·) (⟨0, 0, [], fun _ h => nomatch h⟩ : Records.Db Unit) ⟨[], [], 0⟩
      ([.createRecords "s" 0 0
          [{ name := "web", cpu := 0, mem := 0, networkSent := 0, networkRecv := 0,
             bandwidth := (0, 0), health := .healthy, status := "Up 3 days", id := "0123456789ab",
             image := "nginx", prevNet := (0, 0), prevReadTime := none }]
          [] true,
        .deleteOldRecords (fun _ => false) (readingsAt 300000000000)] ++
          [.deleteOldRecords (fun _ => false) (readingsAt 601000000000)])).container
        "0123456789ab" = none := by
  refine (rows_of_cleanUp (fun _ => rfl) fun fails r hmem => ?_).1.trans rfl
  simp only [List.mem_cons, List.not_mem_nil, or_false, reduceCtorEq, false_or,
    Event.deleteOldRecords.injEq] at hmem
  obtain ⟨-, rfl⟩ := hmem
  decide

end Rows

end LiveRows

end Beszel
