import Beszel.Agent.Docker
import Beszel.Agent.System

/-!
# Agent/Gather — snapshots are cached for each key, and hold pointers

    gather ──not fresh──▸ disks ──▸ docker ──▸ services ──publish──▸ cache
       ╰──fresh──▸ the snapshot of the key        worker ──▸ services

`gatherStats` of `agent/agent.go` with the cache of `agent/agent_cache.go`, the disks of
`agent/disk.go` and the services of `agent/systemd.go`.  A call holds the agent's mutex; what it
collects has the filesystems, containers and services as pointers to records that every later
collection overwrites, and the worker of the services runs on its own.  Times are nanoseconds.
-/

namespace Beszel

open Machinery

namespace Agent

namespace Gather

/-! ## The records that snapshots point to -/

/-- `system.FsStats`, as the agent keeps it. -/
structure FsStats where
  time : Option ℤ
  root : Bool
  mountpoint : String
  name : String
  diskTotal : ℚ
  diskUsed : ℚ
  totalRead : UInt64
  totalWrite : UInt64
  diskReadPs : ℚ
  diskWritePs : ℚ
  diskReadBytes : UInt64
  diskWriteBytes : UInt64
  deriving DecidableEq

/-- A filesystem that was not read yet. -/
def FsStats.new (root : Bool) (mountpoint name : String) : FsStats :=
  ⟨none, root, mountpoint, name, 0, 0, 0, 0, 0, 0, 0, 0⟩

/-- `systemd.ServiceState`. -/
inductive ServiceState
  | active
  | inactive
  | failed
  | activating
  | deactivating
  | reloading
  deriving DecidableEq

/-- `systemd.ServiceSubState`. -/
inductive ServiceSubState
  | dead
  | running
  | exited
  | failed
  | unknown
  deriving DecidableEq

/-- `systemd.Service`. -/
structure Service where
  name : String
  state : ServiceState
  cpu : ℚ
  mem : UInt64
  memPeak : UInt64
  sub : ServiceSubState
  cpuPeak : ℚ
  prevCpuUsage : UInt64
  prevReadTime : Option ℤ
  deriving DecidableEq

/-- A service that was not read yet. -/
def Service.new (name : String) : Service := ⟨name, .active, 0, 0, 0, .dead, 0, 0, none⟩

/-- `ParseServiceStatus`. -/
def parseServiceStatus (status : String) : ServiceState :=
  if status = "active" then .active
  else if status = "inactive" then .inactive
  else if status = "failed" then .failed
  else if status = "activating" then .activating
  else if status = "deactivating" then .deactivating
  else if status = "reloading" then .reloading
  else .inactive

/-- `ParseServiceSubState`. -/
def parseServiceSubState (subState : String) : ServiceSubState :=
  if subState = "dead" then .dead
  else if subState = "running" then .running
  else if subState = "exited" then .exited
  else if subState = "failed" then .failed
  else .unknown

/-- `Service.UpdateCPUPercent`. -/
def Service.updateCPUPercent (s : Service) (coreCount : ℕ) (now : ℤ) (cpuUsage : UInt64) :
    Service :=
  let read := { s with prevCpuUsage := cpuUsage, prevReadTime := some now }
  match s.prevReadTime with
  | none => { read with cpu := 0 }
  | some prev =>
    if cpuUsage < s.prevCpuUsage then { read with cpu := 0 }
    else if now - prev ≤ 0 then read
    else
      let cpu := twoDecimals
        (((cpuUsage - s.prevCpuUsage).toNat : ℚ) / ((now - prev) * coreCount : ℤ) * 100)
      { read with cpu := cpu, cpuPeak := if cpu > s.cpuPeak then cpu else s.cpuPeak }

/-- What is read of a unit; a value that is not available is `none`. -/
structure UnitReading where
  name : String
  serviceName : String
  activeState : String
  subState : String
  memoryPeak : Option UInt64
  memoryCurrent : Option UInt64
  cpuUsage : Option UInt64
  coreCount : ℕ
  now : ℤ

/-- `updateServiceStats`, on the record. -/
def Service.read (service : Service) (unit : UnitReading) : Service :=
  let memUsage := unit.memoryCurrent.getD 0
  let memPeak := unit.memoryPeak.getD service.memPeak
  let memPeak := if memUsage > memPeak then memUsage else memPeak
  Service.updateCPUPercent { service with
    state := parseServiceStatus unit.activeState
    sub := parseServiceSubState unit.subState
    mem := memUsage
    memPeak := if memPeak > service.memPeak then memPeak else service.memPeak }
    unit.coreCount unit.now (unit.cpuUsage.getD 0)

/-- `prevDisk`. -/
structure PrevDisk where
  readBytes : UInt64
  writeBytes : UInt64
  time : ℤ

/-- `disk.UsageStat`. -/
structure UsageStat where
  total : UInt64
  used : UInt64
  usedPercent : ℚ

/-- `disk.IOCountersStat`. -/
structure DiskCounters where
  name : String
  readBytes : UInt64
  writeBytes : UInt64

/-- `bytesToGigabytes`. -/
def bytesToGigabytes (b : UInt64) : ℚ := twoDecimals ((b.toNat : ℚ) / 1073741824)

/-! ## Snapshots -/

/-- The disk fields of `system.Stats`, which are those of the root filesystem. -/
structure RootDisk where
  diskTotal : ℚ
  diskUsed : ℚ
  usedPercent : Option ℚ
  diskReadPs : ℚ
  diskWritePs : ℚ
  diskIO : UInt64 × UInt64
  deriving DecidableEq

/-- The part of `system.CombinedData` that is copied into it.  The details of the system do not
change after the start. -/
structure Values where
  stats : Stats
  info : Info
  root : RootDisk
  details : Bool
  services : Option (UInt16 × UInt16)
  updates : Option (ℤ × ℤ × Bool)
  extraFsPct : GoMap ℚ

/-- **`system.CombinedData`**, with what it points to by name and address. -/
structure Snapshot where
  values : Values
  containers : List ℕ
  systemdServices : List ℕ
  extraFs : GoMap String

/-- What a snapshot says when it is read. -/
structure Content where
  values : Values
  containers : List Docker.Stats
  systemdServices : List Service
  extraFs : List (String × FsStats)

/-- A record that snapshots point to. -/
inductive Ref
  | device (name : String)
  | container (addr : ℕ)
  | service (addr : ℕ)
  deriving DecidableEq

/-- The records that a snapshot points to. -/
def Snapshot.refs (d : Snapshot) : List Ref :=
  d.extraFs.entries.map (fun e => .device e.2) ++ d.containers.map .container ++
    d.systemdServices.map .service

/-- `cacheNode`. -/
structure CacheNode where
  data : Snapshot
  lastUpdate : ℤ

/-- How far a call has come: `getDockerStats`, the three calls of the systemd manager, the rest. -/
inductive Phase
  | docker
  | total
  | failed (total : UInt16)
  | list
  | publish

/-- The call that holds the mutex. -/
structure Collection where
  key : UInt16
  data : Snapshot
  phase : Phase

/-- `systemdManager`; a manager that is not there has no services. -/
structure SystemdManager where
  heap : ℕ → Service
  next : ℕ
  serviceStatsMap : GoMap ℕ
  hasFreshStats : Bool

/-- What a call answered, and what the last call for the key that was not answered from the cache
had produced. -/
structure Answer where
  key : UInt16
  isCached : Bool
  content : Content
  produced : Option Content

/-- The agent.  The keys of `fsStats` are set up once; `intact`, `produced` and `log` record what
happened: whether nothing was written since that the snapshot of a key points to, what the last
collection of a key produced, and the answers. -/
structure State where
  host : Agent.State
  devices : List String
  fsStats : String → FsStats
  fsNames : List String
  diskPrev : UInt16 → GoMap PrevDisk
  diskUsageCacheDuration : ℤ
  lastDiskUsageUpdate : Option ℤ
  docker : Docker.State
  systemd : SystemdManager
  cache : UInt16 → Option CacheNode
  collecting : Option Collection
  intact : UInt16 → Bool
  produced : UInt16 → Option Content
  log : List Answer

/-- An agent that was not called yet. -/
def State.new (host : Agent.State) (filesystems : List (String × FsStats))
    (diskUsageCacheDuration : ℤ) : State where
  host := host
  devices := filesystems.map (·.1)
  fsStats device := (filesystems.lookup device).getD (.new false "" "")
  fsNames := filesystems.map (·.1)
  diskPrev _ := ∅
  diskUsageCacheDuration := diskUsageCacheDuration
  lastDiskUsageUpdate := none
  docker := .init
  systemd := ⟨fun _ => .new "", 0, ∅, false⟩
  cache _ := none
  collecting := none
  intact _ := false
  produced _ := none
  log := []

namespace State

/-- **What a snapshot says now.** -/
def content (s : State) (d : Snapshot) : Content where
  values := d.values
  containers := d.containers.map s.docker.dm.heap
  systemdServices := d.systemdServices.map s.systemd.heap
  extraFs := d.extraFs.entries.map fun e => (e.1, s.fsStats e.2)

/-- A record is written: the cached snapshots that point to it are not intact any more. -/
def spoil (s : State) (r : Ref) : State :=
  { s with intact := fun k => s.intact k && (s.cache k).all fun node => r ∉ node.data.refs }

/-- A filesystem's record is written. -/
def writeFs (s : State) (device : String) (change : FsStats → FsStats) : State :=
  { s.spoil (.device device) with
    fsStats := Function.update s.fsStats device (change (s.fsStats device)) }

/-- A service's record is written. -/
def writeService (s : State) (addr : ℕ) (service : Service) : State :=
  { s.spoil (.service addr) with
    systemd := { s.systemd with heap := Function.update s.systemd.heap addr service } }

/-! ## The disks -/

/-- One filesystem in the loop of `updateDiskUsage`. -/
def updateUsage (usage : String → Option UsageStat) (cacheExtraFs : Bool) (acc : State × RootDisk)
    (device : String) : State × RootDisk :=
  let (s, root) := acc
  let stats := s.fsStats device
  if cacheExtraFs ∧ ¬ stats.root then (s, root)
  else
    match usage stats.mountpoint with
    | some d =>
      (s.writeFs device fun stats => { stats with
          diskTotal := bytesToGigabytes d.total
          diskUsed := bytesToGigabytes d.used },
        if stats.root then { root with
          diskTotal := bytesToGigabytes d.total
          diskUsed := bytesToGigabytes d.used
          usedPercent := some d.usedPercent }
        else root)
    | none =>
      (s.writeFs device fun stats => { stats with
          diskTotal := 0
          diskUsed := 0
          totalRead := 0
          totalWrite := 0 },
        root)

/-- `updateDiskUsage`. -/
def updateDiskUsage (s : State) (now : ℤ) (usage : String → Option UsageStat) (root : RootDisk) :
    State × RootDisk :=
  let cacheExtraFs : Bool := s.diskUsageCacheDuration > 0 ∧ s.lastDiskUsageUpdate.isSome ∧
    Docker.since now s.lastDiskUsageUpdate < s.diskUsageCacheDuration
  let (s, root) := s.devices.foldl (updateUsage usage cacheExtraFs) (s, root)
  (if cacheExtraFs then s else { s with lastDiskUsageUpdate := some now }, root)

/-- One filesystem in the loop of `initializeDiskIoStats`. -/
def initializeIo (now : ℤ) (diskIoCounters : List (String × DiskCounters)) (s : State)
    (device : String) : State :=
  match diskIoCounters.lookup device with
  | none => s
  | some d =>
    { s.writeFs device fun stats => { stats with
        time := some now
        totalRead := d.readBytes
        totalWrite := d.writeBytes } with
      fsNames := s.fsNames ++ [device] }

/-- `initializeDiskIoStats`. -/
def initializeDiskIoStats (s : State) (now : ℤ) (diskIoCounters : List (String × DiskCounters)) :
    State :=
  s.devices.foldl (initializeIo now diskIoCounters) s

/-- The counters a device is measured against: the last ones of the interval, else those of the
record, else its own. -/
def prevOf (s : State) (key : UInt16) (now : ℤ) (name : String) (d : DiskCounters) : PrevDisk :=
  ((s.diskPrev key).lookup name).getD <|
    match (s.fsStats d.name).time with
    | none => ⟨d.readBytes, d.writeBytes, now⟩
    | some time => ⟨(s.fsStats d.name).totalRead, (s.fsStats d.name).totalWrite, time⟩

/-- One device in the loop of `updateDiskIo`. -/
def updateIo (key : UInt16) (now : ℤ) (ioCounters : List (String × DiskCounters))
    (acc : State × RootDisk) (entry : String × DiskCounters) : State × RootDisk :=
  let (s, root) := acc
  let (name, d) := entry
  if d.name ∉ s.devices then (s, root)
  else
    let prev := s.prevOf key now name d
    let msElapsed := Docker.millisecondsSince now (some prev.time)
    let s := { s with
      diskPrev := Function.update s.diskPrev key
        ((s.diskPrev key).insert name ⟨d.readBytes, d.writeBytes, now⟩) }
    if msElapsed < 100 then (s, root)
    else
      let diskIORead := (d.readBytes - prev.readBytes) * 1000 / msElapsed
      let diskIOWrite := (d.writeBytes - prev.writeBytes) * 1000 / msElapsed
      let readMbPerSecond := bytesToMegabytes diskIORead.toNat
      let writeMbPerSecond := bytesToMegabytes diskIOWrite.toNat
      if readMbPerSecond > 50000 ∨ writeMbPerSecond > 50000 then
        (s.initializeDiskIoStats now ioCounters, root)
      else
        (s.writeFs d.name fun stats => { stats with
            time := some now
            totalRead := d.readBytes
            totalWrite := d.writeBytes
            diskReadPs := readMbPerSecond
            diskWritePs := writeMbPerSecond
            diskReadBytes := diskIORead
            diskWriteBytes := diskIOWrite },
          if (s.fsStats d.name).root then { root with
            diskReadPs := readMbPerSecond
            diskWritePs := writeMbPerSecond
            diskIO := (diskIORead, diskIOWrite) }
          else root)

/-- `updateDiskIo`; `none` are counters that could not be read. -/
def updateDiskIo (s : State) (key : UInt16) (now : ℤ)
    (ioCounters : Option (List (String × DiskCounters))) (root : RootDisk) : State × RootDisk :=
  match ioCounters with
  | none => (s, root)
  | some ioCounters => ioCounters.foldl (updateIo key now ioCounters) (s, root)

/-! ## A call -/

/-- `systemDataCache.Get`: the snapshot of the key if it is fresh. -/
def get (s : State) (key : UInt16) (now : ℤ) : Option Snapshot :=
  match s.cache key with
  | none => none
  | some node =>
    if now - node.lastUpdate < (key / 2).toNat * 1000000 then some node.data else none

/-- `systemDataCache.Set`, and the answer of a call that was not answered from the cache. -/
def set (s : State) (data : Snapshot) (key : UInt16) (now : ℤ) : State :=
  { s with
    cache := Function.update s.cache key (some ⟨data, now⟩)
    collecting := none
    intact := Function.update s.intact key true
    produced := Function.update s.produced key (some (s.content data))
    log := ⟨key, false, s.content data, s.produced key⟩ :: s.log }

/-- The filesystems of a snapshot: all but the root, by their own name if they have one. -/
def extraFs (s : State) : GoMap String × GoMap ℚ :=
  s.devices.foldl (fun m device =>
    let stats := s.fsStats device
    if ¬ stats.root ∧ stats.diskTotal > 0 then
      let key := if stats.name ≠ "" then stats.name else device
      (m.1.insert key device,
        m.2.insert key (twoDecimals (stats.diskUsed / stats.diskTotal * 100)))
    else m) (∅, ∅)

/-- `updateServiceStats`. -/
def updateServiceStats (s : State) (unit : UnitReading) : State :=
  match s.systemd.serviceStatsMap.lookup unit.name with
  | some addr => s.writeService addr ((s.systemd.heap addr).read unit)
  | none =>
    let addr := s.systemd.next
    let s' := s.writeService addr ((Service.new unit.serviceName).read unit)
    { s' with
      systemd := { s'.systemd with
        next := addr + 1
        serviceStatsMap := s.systemd.serviceStatsMap.insert unit.name addr } }

end State

/-- What a call reads of the host at a time. -/
structure HostReadings where
  now : ℤ
  readings : Readings
  usage : String → Option UsageStat
  ioCounters : Option (List (String × DiskCounters))

/-- What can happen.  A poll of the containers is a sequence of steps of its own. -/
inductive Event
  | gather (key : UInt16) (includeDetails : Bool) (reads : HostReadings)
  | docker (e : Docker.Event)
  | dockerFailed
  | totalCount
  | failedCount
  | listServices
  | publish (now : ℤ) (updates : Option (ℤ × ℤ × Bool))
  | updateService (unit : UnitReading)
  | pruneServices (currentUnits : List String)
  | freshServices

/-- **A call that is not answered from the cache**, up to the containers: `getSystemStats` with the
disks. -/
def collect (s : State) (key : UInt16) (includeDetails : Bool) (reads : HostReadings) : State :=
  let (s, root) := s.updateDiskUsage reads.now reads.usage ⟨0, 0, none, 0, 0, (0, 0)⟩
  let (s, root) := s.updateDiskIo key reads.now reads.ioCounters root
  let (host, stats) := getSystemStats s.host { reads.readings with
    diskUsedPercent := root.usedPercent }
  { s with
    host := host
    collecting := some
      { key := key
        data :=
          { values := ⟨stats, host.systemInfo, root, includeDetails, none, none, ∅⟩
            containers := []
            systemdServices := []
            extraFs := ∅ }
        phase := .docker } }

/-- The phase after the containers: services are a part of the default interval. -/
def afterDocker (key : UInt16) : Phase := if key = 60000 then .total else .publish

/-- The number of services that failed. -/
def failedServices (m : SystemdManager) : UInt16 :=
  UInt16.ofNat (m.serviceStatsMap.entries.countP fun e => (m.heap e.2).state = .failed)

/-- A step of the poll that a call makes.  The entries of the map are what it returns. -/
def dockerStep (excluded : String → Bool) (s : State) (c : Collection) (e : Docker.Event) :
    Option State :=
  match Docker.step excluded s.docker e with
  | none => none
  | some docker =>
    let s' := (match Docker.writes s.docker e with
      | some addr => s.spoil (.container addr)
      | none => s)
    let s' := { s' with docker := docker }
    match e with
    | .begin key _ _ => if key = c.key then some s' else none
    | .finish => some { s' with
        collecting := some { c with
          data := { c.data with
            containers := docker.dm.containerStatsMap.entries.map fun e => e.2 }
          phase := afterDocker c.key } }
    | _ => some s'

/-- **One step.** -/
def step (excluded : String → Bool) (s : State) : Event → Option State
  | .gather key includeDetails reads =>
    if s.collecting.isSome then none
    else
      match s.get key reads.now with
      | some data =>
        some { s with log := ⟨key, true, s.content data, s.produced key⟩ :: s.log }
      | none => some (collect s key includeDetails reads)
  | .docker e =>
    match s.collecting with
    | some ⟨key, data, .docker⟩ => dockerStep excluded s ⟨key, data, .docker⟩ e
    | _ => none
  | .dockerFailed =>
    match s.collecting with
    | some ⟨key, data, .docker⟩ =>
      if s.docker.poll.isNone then
        some { s with collecting := some ⟨key, data, afterDocker key⟩ }
      else none
    | _ => none
  | .totalCount =>
    match s.collecting with
    | some ⟨key, data, .total⟩ =>
      let total := UInt16.ofNat s.systemd.serviceStatsMap.entries.length
      some { s with
        collecting := some ⟨key, data, if total > 0 then .failed total else .list⟩ }
    | _ => none
  | .failedCount =>
    match s.collecting with
    | some ⟨key, data, .failed total⟩ =>
      let values := { data.values with services := some (total, failedServices s.systemd) }
      some { s with collecting := some ⟨key, { data with values := values }, .list⟩ }
    | _ => none
  | .listServices =>
    match s.collecting with
    | some ⟨key, data, .list⟩ =>
      if s.systemd.hasFreshStats then
        let services := s.systemd.serviceStatsMap.entries.map fun e => e.2
        some { s with
          systemd := { s.systemd with hasFreshStats := false }
          collecting := some ⟨key, { data with systemdServices := services }, .publish⟩ }
      else some { s with collecting := some ⟨key, data, .publish⟩ }
    | _ => none
  | .publish now updates =>
    match s.collecting with
    | some ⟨key, data, .publish⟩ =>
      let values := { data.values with updates := updates, extraFsPct := s.extraFs.2 }
      some (s.set { data with values := values, extraFs := s.extraFs.1 } key now)
    | _ => none
  | .updateService unit => some (s.updateServiceStats unit)
  | .pruneServices currentUnits => some { s with
      systemd := { s.systemd with
        serviceStatsMap := retain (fun name _ => name ∈ currentUnits) s.systemd.serviceStatsMap } }
  | .freshServices => some { s with systemd := { s.systemd with hasFreshStats := true } }

/-! ## A snapshot that nothing was written to -/

/-- **The records that a snapshot points to are as they were.** -/
structure SameRecords (s s' : State) (d : Snapshot) : Prop where
  device : ∀ name, .device name ∈ d.refs → s'.fsStats name = s.fsStats name
  container : ∀ addr, .container addr ∈ d.refs → s'.docker.dm.heap addr = s.docker.dm.heap addr
  service : ∀ addr, .service addr ∈ d.refs → s'.systemd.heap addr = s.systemd.heap addr

/-- A snapshot says what its records say. -/
theorem SameRecords.content {s s' : State} {d : Snapshot} (h : SameRecords s s' d) :
    s'.content d = s.content d := by
  have hcontainers : d.containers.map s'.docker.dm.heap = d.containers.map s.docker.dm.heap :=
    List.map_congr_left fun addr haddr => h.container addr (by simp [Snapshot.refs, haddr])
  have hservices : d.systemdServices.map s'.systemd.heap = d.systemdServices.map s.systemd.heap :=
    List.map_congr_left fun addr haddr => h.service addr (by simp [Snapshot.refs, haddr])
  have hextraFs : d.extraFs.entries.map (fun e => (e.1, s'.fsStats e.2)) =
      d.extraFs.entries.map fun e => (e.1, s.fsStats e.2) := by
    refine List.map_congr_left fun e he => ?_
    have href : Ref.device e.2 ∈ d.refs := by
      rw [Snapshot.refs, List.append_assoc]
      exact List.mem_append_left _ (List.mem_map.mpr ⟨e, he, rfl⟩)
    rw [h.device e.2 href]
  rw [State.content, State.content, hcontainers, hservices, hextraFs]

/-- **The invariant of the cache**: a snapshot that is intact says what was produced, and every
answer from the cache is what was produced. -/
structure Inv (s : State) : Prop where
  cached : ∀ key, ∀ node ∈ s.cache key, s.intact key → s.produced key = some (s.content node.data)
  log : ∀ a ∈ s.log, a.isCached → a.produced = some a.content

theorem inv_new (host : Agent.State) (filesystems : List (String × FsStats))
    (diskUsageCacheDuration : ℤ) : Inv (State.new host filesystems diskUsageCacheDuration) where
  cached _ _ hnode := absurd hnode (by simp [State.new])
  log _ ha := absurd ha (by simp [State.new])

/-- **A step that writes one record at most**, and tells so. -/
theorem Inv.of_spoil {s s' : State} (r : Ref) (h : Inv s) (hcache : s'.cache = s.cache)
    (hintact : s'.intact = (s.spoil r).intact) (hproduced : s'.produced = s.produced)
    (hlog : s'.log = s.log) (hsame : ∀ d : Snapshot, r ∉ d.refs → SameRecords s s' d) : Inv s' where
  cached key node hnode hi := by
    rw [hcache] at hnode
    rw [hintact, State.spoil, Bool.and_eq_true, Option.mem_def.mp hnode, Option.all_some,
      decide_eq_true_iff] at hi
    rw [hproduced, (hsame node.data hi.2).content]
    exact h.cached key node hnode hi.1
  log := hlog ▸ h.log

/-- A step that writes no record. -/
theorem Inv.of_same {s s' : State} (h : Inv s) (hcache : s'.cache = s.cache)
    (hintact : s'.intact = s.intact) (hproduced : s'.produced = s.produced) (hlog : s'.log = s.log)
    (hfs : s'.fsStats = s.fsStats) (hdocker : s'.docker.dm.heap = s.docker.dm.heap)
    (hsystemd : s'.systemd.heap = s.systemd.heap) : Inv s' where
  cached key node hnode hi := by
    have hsame : SameRecords s s' node.data :=
      ⟨fun _ _ => by rw [hfs], fun _ _ => by rw [hdocker], fun _ _ => by rw [hsystemd]⟩
    rw [hproduced, hsame.content]
    exact h.cached key node (hcache ▸ hnode) (hintact ▸ hi)
  log := hlog ▸ h.log

theorem Inv.writeFs {s : State} (h : Inv s) (device : String) (change : FsStats → FsStats) :
    Inv (s.writeFs device change) := by
  refine h.of_spoil (.device device) rfl rfl rfl rfl fun d hd => ⟨fun name hname => ?_,
    fun _ _ => rfl, fun _ _ => rfl⟩
  have hne : name ≠ device := by
    rintro rfl
    exact hd hname
  exact Function.update_of_ne hne _ _

theorem Inv.writeService {s : State} (h : Inv s) (addr : ℕ) (service : Service) :
    Inv (s.writeService addr service) := by
  refine h.of_spoil (.service addr) rfl rfl rfl rfl fun d hd => ⟨fun _ _ => rfl, fun _ _ => rfl,
    fun addr' haddr' => ?_⟩
  have hne : addr' ≠ addr := by
    rintro rfl
    exact hd haddr'
  exact Function.update_of_ne hne _ _

/-! ## The disks keep it -/

theorem Inv.updateUsage {usage : String → Option UsageStat} {cacheExtraFs : Bool}
    {acc : State × RootDisk} (device : String) (h : Inv acc.1) :
    Inv (State.updateUsage usage cacheExtraFs acc device).1 := by
  unfold State.updateUsage
  dsimp only
  split
  · exact h
  · cases usage (acc.1.fsStats device).mountpoint with
    | none =>
      dsimp only
      exact h.writeFs device _
    | some d =>
      dsimp only
      exact h.writeFs device _

theorem Inv.updateDiskUsage {s : State} (h : Inv s) (now : ℤ) (usage : String → Option UsageStat)
    (root : RootDisk) : Inv (s.updateDiskUsage now usage root).1 := by
  have hloop : ∀ cacheExtraFs : Bool,
      Inv (s.devices.foldl (State.updateUsage usage cacheExtraFs) (s, root)).1 := fun _ =>
    List.foldlRecOn (motive := fun acc : State × RootDisk => Inv acc.1) s.devices _ h
      fun _ h device _ => Inv.updateUsage device h
  unfold State.updateDiskUsage
  dsimp only
  split_ifs
  · exact hloop _
  · exact (hloop _).of_same rfl rfl rfl rfl rfl rfl rfl

theorem Inv.initializeIo {s : State} (h : Inv s) (now : ℤ)
    (diskIoCounters : List (String × DiskCounters)) (device : String) :
    Inv (State.initializeIo now diskIoCounters s device) := by
  unfold State.initializeIo
  cases diskIoCounters.lookup device with
  | none => exact h
  | some d =>
    have hwrite := h.writeFs device fun stats => { stats with
      time := some now
      totalRead := d.readBytes
      totalWrite := d.writeBytes }
    exact hwrite.of_same rfl rfl rfl rfl rfl rfl rfl

theorem Inv.initializeDiskIoStats {s : State} (h : Inv s) (now : ℤ)
    (diskIoCounters : List (String × DiskCounters)) :
    Inv (s.initializeDiskIoStats now diskIoCounters) := by
  unfold State.initializeDiskIoStats
  exact List.foldlRecOn s.devices _ h
    fun _ h device _ => h.initializeIo now diskIoCounters device

theorem Inv.updateIo {key : UInt16} {now : ℤ} {ioCounters : List (String × DiskCounters)}
    {acc : State × RootDisk} (entry : String × DiskCounters) (h : Inv acc.1) :
    Inv (State.updateIo key now ioCounters acc entry).1 := by
  have hprev : Inv { acc.1 with
      diskPrev := Function.update acc.1.diskPrev key
        ((acc.1.diskPrev key).insert entry.1 ⟨entry.2.readBytes, entry.2.writeBytes, now⟩) } :=
    h.of_same rfl rfl rfl rfl rfl rfl rfl
  unfold State.updateIo
  dsimp only
  split
  · exact h
  · split
    · exact hprev
    · split
      · exact hprev.initializeDiskIoStats now ioCounters
      · dsimp only
        exact hprev.writeFs entry.2.name _

theorem Inv.updateDiskIo {s : State} (h : Inv s) (key : UInt16) (now : ℤ)
    (ioCounters : Option (List (String × DiskCounters))) (root : RootDisk) :
    Inv (s.updateDiskIo key now ioCounters root).1 := by
  unfold State.updateDiskIo
  split
  · exact h
  · exact List.foldlRecOn (motive := fun acc : State × RootDisk => Inv acc.1) _ _ h
      fun _ h entry _ => Inv.updateIo entry h

theorem Inv.collect {s : State} (h : Inv s) (key : UInt16) (includeDetails : Bool)
    (reads : HostReadings) : Inv (Gather.collect s key includeDetails reads) := by
  have husage := h.updateDiskUsage reads.now reads.usage ⟨0, 0, none, 0, 0, (0, 0)⟩
  have hio := husage.updateDiskIo key reads.now reads.ioCounters
    (s.updateDiskUsage reads.now reads.usage ⟨0, 0, none, 0, 0, (0, 0)⟩).2
  exact hio.of_same rfl rfl rfl rfl rfl rfl rfl

/-! ## Every step keeps it -/

variable {excluded : String → Bool}

/-- A step of the poll writes one container at most. -/
theorem Inv.docker {s : State} {docker : Docker.State} {e : Docker.Event} (h : Inv s)
    (hs : Docker.step excluded s.docker e = some docker) :
    Inv { (match Docker.writes s.docker e with
      | some addr => s.spoil (.container addr)
      | none => s) with docker := docker } := by
  have hheap := @Docker.step_heap excluded s.docker docker e hs
  cases hw : Docker.writes s.docker e with
  | none =>
    refine h.of_same rfl rfl rfl rfl rfl (funext fun addr => ?_) rfl
    exact hheap (by simp [hw])
  | some addr =>
    refine h.of_spoil (.container addr) rfl rfl rfl rfl fun d hd => ⟨fun _ _ => rfl,
      fun addr' haddr' => hheap ?_, fun _ _ => rfl⟩
    rw [hw]
    rintro ⟨⟩
    exact hd haddr'

theorem Inv.dockerStep {s s' : State} {c : Collection} {e : Docker.Event} (h : Inv s)
    (hs : Gather.dockerStep excluded s c e = some s') : Inv s' := by
  unfold Gather.dockerStep at hs
  split at hs
  · cases hs
  · rename_i docker hdocker
    have hbase := h.docker hdocker
    dsimp only at hs
    split at hs
    · obtain ⟨-, rfl⟩ := guard_eq_some hs
      exact hbase
    · cases hs
      exact hbase.of_same rfl rfl rfl rfl rfl rfl rfl
    · cases hs
      exact hbase

theorem Inv.updateServiceStats {s : State} (h : Inv s) (unit : UnitReading) :
    Inv (s.updateServiceStats unit) := by
  unfold State.updateServiceStats
  split
  · exact h.writeService _ _
  · have hwrite := h.writeService s.systemd.next ((Service.new unit.serviceName).read unit)
    exact hwrite.of_same rfl rfl rfl rfl rfl rfl rfl

/-- What a call puts into the cache is intact, and says what it produced. -/
theorem Inv.set {s : State} (h : Inv s) (data : Snapshot) (key : UInt16) (now : ℤ) :
    Inv (s.set data key now) where
  cached key' node hnode hi := by
    have hcontent : (s.set data key now).content = s.content := rfl
    rw [hcontent]
    unfold State.set at hnode hi ⊢
    dsimp only at hnode hi ⊢
    by_cases hkey : key' = key
    · subst hkey
      rw [Function.update_self] at hnode
      cases hnode
      rw [Function.update_self]
    · rw [Function.update_of_ne hkey] at hnode hi ⊢
      exact h.cached key' node hnode hi
  log a ha hcached := by
    obtain rfl | ha := List.mem_cons.mp ha
    · cases hcached
    · exact h.log a ha hcached

/-- **What is answered from the cache is intact**: since the snapshot was collected nothing has been
written that it points to. -/
def Intact (s : State) : Event → Prop
  | .gather key _ reads => (s.get key reads.now).isSome → s.intact key
  | _ => True

instance (s : State) : DecidablePred (Intact s)
  | .gather key _ reads =>
    inferInstanceAs (Decidable ((s.get key reads.now).isSome → s.intact key))
  | .docker _ => .isTrue trivial
  | .dockerFailed => .isTrue trivial
  | .totalCount => .isTrue trivial
  | .failedCount => .isTrue trivial
  | .listServices => .isTrue trivial
  | .publish _ _ => .isTrue trivial
  | .updateService _ => .isTrue trivial
  | .pruneServices _ => .isTrue trivial
  | .freshServices => .isTrue trivial

theorem mem_cache_of_get {s : State} {key : UInt16} {now : ℤ} {data : Snapshot}
    (h : s.get key now = some data) : ∃ node ∈ s.cache key, node.data = data := by
  unfold State.get at h
  split at h
  · cases h
  · rename_i node hnode
    obtain ⟨-, rfl⟩ := guard_eq_some h
    exact ⟨node, hnode, rfl⟩

theorem Inv.gather {s s' : State} {key : UInt16} {includeDetails : Bool} {reads : HostReadings}
    (h : Inv s) (hok : Intact s (.gather key includeDetails reads))
    (hs : step excluded s (.gather key includeDetails reads) = some s') : Inv s' := by
  simp only [step] at hs
  split at hs
  · cases hs
  · split at hs
    case h_1 data hget =>
      cases hs
      obtain ⟨node, hnode, rfl⟩ := mem_cache_of_get hget
      have hintact : s.intact key := hok (by rw [hget, Option.isSome_some])
      refine ⟨h.cached, fun a ha hcached => ?_⟩
      obtain rfl | ha := List.mem_cons.mp ha
      · exact h.cached key node hnode hintact
      · exact h.log a ha hcached
    case h_2 =>
      cases hs
      exact h.collect key includeDetails reads

/-- **One step keeps the invariant.** -/
theorem Inv.step {s s' : State} {e : Event} (h : Inv s) (hok : Intact s e)
    (hs : step excluded s e = some s') : Inv s' := by
  match e with
  | .gather key includeDetails reads => exact h.gather hok hs
  | .docker e =>
    simp only [Gather.step] at hs
    split at hs
    · exact h.dockerStep hs
    · cases hs
  | .dockerFailed =>
    simp only [Gather.step] at hs
    split at hs
    · obtain ⟨-, rfl⟩ := guard_eq_some hs
      exact h.of_same rfl rfl rfl rfl rfl rfl rfl
    · cases hs
  | .totalCount | .failedCount =>
    simp only [Gather.step] at hs
    split at hs
    · cases hs
      exact h.of_same rfl rfl rfl rfl rfl rfl rfl
    · cases hs
  | .listServices =>
    simp only [Gather.step] at hs
    split at hs
    · split at hs
      · cases hs
        exact h.of_same rfl rfl rfl rfl rfl rfl rfl
      · cases hs
        exact h.of_same rfl rfl rfl rfl rfl rfl rfl
    · cases hs
  | .publish now updates =>
    simp only [Gather.step] at hs
    split at hs
    · cases hs
      exact h.set _ _ now
    · cases hs
  | .updateService unit =>
    cases hs
    exact h.updateServiceStats unit
  | .pruneServices currentUnits =>
    cases hs
    exact h.of_same rfl rfl rfl rfl rfl rfl rfl
  | .freshServices =>
    cases hs
    exact h.of_same rfl rfl rfl rfl rfl rfl rfl

/-- **Where what is answered from the cache is intact, the answer is what the last collection of the
key produced.** -/
theorem cached_answer_as_produced {host : Agent.State} {filesystems : List (String × FsStats)}
    {diskUsageCacheDuration : ℤ} {s : State} {events : List Event}
    (hr : run (step excluded) (State.new host filesystems diskUsageCacheDuration) events = some s)
    (hok :
      Along (step excluded) Intact (State.new host filesystems diskUsageCacheDuration) events) :
    ∀ a ∈ s.log, a.isCached → a.produced = some a.content :=
  (inv_of_along (fun h hok hs => h.step hok hs) (inv_new _ _ _) hok hr).log

/-! ## A collection of another key in between -/

/-- What is read at a time in seconds, with so many gigabytes used on the data disk. -/
def readsAt (seconds : ℤ) (used : UInt64) : HostReadings where
  now := seconds * 1000000000
  readings := ⟨none, none, none, none, none, none, none, ∅, ⟨0, 0, none, none, none⟩⟩
  usage mountpoint := some ⟨4294967296, if mountpoint = "/data" then used * 1073741824 else 0, 0⟩
  ioCounters := none

/-- A collection for a key without containers and services. -/
def collectOnce (key : UInt16) (seconds : ℤ) (used : UInt64) : List Event :=
  [.gather key false (readsAt seconds used), .dockerFailed] ++
    (if key = 60000 then [.totalCount, .listServices] else []) ++
    [.publish (seconds * 1000000000) none]

/-- An agent with a data disk next to the root. -/
def twoDisks : State :=
  .new (.new ⟨[], fun _ => none, fun _ => none, none⟩ "")
    [("sda1", .new true "/" ""), ("sdb1", .new false "/data" "")] 0

theorem cached_answer_as_produced_of_one_key :
    ((run (step fun _ => false) twoDisks
        (collectOnce 60000 0 1 ++ [.gather 60000 false (readsAt 10 2)])).map
        fun s => s.log.map (·.isCached)) = some [true, false] ∧
      ∀ s ∈ run (step fun _ => false) twoDisks
          (collectOnce 60000 0 1 ++ [.gather 60000 false (readsAt 10 2)]),
        ∀ a ∈ s.log, a.isCached → a.produced = some a.content :=
  ⟨by decide +kernel, fun _ hs => cached_answer_as_produced hs (by decide +kernel)⟩

/-- A collection for the other key writes the filesystem of the cached snapshot. -/
theorem cached_answer_changed_by_another_key :
    ¬ ∀ (excluded : String → Bool) (host : Agent.State) (filesystems : List (String × FsStats))
      (diskUsageCacheDuration : ℤ) (events : List Event) (s : State),
      run (step excluded) (State.new host filesystems diskUsageCacheDuration) events = some s →
        ∀ a ∈ s.log, a.isCached → a.produced = some a.content := by
  intro h
  have hlog : (run (step fun _ => false) twoDisks (collectOnce 60000 0 1 ++ collectOnce 1000 5 2 ++
      [.gather 60000 false (readsAt 10 2)])).map (fun s => s.log.head?.map fun a =>
        (a.isCached, a.content.extraFs.map (·.2.diskUsed),
          a.produced.map (·.extraFs.map (·.2.diskUsed)))) =
      some (some (true, [2], some [1])) := by
    decide +kernel
  obtain ⟨s, hs, hlog⟩ := Option.map_eq_some_iff.mp hlog
  obtain ⟨a, ha, heq⟩ := Option.map_eq_some_iff.mp hlog
  obtain ⟨hcached, hrest⟩ := Prod.mk.inj heq
  obtain ⟨hcontent, hproduced⟩ := Prod.mk.inj hrest
  have hsame := h _ _ _ _ _ s hs a (List.mem_of_head? ha) hcached
  rw [hsame, Option.map_some, hcontent] at hproduced
  exact absurd hproduced (by decide)

end Gather

end Agent

end Beszel
