import Beszel.Agent.Network
import Beszel.Common.Text
import Beszel.Machinery.Run

/-!
# Agent/Docker — the containers are polled for each cache key

    list ──visit──▸ running ──update──▸ containerStatsMap ──finish──▸ stats
                       ▴                    │ drop
                       ╰──────retry─────────╯

`getDockerStats` of `agent/docker.go`: the containers of the list are updated by goroutines of their
own, one after the other in the part that holds the mutex, and those that failed are tried once
more.  The manager has one `container.Stats` for each container, which every poll overwrites and
returns a pointer to; the byte counters are tracked for each cache key, the time of the last reading
is kept once for each container.  Times are nanoseconds.
-/

namespace Beszel

open Machinery

namespace Agent

namespace Docker

/-! ## The data -/

/-- `container.DockerHealth`. -/
inductive DockerHealth
  | none
  | starting
  | healthy
  | unhealthy
  deriving DecidableEq, Repr

/-- `container.ApiInfo`, of a container's names the one without its slash. -/
structure ApiInfo where
  idShort : String
  name : String
  status : String
  image : String
  deriving DecidableEq

/-- `container.ApiStats`; of the networks the bytes sent and received. -/
structure ApiStats where
  read : ℤ
  numProcs : UInt32
  networks : List (UInt64 × UInt64)
  totalUsage : UInt64
  systemUsage : UInt64
  memUsage : UInt64
  memCache : UInt64
  memInactiveFile : UInt64
  privateWorkingSet : UInt64
  deriving DecidableEq

/-- `container.Stats`; no reading is the zero time. -/
structure Stats where
  name : String
  cpu : ℚ
  mem : ℚ
  networkSent : ℚ
  networkRecv : ℚ
  bandwidth : UInt64 × UInt64
  health : DockerHealth
  status : String
  id : String
  image : String
  prevNet : UInt64 × UInt64
  prevReadTime : Option ℤ
  deriving DecidableEq

/-- A new entry. -/
def Stats.new (ctr : ApiInfo) : Stats :=
  ⟨ctr.name, 0, 0, 0, 0, (0, 0), .none, "", ctr.idShort, ctr.image, (0, 0), none⟩

/-- `dockerManager`: the entries are pointers, so `heap` has what the addresses point to and `next`
the address of the next entry.  A map or tracker that is nil is empty. -/
structure DockerManager where
  isWindows : Bool
  heap : ℕ → Stats
  next : ℕ
  containerStatsMap : GoMap ℕ
  lastCpuContainer : UInt16 → GoMap UInt64
  lastCpuSystem : UInt16 → GoMap UInt64
  lastCpuReadTime : UInt16 → GoMap ℤ
  networkSentTrackers : UInt16 → DeltaTracker
  networkRecvTrackers : UInt16 → DeltaTracker

/-- A manager that has not polled yet. -/
def DockerManager.new : DockerManager where
  isWindows := false
  heap _ := .new ⟨"", "", "", ""⟩
  next := 0
  containerStatsMap := ∅
  lastCpuContainer _ := ∅
  lastCpuSystem _ := ∅
  lastCpuReadTime _ := ∅
  networkSentTrackers _ := .new
  networkRecvTrackers _ := .new

/-! ## Status -/

/-- `strings.Replace` of the first occurrence by nothing. -/
def removeFirst (pattern : List Char) : List Char → List Char
  | [] => []
  | c :: cs =>
    if pattern.isPrefixOf (c :: cs) then (c :: cs).drop pattern.length
    else c :: removeFirst pattern cs

/-- `container.DockerHealthStrings`. -/
def dockerHealthStrings : List (String × DockerHealth) :=
  [("none", .none), ("starting", .starting), ("healthy", .healthy), ("unhealthy", .unhealthy)]

/-- The health in the text between the last parentheses, without a leading `health:`. -/
def healthOf (text : String) : Option DockerHealth :=
  let start := GoText.trimSpace (String.ofList (text.toList.takeWhile (· ≠ ':')))
  let rest := (text.toList.dropWhile (· ≠ ':')).drop 1
  dockerHealthStrings.lookup <|
    if ':' ∈ text.toList ∧ (start = "health" ∨ start = "health status") then
      GoText.trimSpace (String.ofList rest)
    else text

/-- `parseDockerStatus`. -/
def parseDockerStatus (status : String) : String × DockerHealth :=
  let trimmed := removeFirst "About ".toList (GoText.trimSpace status).toList
  if '(' ∉ trimmed ∨ trimmed.getLast? ≠ some ')' then (String.ofList trimmed, .none)
  else
    -- what follows the last opening parenthesis, and what is before it
    let inside := (trimmed.reverse.takeWhile (· ≠ '(')).reverse
    let before := trimmed.take (trimmed.length - inside.length - 1)
    let statusText := GoText.trimSpace (String.ofList before)
    let healthText := GoText.toLower (GoText.trimSpace (String.ofList inside.dropLast))
    match healthOf healthText with
    | some health => (if statusText = "" then String.ofList trimmed else statusText, health)
    | none => (String.ofList trimmed, .none)

/-! ## One container -/

/-- `maxNetworkSpeedBps`. -/
def maxNetworkSpeedBps : UInt64 := 5000000000

/-- `maxMemoryUsage`. -/
def maxMemoryUsage : UInt64 := 100 * 1024 * 1024 * 1024 * 1024

/-- `calculateMemoryUsage`; `none` is the error. -/
def calculateMemoryUsage (apiStats : ApiStats) (isWindows : Bool) : Option UInt64 :=
  if isWindows then some apiStats.privateWorkingSet
  else
    let memCache :=
      if apiStats.memInactiveFile = 0 then apiStats.memCache else apiStats.memInactiveFile
    let usedDelta := apiStats.memUsage - memCache
    if usedDelta = 0 ∨ usedDelta > maxMemoryUsage then none else some usedDelta

/-- `CalculateCpuPercentLinux`. -/
def calculateCpuPercentLinux (s : ApiStats) (prevCpuContainer prevCpuSystem : UInt64) : ℚ :=
  let cpuDelta := s.totalUsage - prevCpuContainer
  let systemDelta := s.systemUsage - prevCpuSystem
  if systemDelta = 0 ∨ prevCpuContainer = 0 then 0
  else (cpuDelta.toNat : ℚ) / systemDelta.toNat * 100

/-- A duration as 64 bits without a sign. -/
def durationBits (d : ℤ) : UInt64 := UInt64.ofNat (d % 2 ^ 64).toNat

/-- The longest duration. -/
def maxDuration : ℤ := 2 ^ 63 - 1

/-- `Time.Sub`, cut to a duration; the zero time is longer ago than any duration. -/
def since (now : ℤ) (read : Option ℤ) : ℤ :=
  (read.map fun t => max (-maxDuration - 1) (min (now - t) maxDuration)).getD maxDuration

/-- `CalculateCpuPercentWindows`. -/
def calculateCpuPercentWindows (s : ApiStats) (prevCpuUsage : UInt64) (prevRead : Option ℤ) : ℚ :=
  let possIntervals := durationBits (since s.read prevRead) / 100 * s.numProcs.toUInt64
  let intervalsUsed := s.totalUsage - prevCpuUsage
  if possIntervals > 0 then (intervalsUsed.toNat : ℚ) / possIntervals.toNat * 100 else 0

/-- Milliseconds since a reading. -/
def millisecondsSince (now : ℤ) (read : Option ℤ) : UInt64 :=
  durationBits ((since now read).tdiv 1000000)

/-- The bytes per second of a number of bytes: none are reported over no time, and a rate that is
not plausible is reported as zero. -/
def rate (bytes : UInt64) (millisecondsElapsed : UInt64) : UInt64 :=
  if millisecondsElapsed = 0 then 0
  else
    let perSecond := bytes * 1000 / millisecondsElapsed
    if perSecond > maxNetworkSpeedBps then 0 else perSecond

/-- `DeltaTracker.Delta`. -/
def delta (t : DeltaTracker) (id : String) : UInt64 :=
  match t.current.lookup id, t.previous.lookup id with
  | some current, some previous => current - previous
  | _, _ => 0

/-- The bytes sent and received over all networks. -/
def totals (networks : List (UInt64 × UInt64)) : UInt64 × UInt64 :=
  networks.foldl (fun t v => (t.1 + v.1, t.2 + v.2)) (0, 0)

/-- How an attempt to update a container goes: the request fails, the response is not decoded, or it
is, at a time; `res` is what `apiStats` then holds (`Entries.Body.decode`). -/
inductive Attempt
  | requestFailed
  | decodeFailed
  | decoded (now : ℤ) (res : ApiStats)
  deriving DecidableEq

namespace DockerManager

/-- The entry of a container is found or made, and the current values are reset: the manager, the
entry's address and whether it was there. -/
def openEntry (dm : DockerManager) (ctr : ApiInfo) : DockerManager × ℕ × Bool :=
  let found := dm.containerStatsMap.lookup ctr.idShort
  let addr := found.getD dm.next
  let old := (found.map dm.heap).getD (.new ctr)
  let parsed := parseDockerStatus ctr.status
  ({ dm with
      heap := Function.update dm.heap addr { old with
        id := ctr.idShort
        status := parsed.1
        health := parsed.2
        cpu := 0
        mem := 0
        bandwidth := (0, 0)
        networkSent := 0
        networkRecv := 0 }
      next := if found.isSome then dm.next else dm.next + 1
      containerStatsMap := dm.containerStatsMap.insert ctr.idShort addr },
    addr, found.isSome)

/-- The CPU percentage, by the platform. -/
def cpuPct (dm : DockerManager) (cacheTimeMs : UInt16) (id : String) (res : ApiStats) : ℚ :=
  let prevCpuContainer := ((dm.lastCpuContainer cacheTimeMs).lookup id).getD 0
  if dm.isWindows then
    calculateCpuPercentWindows res prevCpuContainer ((dm.lastCpuReadTime cacheTimeMs).lookup id)
  else
    calculateCpuPercentLinux res prevCpuContainer
      (((dm.lastCpuSystem cacheTimeMs).lookup id).getD 0)

/-- `setCpuCurrentValues`. -/
def setCpuCurrentValues (dm : DockerManager) (cacheTimeMs : UInt16) (id : String)
    (res : ApiStats) : DockerManager :=
  { dm with
    lastCpuContainer := Function.update dm.lastCpuContainer cacheTimeMs
      ((dm.lastCpuContainer cacheTimeMs).insert id res.totalUsage)
    lastCpuSystem := Function.update dm.lastCpuSystem cacheTimeMs
      ((dm.lastCpuSystem cacheTimeMs).insert id res.systemUsage) }

/-- The trackers of the key are told the counters. -/
def setCounters (dm : DockerManager) (cacheTimeMs : UInt16) (id : String) (res : ApiStats) :
    DockerManager :=
  { dm with
    networkSentTrackers := Function.update dm.networkSentTrackers cacheTimeMs
      ((dm.networkSentTrackers cacheTimeMs).set id (totals res.networks).1)
    networkRecvTrackers := Function.update dm.networkRecvTrackers cacheTimeMs
      ((dm.networkRecvTrackers cacheTimeMs).set id (totals res.networks).2) }

/-- `calculateNetworkStats`, after the trackers were told. -/
def networkRates (dm : DockerManager) (cacheTimeMs : UInt16) (id : String) (initialized : Bool)
    (prevReadTime : Option ℤ) (now : ℤ) : UInt64 × UInt64 :=
  if initialized then
    let elapsed := millisecondsSince now prevReadTime
    (rate (delta (dm.networkSentTrackers cacheTimeMs) id) elapsed,
      rate (delta (dm.networkRecvTrackers cacheTimeMs) id) elapsed)
  else (0, 0)

/-- `updateContainerStatsValues`, with the counters for legacy compatibility. -/
def storeValues (dm : DockerManager) (addr : ℕ) (cpuPct : ℚ) (usedMemory : UInt64)
    (rates : UInt64 × UInt64) (res : ApiStats) : DockerManager :=
  { dm with
    heap := Function.update dm.heap addr { dm.heap addr with
      cpu := twoDecimals cpuPct
      mem := bytesToMegabytes usedMemory.toNat
      bandwidth := rates
      networkSent := bytesToMegabytes rates.1.toNat
      networkRecv := bytesToMegabytes rates.2.toNat
      prevNet := totals res.networks
      prevReadTime := some res.read } }

/-- **`updateContainerStats`**: the manager, and whether it succeeded. -/
def updateContainerStats (dm : DockerManager) (ctr : ApiInfo) (cacheTimeMs : UInt16) :
    Attempt → DockerManager × Bool
  | .requestFailed => (dm, false)
  | .decodeFailed => ((dm.openEntry ctr).1, false)
  | .decoded now res =>
    let (dm, addr, initialized) := dm.openEntry ctr
    let cpuPct := dm.cpuPct cacheTimeMs ctr.idShort res
    match calculateMemoryUsage res dm.isWindows with
    | none => (dm, false)
    | some usedMemory =>
      let dm := dm.setCpuCurrentValues cacheTimeMs ctr.idShort res
      if cpuPct > 100 then (dm, false)
      else
        let dm := dm.setCounters cacheTimeMs ctr.idShort res
        let rates := dm.networkRates cacheTimeMs ctr.idShort initialized
          (dm.heap addr).prevReadTime now
        let dm := dm.storeValues addr cpuPct usedMemory rates res
        ({ dm with
          lastCpuReadTime := Function.update dm.lastCpuReadTime cacheTimeMs
            ((dm.lastCpuReadTime cacheTimeMs).insert ctr.idShort res.read) }, true)

/-- The entry of a container is taken out of the map. -/
def deleteEntry (dm : DockerManager) (id : String) : DockerManager :=
  { dm with containerStatsMap := dm.containerStatsMap.erase id }

/-- `deleteContainerStatsSync`. -/
def deleteContainerStatsSync (dm : DockerManager) (id : String) : DockerManager :=
  { dm.deleteEntry id with
    lastCpuContainer := fun ct => (dm.lastCpuContainer ct).erase id
    lastCpuSystem := fun ct => (dm.lastCpuSystem ct).erase id
    lastCpuReadTime := fun ct => (dm.lastCpuReadTime ct).erase id }

/-- The entries that are not valid are taken out of the map, the others are returned. -/
def prune (dm : DockerManager) (validIds : List String) : DockerManager × List (String × ℕ) :=
  let containerStatsMap := retain (fun id _ => id ∈ validIds) dm.containerStatsMap
  ({ dm with containerStatsMap }, containerStatsMap.entries.map fun e => (e.1, e.2))

/-- `cycleNetworkDeltasForCacheTime`. -/
def cycleNetworkDeltasForCacheTime (dm : DockerManager) (cacheTimeMs : UInt16) : DockerManager :=
  { dm with
    networkSentTrackers := Function.update dm.networkSentTrackers cacheTimeMs
      (dm.networkSentTrackers cacheTimeMs).cycle
    networkRecvTrackers := Function.update dm.networkRecvTrackers cacheTimeMs
      (dm.networkRecvTrackers cacheTimeMs).cycle }

end DockerManager

/-! ## Polls -/

/-- A poll that is under way: the containers that the loop has not come to, those whose goroutine
runs, those whose attempt failed and whose entry is still to be deleted, and those to retry. -/
structure Poll where
  key : UInt16
  toVisit : List ApiInfo
  running : List ApiInfo
  failing : List ApiInfo
  failed : List ApiInfo
  retrying : Bool
  validIds : List String

/-- The goroutines are waited for. -/
def Poll.waited (p : Poll) : Prop := p.toVisit = [] ∧ p.running = [] ∧ p.failing = []

instance (p : Poll) : Decidable p.waited :=
  inferInstanceAs (Decidable (p.toVisit = [] ∧ p.running = [] ∧ p.failing = []))

/-- What an update wrote: by which poll of which key (the polls of a key are numbered from one), the
counters and the time of the reading, the rates, and what the rates are to be if the key polled the
container before. -/
structure Written where
  key : UInt16
  poll : ℕ
  counters : UInt64 × UInt64
  read : ℤ
  bandwidth : UInt64 × UInt64
  expected : Option (ℕ × ℕ)

/-- What a poll reported for a container that it updated. -/
structure Report where
  key : UInt16
  id : String
  bandwidth : UInt64 × UInt64
  expected : Option (ℕ × ℕ)

/-- The counters and the time that the last poll of a key read from a container. -/
structure Reading where
  counters : UInt64 × UInt64
  read : ℤ

/-- The manager and the poll under way, with a record of what happened: what wrote each entry of the
map last, what the last poll of each key that updated a container read, how many polls of each key
are finished, and what they reported. -/
structure State where
  dm : DockerManager
  poll : Option Poll
  written : String → Option Written
  last : UInt16 → String → Option Reading
  polls : UInt16 → ℕ
  log : List Report

/-- Nothing was polled yet. -/
def State.init : State := ⟨.new, none, fun _ => none, fun _ _ => none, fun _ => 0, []⟩

/-- What can happen in a poll.  The goroutines run in any order. -/
inductive Event
  | begin (key : UInt16) (isWindows : Bool) (containers : List ApiInfo)
  | visit
  | update (ctr : ApiInfo) (attempt : Attempt)
  | drop (ctr : ApiInfo)
  | retry
  | finish

/-- Whole milliseconds since a reading. -/
def elapsedMs (g : Reading) (now : ℤ) : ℕ := (now - g.read).toNat / 1000000

/-- **The rates since a reading**: the bytes since then, over the time since then, per second. -/
def ratesSince (g : Reading) (now : ℤ) (res : ApiStats) : ℕ × ℕ :=
  (((totals res.networks).1 - g.counters.1).toNat * 1000 / elapsedMs g now,
    ((totals res.networks).2 - g.counters.2).toNat * 1000 / elapsedMs g now)

/-- The record of an update that succeeded. -/
def State.write (s : State) (key : UInt16) (id : String) (dm : DockerManager) :
    Attempt → Option Written
  | .decoded now res => some
    { key := key
      poll := s.polls key + 1
      counters := totals res.networks
      read := res.read
      bandwidth := (((dm.containerStatsMap.lookup id).map dm.heap).map (·.bandwidth)).getD (0, 0)
      expected := (s.last key id).map (ratesSince · now res) }
  | _ => none

/-- Whether the poll that is under way wrote the entry. -/
def State.writtenBy (s : State) (key : UInt16) (id : String) : Option Written :=
  (s.written id).filter fun w => w.key = key ∧ w.poll = s.polls key + 1

section Step

variable (excluded : String → Bool)

/-- The loop comes to a container: one that is excluded is passed over, one that was started less
than a minute ago is forgotten. -/
def visitContainer (s : State) (p : Poll) (ctr : ApiInfo) (rest : List ApiInfo) : State :=
  if excluded ctr.name then { s with poll := some { p with toVisit := rest } }
  else
    let p' := { p with
      toVisit := rest
      running := ctr :: p.running
      validIds := ctr.idShort :: p.validIds }
    if "second".toList <:+: ctr.status.toList then
      { s with
        dm := s.dm.deleteContainerStatsSync ctr.idShort
        poll := some p'
        written := Function.update s.written ctr.idShort none }
    else { s with poll := some p' }

/-- The goroutine of a container makes its attempt.  A first one that fails goes on to delete the
entry. -/
def updateContainer (s : State) (p : Poll) (ctr : ApiInfo) (attempt : Attempt) : State :=
  let (dm, ok) := s.dm.updateContainerStats ctr p.key attempt
  { s with
    dm := dm
    poll := some { p with
      running := p.running.erase ctr
      failing := if ok ∨ p.retrying then p.failing else ctr :: p.failing }
    written := Function.update s.written ctr.idShort <|
      if ok then s.write p.key ctr.idShort dm attempt
      else if attempt = .requestFailed then s.written ctr.idShort
      else none }

/-- The entry of a container that failed is deleted, and the container is to be retried. -/
def dropContainer (s : State) (p : Poll) (ctr : ApiInfo) : State :=
  { s with
    dm := s.dm.deleteEntry ctr.idShort
    poll := some { p with failing := p.failing.erase ctr, failed := ctr :: p.failed }
    written := Function.update s.written ctr.idShort none }

/-- The poll ends: entries that are not valid are dropped, the others are returned, and the trackers
of the key are cycled. -/
def finishPoll (s : State) (p : Poll) : State :=
  let (dm, stats) := s.dm.prune p.validIds
  { dm := dm.cycleNetworkDeltasForCacheTime p.key
    poll := none
    written := fun id => if id ∈ p.validIds then s.written id else none
    last := Function.update s.last p.key fun id =>
      ((s.writtenBy p.key id).map fun w => ⟨w.counters, w.read⟩).or (s.last p.key id)
    polls := Function.update s.polls p.key (s.polls p.key + 1)
    log := (stats.filterMap fun e => (s.writtenBy p.key e.1).map fun w =>
      ⟨p.key, e.1, (dm.heap e.2).bandwidth, w.expected⟩) ++ s.log }

/-- **One step.** -/
def step (s : State) : Event → Option State
  | .begin key isWindows containers =>
    if s.poll.isNone then
      some { s with
        dm := { s.dm with isWindows := isWindows }
        poll := some ⟨key, containers, [], [], [], false, []⟩ }
    else none
  | .visit =>
    match s.poll with
    | some p =>
      match p.toVisit with
      | ctr :: rest => some (visitContainer excluded s p ctr rest)
      | [] => none
    | none => none
  | .update ctr attempt =>
    match s.poll with
    | some p => if ctr ∈ p.running then some (updateContainer s p ctr attempt) else none
    | none => none
  | .drop ctr =>
    match s.poll with
    | some p => if ctr ∈ p.failing then some (dropContainer s p ctr) else none
    | none => none
  | .retry =>
    match s.poll with
    | some p =>
      if p.waited ∧ p.failed ≠ [] then
        some { s with poll := some { p with running := p.failed, failed := [], retrying := true } }
      else none
    | none => none
  | .finish =>
    match s.poll with
    | some p => if p.waited ∧ p.failed = [] then some (finishPoll s p) else none
    | none => none

/-- **What a step can be.** -/
inductive Move (s : State) : Event → State → Prop
  | begin {key : UInt16} {isWindows : Bool} {containers : List ApiInfo} (idle : s.poll = none) :
    Move s (.begin key isWindows containers)
      { s with
        dm := { s.dm with isWindows := isWindows }
        poll := some ⟨key, containers, [], [], [], false, []⟩ }
  | visit {p : Poll} {ctr : ApiInfo} {rest : List ApiInfo} (poll : s.poll = some p) :
    Move s .visit (visitContainer excluded s p ctr rest)
  | update {p : Poll} {ctr : ApiInfo} {attempt : Attempt} (poll : s.poll = some p) :
    Move s (.update ctr attempt) (updateContainer s p ctr attempt)
  | drop {p : Poll} {ctr : ApiInfo} (poll : s.poll = some p) :
    Move s (.drop ctr) (dropContainer s p ctr)
  | retry {p : Poll} (poll : s.poll = some p) :
    Move s .retry
      { s with poll := some { p with running := p.failed, failed := [], retrying := true } }
  | finish {p : Poll} (poll : s.poll = some p) : Move s .finish (finishPoll s p)

theorem step_move {s s' : State} {e : Event} (hs : step excluded s e = some s') :
    Move excluded s e s' := by
  cases hp : s.poll with
  | none =>
    match e with
    | .begin _ _ _ =>
      obtain ⟨-, rfl⟩ := guard_eq_some hs
      exact .begin hp
    | .visit | .update _ _ | .drop _ | .retry | .finish =>
      simp only [step, hp] at hs
      cases hs
  | some p =>
    match e with
    | .begin _ _ _ =>
      obtain ⟨hidle, -⟩ := guard_eq_some hs
      rw [hp] at hidle
      cases hidle
    | .visit =>
      simp only [step, hp] at hs
      split at hs
      · cases hs
        exact .visit hp
      · cases hs
    | .update _ _ =>
      simp only [step, hp] at hs
      obtain ⟨-, rfl⟩ := guard_eq_some hs
      exact .update hp
    | .drop _ =>
      simp only [step, hp] at hs
      obtain ⟨-, rfl⟩ := guard_eq_some hs
      exact .drop hp
    | .retry =>
      simp only [step, hp] at hs
      obtain ⟨-, rfl⟩ := guard_eq_some hs
      exact .retry hp
    | .finish =>
      simp only [step, hp] at hs
      obtain ⟨-, rfl⟩ := guard_eq_some hs
      exact .finish hp

end Step

/-! ## What an attempt does -/

namespace DockerManager

/-- The address of a container's entry, the next one if it has none. -/
def addrOf (dm : DockerManager) (id : String) : ℕ := (dm.containerStatsMap.lookup id).getD dm.next

/-- Whether an attempt succeeds. -/
def Accepts (dm : DockerManager) (cacheTimeMs : UInt16) (id : String) : Attempt → Prop
  | .decoded _ res =>
    (calculateMemoryUsage res dm.isWindows).isSome ∧ dm.cpuPct cacheTimeMs id res ≤ 100
  | _ => False

instance (dm : DockerManager) (cacheTimeMs : UInt16) (id : String) :
    DecidablePred (dm.Accepts cacheTimeMs id)
  | .requestFailed => .isFalse not_false
  | .decodeFailed => .isFalse not_false
  | .decoded _ _ => instDecidableAnd

/-- **The entry of a container is opened**: nothing else is touched. -/
structure Opens (dm : DockerManager) (id : String) (dm' : DockerManager) : Prop where
  map : dm'.containerStatsMap = dm.containerStatsMap.insert id (dm.addrOf id)
  next : dm'.next = if (dm.containerStatsMap.lookup id).isSome then dm.next else dm.next + 1
  heap : ∀ a, a ≠ dm.addrOf id → dm'.heap a = dm.heap a

/-- The trackers are as they were. -/
structure SameTrackers (dm dm' : DockerManager) : Prop where
  sent : dm'.networkSentTrackers = dm.networkSentTrackers
  recv : dm'.networkRecvTrackers = dm.networkRecvTrackers

/-- **What an attempt can do**: nothing, open the entry, or update it. -/
inductive Outcome (dm : DockerManager) (id : String) (cacheTimeMs : UInt16) :
    Attempt → DockerManager × Bool → Prop
  | unopened : Outcome dm id cacheTimeMs .requestFailed (dm, false)
  | rejected {attempt : Attempt} {dm' : DockerManager} (opens : dm.Opens id dm')
    (trackers : dm.SameTrackers dm') (request : attempt ≠ .requestFailed)
    (rejects : ¬ dm.Accepts cacheTimeMs id attempt) :
    Outcome dm id cacheTimeMs attempt (dm', false)
  | updated {now : ℤ} {res : ApiStats} {dm' : DockerManager} (opens : dm.Opens id dm')
    (trackers : (dm.setCounters cacheTimeMs id res).SameTrackers dm')
    (read : (dm'.heap (dm.addrOf id)).prevReadTime = some res.read)
    (bandwidth : (dm'.heap (dm.addrOf id)).bandwidth =
      (dm.setCounters cacheTimeMs id res).networkRates cacheTimeMs id
        (dm.containerStatsMap.lookup id).isSome
        ((dm.containerStatsMap.lookup id).bind fun a => (dm.heap a).prevReadTime) now)
    (accepts : dm.Accepts cacheTimeMs id (.decoded now res)) :
    Outcome dm id cacheTimeMs (.decoded now res) (dm', true)

theorem openEntry_opens (dm : DockerManager) (ctr : ApiInfo) :
    dm.Opens ctr.idShort (dm.openEntry ctr).1 where
  map := rfl
  next := rfl
  heap _ ha := Function.update_of_ne ha _ _

/-- The time of the last reading is the one field that opening an entry keeps. -/
theorem openEntry_prevReadTime (dm : DockerManager) (ctr : ApiInfo) :
    ((dm.openEntry ctr).1.heap (dm.addrOf ctr.idShort)).prevReadTime =
      (dm.containerStatsMap.lookup ctr.idShort).bind fun a => (dm.heap a).prevReadTime := by
  have heq : ((dm.openEntry ctr).1.heap (dm.addrOf ctr.idShort)).prevReadTime =
      (((dm.containerStatsMap.lookup ctr.idShort).map dm.heap).getD (.new ctr)).prevReadTime := by
    unfold openEntry addrOf
    dsimp only
    rw [Function.update_self]
  rw [heq]
  cases dm.containerStatsMap.lookup ctr.idShort <;> rfl

/-- **`updateContainerStats` in one case split.** -/
theorem updateContainerStats_outcome (dm : DockerManager) (ctr : ApiInfo) (cacheTimeMs : UInt16)
    (attempt : Attempt) :
    dm.Outcome ctr.idShort cacheTimeMs attempt
      (dm.updateContainerStats ctr cacheTimeMs attempt) := by
  have hopens := dm.openEntry_opens ctr
  match attempt with
  | .requestFailed => exact .unopened
  | .decodeFailed => exact .rejected hopens ⟨rfl, rfl⟩ (by simp) id
  | .decoded now res =>
    rw [updateContainerStats]
    dsimp only
    split
    case h_1 hmem =>
      refine .rejected hopens ⟨rfl, rfl⟩ (by simp) fun h => ?_
      have hsome : (calculateMemoryUsage res dm.isWindows).isSome = true := h.1
      rw [show calculateMemoryUsage res dm.isWindows = none from hmem] at hsome
      cases hsome
    case h_2 usedMemory hmem =>
      split_ifs with hcpu
      · exact .rejected ⟨hopens.map, hopens.next, hopens.heap⟩ ⟨rfl, rfl⟩ (by simp)
          fun h => absurd h.2 (not_le.mpr hcpu)
      · refine .updated ⟨hopens.map, hopens.next, fun a ha => ?_⟩ ⟨rfl, rfl⟩ ?_ ?_ ⟨?_, ?_⟩
        · exact (Function.update_of_ne ha _ _).trans (hopens.heap a ha)
        · refine (congrArg Stats.prevReadTime (Function.update_self _ _ _)).trans ?_
          rfl
        · refine (congrArg Stats.bandwidth (Function.update_self _ _ _)).trans ?_
          rw [← openEntry_prevReadTime]
          rfl
        · exact Option.isSome_of_eq_some hmem
        · exact not_lt.mp hcpu

/-! ## Entries of their own -/

/-- **Each container has an entry of its own.** -/
structure Separate (dm : DockerManager) : Prop where
  lt : ∀ id, ∀ a ∈ dm.containerStatsMap.lookup id, a < dm.next
  inj : ∀ id id', ∀ a ∈ dm.containerStatsMap.lookup id,
    a ∈ dm.containerStatsMap.lookup id' → id = id'

/-- The entry that an attempt opens is no other container's. -/
theorem Separate.ne_addrOf {dm : DockerManager} (hsep : dm.Separate) {id id' : String} {a : ℕ}
    (hne : id' ≠ id) (ha : a ∈ dm.containerStatsMap.lookup id') : a ≠ dm.addrOf id := by
  rintro rfl
  unfold addrOf at ha
  cases hl : dm.containerStatsMap.lookup id with
  | none =>
    rw [hl] at ha
    exact absurd (hsep.lt id' _ ha) (lt_irrefl _)
  | some a =>
    rw [hl] at ha
    exact hne (hsep.inj id' id a ha hl)

theorem Opens.lookup_self {dm dm' : DockerManager} {id : String} (h : dm.Opens id dm') :
    dm'.containerStatsMap.lookup id = some (dm.addrOf id) := by
  rw [h.map]
  exact AList.lookup_insert _

theorem Opens.lookup_of_ne {dm dm' : DockerManager} {id id' : String} (h : dm.Opens id dm')
    (hne : id' ≠ id) : dm'.containerStatsMap.lookup id' = dm.containerStatsMap.lookup id' := by
  rw [h.map]
  exact AList.lookup_insert_ne hne

theorem Opens.separate {dm dm' : DockerManager} {id : String} (h : dm.Opens id dm')
    (hsep : dm.Separate) : dm'.Separate := by
  have hlt : dm.addrOf id < dm'.next ∧ dm.next ≤ dm'.next := by
    rw [h.next, addrOf]
    cases hl : dm.containerStatsMap.lookup id with
    | none => simp
    | some a => simpa using hsep.lt id a hl
  constructor
  · intro id' a ha
    by_cases hid : id' = id
    · subst hid
      rw [h.lookup_self] at ha
      cases ha
      exact hlt.1
    · rw [h.lookup_of_ne hid] at ha
      exact (hsep.lt id' a ha).trans_le hlt.2
  · intro id₁ id₂ a h₁ h₂
    by_cases hid₁ : id₁ = id <;> by_cases hid₂ : id₂ = id
    · exact hid₁.trans hid₂.symm
    · subst hid₁
      rw [h.lookup_self] at h₁
      rw [h.lookup_of_ne hid₂] at h₂
      cases h₁
      exact absurd rfl (hsep.ne_addrOf hid₂ h₂)
    · subst hid₂
      rw [h.lookup_self] at h₂
      rw [h.lookup_of_ne hid₁] at h₁
      cases h₂
      exact absurd rfl (hsep.ne_addrOf hid₁ h₁)
    · rw [h.lookup_of_ne hid₁] at h₁
      rw [h.lookup_of_ne hid₂] at h₂
      exact hsep.inj id₁ id₂ a h₁ h₂

/-- Entries that are only taken out stay apart. -/
theorem Separate.of_subset {dm dm' : DockerManager} (hsep : dm.Separate)
    (hnext : dm'.next = dm.next)
    (hmap : ∀ id, ∀ a ∈ dm'.containerStatsMap.lookup id, a ∈ dm.containerStatsMap.lookup id) :
    dm'.Separate where
  lt id a ha := hnext ▸ hsep.lt id a (hmap id a ha)
  inj id id' a ha ha' := hsep.inj id id' a (hmap id a ha) (hmap id' a ha')

theorem deleteEntry_lookup_of_ne {dm : DockerManager} {id id' : String} (hne : id' ≠ id) :
    (dm.deleteEntry id).containerStatsMap.lookup id' = dm.containerStatsMap.lookup id' :=
  AList.lookup_erase_ne hne

theorem deleteEntry_lookup_self (dm : DockerManager) (id : String) :
    (dm.deleteEntry id).containerStatsMap.lookup id = none :=
  AList.lookup_erase _ _

theorem Separate.deleteEntry {dm : DockerManager} (hsep : dm.Separate) (id : String) :
    (dm.deleteEntry id).Separate := by
  refine hsep.of_subset rfl fun id' a ha => ?_
  by_cases hid : id' = id
  · subst hid
    rw [deleteEntry_lookup_self] at ha
    cases ha
  · rwa [deleteEntry_lookup_of_ne hid] at ha

/-- **`prune` keeps the valid entries.** -/
theorem prune_lookup (dm : DockerManager) (validIds : List String) (id : String) :
    (dm.prune validIds).1.containerStatsMap.lookup id =
      if id ∈ validIds then dm.containerStatsMap.lookup id else none := by
  refine (lookup_retain _ dm.containerStatsMap id).trans ?_
  cases dm.containerStatsMap.lookup id with
  | none => simp
  | some a => simp [Option.filter]

/-- What is returned are the entries of the map. -/
theorem mem_prune {dm : DockerManager} {validIds : List String} {id : String} {a : ℕ}
    (h : (id, a) ∈ (dm.prune validIds).2) :
    a ∈ (dm.prune validIds).1.containerStatsMap.lookup id := by
  obtain ⟨e, he, heq⟩ := List.mem_map.mp h
  cases heq
  exact AList.mem_lookup_iff.mpr he

/-! ## The counters -/

/-- The counters of a container that the trackers of a key were told since their last cycle. -/
def current (dm : DockerManager) (key : UInt16) (id : String) : Option UInt64 × Option UInt64 :=
  ((dm.networkSentTrackers key).current.lookup id, (dm.networkRecvTrackers key).current.lookup id)

/-- The counters that the trackers had been told before. -/
def previous (dm : DockerManager) (key : UInt16) (id : String) : Option UInt64 × Option UInt64 :=
  ((dm.networkSentTrackers key).previous.lookup id, (dm.networkRecvTrackers key).previous.lookup id)

theorem SameTrackers.current {dm dm' : DockerManager} (h : dm.SameTrackers dm') :
    dm'.current = dm.current := by
  funext key id
  rw [DockerManager.current, h.sent, h.recv, DockerManager.current]

theorem SameTrackers.previous {dm dm' : DockerManager} (h : dm.SameTrackers dm') :
    dm'.previous = dm.previous := by
  funext key id
  rw [DockerManager.previous, h.sent, h.recv, DockerManager.previous]

theorem setCounters_previous (dm : DockerManager) (key : UInt16) (id : String) (res : ApiStats) :
    (dm.setCounters key id res).previous = dm.previous := by
  funext key' id'
  by_cases hkey : key' = key
  · subst hkey
    simp [previous, setCounters, DeltaTracker.set]
  · simp [previous, setCounters, hkey]

theorem setCounters_current_self (dm : DockerManager) (key : UInt16) (id : String)
    (res : ApiStats) :
    (dm.setCounters key id res).current key id =
      (some (totals res.networks).1, some (totals res.networks).2) := by
  simp [current, setCounters, DeltaTracker.set]

theorem setCounters_current_of_ne (dm : DockerManager) (key : UInt16) {id id' : String}
    (res : ApiStats) (hne : id' ≠ id) (key' : UInt16) :
    (dm.setCounters key id res).current key' id' = dm.current key' id' := by
  by_cases hkey : key' = key
  · subst hkey
    simp [current, setCounters, DeltaTracker.set, hne]
  · simp [current, setCounters, hkey]

theorem cycle_previous_self (dm : DockerManager) (key : UInt16) (id : String) :
    (dm.cycleNetworkDeltasForCacheTime key).previous key id = dm.current key id := by
  simp [current, previous, cycleNetworkDeltasForCacheTime, DeltaTracker.cycle]

theorem cycle_previous_of_ne (dm : DockerManager) {key key' : UInt16} (hne : key' ≠ key)
    (id : String) :
    (dm.cycleNetworkDeltasForCacheTime key).previous key' id = dm.previous key' id := by
  simp [previous, cycleNetworkDeltasForCacheTime, hne]

theorem cycle_current_of_ne (dm : DockerManager) {key key' : UInt16} (hne : key' ≠ key)
    (id : String) :
    (dm.cycleNetworkDeltasForCacheTime key).current key' id = dm.current key' id := by
  simp [current, cycleNetworkDeltasForCacheTime, hne]

end DockerManager

/-! ## The rate of an undisturbed container -/

/-- A number of bytes over a time whose rate is reported: it is computed in 64 bits, and what is not
plausible counts as zero. -/
def Reported (bytes : UInt64) (ms : ℕ) : Prop :=
  bytes.toNat * 1000 < 2 ^ 64 ∧ bytes.toNat * 1000 / ms ≤ maxNetworkSpeedBps.toNat

/-- **What a key measures against its last reading**: some time has passed, and both rates are
reported. -/
structure Measurable (g : Reading) (now : ℤ) (res : ApiStats) : Prop where
  elapsed : 0 < elapsedMs g now
  duration : now - g.read ≤ maxDuration
  sent : Reported ((totals res.networks).1 - g.counters.1) (elapsedMs g now)
  recv : Reported ((totals res.networks).2 - g.counters.2) (elapsedMs g now)

instance (bytes : UInt64) (ms : ℕ) : Decidable (Reported bytes ms) := instDecidableAnd

instance (g : Reading) (now : ℤ) (res : ApiStats) : Decidable (Measurable g now res) :=
  decidable_of_iff (0 < elapsedMs g now ∧ now - g.read ≤ maxDuration ∧
      Reported ((totals res.networks).1 - g.counters.1) (elapsedMs g now) ∧
      Reported ((totals res.networks).2 - g.counters.2) (elapsedMs g now))
    ⟨fun h => ⟨h.1, h.2.1, h.2.2.1, h.2.2.2⟩, fun h => ⟨h.1, h.2, h.3, h.4⟩⟩

/-- The milliseconds since a time that is not ahead and not too long ago. -/
theorem toNat_millisecondsSince_of_le {t now : ℤ} (hle : t ≤ now) (hdur : now - t ≤ maxDuration) :
    (millisecondsSince now (some t)).toNat = (now - t).toNat / 1000000 := by
  unfold maxDuration at hdur
  have hsince : since now (some t) = now - t := by
    simp only [since, maxDuration, Option.map_some, Option.getD_some]
    omega
  have hdiv : (now - t).tdiv 1000000 = ((now - t).toNat / 1000000 : ℕ) := by
    rw [Int.tdiv_eq_ediv_of_nonneg (by omega)]
    omega
  rw [millisecondsSince, hsince, hdiv, durationBits, UInt64.toNat_ofNat']
  omega

theorem toNat_millisecondsSince {g : Reading} {now : ℤ} (hpos : 0 < elapsedMs g now)
    (hdur : now - g.read ≤ maxDuration) :
    (millisecondsSince now (some g.read)).toNat = elapsedMs g now := by
  refine toNat_millisecondsSince_of_le ?_ hdur
  unfold elapsedMs at hpos
  omega

/-- A reported rate is the plain quotient. -/
theorem toNat_rate {bytes ms : UInt64} (hpos : 0 < ms.toNat) (h : Reported bytes ms.toNat) :
    (rate bytes ms).toNat = bytes.toNat * 1000 / ms.toNat := by
  have hne : ms ≠ 0 := by
    rintro rfl
    exact absurd hpos (by decide)
  have hquot : (bytes * 1000 / ms).toNat = bytes.toNat * 1000 / ms.toNat := toNat_bytesPerSecond h.1
  have hle : ¬ bytes * 1000 / ms > maxNetworkSpeedBps := by
    rw [gt_iff_lt, UInt64.lt_iff_toNat_lt, hquot, not_lt]
    exact h.2
  rw [rate, if_neg hne]
  dsimp only
  rw [if_neg hle, hquot]

/-- The bytes since the counters that the tracker was told before. -/
theorem delta_set {t : DeltaTracker} {id : String} {c c' : UInt64}
    (h : t.previous.lookup id = some c) : delta (t.set id c') id = c' - c := by
  simp [delta, DeltaTracker.set, h]

/-- The two rates as plain numbers. -/
def plain (bandwidth : UInt64 × UInt64) : ℕ × ℕ := (bandwidth.1.toNat, bandwidth.2.toNat)

/-- **A key that finds the counters and the time of its last reading computes the rates since
then.** -/
theorem plain_networkRates {dm : DockerManager} {key : UInt16} {id : String} {g : Reading} {now : ℤ}
    {res : ApiStats} (hprev : dm.previous key id = (some g.counters.1, some g.counters.2))
    (hmeas : Measurable g now res) :
    plain ((dm.setCounters key id res).networkRates key id true (some g.read) now) =
      ratesSince g now res := by
  have hms := toNat_millisecondsSince hmeas.elapsed hmeas.duration
  have hsent : delta ((dm.setCounters key id res).networkSentTrackers key) id =
      (totals res.networks).1 - g.counters.1 := by
    simp only [DockerManager.setCounters, Function.update_self]
    exact delta_set (congrArg Prod.fst hprev)
  have hrecv : delta ((dm.setCounters key id res).networkRecvTrackers key) id =
      (totals res.networks).2 - g.counters.2 := by
    simp only [DockerManager.setCounters, Function.update_self]
    exact delta_set (congrArg Prod.snd hprev)
  have hpos : 0 < (millisecondsSince now (some g.read)).toNat := hms ▸ hmeas.elapsed
  rw [DockerManager.networkRates, if_pos rfl]
  dsimp only
  rw [hsent, hrecv, plain, toNat_rate hpos (hms ▸ hmeas.sent), toNat_rate hpos (hms ▸ hmeas.recv),
    hms, ratesSince]

/-! ## The invariant -/

/-- **What holds of a container that an update wrote**: its entry has what was written, the trackers
of the key have the counters, as current ones until the poll is finished and as previous ones until
the next poll of the key is, and the rates are what they are to be. -/
structure Faithful (s : State) (id : String) (w : Written) : Prop where
  entry : ∃ a ∈ s.dm.containerStatsMap.lookup id,
    (s.dm.heap a).prevReadTime = some w.read ∧ (s.dm.heap a).bandwidth = w.bandwidth
  bound : w.poll ≤ s.polls w.key + 1
  current : w.poll = s.polls w.key + 1 →
    s.dm.current w.key id = (some w.counters.1, some w.counters.2)
  previous : w.poll = s.polls w.key →
    s.dm.previous w.key id = (some w.counters.1, some w.counters.2) ∧
      s.last w.key id = some ⟨w.counters, w.read⟩
  rates : ∀ e ∈ w.expected, plain w.bandwidth = e

/-- **The invariant of the manager.** -/
structure Inv (s : State) : Prop where
  separate : s.dm.Separate
  faithful : ∀ id, ∀ w ∈ s.written id, Faithful s id w
  log : ∀ r ∈ s.log, ∀ e ∈ r.expected, plain r.bandwidth = e

/-- A step leaves a container alone. -/
structure Untouched (s s' : State) (id : String) : Prop where
  lookup : s'.dm.containerStatsMap.lookup id = s.dm.containerStatsMap.lookup id
  heap : ∀ a ∈ s.dm.containerStatsMap.lookup id, s'.dm.heap a = s.dm.heap a
  current : ∀ key, s'.dm.current key id = s.dm.current key id
  previous : ∀ key, s'.dm.previous key id = s.dm.previous key id
  last : s'.last = s.last
  polls : s'.polls = s.polls

theorem Faithful.of_untouched {s s' : State} {id : String} {w : Written} (h : Faithful s id w)
    (hu : Untouched s s' id) : Faithful s' id w where
  entry := by
    obtain ⟨a, ha, hread, hband⟩ := h.entry
    refine ⟨a, hu.lookup ▸ ha, ?_, ?_⟩
    · rw [hu.heap a ha, hread]
    · rw [hu.heap a ha, hband]
  bound := hu.polls ▸ h.bound
  current hw := by
    rw [hu.current]
    exact h.current (hu.polls ▸ hw)
  previous hw := by
    rw [hu.previous, hu.last]
    exact h.previous (hu.polls ▸ hw)
  rates := h.rates

theorem inv_init : Inv State.init where
  separate := ⟨fun _ _ ha => absurd ha (by simp [State.init, DockerManager.new]),
    fun _ _ _ ha => absurd ha (by simp [State.init, DockerManager.new])⟩
  faithful _ _ hw := absurd hw (by simp [State.init])
  log _ hr := absurd hr (by simp [State.init])

/-- **A container is polled undisturbed**: where an update succeeds for a key that has read the
container before, the last thing that happened to its entry was the update by the last poll of that
key, and the rates since then are reported. -/
def Undisturbed (s : State) : Event → Prop
  | .update ctr (.decoded now res) => ∀ p ∈ s.poll,
      s.dm.Accepts p.key ctr.idShort (.decoded now res) → ∀ g ∈ s.last p.key ctr.idShort,
        (∃ w ∈ s.written ctr.idShort, w.key = p.key ∧ w.poll = s.polls p.key) ∧ Measurable g now res
  | _ => True

instance (s : State) : DecidablePred (Undisturbed s)
  | .begin _ _ _ => .isTrue trivial
  | .visit => .isTrue trivial
  | .update _ .requestFailed => .isTrue trivial
  | .update _ .decodeFailed => .isTrue trivial
  | .update ctr (.decoded now res) => inferInstanceAs <| Decidable <| ∀ p ∈ s.poll,
      s.dm.Accepts p.key ctr.idShort (.decoded now res) → ∀ g ∈ s.last p.key ctr.idShort,
        (∃ w ∈ s.written ctr.idShort, w.key = p.key ∧ w.poll = s.polls p.key) ∧ Measurable g now res
  | .drop _ => .isTrue trivial
  | .retry => .isTrue trivial
  | .finish => .isTrue trivial

/-- A step that touches one container at most, and forgets or keeps what was written. -/
theorem Inv.of_touched {s s' : State} (id : String) (h : Inv s) (hsep : s'.dm.Separate)
    (hlog : s'.log = s.log) (hu : ∀ id', id' ≠ id → Untouched s s' id')
    (hwritten : ∀ id', id' ≠ id → s'.written id' = s.written id')
    (hid : ∀ w ∈ s'.written id, Faithful s' id w) : Inv s' where
  separate := hsep
  faithful id' w hw := by
    by_cases hne : id' = id
    · subst hne
      exact hid w hw
    · exact (h.faithful id' w (hwritten id' hne ▸ hw)).of_untouched (hu id' hne)
  log := hlog ▸ h.log

/-- A step that touches no container. -/
theorem Inv.of_untouched {s s' : State} (h : Inv s) (hsep : s'.dm.Separate) (hlog : s'.log = s.log)
    (hu : ∀ id, Untouched s s' id) (hwritten : s'.written = s.written) : Inv s' where
  separate := hsep
  faithful id w hw := (h.faithful id w (hwritten ▸ hw)).of_untouched (hu id)
  log := hlog ▸ h.log

/-- A step that only takes out the entry of a container, and forgets what was written there. -/
theorem Inv.of_deleted {s s' : State} {id : String} (h : Inv s) (hnext : s'.dm.next = s.dm.next)
    (hmap : s'.dm.containerStatsMap = s.dm.containerStatsMap.erase id)
    (hheap : s'.dm.heap = s.dm.heap) (htrackers : s.dm.SameTrackers s'.dm)
    (hlast : s'.last = s.last) (hpolls : s'.polls = s.polls) (hlog : s'.log = s.log)
    (hwritten : s'.written = Function.update s.written id none) : Inv s' := by
  have hsep : s'.dm.Separate := (h.separate.deleteEntry id).of_subset hnext fun id' a ha => by
    rwa [hmap] at ha
  refine h.of_touched id hsep hlog (fun id' hne => ?_) (fun id' hne => ?_) fun w hw => ?_
  · exact ⟨by rw [hmap, AList.lookup_erase_ne hne], fun a _ => by rw [hheap],
      fun key => by rw [htrackers.current], fun key => by rw [htrackers.previous], hlast, hpolls⟩
  · rw [hwritten, Function.update_of_ne hne]
  · rw [hwritten, Function.update_self] at hw
    cases hw

section Step

variable {excluded : String → Bool}

theorem Inv.visit {s : State} {p : Poll} {ctr : ApiInfo} {rest : List ApiInfo} (h : Inv s) :
    Inv (visitContainer excluded s p ctr rest) := by
  unfold visitContainer
  dsimp only
  split_ifs
  · exact h.of_untouched h.separate rfl (fun _ => ⟨rfl, fun _ _ => rfl, fun _ => rfl, fun _ => rfl,
      rfl, rfl⟩) rfl
  · exact h.of_deleted rfl rfl rfl ⟨rfl, rfl⟩ rfl rfl rfl rfl
  · exact h.of_untouched h.separate rfl (fun _ => ⟨rfl, fun _ _ => rfl, fun _ => rfl, fun _ => rfl,
      rfl, rfl⟩) rfl

/-- Opening an entry leaves the other containers alone. -/
theorem Inv.untouched_of_opens {s s' : State} {id id' : String} (h : Inv s)
    (hopens : s.dm.Opens id s'.dm) (hcurrent : ∀ key, s'.dm.current key id' = s.dm.current key id')
    (hprevious : s'.dm.previous = s.dm.previous) (hlast : s'.last = s.last)
    (hpolls : s'.polls = s.polls) (hne : id' ≠ id) : Untouched s s' id' where
  lookup := hopens.lookup_of_ne hne
  heap a ha := hopens.heap a (h.separate.ne_addrOf hne ha)
  current := hcurrent
  previous key := by rw [hprevious]
  last := hlast
  polls := hpolls

/-- **The rates of an undisturbed container.** -/
theorem Inv.rates_of_undisturbed {s : State} {key : UInt16} {id : String} {g : Reading} {now : ℤ}
    {res : ApiStats} (h : Inv s) (hg : s.last key id = some g) (hmeas : Measurable g now res)
    (hw : ∃ w ∈ s.written id, w.key = key ∧ w.poll = s.polls key) :
    plain ((s.dm.setCounters key id res).networkRates key id
      (s.dm.containerStatsMap.lookup id).isSome
      ((s.dm.containerStatsMap.lookup id).bind fun a => (s.dm.heap a).prevReadTime) now) =
      ratesSince g now res := by
  obtain ⟨w, hw, rfl, hpoll⟩ := hw
  have hf := h.faithful id w hw
  obtain ⟨a, ha, hread, -⟩ := hf.entry
  obtain ⟨hprev, hlast⟩ := hf.previous hpoll
  obtain rfl : g = ⟨w.counters, w.read⟩ := Option.some.inj (hg.symm.trans hlast)
  rw [Option.mem_def.mp ha, Option.isSome_some, Option.bind_some, hread]
  exact plain_networkRates (g := ⟨w.counters, w.read⟩) hprev hmeas

theorem Inv.update {s : State} {p : Poll} {ctr : ApiInfo} {attempt : Attempt} (h : Inv s)
    (hp : s.poll = some p) (hok : Undisturbed s (.update ctr attempt)) :
    Inv (updateContainer s p ctr attempt) := by
  have hout := s.dm.updateContainerStats_outcome ctr p.key attempt
  unfold updateContainer
  generalize hr : s.dm.updateContainerStats ctr p.key attempt = r at hout ⊢
  cases hout with
  | unopened =>
    refine h.of_untouched h.separate rfl (fun _ => ⟨rfl, fun _ _ => rfl, fun _ => rfl, fun _ => rfl,
      rfl, rfl⟩) ?_
    exact Function.update_eq_self _ _
  | @rejected _ dm' opens trackers request _ =>
    refine h.of_touched ctr.idShort (opens.separate h.separate) rfl (fun id' hne => ?_)
      (fun id' hne => ?_) fun w hw => ?_
    · exact h.untouched_of_opens opens (fun key => congrFun (congrFun trackers.current key) id')
        trackers.previous rfl rfl hne
    · exact Function.update_of_ne hne _ _
    · dsimp only at hw
      rw [Function.update_self, if_neg (by simp), if_neg request] at hw
      cases hw
  | @updated now res dm' opens trackers read bandwidth accepts =>
    refine h.of_touched ctr.idShort (opens.separate h.separate) rfl (fun id' hne => ?_)
      (fun id' hne => ?_) fun w hw => ?_
    · refine h.untouched_of_opens opens (fun key => ?_) ?_ rfl rfl hne
      · exact (congrFun (congrFun trackers.current key) id').trans
          (s.dm.setCounters_current_of_ne p.key res hne key)
      · exact trackers.previous.trans (s.dm.setCounters_previous p.key ctr.idShort res)
    · exact Function.update_of_ne hne _ _
    · dsimp only at hw
      rw [Function.update_self, if_pos rfl] at hw
      cases hw
      have hband : (dm'.containerStatsMap.lookup ctr.idShort).map dm'.heap =
          some (dm'.heap (s.dm.addrOf ctr.idShort)) := by
        rw [opens.lookup_self, Option.map_some]
      refine ⟨⟨_, opens.lookup_self, read, ?_⟩, le_rfl, fun _ => ?_, fun hpoll => ?_,
        fun e he => ?_⟩
      · dsimp only
        rw [hband]
        rfl
      · refine (congrFun (congrFun trackers.current p.key) ctr.idShort).trans ?_
        exact s.dm.setCounters_current_self p.key ctr.idShort res
      · exact absurd hpoll (Nat.succ_ne_self _)
      · obtain ⟨g, hg, rfl⟩ := Option.map_eq_some_iff.mp he
        obtain ⟨hw, hmeas⟩ := hok p hp accepts g hg
        dsimp only
        rw [hband, Option.map_some, Option.getD_some, bandwidth]
        exact h.rates_of_undisturbed hg hmeas hw

theorem Inv.finish_faithful {s : State} {p : Poll} {id : String} {w : Written}
    (hf : Faithful s id w) (hw : w ∈ s.written id) (hid : id ∈ p.validIds) :
    Faithful (finishPoll s p) id w := by
  have hcurrent : (s.dm.prune p.validIds).1.current w.key id = s.dm.current w.key id := rfl
  have hprevious : (s.dm.prune p.validIds).1.previous w.key id = s.dm.previous w.key id := rfl
  refine ⟨?_, ?_, fun hpoll => ?_, fun hpoll => ?_, hf.rates⟩
  · obtain ⟨a, ha, hread, hband⟩ := hf.entry
    exact ⟨a, (s.dm.prune_lookup p.validIds id).trans ((if_pos hid).trans ha), hread, hband⟩
  · refine hf.bound.trans (Nat.succ_le_succ ?_)
    by_cases hkey : w.key = p.key
    · simp [finishPoll, hkey]
    · simp [finishPoll, hkey]
  -- a record of this poll has become one of an earlier poll
  · by_cases hkey : w.key = p.key
    · have hbound := hf.bound
      simp only [finishPoll, hkey, Function.update_self] at hpoll hbound
      omega
    · simp only [finishPoll, Function.update_of_ne hkey] at hpoll
      refine (DockerManager.cycle_current_of_ne _ hkey id).trans ?_
      exact hcurrent.trans (hf.current hpoll)
  -- what was current is previous now, and the last reading of the key is that of this poll
  · by_cases hkey : w.key = p.key
    · have hnow : w.poll = s.polls w.key + 1 := by
        simpa only [finishPoll, hkey, Function.update_self] using hpoll
      constructor
      · rw [hkey]
        refine (DockerManager.cycle_previous_self _ p.key id).trans ?_
        rw [← hkey]
        exact hcurrent.trans (hf.current hnow)
      · have hby : s.writtenBy p.key id = some w := by
          rw [State.writtenBy, Option.mem_def.mp hw]
          exact Option.filter_some_pos (by simp [← hkey, hnow])
        simp only [finishPoll, hkey, Function.update_self, hby, Option.map_some, Option.some_or]
    · simp only [finishPoll, Function.update_of_ne hkey] at hpoll ⊢
      obtain ⟨hprev, hlast⟩ := hf.previous hpoll
      refine ⟨?_, hlast⟩
      exact (DockerManager.cycle_previous_of_ne _ hkey id).trans (hprevious.trans hprev)

theorem Inv.finish {s : State} {p : Poll} (h : Inv s) : Inv (finishPoll s p) where
  separate := by
    refine h.separate.of_subset rfl fun id a ha => ?_
    have hlookup : a ∈ (s.dm.prune p.validIds).1.containerStatsMap.lookup id := ha
    rw [s.dm.prune_lookup] at hlookup
    split_ifs at hlookup with hid
    · exact hlookup
    · cases hlookup
  faithful id w hw := by
    have hw' : w ∈ if id ∈ p.validIds then s.written id else none := hw
    split_ifs at hw' with hid
    · exact Inv.finish_faithful (h.faithful id w hw') hw' hid
    · cases hw'
  log r hr e he := by
    obtain hr | hr := List.mem_append.mp hr
    · obtain ⟨⟨id, a⟩, hmem, hr⟩ := List.mem_filterMap.mp hr
      obtain ⟨w, hw, rfl⟩ := Option.map_eq_some_iff.mp hr
      have hf := h.faithful id w (Option.filter_eq_some_iff.mp hw).1
      obtain ⟨a', ha', -, hband⟩ := hf.entry
      have ha := DockerManager.mem_prune hmem
      rw [s.dm.prune_lookup] at ha
      split_ifs at ha with hid
      · obtain rfl : a = a' := Option.some.inj (ha.symm.trans ha')
        exact (congrArg plain hband).trans (hf.rates e he)
      · cases ha
    · exact h.log r hr e he

/-- **One step keeps the invariant.** -/
theorem Inv.step {s s' : State} {e : Event} (h : Inv s) (hok : Undisturbed s e)
    (hs : step excluded s e = some s') : Inv s' := by
  cases step_move excluded hs with
  | begin =>
    exact h.of_untouched ⟨h.separate.lt, h.separate.inj⟩ rfl (fun _ => ⟨rfl, fun _ _ => rfl,
      fun _ => rfl, fun _ => rfl, rfl, rfl⟩) rfl
  | visit => exact h.visit
  | update hp => exact h.update hp hok
  | drop => exact h.of_deleted rfl rfl rfl ⟨rfl, rfl⟩ rfl rfl rfl rfl
  | retry =>
    exact h.of_untouched h.separate rfl (fun _ => ⟨rfl, fun _ _ => rfl, fun _ => rfl, fun _ => rfl,
      rfl, rfl⟩) rfl
  | finish => exact h.finish

/-- **Where containers are polled undisturbed, a key's rates are those since its last poll**: the
bytes since then over the time since then, whatever other keys poll. -/
theorem rates_since_last_poll {s : State} {events : List Event}
    (hr : run (step excluded) State.init events = some s)
    (hok : Along (step excluded) Undisturbed State.init events) :
    ∀ r ∈ s.log, ∀ e ∈ r.expected, plain r.bandwidth = e :=
  (inv_of_along (fun h hok hs => h.step hok hs) inv_init hok hr).log

end Step

/-! ## What a step writes -/

/-- The address of the entry that a step writes. -/
def writes (s : State) : Event → Option ℕ
  | .update _ .requestFailed => none
  | .update ctr _ => some (s.dm.addrOf ctr.idShort)
  | _ => none

theorem DockerManager.updateContainerStats_heap (dm : DockerManager) (ctr : ApiInfo) (key : UInt16)
    (attempt : Attempt) {a : ℕ} (ha : attempt ≠ .requestFailed → a ≠ dm.addrOf ctr.idShort) :
    (dm.updateContainerStats ctr key attempt).1.heap a = dm.heap a := by
  have hout := dm.updateContainerStats_outcome ctr key attempt
  generalize dm.updateContainerStats ctr key attempt = r at hout ⊢
  cases hout with
  | unopened => rfl
  | rejected opens _ request _ => exact opens.heap a (ha request)
  | updated opens _ _ _ _ => exact opens.heap a (ha (by simp))

/-- **A step writes no other entry.** -/
theorem step_heap {excluded : String → Bool} {s s' : State} {e : Event}
    (hs : step excluded s e = some s') {a : ℕ} (ha : writes s e ≠ some a) :
    s'.dm.heap a = s.dm.heap a := by
  cases step_move excluded hs with
  | begin => rfl
  | visit =>
    unfold visitContainer
    dsimp only
    split_ifs <;> rfl
  | @update p ctr attempt =>
    refine s.dm.updateContainerStats_heap ctr p.key attempt fun hrequest heq => ha ?_
    subst heq
    cases attempt with
    | requestFailed => exact absurd rfl hrequest
    | decodeFailed => rfl
    | decoded => rfl
  | drop => rfl
  | retry => rfl
  | finish => rfl

/-! ## Two polls and three -/

/-- A poll of one container, which has sent a number of bytes at a time in seconds. -/
def pollOnce (key : UInt16) (seconds : ℤ) (sent : UInt64) : List Event :=
  let ctr : ApiInfo := ⟨"0123456789ab", "web", "Up 5 minutes", "nginx"⟩
  let now := seconds * 1000000000
  [.begin key false [ctr], .visit,
    .update ctr (.decoded now ⟨now, 0, [(sent, 0)], 0, 0, 1048576, 0, 0, 0⟩), .finish]

theorem rates_since_last_poll_of_one_key :
    ((run (step fun _ => false) State.init (pollOnce 60000 0 0 ++ pollOnce 60000 60 60000000)).map
        fun s => s.log.map (·.expected)) = some [some (1000000, 0), none] ∧
      ∀ s ∈ run (step fun _ => false) State.init (pollOnce 60000 0 0 ++ pollOnce 60000 60 60000000),
        ∀ r ∈ s.log, ∀ e ∈ r.expected, plain r.bandwidth = e :=
  ⟨by decide +kernel, fun _ hs => rates_since_last_poll hs (by decide +kernel)⟩

/-- A poll of the other key ten seconds before multiplies the rate by six. -/
theorem rates_changed_by_another_key :
    ¬ ∀ (events : List Event) (s : State), run (step fun _ => false) State.init events = some s →
      ∀ r ∈ s.log, ∀ e ∈ r.expected, plain r.bandwidth = e := by
  intro h
  have hlog : (run (step fun _ => false) State.init
      (pollOnce 60000 0 0 ++ pollOnce 1000 50 0 ++ pollOnce 60000 60 60000000)).map
        (fun s => (s.log.head?).map fun r => (plain r.bandwidth, r.expected)) =
      some (some ((6000000, 0), some (1000000, 0))) := by
    decide +kernel
  obtain ⟨s, hs, hlog⟩ := Option.map_eq_some_iff.mp hlog
  obtain ⟨r, hr, heq⟩ := Option.map_eq_some_iff.mp hlog
  obtain ⟨hband, hexp⟩ := Prod.mk.inj heq
  have hmatch := h _ s hs r (List.mem_of_head? hr) (1000000, 0) hexp
  rw [hband] at hmatch
  exact absurd hmatch (by decide)

end Docker

end Agent

end Beszel
