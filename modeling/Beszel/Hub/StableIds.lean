import Mathlib.Data.Set.Function
import Beszel.Agent.Smart
import Beszel.Agent.Systemd
import Beszel.Machinery.Fnv

/-!
# Hub/StableIds — records that are found by a hash

    (system, service name) ──▸ id ──▸ systemd_services
    (system, device key)   ──▸ id ──▸ smart_devices

`makeStableHashId` and `createSystemdStatsRecords` of `internal/hub/systems/system.go` and
`upsertSmartDeviceRecord` of `system_smart.go`.  The id of a record is the 32-bit FNV-1a hash of the
two texts, one after the other; a record that is there under the id is written over, with its system
and its name.  `keeps_iff` says for which pairs no record is written over by another's.
-/

namespace Beszel

open Machinery

namespace StableIds

/-! ## Ids -/

/-- The bytes of a text. -/
def bytesOf (s : String) : List UInt8 := s.toUTF8.data.toList

/-- `makeStableHashId`. -/
def makeStableHashId (strings : List String) : String :=
  Fnv.hex (strings.foldl (fun hash str => Fnv.write hash (bytesOf str)) Fnv.offset32).toNat

/-- The record id of a system and the name of a service, or the key of a device. -/
def recordId (p : String × String) : String := makeStableHashId [p.1, p.2]

/-- The texts of a pair, one after the other. -/
def joined (p : String × String) : List UInt8 := bytesOf p.1 ++ bytesOf p.2

variable {p q : String × String}

/-- **Two pairs have one id exactly if their texts, joined, have one FNV-1a hash.** -/
theorem recordId_eq_iff :
    recordId p = recordId q ↔ Fnv.sum32 (joined p) = Fnv.sum32 (joined q) := by
  have hsum : ∀ r : String × String, recordId r = Fnv.hex (Fnv.sum32 (joined r)).toNat :=
    fun r => by rw [Fnv.sum32, joined, Fnv.write_append]; rfl
  rw [hsum, hsum]
  exact ⟨fun h => UInt32.toNat_inj.mp (Fnv.hex_inj h), fun h => by rw [h]⟩

/-- Pairs that differ in one byte have different ids. -/
theorem recordId_ne_of_byte {before after : List UInt8} {c c' : UInt8}
    (hp : joined p = before ++ c :: after) (hq : joined q = before ++ c' :: after) (hne : c ≠ c') :
    recordId p ≠ recordId q := by
  rw [Ne, recordId_eq_iff, hp, hq, Fnv.sum32, Fnv.sum32, Fnv.write_append, Fnv.write_append]
  exact fun h => hne (Fnv.mix_inj_right (Fnv.write_inj_left h))

/-! ## Services -/

/-- A record of `systemd_services`. -/
structure ServiceRow where
  id : String
  system : String
  name : String
  state : Agent.Gather.ServiceState
  sub : Agent.Gather.ServiceSubState
  cpu : Agent.Systemd.Percent
  cpuPeak : Agent.Systemd.Percent
  memory : UInt64
  memPeak : UInt64
  updated : ℤ

/-- The values that are inserted for a service. -/
def serviceRow (systemId : String) (updated : ℤ) (service : Agent.Systemd.Service) :
    ServiceRow where
  id := makeStableHashId [systemId, service.name]
  system := systemId
  name := service.name
  state := service.state
  sub := service.sub
  cpu := service.cpu
  cpuPeak := service.cpuPeak
  memory := service.mem
  memPeak := service.memPeak
  updated := updated

/-- `createSystemdStatsRecords`: on a conflict of the id, every column is written over. -/
def createSystemdStatsRecords (rows : List ServiceRow) (data : List Agent.Systemd.Service)
    (systemId : String) (updated : ℤ) : List ServiceRow :=
  data.foldl (fun rows service =>
    Table.store (·.id) rows (serviceRow systemId updated service)) rows

/-! ## Drives -/

/-- `smart.SmartAttribute`. -/
structure SmartAttribute where
  id : UInt16
  name : String
  value : UInt16
  worst : UInt16
  threshold : UInt16
  rawValue : UInt64
  rawString : String
  whenFailed : String
  deriving DecidableEq

/-- The loop of `extractPowerMetrics`. -/
def extractPowerMetrics.loop (powerOnHours powerCycles : UInt64) :
    List SmartAttribute → UInt64 × UInt64
  | [] => (powerOnHours, powerCycles)
  | attr :: attributes =>
    let nameLower := GoText.toLower attr.name
    let powerOnHours :=
      if powerOnHours = 0 && (GoText.contains nameLower "poweronhours" ||
        GoText.contains nameLower "power_on_hours") then attr.rawValue else powerOnHours
    let powerCycles :=
      if powerCycles = 0 && (GoText.contains nameLower "power" &&
        GoText.contains nameLower "cycle" || GoText.contains nameLower "startstopcycles") then
        attr.rawValue
      else powerCycles
    if powerOnHours > 0 && powerCycles > 0 then (powerOnHours, powerCycles)
    else extractPowerMetrics.loop powerOnHours powerCycles attributes

/-- `extractPowerMetrics`. -/
def extractPowerMetrics (attributes : List SmartAttribute) : UInt64 × UInt64 :=
  extractPowerMetrics.loop 0 0 attributes

/-- `smart.SmartData`. -/
structure Device extends Agent.Smart.SmartData where
  attributes : List SmartAttribute

/-- A record of `smart_devices`. -/
structure DeviceRow where
  id : String
  system : String
  name : String
  model : String
  state : String
  capacity : UInt64
  temp : UInt8
  firmware : String
  serial : String
  type : String
  hours : UInt64
  cycles : UInt64
  attributes : List SmartAttribute
  deriving DecidableEq

/-- A new record. -/
def DeviceRow.new (id : String) : DeviceRow := ⟨id, "", "", "", "", 0, 0, "", "", "", 0, 0, []⟩

/-- The record that `upsertSmartDeviceRecord` saves. -/
def deviceRecord (rows : List DeviceRow) (systemId deviceKey : String) (device : Device) :
    DeviceRow :=
  let recordID := makeStableHashId [systemId, deviceKey]
  let record := (Table.lookup (·.id) rows recordID).getD (.new recordID)
  let powerMetrics := extractPowerMetrics device.attributes
  { record with
    system := systemId
    name := if device.diskName = "" then deviceKey else device.diskName
    model := device.modelName
    state := device.smartStatus
    capacity := device.capacity
    temp := device.temperature
    firmware := device.firmwareVersion
    serial := device.serialNumber
    type := device.diskType
    hours := powerMetrics.1
    cycles := powerMetrics.2
    attributes := device.attributes }

/-- `upsertSmartDeviceRecord`. -/
def upsertSmartDeviceRecord (rows : List DeviceRow) (systemId deviceKey : String)
    (device : Device) : List DeviceRow :=
  Table.store (·.id) rows (deviceRecord rows systemId deviceKey device)

theorem deviceRecord_id (rows : List DeviceRow) (systemId deviceKey : String) (device : Device) :
    (deviceRecord rows systemId deviceKey device).id = recordId (systemId, deviceKey) := by
  change ((Table.lookup (·.id) rows (recordId (systemId, deviceKey))).getD (.new _)).id = _
  cases h : Table.lookup (·.id) rows (recordId (systemId, deviceKey)) with
  | none => rfl
  | some record => exact Table.key_of_lookup h

/-! ## Runs -/

/-- The two collections, and the pair that each device record was last saved for. -/
structure Collections where
  services : List ServiceRow
  devices : List DeviceRow
  owners : String → Option (String × String)

/-- Nothing is recorded. -/
def Collections.empty : Collections := ⟨[], [], fun _ => none⟩

/-- What is done to the collections: the services and the drives that a system reports, and
deletions (by a user, with the system, or because a service was not reported for twenty minutes). -/
inductive Event
  | services (systemId : String) (data : List Agent.Systemd.Service) (updated : ℤ)
  | device (systemId deviceKey : String) (device : Device)
  | deleteServices (ids : List String)
  | deleteDevices (ids : List String)

/-- A step. -/
def step (c : Collections) : Event → Option Collections
  | .services systemId data updated => some
    { c with services := createSystemdStatsRecords c.services data systemId updated }
  | .device systemId deviceKey device => some
    { c with
      devices := upsertSmartDeviceRecord c.devices systemId deviceKey device
      owners := Function.update c.owners (recordId (systemId, deviceKey))
        (some (systemId, deviceKey)) }
  | .deleteServices ids => some { c with services := c.services.filter (·.id ∉ ids) }
  | .deleteDevices ids => some { c with devices := c.devices.filter (·.id ∉ ids) }

/-- The event is about services of `S` and drives of `D`. -/
def Event.Over (S D : Set (String × String)) : Event → Prop
  | .services systemId data _ => ∀ service ∈ data, (systemId, service.name) ∈ S
  | .device systemId deviceKey _ => (systemId, deviceKey) ∈ D
  | _ => True

/-- **No record of another pair is replaced**: where a service or a drive is written, the records of
all others are still there. -/
def Keeps (c : Collections) : Event → Prop
  | .services systemId data updated => ∀ before service after, data = before ++ service :: after →
    ∀ row ∈ createSystemdStatsRecords c.services before systemId updated,
      (row.system, row.name) ≠ (systemId, service.name) →
        row ∈ createSystemdStatsRecords c.services (before ++ [service]) systemId updated
  | .device systemId deviceKey device => ∀ row ∈ c.devices,
    c.owners row.id ≠ some (systemId, deviceKey) →
      row ∈ upsertSmartDeviceRecord c.devices systemId deviceKey device
  | _ => True

/-- **No two of the pairs are confused**: the texts of different pairs, joined, have different
FNV-1a hashes. -/
def Separated (S : Set (String × String)) : Prop :=
  ∀ p ∈ S, ∀ q ∈ S, p ≠ q → Fnv.sum32 (joined p) ≠ Fnv.sum32 (joined q)

/-- **The invariant**: every record is of a pair, and has its id. -/
structure Inv (S D : Set (String × String)) (c : Collections) : Prop where
  services : ∀ row ∈ c.services, (row.system, row.name) ∈ S ∧
    row.id = recordId (row.system, row.name)
  devices : ∀ row ∈ c.devices, ∃ p ∈ D, c.owners row.id = some p ∧ row.id = recordId p

theorem Inv.empty {S D : Set (String × String)} : Inv S D .empty where
  services _ h := absurd h List.not_mem_nil
  devices _ h := absurd h List.not_mem_nil

theorem Separated.injOn {S : Set (String × String)} (h : Separated S) : S.InjOn recordId := by
  intro p hp q hq heq
  by_contra hne
  exact h p hp q hq hne (recordId_eq_iff.mp heq)

variable {S D : Set (String × String)} {c c' : Collections} {e : Event}

/-- What is written of services. -/
theorem mem_createSystemdStatsRecords {rows : List ServiceRow} {data : List Agent.Systemd.Service}
    {systemId : String} {updated : ℤ} {row : ServiceRow}
    (h : row ∈ createSystemdStatsRecords rows data systemId updated) :
    row ∈ rows ∨ ∃ service ∈ data, row = serviceRow systemId updated service := by
  unfold createSystemdStatsRecords at h
  induction data generalizing rows with
  | nil => exact .inl h
  | cons service data ih =>
    rcases ih h with hrow | ⟨other, hother, rfl⟩
    · rcases Table.mem_store.mp hrow with rfl | ⟨hrow, -⟩
      · exact .inr ⟨service, List.mem_cons_self, rfl⟩
      · exact .inl hrow
    · exact .inr ⟨other, List.mem_cons_of_mem _ hother, rfl⟩

/-- Services of `S` are written as the invariant has it. -/
theorem Inv.written (h : Inv S D c) {systemId : String} {data : List Agent.Systemd.Service}
    (hover : ∀ service ∈ data, (systemId, service.name) ∈ S) {updated : ℤ} {row : ServiceRow}
    (hrow : row ∈ createSystemdStatsRecords c.services data systemId updated) :
    (row.system, row.name) ∈ S ∧ row.id = recordId (row.system, row.name) := by
  rcases mem_createSystemdStatsRecords hrow with hrow | ⟨service, hservice, rfl⟩
  · exact h.services row hrow
  · exact ⟨hover service hservice, rfl⟩

/-- **One step keeps the invariant.** -/
theorem Inv.step (h : Inv S D c) (hover : e.Over S D) (hs : step c e = some c') : Inv S D c' := by
  cases e with
  | services systemId data updated =>
    obtain rfl := Option.some.inj hs
    exact ⟨fun row hrow => h.written hover hrow, h.devices⟩
  | device systemId deviceKey device =>
    obtain rfl := Option.some.inj hs
    refine ⟨h.services, fun row hrow => ?_⟩
    dsimp only at hrow ⊢
    by_cases hid : row.id = recordId (systemId, deviceKey)
    · refine ⟨_, hover, ?_, hid⟩
      rw [hid, Function.update_self]
    · rw [Function.update_of_ne hid]
      rcases Table.mem_store.mp hrow with rfl | ⟨hold, -⟩
      · exact absurd (deviceRecord_id _ _ _ _) hid
      · exact h.devices row hold
  | deleteServices ids =>
    obtain rfl := Option.some.inj hs
    exact ⟨fun row hrow => h.services row (List.mem_of_mem_filter hrow), h.devices⟩
  | deleteDevices ids =>
    obtain rfl := Option.some.inj hs
    exact ⟨h.services, fun row hrow => h.devices row (List.mem_of_mem_filter hrow)⟩

/-- **A step on separated pairs replaces no other record.** -/
theorem Inv.keeps (h : Inv S D c) (hS : Separated S) (hD : Separated D) (hover : e.Over S D) :
    Keeps c e := by
  cases e with
  | services systemId data updated =>
    rintro before service after rfl row hrow hne
    have hbefore : ∀ service ∈ before, (systemId, service.name) ∈ S :=
      fun other hother => hover other (List.mem_append_left _ hother)
    have hservice : (systemId, service.name) ∈ S :=
      hover service (List.mem_append_right _ List.mem_cons_self)
    obtain ⟨hmem, hid⟩ := h.written hbefore hrow
    rw [createSystemdStatsRecords, List.foldl_append]
    refine Table.mem_store.mpr (.inr ⟨hrow, ?_⟩)
    rw [hid]
    exact fun heq => hne (hS.injOn hmem hservice heq)
  | device systemId deviceKey device =>
    intro row hrow hne
    obtain ⟨p, hp, howner, hid⟩ := h.devices row hrow
    refine Table.mem_store.mpr (.inr ⟨hrow, ?_⟩)
    rw [deviceRecord_id, hid]
    refine fun heq => hne ?_
    rw [howner, hD.injOn hp hover heq]
  | deleteServices ids => trivial
  | deleteDevices ids => trivial

/-! ## The failing pairs -/

/-- Drives of which one reports the model `model`. -/
def deviceOf (model : String) : Device where
  modelName := model
  serialNumber := ""
  firmwareVersion := ""
  capacity := 0
  smartStatus := ""
  diskName := ""
  diskType := ""
  temperature := 0
  attributes := []

/-- Services of one id: the second one written replaces the first. -/
theorem not_keeps_services (hne : p ≠ q) (hid : recordId p = recordId q) :
    ¬ Along step Keeps .empty
      [.services p.1 [.new p.2] 0, .services q.1 [.new q.2] 0] := by
  rintro ⟨-, h⟩
  have hkept := (h _ rfl).1 [] (.new q.2) [] rfl _ (Table.mem_store.mpr (.inl rfl)) hne
  rcases Table.mem_store.mp hkept with heq | ⟨-, hdiffers⟩
  · exact hne (Prod.ext (congrArg ServiceRow.system heq) (congrArg ServiceRow.name heq))
  · exact hdiffers hid

/-- Drives of one id. -/
theorem not_keeps_devices (hne : p ≠ q) (hid : recordId p = recordId q) :
    ¬ Along step Keeps .empty
      [.device p.1 p.2 (deviceOf "HDD"), .device q.1 q.2 (deviceOf "SSD")] := by
  rintro ⟨-, h⟩
  have howner : Function.update (fun _ => none) (recordId p) (some p)
      (deviceRecord [] p.1 p.2 (deviceOf "HDD")).id ≠ some q := by
    rw [deviceRecord_id, Function.update_self]
    exact fun heq => hne (Option.some.inj heq)
  have hkept := (h _ rfl).1 _ (Table.mem_store.mpr (.inl rfl)) howner
  rcases Table.mem_store.mp hkept with heq | ⟨-, hdiffers⟩
  · have hmodel : "HDD" = "SSD" := congrArg DeviceRow.model heq
    exact absurd hmodel (by decide)
  · rw [deviceRecord_id, deviceRecord_id] at hdiffers
    exact hdiffers hid

/-- **No record is written over by another's exactly for separated pairs**: then, and only then, are
the ids of different services and of different drives different, and then, and only then, does every
record outlive the writes of all others. -/
theorem keeps_iff (S D : Set (String × String)) :
    (S.InjOn recordId ∧ D.InjOn recordId ↔ Separated S ∧ Separated D) ∧
      ((∀ events : List Event, (∀ e ∈ events, e.Over S D) → Along step Keeps .empty events) ↔
        Separated S ∧ Separated D) := by
  refine ⟨⟨fun h => ⟨?_, ?_⟩, fun h => ⟨h.1.injOn, h.2.injOn⟩⟩, ⟨fun h => ⟨?_, ?_⟩, ?_⟩⟩
  · exact fun p hp q hq hne heq => hne (h.1 hp hq (recordId_eq_iff.mpr heq))
  · exact fun p hp q hq hne heq => hne (h.2 hp hq (recordId_eq_iff.mpr heq))
  · intro p hp q hq hne heq
    refine not_keeps_services hne (recordId_eq_iff.mpr heq) (h _ fun e he => ?_)
    rcases List.mem_pair.mp he with rfl | rfl
    · exact fun service hservice => List.mem_singleton.mp hservice ▸ hp
    · exact fun service hservice => List.mem_singleton.mp hservice ▸ hq
  · intro p hp q hq hne heq
    refine not_keeps_devices hne (recordId_eq_iff.mpr heq) (h _ fun e he => ?_)
    rcases List.mem_pair.mp he with rfl | rfl
    · exact hp
    · exact hq
  · rintro ⟨hS, hD⟩ events hover
    have htotal : ∀ c e, (step c e).isSome := by
      intro c e
      cases e <;> rfl
    exact along_of_along (I := Inv S D) (fun h hok hs => h.step hok hs)
      (fun h hok => h.keeps hS hD hok) .empty ((along_iff_forall htotal).mpr hover)

/-- Two services of a system whose names have one hash behind the system's id: the second one
reported replaces the first. -/
theorem not_keeps_of_collision :
    ¬ Set.InjOn recordId
        {("k3v9x0q2m7t5a1z", "vpn-ci-backup"), ("k3v9x0q2m7t5a1z", "video-node-job")} ∧
      ¬ Along step Keeps .empty
        [.services "k3v9x0q2m7t5a1z" [.new "vpn-ci-backup"] 0,
          .services "k3v9x0q2m7t5a1z" [.new "video-node-job"] 0] := by
  have hid : recordId ("k3v9x0q2m7t5a1z", "vpn-ci-backup") =
      recordId ("k3v9x0q2m7t5a1z", "video-node-job") := by
    rw [recordId_eq_iff]
    decide +kernel
  refine ⟨fun h => ?_, not_keeps_services (by decide) hid⟩
  exact absurd (h (Set.mem_insert _ _) (Set.mem_insert_of_mem _ rfl) hid) (by decide)

end StableIds

end Beszel
