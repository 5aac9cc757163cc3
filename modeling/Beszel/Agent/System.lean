import Beszel.Agent.Network
import Beszel.Alerts.Average

/-!
# Agent/System — the agent's sample, and the bandwidth the hub reads from it

    poll ──▸ Stats (ns, nr, b) ──stored──▸ averaging loop: ns + nr
         ──▸ Info  (bb)        ──▸ current value: b

`getSystemStats` and `gatherStats` of the agent, with the hub's two readings of a sample's
bandwidth.  `Info` has had two bandwidth fields, one in megabytes and one in bytes; the agent fills
in the second and the alerts read the first.  `bandwidth_iff` says for which polls that makes no
difference.
-/

namespace Beszel

open Machinery SystemAlerts

namespace Agent

/-! ## The sample -/

/-- A GPU of `GetCurrentData`. -/
structure GPUReading where
  name : String
  temperature : ℚ
  usage : ℚ

/-- What a sample takes from the host besides the network.  `none` is a metric that could not be
read, of `temps` a collection that is switched off, of `gpu` an agent without a GPU manager. -/
structure Readings where
  battery : Option (UInt8 × UInt8)
  cpu : Option ℚ
  loadAvg : Option (ℚ × ℚ × ℚ)
  memUsedPercent : Option ℚ
  diskUsedPercent : Option ℚ
  temps : Option (GoMap ℚ × ℚ)
  gpu : Option (GoMap GPUReading)
  extraFs : GoMap FsStats
  poll : Poll

/-- The agent: its network state, the `Info` it keeps between samples and the primary sensor. -/
structure State where
  net : NetState
  systemInfo : Info
  primarySensor : String

/-- An agent that has taken no sample. -/
def State.new (net : NetState) (primarySensor : String) : State := ⟨net, .zero, primarySensor⟩

/-- The metrics that are read before the network. -/
def hostStats (r : Readings) : Stats :=
  { Stats.zero with
    battery := r.battery.getD (0, 0)
    cpu := (r.cpu.map twoDecimals).getD 0
    loadAvg := r.loadAvg.getD (0, 0, 0)
    memPct := (r.memUsedPercent.map twoDecimals).getD 0
    diskPct := (r.diskUsedPercent.map twoDecimals).getD 0 }

/-- `updateTemperatures`, with what it reads already filtered: the temperatures and the one for the
dashboard. -/
def updateTemperatures (temps : Option (GoMap ℚ × ℚ)) (stats : Stats) (info : Info) :
    Stats × Info :=
  match temps with
  | none => (stats, info)
  | some (temperatures, dashboardTemp) =>
    ({ stats with temperatures }, { info with dashboardTemp })

/-- One GPU in the loop of `getSystemStats`, with the highest temperature so far. -/
def addGpu (primarySensor : String) (acc : Stats × Info × ℚ) (gpu : GPUReading) :
    Stats × Info × ℚ :=
  let (stats, info, highestTemp) := acc
  let (stats, info, highestTemp) :=
    if gpu.temperature > 0 then
      ({ stats with temperatures := stats.temperatures.insert gpu.name gpu.temperature },
        if primarySensor = gpu.name then { info with dashboardTemp := gpu.temperature } else info,
        if gpu.temperature > highestTemp then gpu.temperature else highestTemp)
    else (stats, info, highestTemp)
  (stats, { info with gpuPct := max info.gpuPct gpu.usage }, highestTemp)

/-- The usages of the GPUs, what the sample has of `GPUData`. -/
def usages (gpuData : GoMap GPUReading) : GoMap ℚ where
  entries := gpuData.entries.map fun e => ⟨e.1, e.2.usage⟩
  nodupKeys := by
    have := gpuData.nodupKeys
    rw [List.NodupKeys, List.keys] at this ⊢
    rwa [List.map_map]

/-- The loop over the GPUs. -/
def addGpus (primarySensor : String) (gpuData : GoMap GPUReading) (stats : Stats) (info : Info) :
    Stats × Info × ℚ :=
  (gpuData.entries.map fun e => e.2).foldl (addGpu primarySensor)
    ({ stats with gpuData := usages gpuData }, info, 0)

/-- The highest GPU temperature stands in for a dashboard temperature that is unset. -/
def defaultTemp (highestTemp : ℚ) (info : Info) : Info :=
  if info.dashboardTemp = 0 then { info with dashboardTemp := highestTemp } else info

/-- The GPU part of `getSystemStats`. -/
def updateGpu (primarySensor : String) (gpu : Option (GoMap GPUReading)) (stats : Stats)
    (info : Info) : Stats × Info :=
  match gpu with
  | none => (stats, info)
  | some gpuData =>
    let info := { info with gpuPct := 0 }
    if gpuData.entries.isEmpty then (stats, info)
    else
      let (stats, info, highestTemp) := addGpus primarySensor gpuData stats info
      (stats, defaultTemp highestTemp info)

/-- The fill-in of `systemInfo` at the end of `getSystemStats`. -/
def fillInfo (stats : Stats) (info : Info) : Info :=
  { info with
    cpu := stats.cpu
    loadAvg := stats.loadAvg
    memPct := stats.memPct
    diskPct := stats.diskPct
    battery := stats.battery
    bandwidthBytes := stats.bandwidth.1 + stats.bandwidth.2 }

/-- **`getSystemStats`.** -/
def getSystemStats (a : State) (r : Readings) : State × Stats :=
  let (net, stats) := a.net.updateNetworkStats r.poll (hostStats r)
  let (stats, info) := updateTemperatures r.temps stats a.systemInfo
  let (stats, info) := updateGpu a.primarySensor r.gpu stats info
  ({ a with net, systemInfo := fillInfo stats info }, stats)

/-- **`gatherStats`**: the sample that is sent. -/
def gatherStats (a : State) (r : Readings) : State × CombinedData :=
  let (a, stats) := getSystemStats a r
  (a, ⟨{ stats with extraFs := r.extraFs }, a.systemInfo⟩)

/-- The agent after a history of samples. -/
def State.after (a : State) (history : List Readings) : State :=
  history.foldl (fun a r => (gatherStats a r).1) a

/-! ## What the sample says of the network

After `updateNetworkStats` nothing writes the rates again, and nothing ever writes the bandwidth of
`Info`. -/

section Sample

/-- The rates of the sample and the bandwidth of `Info` are left alone. -/
structure SameNet (stats : Stats) (info : Info) (stats' : Stats) (info' : Info) : Prop where
  sent : stats'.networkSent = stats.networkSent
  recv : stats'.networkRecv = stats.networkRecv
  bytes : stats'.bandwidth = stats.bandwidth
  info : info'.bandwidth = info.bandwidth

variable {stats stats' stats'' : Stats} {info info' info'' : Info} {primarySensor : String}

theorem SameNet.refl (stats : Stats) (info : Info) : SameNet stats info stats info :=
  ⟨rfl, rfl, rfl, rfl⟩

theorem SameNet.trans (h : SameNet stats info stats' info')
    (h' : SameNet stats' info' stats'' info'') : SameNet stats info stats'' info'' :=
  ⟨h'.sent.trans h.sent, h'.recv.trans h.recv, h'.bytes.trans h.bytes, h'.info.trans h.info⟩

theorem sameNet_updateTemperatures (temps : Option (GoMap ℚ × ℚ)) (stats : Stats) (info : Info) :
    SameNet stats info (updateTemperatures temps stats info).1
      (updateTemperatures temps stats info).2 := by
  unfold updateTemperatures
  split <;> exact ⟨rfl, rfl, rfl, rfl⟩

theorem sameNet_addGpu (acc : Stats × Info × ℚ) (gpu : GPUReading) :
    SameNet acc.1 acc.2.1 (addGpu primarySensor acc gpu).1 (addGpu primarySensor acc gpu).2.1 := by
  obtain ⟨stats, info, highestTemp⟩ := acc
  unfold addGpu
  dsimp only
  split_ifs <;> exact ⟨rfl, rfl, rfl, rfl⟩

theorem sameNet_foldl_addGpu (gpus : List GPUReading) (acc : Stats × Info × ℚ) :
    SameNet acc.1 acc.2.1 (gpus.foldl (addGpu primarySensor) acc).1
      (gpus.foldl (addGpu primarySensor) acc).2.1 := by
  induction gpus generalizing acc with
  | nil => exact .refl _ _
  | cons gpu gpus ih => exact (sameNet_addGpu acc gpu).trans (ih _)

theorem sameNet_addGpus (gpuData : GoMap GPUReading) (stats : Stats) (info : Info) :
    SameNet stats info (addGpus primarySensor gpuData stats info).1
      (addGpus primarySensor gpuData stats info).2.1 := by
  have h := @sameNet_foldl_addGpu primarySensor (gpuData.entries.map fun e => e.2)
    ({ stats with gpuData := usages gpuData }, info, 0)
  exact ⟨h.sent, h.recv, h.bytes, h.info⟩

theorem bandwidth_defaultTemp (highestTemp : ℚ) (info : Info) :
    (defaultTemp highestTemp info).bandwidth = info.bandwidth := by
  unfold defaultTemp
  split_ifs <;> rfl

theorem sameNet_updateGpu (gpu : Option (GoMap GPUReading)) (stats : Stats) (info : Info) :
    SameNet stats info (updateGpu primarySensor gpu stats info).1
      (updateGpu primarySensor gpu stats info).2 := by
  unfold updateGpu
  split
  · exact .refl _ _
  · rename_i gpuData
    dsimp only
    split_ifs
    · exact ⟨rfl, rfl, rfl, rfl⟩
    · have h := @sameNet_addGpus primarySensor gpuData stats { info with gpuPct := 0 }
      exact ⟨h.sent, h.recv, h.bytes, (bandwidth_defaultTemp _ _).trans h.info⟩

/-- **The sample has the rates of the poll, and the bandwidth `Info` had before.** -/
theorem sameNet_gatherStats (a : State) (r : Readings) :
    SameNet (a.net.updateNetworkStats r.poll (hostStats r)).2 a.systemInfo
      (gatherStats a r).2.stats (gatherStats a r).2.info := by
  have htemp := sameNet_updateTemperatures r.temps
    (a.net.updateNetworkStats r.poll (hostStats r)).2 a.systemInfo
  have hgpu := htemp.trans (@sameNet_updateGpu a.primarySensor r.gpu _ _)
  exact ⟨hgpu.sent, hgpu.recv, hgpu.bytes, hgpu.info⟩

/-- **No history of samples sets the bandwidth of `Info`.** -/
theorem bandwidth_after (a : State) (history : List Readings) :
    (a.after history).systemInfo.bandwidth = a.systemInfo.bandwidth := by
  induction history generalizing a with
  | nil => rfl
  | cons r history ih =>
    exact (ih (gatherStats a r).1).trans (sameNet_gatherStats a r).info

end Sample

/-! ## The two readings of the hub -/

section Bandwidth

/-- The current value of a bandwidth alert. -/
def alertBandwidth (data : CombinedData) : ℚ := ((currentValue data .bandwidth).map Prod.fst).getD 0

/-- What the averaging loop adds for the stored record of the sample. -/
def recordBandwidth (data : CombinedData) : ℚ :=
  ((reading data.stats.extraFs (decodeAll [data.stats.toJson]) .bandwidth).map (· "")).getD 0

/-- **The two agree**, up to the rounding of the two rates to hundredths. -/
def Agrees (data : CombinedData) : Prop :=
  |alertBandwidth data - recordBandwidth data| ≤ 1 / 100

/-- Storing a sample and decoding it keeps the rates, omitted zeros included. -/
theorem recordBandwidth_eq (data : CombinedData) :
    recordBandwidth data = data.stats.networkSent + data.stats.networkRecv := by
  change (omitzero data.stats.networkSent).getD 0 + (omitzero data.stats.networkRecv).getD 0 = _
  rw [getD_omitzero, getD_omitzero]

/-- The rates of a poll that show as nothing: next to no traffic, or an anomaly. -/
def Unnoticed (sent recv : ℕ) : Prop :=
  (sent ≤ 5242 ∧ recv ≤ 15728 ∨ sent ≤ 15728 ∧ recv ≤ 5242) ∨
    10485765243 ≤ sent ∨ 10485765243 ≤ recv

theorem unnoticed_iff (sent recv : UInt64) :
    Unnoticed sent.toNat recv.toNat ↔
      hundredths sent.toNat + hundredths recv.toNat ≤ 1 ∨
        NetState.anomalous sent ∨ NetState.anomalous recv := by
  unfold Unnoticed NetState.anomalous hundredths
  omega

/-- **Where the bandwidth of the alerts is the bandwidth of the records.**  After any history of
samples, the record of the next one has its rate up to rounding; the current value agrees with it
exactly when the counters could not be read or the rates of the poll show as nothing. -/
theorem bandwidth_iff (net : NetState) (primarySensor : String) (history : List Readings)
    (r : Readings) :
    |recordBandwidth (gatherStats ((State.new net primarySensor).after history) r).2 -
        (((gatherStats ((State.new net primarySensor).after history) r).2.stats.bandwidth.1.toNat +
          (gatherStats ((State.new net primarySensor).after history) r).2.stats.bandwidth.2.toNat :
            ℕ) : ℚ) / 1048576| ≤ 1 / 100 ∧
      (Agrees (gatherStats ((State.new net primarySensor).after history) r).2 ↔
        ∀ sent recv, ((State.new net primarySensor).after history).net.rates r.poll =
          some (sent, recv) → Unnoticed sent.toNat recv.toNat) := by
  set a := (State.new net primarySensor).after history with ha
  obtain ⟨hsent, hrecv, hbytes, hinfo⟩ := sameNet_gatherStats a r
  have halert : alertBandwidth (gatherStats a r).2 = 0 := by
    change (gatherStats a r).2.info.bandwidth = 0
    rw [hinfo, ha, bandwidth_after]
    rfl
  rw [Agrees, halert, recordBandwidth_eq, hsent, hrecv, hbytes, zero_sub, abs_neg]
  rcases a.net.updateNetworkStats_published r.poll (hostStats r) with
    ⟨hnone, hstats⟩ | ⟨⟨sent, recv⟩, hrates, hpub⟩
  · rw [hstats, hnone]
    simp [hostStats, Stats.zero]
  · rw [hrates]
    have hall : (∀ s t, some (sent, recv) = some (s, t) → Unnoticed s.toNat t.toNat) ↔
        Unnoticed sent.toNat recv.toNat :=
      ⟨fun h => h sent recv rfl, by rintro h s t ⟨⟩; exact h⟩
    rw [hall, unnoticed_iff]
    cases hpub with
    | reset hanomaly hs hr hb =>
      rw [hs, hr, hb]
      simp [hanomaly]
    | rates hregular hs hr hb =>
      rw [hs, hr, hb, or_iff_left hregular]
      have h₁ := abs_bytesToMegabytes_sub_le sent.toNat
      have h₂ := abs_bytesToMegabytes_sub_le recv.toNat
      refine ⟨?_, ?_⟩
      · rw [abs_le] at h₁ h₂ ⊢
        push_cast
        constructor <;> linarith
      · rw [bytesToMegabytes_natCast, bytesToMegabytes_natCast, ← add_div,
          abs_of_nonneg (by positivity), div_le_div_iff_of_pos_right (by norm_num)]
        exact_mod_cast Iff.rfl

/-! ### Ten megabytes a second -/

/-- An agent that monitors one interface. -/
def oneNic : NetState where
  netInterfaces := ["eth0"]
  netIoStats := fun _ => none
  netInterfaceDeltaTrackers := fun _ => none
  nics := none

/-- A sample a number of seconds after the start, with 5 MB/s in each direction since. -/
def busySample (seconds : ℕ) : Readings where
  battery := none
  cpu := some 5
  loadAvg := some (0, 0, 0)
  memUsedPercent := some 40
  diskUsedPercent := some 60
  temps := none
  gpu := none
  extraFs := ∅
  poll :=
    { cacheTimeMs := 60000
      now := 1000 * seconds
      detected := none
      netIo := some [⟨"eth0", UInt64.ofNat (1000 + 5242880 * seconds),
        UInt64.ofNat (2000 + 5242880 * seconds)⟩]
      redetected := none }

/-- **A network at 10 MB/s is at 0 MB/s for the alert.** -/
theorem alertBandwidth_ignores_traffic :
    ¬ ∀ (net : NetState) (primarySensor : String) (history : List Readings) (r : Readings),
      Agrees (gatherStats ((State.new net primarySensor).after history) r).2 := by
  intro h
  have hagrees := h oneNic "" [busySample 0] (busySample 60)
  have halert : alertBandwidth (gatherStats ((State.new oneNic "").after [busySample 0])
      (busySample 60)).2 = 0 := by decide +kernel
  have hrecord : recordBandwidth (gatherStats ((State.new oneNic "").after [busySample 0])
      (busySample 60)).2 = 10 := by decide +kernel
  rw [Agrees, halert, hrecord] at hagrees
  norm_num at hagrees

end Bandwidth

end Agent

end Beszel
