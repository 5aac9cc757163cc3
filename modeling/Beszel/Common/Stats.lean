import Mathlib.Data.List.AList
import Mathlib.Algebra.Order.Field.Rat

/-!
# Common/Stats — the sample an agent sends, and the record the hub stores of it

`internal/entities/system/system.go`, with the fields the alerts and the bandwidth path read.
Floating-point values are rational: what is proved about them holds up to rounding.  A division by
zero is zero here; where the source divides 0 by 0 the result loses every comparison, as zero does
against the thresholds that are used.
-/

namespace Beszel

/-- A Go map with string keys. -/
abbrev GoMap (α : Type) := AList fun _ : String => α

/-- Where two maps are joined, the first one is read first. -/
theorem lookup_union {α : Type} (m m' : GoMap α) (k : String) :
    (m ∪ m').lookup k = (m.lookup k).or (m'.lookup k) := by
  by_cases hk : k ∈ m
  · obtain ⟨v, hv⟩ := Option.isSome_iff_exists.mp (AList.lookup_isSome.mpr hk)
    rw [AList.lookup_union_left hk, hv, Option.some_or]
  · rw [AList.lookup_union_right hk, AList.lookup_eq_none.mpr hk, Option.none_or]

/-- Every value of a map is replaced. -/
def mapValues {α β : Type} (f : String → α → β) (m : GoMap α) : GoMap β :=
  ⟨m.entries.map (.map id f), m.nodupKeys.map₂ f m.entries⟩

@[simp] theorem lookup_mapValues {α β : Type} (f : String → α → β) (m : GoMap α) (k : String) :
    (mapValues f m).lookup k = (m.lookup k).map (f k) :=
  List.dlookup_map₂ k

/-- A loop that deletes every entry which is not to be kept. -/
def retain {α : Type} (keep : String → α → Bool) (m : GoMap α) : GoMap α where
  entries := m.entries.filter fun e => keep e.1 e.2
  nodupKeys := m.nodupKeys.sublist List.filter_sublist

theorem lookup_retain {α : Type} (keep : String → α → Bool) (m : GoMap α) (k : String) :
    (retain keep m).lookup k = (m.lookup k).filter (keep k) := by
  ext v
  rw [← Option.mem_def, AList.mem_lookup_iff, Option.filter_eq_some_iff, ← Option.mem_def,
    AList.mem_lookup_iff]
  exact List.mem_filter

/-- `system.FsStats`. -/
structure FsStats where
  diskTotal : ℚ
  diskUsed : ℚ
  deriving DecidableEq

/-- `fs.DiskUsed / fs.DiskTotal * 100`. -/
def FsStats.usedPct (fs : FsStats) : ℚ := fs.diskUsed / fs.diskTotal * 100

/-- `system.Stats`; of `GPUData` the usage. -/
structure Stats where
  cpu : ℚ
  memPct : ℚ
  diskPct : ℚ
  networkSent : ℚ
  networkRecv : ℚ
  temperatures : GoMap ℚ
  extraFs : GoMap FsStats
  gpuData : GoMap ℚ
  bandwidth : UInt64 × UInt64
  loadAvg : ℚ × ℚ × ℚ
  battery : UInt8 × UInt8
  networkInterfaces : GoMap (UInt64 × UInt64 × UInt64 × UInt64)

/-- The zero value, `var systemStats system.Stats`. -/
def Stats.zero : Stats where
  cpu := 0
  memPct := 0
  diskPct := 0
  networkSent := 0
  networkRecv := 0
  temperatures := ∅
  extraFs := ∅
  gpuData := ∅
  bandwidth := (0, 0)
  loadAvg := (0, 0, 0)
  battery := (0, 0)
  networkInterfaces := ∅

/-- `system.Info`. -/
structure Info where
  cpu : ℚ
  memPct : ℚ
  diskPct : ℚ
  bandwidth : ℚ
  gpuPct : ℚ
  dashboardTemp : ℚ
  bandwidthBytes : UInt64
  loadAvg : ℚ × ℚ × ℚ
  battery : UInt8 × UInt8

/-- The zero value of `system.Info`. -/
def Info.zero : Info where
  cpu := 0
  memPct := 0
  diskPct := 0
  bandwidth := 0
  gpuPct := 0
  dashboardTemp := 0
  bandwidthBytes := 0
  loadAvg := (0, 0, 0)
  battery := (0, 0)

/-- `system.CombinedData`. -/
structure CombinedData where
  stats : Stats
  info : Info

/-! ## The stored record -/

/-- The JSON of a `system_stats` record: a field is there or it is not. -/
structure StatsJson where
  cpu : Option ℚ
  mp : Option ℚ
  dp : Option ℚ
  ns : Option ℚ
  nr : Option ℚ
  g : Option (GoMap ℚ)
  t : Option (GoMap ℚ)
  efs : Option (GoMap FsStats)
  la : Option (ℚ × ℚ × ℚ)
  bat : Option (UInt8 × UInt8)

/-- The option `omitzero` of a struct tag. -/
def omitzero {α : Type} [DecidableEq α] [Zero α] (a : α) : Option α :=
  if a = 0 then none else some a

/-- The option `omitempty`, on a map. -/
def omitempty {α : Type} (m : GoMap α) : Option (GoMap α) :=
  match m.entries with
  | [] => none
  | _ :: _ => some m

/-- **The record of a sample**: `json.Marshal` of `Stats`.  An array is never empty, so `la` is
always there. -/
def Stats.toJson (s : Stats) : StatsJson where
  cpu := some s.cpu
  mp := some s.memPct
  dp := some s.diskPct
  ns := omitzero s.networkSent
  nr := omitzero s.networkRecv
  g := omitempty s.gpuData
  t := omitempty s.temperatures
  efs := omitempty s.extraFs
  la := some s.loadAvg
  bat := if s.battery = (0, 0) then none else some s.battery

/-- An omitted zero reads back as zero. -/
theorem getD_omitzero {α : Type} [DecidableEq α] [Zero α] (a : α) : (omitzero a).getD 0 = a := by
  unfold omitzero
  split_ifs with h
  · exact h.symm
  · rfl

end Beszel
