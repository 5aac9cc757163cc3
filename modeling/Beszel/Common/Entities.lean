import Beszel.Machinery.Wire

/-!
# Common/Entities — the types that travel between agent and hub, with their struct tags

`internal/entities` and the response types of `internal/common/common-ws.go`.  Each field has its
`json` and its `cbor` tag; `cbor` falls back to the `json` tag, so that a field with `json:"-"` and
no other tag travels in neither encoding and is left out here.  A `[]uint8` is a list of numbers in
both encodings, floating-point values are rational, and a value of interface type is its item.
-/

namespace Beszel

open Machinery.Wire

/-- The two encodings of a sample. -/
inductive Encoding
  | cbor
  | json
  deriving DecidableEq

namespace Encoding

/-- `github.com/fxamacker/cbor/v2` writes a string as it is, and refuses to read one that is not
UTF-8. -/
def cborFormat : Format Encoding := ⟨.cbor, none⟩

theorem text_cbor (s : GoString) : cborFormat.text s = s := Format.text_eq rfl s

/-- `encoding/json` replaces what is not UTF-8. -/
def jsonFormat (replace : { b : ByteArray // b.validateUTF8 = false } → String) :
    Format Encoding := ⟨.json, some replace⟩

end Encoding

namespace Entities

/-- A tag `cbor:"n,keyasint"`. -/
def cbor (n : ℕ) : Rule := ⟨.int n, false, false⟩

/-- A tag `json:"name"`. -/
def json (name : String) : Rule := ⟨.text (.inl name), false, false⟩

/-- A field with both tags. -/
def field (j c : Rule) (t : Ty Encoding) : (Encoding → Option Rule) × Ty Encoding :=
  (fun | .json => some j | .cbor => some c, t)

/-- A field with `cbor:"-"`. -/
def jsonOnly (j : Rule) (t : Ty Encoding) : (Encoding → Option Rule) × Ty Encoding :=
  (fun | .json => some j | .cbor => none, t)

/-- A field with `json:"-"` and a `cbor` tag. -/
def cborOnly (c : Rule) (t : Ty Encoding) : (Encoding → Option Rule) × Ty Encoding :=
  (fun | .json => none | .cbor => some c, t)

@[simp] theorem snd_field (j c : Rule) (t : Ty Encoding) : (field j c t).2 = t := rfl
@[simp] theorem snd_jsonOnly (j : Rule) (t : Ty Encoding) : (jsonOnly j t).2 = t := rfl
@[simp] theorem snd_cborOnly (c : Rule) (t : Ty Encoding) : (cborOnly c t).2 = t := rfl

/-! ## `system.CombinedData` -/

/-- `system.FsStats`. -/
def fsStats : Ty Encoding := .record [
  field (json "d") (cbor 0) .float,                          -- DiskTotal
  field (json "du") (cbor 1) .float,                         -- DiskUsed
  field (json "r") (cbor 2) .float,                          -- DiskReadPs
  field (json "w") (cbor 3) .float,                          -- DiskWritePs
  field (json "rm").orEmpty (cbor 4).orEmpty .float,         -- MaxDiskReadPS
  field (json "wm").orEmpty (cbor 5).orEmpty .float,         -- MaxDiskWritePS
  field (json "rb") (cbor 6).orEmpty (.uint 64),             -- DiskReadBytes
  field (json "wb") (cbor 7).orEmpty (.uint 64),             -- DiskWriteBytes
  jsonOnly (json "rbm").orEmpty (.uint 64),                  -- MaxDiskReadBytes
  jsonOnly (json "wbm").orEmpty (.uint 64)]                  -- MaxDiskWriteBytes

/-- `system.GPUData`. -/
def gpuData : Ty Encoding := .record [
  field (json "n") (cbor 0) .string,                                         -- Name
  field (json "mu").orEmpty.orZero (cbor 1).orEmpty.orZero .float,           -- MemoryUsed
  field (json "mt").orEmpty.orZero (cbor 2).orEmpty.orZero .float,           -- MemoryTotal
  field (json "u") (cbor 3).orEmpty .float,                                  -- Usage
  field (json "p").orEmpty (cbor 4).orEmpty .float,                          -- Power
  field (json "e").orEmpty (cbor 5).orEmpty (.map .float),                   -- Engines
  field (json "pp").orEmpty (cbor 6).orEmpty .float]                         -- PowerPkg

/-- `system.Stats`. -/
def stats : Ty Encoding := .record [
  field (json "cpu") (cbor 0) .float,                                        -- Cpu
  field (json "cpum").orEmpty (cbor 1).orEmpty .float,                       -- MaxCpu
  field (json "m") (cbor 2) .float,                                          -- Mem
  field (json "mu") (cbor 3) .float,                                         -- MemUsed
  field (json "mp") (cbor 4) .float,                                         -- MemPct
  field (json "mb") (cbor 5) .float,                                         -- MemBuffCache
  field (json "mz").orEmpty (cbor 6).orEmpty .float,                         -- MemZfsArc
  field (json "s").orEmpty (cbor 7).orEmpty .float,                          -- Swap
  field (json "su").orEmpty (cbor 8).orEmpty .float,                         -- SwapUsed
  field (json "d") (cbor 9) .float,                                          -- DiskTotal
  field (json "du") (cbor 10) .float,                                        -- DiskUsed
  field (json "dp") (cbor 11) .float,                                        -- DiskPct
  field (json "dr") (cbor 12) .float,                                        -- DiskReadPs
  field (json "dw") (cbor 13) .float,                                        -- DiskWritePs
  field (json "drm").orEmpty (cbor 14).orEmpty .float,                       -- MaxDiskReadPs
  field (json "dwm").orEmpty (cbor 15).orEmpty .float,                       -- MaxDiskWritePs
  field (json "ns").orZero (cbor 16).orZero .float,                          -- NetworkSent
  field (json "nr").orZero (cbor 17).orZero .float,                          -- NetworkRecv
  field (json "nsm").orEmpty (cbor 18).orEmpty .float,                       -- MaxNetworkSent
  field (json "nrm").orEmpty (cbor 19).orEmpty .float,                       -- MaxNetworkRecv
  field (json "t").orEmpty (cbor 20).orEmpty (.map .float),                  -- Temperatures
  field (json "efs").orEmpty (cbor 21).orEmpty (.map (.ptr fsStats)),        -- ExtraFs
  field (json "g").orEmpty (cbor 22).orEmpty (.map gpuData),                 -- GPUData
  field (json "l1").orEmpty (cbor 23).orEmpty .float,                        -- LoadAvg1
  field (json "l5").orEmpty (cbor 24).orEmpty .float,                        -- LoadAvg5
  field (json "l15").orEmpty (cbor 25).orEmpty .float,                       -- LoadAvg15
  field (json "b").orZero (cbor 26).orZero (.array 2 (.uint 64)),            -- Bandwidth
  field (json "bm").orZero (cbor 27).orZero (.array 2 (.uint 64)),           -- MaxBandwidth
  field (json "la").orEmpty (cbor 28) (.array 3 .float),                     -- LoadAvg
  field (json "bat").orZero (cbor 29).orZero (.array 2 (.uint 8)),           -- Battery
  field (json "mm").orEmpty (cbor 30).orEmpty .float,                        -- MaxMem
  field (json "ni").orEmpty (cbor 31).orEmpty (.map (.array 4 (.uint 64))),  -- NetworkInterfaces
  field (json "dio").orZero (cbor 32).orZero (.array 2 (.uint 64)),          -- DiskIO
  jsonOnly (json "diom").orZero (.array 2 (.uint 64)),                       -- MaxDiskIO
  field (json "cpub").orEmpty (cbor 33).orEmpty (.slice .float),             -- CpuBreakdown
  field (json "cpus").orEmpty (cbor 34).orEmpty (.slice (.uint 8))]          -- CpuCoresUsage

/-- `system.Info`. -/
def info : Ty Encoding := .record [
  field (json "h").orEmpty (cbor 0).orEmpty .string,                         -- Hostname
  field (json "k").orEmpty (cbor 1).orEmpty .string,                         -- KernelVersion
  field (json "c").orZero (cbor 2).orZero .int,                              -- Cores
  field (json "t").orEmpty (cbor 3).orEmpty .int,                            -- Threads
  field (json "m").orEmpty (cbor 4).orEmpty .string,                         -- CpuModel
  field (json "u") (cbor 5) (.uint 64),                                      -- Uptime
  field (json "cpu") (cbor 6) .float,                                        -- Cpu
  field (json "mp") (cbor 7) .float,                                         -- MemPct
  field (json "dp") (cbor 8) .float,                                         -- DiskPct
  field (json "b") (cbor 9) .float,                                          -- Bandwidth
  field (json "v") (cbor 10) .string,                                        -- AgentVersion
  field (json "p").orEmpty (cbor 11).orEmpty .bool,                          -- Podman
  field (json "g").orEmpty (cbor 12).orEmpty .float,                         -- GpuPct
  field (json "dt").orEmpty (cbor 13).orEmpty .float,                        -- DashboardTemp
  field (json "os").orEmpty (cbor 14).orEmpty (.uint 8),                     -- Os
  field (json "l1").orEmpty (cbor 15).orEmpty .float,                        -- LoadAvg1
  field (json "l5").orEmpty (cbor 16).orEmpty .float,                        -- LoadAvg5
  field (json "l15").orEmpty (cbor 17).orEmpty .float,                       -- LoadAvg15
  field (json "bb") (cbor 18) (.uint 64),                                    -- BandwidthBytes
  field (json "la").orEmpty (cbor 19) (.array 3 .float),                     -- LoadAvg
  field (json "ct").orEmpty (cbor 20).orEmpty.orZero (.uint 8),              -- ConnectionType
  field (json "efs").orEmpty (cbor 21).orEmpty (.map .float),                -- ExtraFsPct
  field (json "sv").orEmpty (cbor 22).orEmpty (.slice (.uint 16)),           -- Services
  field (json "bat").orZero (cbor 23).orZero (.array 2 (.uint 8)),           -- Battery
  field (json "pu").orEmpty (cbor 24).orEmpty (.uint 16),                    -- PkgUpdates
  field (json "rb").orEmpty (cbor 25).orEmpty .bool,                         -- RebootRequired
  field (json "pus").orEmpty (cbor 26).orEmpty (.uint 16)]                   -- PkgUpdatesSec

/-- `system.Details`; without `json` tags, its keys are the names of the fields. -/
def details : Ty Encoding := .record [
  field (json "Hostname") (cbor 0) .string,
  field (json "Kernel") (cbor 1).orEmpty .string,
  field (json "Cores") (cbor 2) .int,
  field (json "Threads") (cbor 3) .int,
  field (json "CpuModel") (cbor 4) .string,
  field (json "Os") (cbor 5) (.uint 8),
  field (json "OsName") (cbor 6) .string,
  field (json "Arch") (cbor 7) .string,
  field (json "Podman") (cbor 8).orEmpty .bool,
  field (json "MemoryTotal") (cbor 9) (.uint 64),
  field (json "SmartInterval") (cbor 10).orEmpty .int]

/-- `container.Stats`. -/
def containerStats : Ty Encoding := .record [
  field (json "n") (cbor 0) .string,                                         -- Name
  field (json "c") (cbor 1) .float,                                          -- Cpu
  field (json "m") (cbor 2) .float,                                          -- Mem
  field (json "ns").orZero (cbor 3).orZero .float,                           -- NetworkSent
  field (json "nr").orZero (cbor 4).orZero .float,                           -- NetworkRecv
  field (json "b").orZero (cbor 9).orZero (.array 2 (.uint 64)),             -- Bandwidth
  cborOnly (cbor 5) (.uint 8),                                               -- Health
  cborOnly (cbor 6) .string,                                                 -- Status
  cborOnly (cbor 7) .string,                                                 -- Id
  cborOnly (cbor 8) .string]                                                 -- Image

/-- `systemd.Service`. -/
def service : Ty Encoding := .record [
  field (json "n") (cbor 0) .string,                                         -- Name
  field (json "s") (cbor 1) (.uint 8),                                       -- State
  field (json "c") (cbor 2) .float,                                          -- Cpu
  field (json "m") (cbor 3) (.uint 64),                                      -- Mem
  field (json "mp") (cbor 4) (.uint 64),                                     -- MemPeak
  field (json "ss") (cbor 5) (.uint 8),                                      -- Sub
  field (json "cp") (cbor 6) .float]                                         -- CpuPeak

/-- `system.PackageUpdate`. -/
def packageUpdate : Ty Encoding := .record [
  field (json "n") (cbor 0) .string,                                         -- Name
  field (json "cv").orEmpty (cbor 1).orEmpty .string,                        -- CurrentVersion
  field (json "av").orEmpty (cbor 2).orEmpty .string,                        -- AvailableVersion
  field (json "hd").orEmpty (cbor 3).orEmpty .bool,                          -- Held
  field (json "sec").orEmpty (cbor 4).orEmpty .bool]                         -- Security

/-- `system.CombinedData`. -/
def combinedData : Ty Encoding := .record [
  field (json "stats") (cbor 0) stats,                                       -- Stats
  field (json "info") (cbor 1) info,                                         -- Info
  field (json "container") (cbor 2) (.slice (.ptr containerStats)),          -- Containers
  field (json "systemd").orEmpty (cbor 3).orEmpty (.slice (.ptr service)),   -- SystemdServices
  field (json "Details") (cbor 4).orEmpty (.ptr details),                    -- Details
  field (json "pkgupdates").orEmpty (cbor 5).orEmpty (.slice packageUpdate)] -- PackageUpdates

/-! ## The other answers -/

/-- `smart.SmartAttribute`. -/
def smartAttribute : Ty Encoding := .record [
  field (json "id").orEmpty (cbor 0).orEmpty (.uint 16),                     -- ID
  field (json "n") (cbor 1) .string,                                         -- Name
  field (json "v").orEmpty (cbor 2).orEmpty (.uint 16),                      -- Value
  field (json "w").orEmpty (cbor 3).orEmpty (.uint 16),                      -- Worst
  field (json "t").orEmpty (cbor 4).orEmpty (.uint 16),                      -- Threshold
  field (json "rv") (cbor 5) (.uint 64),                                     -- RawValue
  field (json "rs").orEmpty (cbor 6).orEmpty .string,                        -- RawString
  field (json "wf").orEmpty (cbor 7).orEmpty .string]                        -- WhenFailed

/-- `smart.SmartData`. -/
def smartData : Ty Encoding := .record [
  field (json "mn").orEmpty (cbor 1).orEmpty .string,                        -- ModelName
  field (json "sn").orEmpty (cbor 2).orEmpty .string,                        -- SerialNumber
  field (json "fv").orEmpty (cbor 3).orEmpty .string,                        -- FirmwareVersion
  field (json "c").orEmpty (cbor 4).orEmpty (.uint 64),                      -- Capacity
  field (json "s").orEmpty (cbor 5).orEmpty .string,                         -- SmartStatus
  field (json "dn").orEmpty (cbor 6).orEmpty .string,                        -- DiskName
  field (json "dt").orEmpty (cbor 7).orEmpty .string,                        -- DiskType
  field (json "t").orEmpty (cbor 8).orEmpty (.uint 8),                       -- Temperature
  field (json "a").orEmpty (cbor 9).orEmpty (.slice (.ptr smartAttribute))]  -- Attributes

/-- `common.FingerprintResponse`. -/
def fingerprintResponse : Ty Encoding := .record [
  field (json "Fingerprint") (cbor 0) .string,
  field (json "Hostname") (cbor 1).orZero .string,
  field (json "Port") (cbor 2).orZero .string,
  field (json "Name") (cbor 3).orZero .string]

/-- `common.AgentUpdateResponse`. -/
def agentUpdateResponse : Ty Encoding := .record [
  field (json "updated") (cbor 0) .bool,                                     -- Updated
  field (json "message").orEmpty (cbor 1).orEmpty .string]                   -- Message

/-- `common.PackageApplyStatus`. -/
def packageApplyStatus : Ty Encoding := .record [
  field (json "status") (cbor 0) .string,                                    -- Status
  field (json "packages").orEmpty (cbor 1).orEmpty (.slice .string),         -- Packages
  field (json "message").orEmpty (cbor 2).orEmpty .string,                   -- Message
  field (json "startedAt").orEmpty (cbor 3).orEmpty .int,                    -- StartedAt
  field (json "finishedAt").orEmpty (cbor 4).orEmpty .int]                   -- FinishedAt

/-- `common.AgentResponse`, with its tags. -/
def agentResponse : Ty Encoding := .record [
  field (json "Id") (cbor 0).orEmpty (.ptr (.uint 32)),
  field (json "SystemData") (cbor 1).orEmpty.orZero (.ptr combinedData),
  field (json "Fingerprint") (cbor 2).orEmpty.orZero (.ptr fingerprintResponse),
  field (json "Error") (cbor 3).orEmpty.orZero .string,
  field (json "String") (cbor 4).orEmpty.orZero (.ptr .string),
  field (json "SmartData") (cbor 5).orEmpty.orZero (.map smartData),
  field (json "ServiceInfo") (cbor 6).orEmpty.orZero (.map .any),
  field (json "Data") (cbor 7).orEmpty.orZero .raw]

/-! ## Every type is well-formed -/

variable (encoding : Encoding)

theorem wf_fsStats : fsStats.Wf encoding :=
  Ty.wf_record (by cases encoding <;> decide) (by simp [Ty.Wf])

theorem wf_gpuData : gpuData.Wf encoding :=
  Ty.wf_record (by cases encoding <;> decide) (by simp [Ty.Wf])

theorem wf_stats : stats.Wf encoding :=
  Ty.wf_record (by cases encoding <;> decide)
    (by simp [Ty.Wf, wf_fsStats, wf_gpuData, show fsStats.solid from rfl])

theorem wf_info : info.Wf encoding :=
  Ty.wf_record (by cases encoding <;> decide) (by simp [Ty.Wf])

theorem wf_details : details.Wf encoding :=
  Ty.wf_record (by cases encoding <;> decide) (by simp [Ty.Wf])

theorem wf_containerStats : containerStats.Wf encoding :=
  Ty.wf_record (by cases encoding <;> decide) (by simp [Ty.Wf])

theorem wf_service : service.Wf encoding :=
  Ty.wf_record (by cases encoding <;> decide) (by simp [Ty.Wf])

theorem wf_packageUpdate : packageUpdate.Wf encoding :=
  Ty.wf_record (by cases encoding <;> decide) (by simp [Ty.Wf])

theorem wf_smartAttribute : smartAttribute.Wf encoding :=
  Ty.wf_record (by cases encoding <;> decide) (by simp [Ty.Wf])

theorem wf_smartData : smartData.Wf encoding :=
  Ty.wf_record (by cases encoding <;> decide)
    (by simp [Ty.Wf, wf_smartAttribute, show smartAttribute.solid from rfl])

theorem wf_fingerprintResponse : fingerprintResponse.Wf encoding :=
  Ty.wf_record (by cases encoding <;> decide) (by simp [Ty.Wf])

theorem wf_agentUpdateResponse : agentUpdateResponse.Wf encoding :=
  Ty.wf_record (by cases encoding <;> decide) (by simp [Ty.Wf])

theorem wf_packageApplyStatus : packageApplyStatus.Wf encoding :=
  Ty.wf_record (by cases encoding <;> decide) (by simp [Ty.Wf])

theorem wf_combinedData : combinedData.Wf encoding :=
  Ty.wf_record (by cases encoding <;> decide)
    (by simp [Ty.Wf, wf_stats, wf_info, wf_containerStats, wf_service, wf_details,
      wf_packageUpdate, show containerStats.solid from rfl, show service.solid from rfl,
      show details.solid from rfl])

theorem wf_agentResponse : agentResponse.Wf encoding :=
  Ty.wf_record (by cases encoding <;> decide)
    (by simp [Ty.Wf, wf_combinedData, wf_fingerprintResponse, wf_smartData,
      show (Ty.uint 32 : Ty Encoding).solid from rfl, show combinedData.solid from rfl,
      show fingerprintResponse.solid from rfl, show (Ty.string : Ty Encoding).solid from rfl])

end Entities

end Beszel
