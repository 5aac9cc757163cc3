import Beszel.Agent.SmartDevices
import Beszel.Common.Stats

/-!
# Agent/Smart — what is collected of a drive, and the next scan

    devices ──smartctl──▸ parseSmartOutput ──▸ SmartDataMap
       ╰──scan──▸ mergeDeviceLists ──▸ updateSmartDevices ──prunes──▸ SmartDataMap

`parseSmartOutput` and `updateSmartDevices` of `agent/smart.go`.  The data of a drive is found by
its serial number and names its device as `smartctl` reports it; a scan prunes the data whose
device, by name and type, is not in the merged list.  The list has the types of the scan and of the
configuration: `survives_iff` says when the data of a drive that is still scanned is kept.
-/

namespace Beszel

open Machinery

namespace Agent

namespace Smart

/-! ## Parsing -/

/-- The three parsers. -/
inductive Parser
  | nvme
  | sat
  | scsi
  deriving DecidableEq

/-- The type of a parser. -/
def Parser.type : Parser → String
  | .nvme => "nvme"
  | .sat => "sat"
  | .scsi => "scsi"

/-- The JSON that `smartctl` prints, as the parsers decode it: which of them do, which sections have
a value (`none` if it is not JSON), and the fields. -/
structure SmartctlOutput where
  decodes : Parser → Bool
  sections : Option (Parser → Bool)
  deviceName : String
  deviceType : String
  serialNumber : String
  modelName : String
  scsiModelName : String
  scsiVendor : String
  scsiProduct : String
  firmwareVersion : String
  scsiRevision : String
  capacity : UInt64
  temperature : UInt8
  nvmeTemperature : UInt8
  ataTemperature : Option UInt64
  passed : Bool

/-- `smart.SmartData`, without the attributes. -/
structure SmartData where
  modelName : String
  serialNumber : String
  firmwareVersion : String
  capacity : UInt64
  smartStatus : String
  diskName : String
  diskType : String
  temperature : UInt8
  deriving DecidableEq

/-- `SmartManager`. -/
structure SmartManager where
  smartDataMap : GoMap SmartData
  smartDevices : List DeviceInfo
  excludedDevices : List String

/-- `detectSmartOutputType`. -/
def detectSmartOutputType (output : SmartctlOutput) : String :=
  match output.sections with
  | none => ""
  | some hasValue =>
    if hasValue .nvme then "nvme"
    else if hasValue .sat then "sat"
    else if hasValue .scsi then "scsi"
    else "sat"

/-- `getSmartStatus`. -/
def getSmartStatus (temperature : UInt8) (passed : Bool) : String :=
  if passed then "PASSED" else if temperature > 0 then "FAILED" else "UNKNOWN"

/-- `isVirtualDeviceFromStrings`. -/
def isVirtualDeviceFromStrings (fields : List String) : Bool :=
  fields.any fun field => ["IET", "VIRTUAL", "QEMU", "VBOX", "VMWARE", "MSFT"].any
    (GoText.contains (GoText.toUpper field) ·)

/-- `isVirtualDeviceNvme`, `isVirtualDevice` and `isVirtualDeviceScsi`. -/
def isVirtualDevice (output : SmartctlOutput) : Parser → Bool
  | .nvme => isVirtualDeviceFromStrings [output.modelName]
  | .sat => isVirtualDeviceFromStrings [output.scsiVendor, output.scsiProduct, output.modelName]
  | .scsi =>
    isVirtualDeviceFromStrings [output.scsiVendor, output.scsiProduct, output.scsiModelName]

/-- The temperature that a parser reads. -/
def temperatureOf (output : SmartctlOutput) : Parser → UInt8
  | .nvme => output.nvmeTemperature
  | .sat =>
    if output.temperature = 0 then
      match output.ataTemperature with
      | some value => if value > 255 then 0 else value.toUInt8
      | none => 0
    else output.temperature
  | .scsi => output.temperature

/-- What a parser stores of an output. -/
def smartDataOf (output : SmartctlOutput) (parser : Parser) : SmartData where
  modelName := if parser = .scsi then output.scsiModelName else output.modelName
  serialNumber := output.serialNumber
  firmwareVersion := if parser = .scsi then output.scsiRevision else output.firmwareVersion
  capacity := output.capacity
  smartStatus := getSmartStatus (temperatureOf output parser) output.passed
  diskName := output.deviceName
  diskType := output.deviceType
  temperature := temperatureOf output parser

/-- Whether a parser finds valid data. -/
def accepts (output : SmartctlOutput) (parser : Parser) : Bool :=
  output.decodes parser && output.serialNumber ≠ "" && !isVirtualDevice output parser

/-- `parseSmartForNvme`, `parseSmartForSata` and `parseSmartForScsi`, where they find valid data. -/
def parseSmartFor (sm : SmartManager) (output : SmartctlOutput) (parser : Parser) : SmartManager :=
  { sm with
    smartDataMap := sm.smartDataMap.insert output.serialNumber (smartDataOf output parser) }

/-- The type that a device is parsed by before any detection. -/
def hintedType (deviceInfo : DeviceInfo) : String :=
  if normalizeParserType deviceInfo.parserType = "" then normalizeParserType deviceInfo.type
  else normalizeParserType deviceInfo.parserType

/-- A device without a type, or with that of a parser in other letters, takes the parser's. -/
def adoptType (deviceInfo : DeviceInfo) (type : String) : DeviceInfo :=
  if deviceInfo.type = "" ∨ GoText.equalFold deviceInfo.type type then { deviceInfo with type }
  else deviceInfo

/-- The first half of `parseSmartOutput`: the type to parse by, and the device as it is then. -/
def detectType (deviceInfo : DeviceInfo) (output : SmartctlOutput) : DeviceInfo × String :=
  let deviceType := hintedType deviceInfo
  let needsDetection := deviceType = "" ∨ ¬ deviceInfo.typeVerified
  let deviceInfo :=
    if deviceInfo.parserType = "" ∧ deviceType ∈ ["nvme", "sat", "scsi"] then
      { deviceInfo with parserType := deviceType }
    else deviceInfo
  if needsDetection then
    let structureType := detectSmartOutputType output
    let deviceInfo :=
      if deviceType ≠ structureType then
        { deviceInfo with parserType := structureType, typeVerified := false }
      else deviceInfo
    (adoptType deviceInfo structureType, structureType)
  else (deviceInfo, deviceType)

/-- The parsers, the most likely one first. -/
def selectedParsers (deviceType : String) : List Parser :=
  let parsers := [.nvme, .sat, .scsi]
  parsers.filter (·.type = deviceType) ++ parsers.filter (·.type ≠ deviceType)

/-- **`parseSmartOutput`**: the manager, the device and whether a parser found valid data. -/
def parseSmartOutput (sm : SmartManager) (deviceInfo : DeviceInfo) (output : SmartctlOutput) :
    SmartManager × DeviceInfo × Bool :=
  let (deviceInfo, deviceType) := detectType deviceInfo output
  match (selectedParsers deviceType).find? (accepts output) with
  | some parser =>
    (parseSmartFor sm output parser,
      { adoptType { deviceInfo with parserType := parser.type } parser.type with
        typeVerified := true },
      true)
  | none => (sm, { deviceInfo with typeVerified := false }, false)

/-- An output is parsed for a device of the list, which is updated in place. -/
def collectSmart (sm : SmartManager) (i : ℕ) (deviceInfo : DeviceInfo) (output : SmartctlOutput) :
    SmartManager :=
  let (sm, deviceInfo, _) := parseSmartOutput sm deviceInfo output
  { sm with smartDevices := sm.smartDevices.set i deviceInfo }

/-! ## The next scan -/

/-- `filterExcludedDevices`. -/
def filterExcludedDevices (sm : SmartManager) (devices : List DeviceInfo) : List DeviceInfo :=
  if sm.excludedDevices = [] then devices
  else devices.filter fun device => device.name ≠ "" ∧ device.name ∉ sm.excludedDevices

/-- Whether the device of some data is in the list. -/
def backed (devices : List DeviceInfo) (data : SmartData) : Bool :=
  if data.diskType = "" then (named devices).countP (·.name = data.diskName) = 1
  else ∃ device ∈ named devices, device.key = ⟨data.diskName, data.diskType⟩

/-- `updateSmartDevices`. -/
def updateSmartDevices (sm : SmartManager) (devices : List DeviceInfo) : SmartManager :=
  { sm with
    smartDevices := devices
    smartDataMap := retain (fun _ data => backed devices data) sm.smartDataMap }

/-- **`ScanDevices`**, with what was scanned and configured. -/
def scanDevices (sm : SmartManager) (scanned configured : List DeviceInfo) : SmartManager :=
  updateSmartDevices sm
    (filterExcludedDevices sm (mergeDeviceLists sm.smartDevices scanned configured))

theorem lookup_scanDevices (sm : SmartManager) (scanned configured : List DeviceInfo)
    (serialNumber : String) :
    (scanDevices sm scanned configured).smartDataMap.lookup serialNumber =
      (sm.smartDataMap.lookup serialNumber).filter (backed (filterExcludedDevices sm
        (mergeDeviceLists sm.smartDevices scanned configured))) :=
  lookup_retain _ sm.smartDataMap serialNumber

/-- What a parser accepts is in the map. -/
theorem exists_lookup_collectSmart {sm : SmartManager} {dev : DeviceInfo} {output : SmartctlOutput}
    (h : (parseSmartOutput sm dev output).2.2) (i : ℕ) :
    ∃ parser, (collectSmart sm i dev output).smartDataMap.lookup output.serialNumber =
      some (smartDataOf output parser) := by
  unfold collectSmart
  unfold parseSmartOutput at h ⊢
  dsimp only at h ⊢
  split at h
  case h_1 parser _ => exact ⟨parser, AList.lookup_insert _⟩
  case h_2 => cases h

theorem excludedDevices_collectSmart (sm : SmartManager) (i : ℕ) (dev : DeviceInfo)
    (output : SmartctlOutput) :
    (collectSmart sm i dev output).excludedDevices = sm.excludedDevices := by
  unfold collectSmart parseSmartOutput
  dsimp only
  split <;> rfl

/-- A device that is not excluded stays. -/
theorem mem_filterExcludedDevices {sm : SmartManager} {devices : List DeviceInfo} {d : DeviceInfo}
    (hd : d ∈ devices) (hname : d.name ≠ "") (hexcluded : d.name ∉ sm.excludedDevices) :
    d ∈ filterExcludedDevices sm devices := by
  unfold filterExcludedDevices
  split
  · exact hd
  · exact List.mem_filter.mpr ⟨hd, by simp [hname, hexcluded]⟩

/-- Devices of one name that is not excluded all stay. -/
theorem named_filterExcludedDevices {sm : SmartManager} {devices : List DeviceInfo} {name : String}
    (hdevices : ∀ d ∈ devices, d.name = name) (hexcluded : name ∉ sm.excludedDevices) :
    named (filterExcludedDevices sm devices) = named devices := by
  unfold filterExcludedDevices
  split
  · rfl
  · rw [named, named, List.filter_filter]
    refine List.filter_congr fun d hd => ?_
    rw [hdevices d hd]
    simp [hexcluded]

theorem previous_congr (existing : List DeviceInfo) {d d' : DeviceInfo} (h : d.key = d'.key) :
    previous existing d = previous existing d' := by
  have hname : d.name = d'.name := congrArg DeviceKey.name h
  rw [previous, previous, h, hname]

/-- Without a configuration the merged devices are the copies of the scanned ones. -/
theorem mergeDeviceLists_nil (existing : List DeviceInfo) {scanned : List DeviceInfo}
    (h : scanned ≠ []) :
    mergeDeviceLists existing scanned [] = (named scanned).map (entered existing) := by
  have hentries : mergeEntries existing scanned [] =
      ((named scanned).map (scannedEntry existing)).reverse := rfl
  rw [mergeDeviceLists, if_neg (fun hnil => h hnil.1), hentries, List.reverse_reverse, List.map_map]
  rfl

/-- A configured device of the name of the only scanned one is applied to it. -/
theorem mergeDeviceLists_singleton (existing : List DeviceInfo) {d c : DeviceInfo}
    (hname : d.name ≠ "") (hsame : c.name = d.name) :
    mergeDeviceLists existing [d] [c] = [applyConfiguredMetadata (entered existing d) c] := by
  have hnamed : named [d] = [d] := List.filter_cons_of_pos (by simpa using hname)
  have hunique : uniqueName existing [d] c.name = true := by
    rw [uniqueName, hnamed, buildUniqueNameIndex, if_neg (hsame ▸ hname), hsame, List.map_singleton,
      List.filter_cons_of_pos (by simp [entered_name])]
    rfl
  have hentries : mergeEntries existing [d] [c] = [(scannedEntry existing d).apply c] := by
    have hscanned :
        ((named [d]).map (scannedEntry existing)).reverse = [scannedEntry existing d] := by
      rw [hnamed]
      rfl
    have hfound : (scannedEntry existing d).device.name = c.name :=
      (entered_name existing d).trans hsame.symm
    rw [mergeEntries, hscanned, List.foldl_cons, List.foldl_nil, configure, if_neg (hsame ▸ hname),
      if_pos hunique]
    split_ifs with hkey
    · exact Table.updateFirst_singleton _ (by simpa using hkey)
    · exact Table.updateFirst_singleton _ ⟨rfl, hfound⟩
  rw [mergeDeviceLists, if_neg (by simp), hentries]
  rfl

/-! ## The data of a drive that is still scanned -/

/-- A device as `parseScan` and `parseConfiguredDevices` make it. -/
def listedDevice (name type : String) : DeviceInfo := ⟨name, type, "", "", false, ""⟩

/-- **The data of a serial number survives** every scan that has the device of a name and a type. -/
def Survives (sm : SmartManager) (name type serialNumber : String) : Prop :=
  ∃ data, sm.smartDataMap.lookup serialNumber = some data ∧
    ∀ scanned configured : List DeviceInfo, (∃ d ∈ scanned, d.name = name ∧ d.type = type) →
      (scanDevices sm scanned configured).smartDataMap.lookup serialNumber = some data

/-- **The output is of the device that the scan finds**: it has the name, and the type of the known
device that a scanned device of the name and the type is matched with, which is verified. -/
structure Recognized (devices : List DeviceInfo) (name type : String) (output : SmartctlOutput) :
    Prop where
  named : name ≠ ""
  deviceName : output.deviceName = name
  deviceType : output.deviceType ≠ ""
  verified : ∃ prev ∈ previous devices (listedDevice name type),
    prev.typeVerified ∧ prev.type = output.deviceType

theorem backed_iff {devices : List DeviceInfo} {data : SmartData} (h : data.diskType ≠ "") :
    backed devices data ↔
      ∃ device ∈ named devices, device.key = ⟨data.diskName, data.diskType⟩ := by
  rw [backed, if_neg h, decide_eq_true_iff]

theorem backed_iff_of_untyped {devices : List DeviceInfo} {data : SmartData}
    (h : data.diskType = "") :
    backed devices data ↔ (named devices).countP (·.name = data.diskName) = 1 := by
  rw [backed, if_pos h, decide_eq_true_iff]

/-- The data survives if its device is in every list that a scan makes. -/
theorem survives_iff_backed {sm : SmartManager} {name type serialNumber : String} {data : SmartData}
    (h : sm.smartDataMap.lookup serialNumber = some data) :
    Survives sm name type serialNumber ↔ ∀ scanned configured : List DeviceInfo,
      (∃ d ∈ scanned, d.name = name ∧ d.type = type) →
        backed (filterExcludedDevices sm
          (mergeDeviceLists sm.smartDevices scanned configured)) data := by
  constructor
  · rintro ⟨data', hdata', hkept⟩ scanned configured hlisted
    obtain rfl : data = data' := Option.some.inj (h.symm.trans hdata')
    have hlookup := hkept scanned configured hlisted
    rw [lookup_scanDevices, h, Option.filter_eq_some_iff] at hlookup
    exact hlookup.2
  · intro hbacked
    refine ⟨data, h, fun scanned configured hlisted => ?_⟩
    rw [lookup_scanDevices, h, Option.filter_eq_some_iff]
    exact ⟨rfl, hbacked scanned configured hlisted⟩

section Rescan

variable {sm : SmartManager} {name type : String} {output : SmartctlOutput} {parser : Parser}

/-- **The device of an output that is recognized is in the list of every scan.** -/
theorem Recognized.backed (h : Recognized sm.smartDevices name type output)
    (hexcluded : name ∉ sm.excludedDevices) {scanned : List DeviceInfo}
    (configured : List DeviceInfo) {d : DeviceInfo} (hd : d ∈ scanned) (hname : d.name = name)
    (htype : d.type = type) :
    Smart.backed (filterExcludedDevices sm (mergeDeviceLists sm.smartDevices scanned configured))
      (smartDataOf output parser) := by
  obtain ⟨prev, hprev, hverified, hptype⟩ := h.verified
  have hkey : d.key = (listedDevice name type).key := by
    rw [DeviceInfo.key, hname, htype]
    rfl
  have hm : Merged sm.smartDevices scanned configured _ := merged_mergeEntries
  obtain ⟨e, he, -, rfl⟩ := hm.exists_entry hd (hname ▸ h.named)
  have hs := hm.sound e he
  have hdname : e.device.name = name := hs.name.trans hname
  have hdtype : e.device.type = output.deviceType := by
    rw [(hs.verified prev ((previous_congr _ hkey).trans hprev) hverified).1, hptype]
  have hmem : e.device ∈ mergeDeviceLists sm.smartDevices scanned configured := by
    rw [mergeDeviceLists, if_neg fun hnil => List.ne_nil_of_mem hd hnil.1]
    exact List.mem_map.mpr ⟨e, List.mem_reverse.mpr he, rfl⟩
  refine (backed_iff h.deviceType).mpr ⟨e.device, List.mem_filter.mpr ⟨?_, ?_⟩, ?_⟩
  · exact mem_filterExcludedDevices hmem (hdname ▸ h.named) (hdname ▸ hexcluded)
  · simpa [hdname] using h.named
  · rw [DeviceInfo.key, hdname, hdtype, ← h.deviceName]
    rfl

/-- What a scan of devices of one name makes of them, without a configuration. -/
theorem named_rescan (hexcluded : name ∉ sm.excludedDevices) {scanned : List DeviceInfo}
    (hne : scanned ≠ []) (hscanned : ∀ d ∈ scanned, d.name = name) :
    named (filterExcludedDevices sm (mergeDeviceLists sm.smartDevices scanned [])) =
      (named scanned).map (entered sm.smartDevices) := by
  have hmem : ∀ d ∈ (named scanned).map (entered sm.smartDevices), d.name = name ∧ name ≠ "" := by
    intro d hd
    obtain ⟨d', hd', rfl⟩ := List.mem_map.mp hd
    obtain ⟨hd', hname'⟩ := List.mem_filter.mp hd'
    rw [hscanned d' hd'] at hname'
    exact ⟨(entered_name _ d').trans (hscanned d' hd'), by simpa using hname'⟩
  rw [mergeDeviceLists_nil _ hne, named_filterExcludedDevices (fun d hd => (hmem d hd).1) hexcluded]
  refine List.filter_eq_self.mpr fun d hd => ?_
  rw [(hmem d hd).1]
  simpa using (hmem d hd).2

/-- Data without a type is lost where the device is there twice. -/
theorem deviceType_ne_of_backed {d : DeviceInfo} (hexcluded : d.name ∉ sm.excludedDevices)
    (h : Smart.backed (filterExcludedDevices sm (mergeDeviceLists sm.smartDevices [d, d] []))
      (smartDataOf output parser)) : output.deviceType ≠ "" := by
  intro hempty
  have hrescan := named_rescan hexcluded (List.cons_ne_nil d [d]) (by simp)
  rw [backed_iff_of_untyped hempty, hrescan] at h
  by_cases hname : d.name = ""
  · simp [named, hname] at h
  · have htwice : (named [d, d]).map (entered sm.smartDevices) =
        List.replicate 2 (entered sm.smartDevices d) := by
      simp [named, hname]
    rw [htwice, List.countP_replicate] at h
    split at h <;> omega

/-- **Three scans tell that an output is recognized**: of the device twice, of the device alone, and
of the device with another type configured. -/
theorem recognized_of_backed (hexcluded : name ∉ sm.excludedDevices)
    (h : ∀ scanned configured : List DeviceInfo, (∃ d ∈ scanned, d.name = name ∧ d.type = type) →
      Smart.backed (filterExcludedDevices sm (mergeDeviceLists sm.smartDevices scanned configured))
        (smartDataOf output parser)) :
    Recognized sm.smartDevices name type output := by
  have hlisted : ∃ d ∈ [listedDevice name type], d.name = name ∧ d.type = type :=
    ⟨_, List.mem_singleton_self _, rfl, rfl⟩
  have htyped : output.deviceType ≠ "" := by
    refine deviceType_ne_of_backed (d := listedDevice name type) hexcluded (h _ [] ?_)
    exact ⟨_, List.mem_cons_self, rfl, rfl⟩
  obtain ⟨device, hdevice, hkey⟩ := (backed_iff htyped).mp (h _ [] hlisted)
  rw [named_rescan hexcluded (List.cons_ne_nil _ _) (by simp [listedDevice])] at hdevice
  obtain ⟨d, hd, rfl⟩ := List.mem_map.mp hdevice
  obtain ⟨hd, hnamed⟩ := List.mem_filter.mp hd
  obtain rfl := List.mem_singleton.mp hd
  have hname : (listedDevice name type).name ≠ "" := by simpa using hnamed
  have hreported : output.deviceName = name :=
    (congrArg DeviceKey.name hkey).symm.trans (entered_name _ _)
  refine ⟨hname, hreported, htyped, ?_⟩
  by_cases hverified : ∃ prev ∈ previous sm.smartDevices (listedDevice name type), prev.typeVerified
  · obtain ⟨prev, hprev, hv⟩ := hverified
    rw [entered_of_verified hprev hv] at hkey
    exact ⟨prev, hprev, hv, congrArg DeviceKey.deviceType hkey⟩
  · -- a device that is not verified takes any type that is configured
    have hentered : entered sm.smartDevices (listedDevice name type) = listedDevice name type :=
      entered_of_unverified fun prev hprev hv => hverified ⟨prev, hprev, hv⟩
    have hconfigured : ∀ x : String, x ≠ "" → output.deviceType = GoText.trimSpace x := by
      intro x hx
      have hb := h _ [listedDevice name x] hlisted
      rw [mergeDeviceLists_singleton _ hname (c := listedDevice name x) rfl, hentered] at hb
      obtain ⟨device, hdevice, hkey⟩ := (backed_iff htyped).mp hb
      rw [named_filterExcludedDevices (by simp [apply_name, listedDevice]) hexcluded] at hdevice
      obtain rfl := List.mem_singleton.mp (List.mem_filter.mp hdevice).1
      exact (congrArg DeviceKey.deviceType hkey).symm.trans (apply_type_of_unverified rfl hx)
    have hsame := (hconfigured "nvme" (by decide)).symm.trans (hconfigured "sat" (by decide))
    exact absurd hsame (by decide +kernel)

/-- **The data collected of a device survives the scans of it exactly if it is recognized.** -/
theorem survives_iff (sm : SmartManager) (i : ℕ) (dev : DeviceInfo) (output : SmartctlOutput)
    (type : String) (haccepted : (parseSmartOutput sm dev output).2.2)
    (hexcluded : dev.name ∉ sm.excludedDevices) :
    Survives (collectSmart sm i dev output) dev.name type output.serialNumber ↔
      Recognized (collectSmart sm i dev output).smartDevices dev.name type output := by
  obtain ⟨parser, hlookup⟩ := exists_lookup_collectSmart haccepted i
  rw [← excludedDevices_collectSmart sm i dev output] at hexcluded
  rw [survives_iff_backed hlookup]
  constructor
  · exact recognized_of_backed hexcluded
  · rintro hrec scanned configured ⟨d, hd, hname, htype⟩
    exact hrec.backed hexcluded configured hd hname htype

/-- What `smartctl` prints of a SATA drive. -/
def sataOutput : SmartctlOutput where
  decodes _ := true
  sections := some (· = .sat)
  deviceName := "/dev/sda"
  deviceType := "sat"
  serialNumber := "9C40918040082"
  modelName := "KINGSTON SA400"
  scsiModelName := ""
  scsiVendor := ""
  scsiProduct := ""
  firmwareVersion := "S1Z40102"
  scsiRevision := ""
  capacity := 240057409536
  temperature := 31
  nvmeTemperature := 0
  ataTemperature := none
  passed := true

/-- The manager before anything is collected of a device. -/
def managerOf (dev : DeviceInfo) : SmartManager := ⟨∅, [dev], []⟩

/-- The data of a drive that is reported by the type of the scan survives. -/
theorem survives_of_same_type :
    Survives (collectSmart (managerOf (listedDevice "/dev/sda" "sat")) 0
      (listedDevice "/dev/sda" "sat") sataOutput) "/dev/sda" "sat" "9C40918040082" :=
  (survives_iff _ 0 (listedDevice "/dev/sda" "sat") sataOutput "sat" (by decide +kernel)
    (by decide)).mpr ⟨by decide, rfl, by decide, by decide +kernel⟩

/-- A scan lists a SATA drive as `scsi`, `smartctl` reports it as `sat`, and the next scan deletes
its data. -/
theorem lost_of_reported_type : ¬ ∀ (sm : SmartManager) (i : ℕ) (dev : DeviceInfo)
    (output : SmartctlOutput) (type : String), sm.smartDevices[i]? = some dev →
    (parseSmartOutput sm dev output).2.2 → dev.name ∉ sm.excludedDevices → dev.type = type →
      Survives (collectSmart sm i dev output) dev.name type output.serialNumber := by
  intro h
  obtain ⟨data, hdata, hkept⟩ := h (managerOf (listedDevice "/dev/sda" "scsi")) 0
    (listedDevice "/dev/sda" "scsi") sataOutput "scsi" rfl (by decide +kernel) (by decide) rfl
  have hscan := hkept [listedDevice "/dev/sda" "scsi"] [] ⟨_, List.mem_cons_self, rfl, rfl⟩
  have hlost : (scanDevices (collectSmart (managerOf (listedDevice "/dev/sda" "scsi")) 0
      (listedDevice "/dev/sda" "scsi") sataOutput) [listedDevice "/dev/sda" "scsi"]
        []).smartDataMap.lookup "9C40918040082" = none := by
    decide +kernel
  cases hlost.symm.trans hscan

end Rescan

end Smart

end Agent

end Beszel
