import Beszel.Agent.SmartCollect
import Beszel.Machinery.Run

/-!
# Agent/SmartRefresh — the SMART data over all refreshes

    scan ──▸ devices ──collect──▸ data of a serial number ──▸ answer
                 ╰──no device any more──▸ no data

`Refresh`, `ScanDevices` and `GetCurrentData` of `agent/smart.go`, as the handler of the hub's
requests calls them.  A refresh holds a mutex, so a run is a sequence of refreshes, each with what
the configuration says and what `smartctl` prints.
-/

namespace Beszel

open Machinery

namespace Agent

namespace Smart

namespace Refresh

open Collect

/-! ## Scanning -/

/-- The errors of `Refresh`. -/
inductive RefreshError
  | noValidSmartData
  | invalidEntry (entry : String)
  | smartctl (err : CommandError)
  deriving DecidableEq

/-- A device of `smartctl --scan -j`. -/
structure ScannedDevice where
  name : String
  type : String
  infoName : String
  protocol : String

/-- `parseScan`; the output is `none` if it is not JSON. -/
def parseScan (output : Option (List ScannedDevice)) : Option (List DeviceInfo) :=
  match output with
  | none | some [] => none
  | some devices => some (devices.map fun d => ⟨d.name, d.type, d.infoName, d.protocol, false, ""⟩)

/-- The loop of `parseConfiguredDevices`. -/
def parseEntries : List String → Except RefreshError (List DeviceInfo)
  | [] => .ok []
  | entry :: entries =>
    let entry := GoText.trimSpace entry
    if entry = "" then parseEntries entries
    else
      let parts := (GoText.splitTwo entry ":").getD (entry, "")
      let name := GoText.trimSpace parts.1
      let devType := GoText.toLower (GoText.trimSpace parts.2)
      if name = "" then .error (.invalidEntry entry)
      else (parseEntries entries).map (⟨name, devType, "", "", false, ""⟩ :: ·)

/-- `parseConfiguredDevices`, on what stands between the separators. -/
def parseConfiguredDevices (entries : List String) : Except RefreshError (List DeviceInfo) :=
  match parseEntries entries with
  | .ok [] => .error .noValidSmartData
  | devices => devices

/-- What a refresh finds: the time, what is between the separators of `SMART_DEVICES` if it is set,
the scan, and what the runs for a device return, by its place in the list. -/
structure Input where
  now : ℤ
  smartDevices : Option (List String)
  scan : Except CommandError (Option (List ScannedDevice))
  runs : ℕ → Runs

/-- The manager with the time of the last scan, the arguments of all runs for a device and what they
printed, and the answers so far, newest first: the error of the refresh, and the data. -/
structure State where
  sm : SmartManager
  lastScanTime : Option ℤ
  commands : List (List String)
  outputs : List Output
  answers : List (Option RefreshError × GoMap SmartData)

/-- `NewSmartManager`, with what `refreshExcludedDevices` finds in `EXCLUDE_SMART`. -/
def State.new (excludedDevices : List String) : State :=
  ⟨⟨∅, [], excludedDevices⟩, none, [], [], []⟩

/-- `30*time.Minute`. -/
def scanInterval : ℤ := 1800000000000

/-- The configured devices. -/
def configuredDevices (input : Input) : Except RefreshError (List DeviceInfo) :=
  match input.smartDevices with
  | none => .ok []
  | some entries => parseConfiguredDevices entries

/-- The scanned devices, and the error of the scan. -/
def scannedDevices (input : Input) : List DeviceInfo × Option RefreshError :=
  match input.scan with
  | .error err => ([], some (.smartctl err))
  | .ok output =>
    match parseScan output with
    | some devices => (devices, none)
    | none => ([], some .noValidSmartData)

/-- **`ScanDevices`**, where it is not forced. -/
def scanDevices (s : State) (input : Input) : State × Option RefreshError :=
  if s.lastScanTime.any (input.now - · < scanInterval) then (s, none)
  else
    let s := { s with lastScanTime := some input.now }
    match configuredDevices input with
    | .error err => (s, some err)
    | .ok configuredDevices =>
      let (scannedDevices, scanErr) := scannedDevices input
      let sm := Smart.scanDevices s.sm scannedDevices configuredDevices
      ({ s with sm },
        if sm.smartDevices.length = 0 then some (scanErr.getD .noValidSmartData) else none)

/-! ## Collecting -/

/-- An error of `CollectSmart`. -/
def ofCollect : CollectError → RefreshError
  | .noValidSmartData => .noValidSmartData
  | .smartctl err => .smartctl err

/-- What the loop of `Refresh` carries: the manager, the last error, and the arguments of the runs
with what they printed. -/
structure Progress where
  sm : SmartManager
  collectErr : Option RefreshError
  commands : List (List String)
  outputs : List Output

/-- What `CollectSmart` runs, in that order, as far as it gets: the second run is the one that wakes
the device where the first one says that it is in standby. -/
def Runs.inOrder (runs : Runs) : List Run :=
  if runs.first.err = some (.exit 2) then [runs.first, runs.bypass, runs.fallback]
  else [runs.first, runs.fallback]

/-- What was printed: by as many runs as there are commands. -/
def Runs.printed (runs : Runs) (commands : List (List String)) : List Output :=
  ((Runs.inOrder runs).take commands.length).map (·.output)

/-- The body of the loop, for the device at a place; it is updated in its place. -/
def collectDevice (base : String → String) (runs : ℕ → Runs) (p : Progress) (i : ℕ) :
    Option Progress :=
  match p.sm.smartDevices[i]? with
  | none => some p
  | some deviceInfo =>
    (Collect.collectSmart base p.sm deviceInfo (runs i)).map fun c =>
      { sm := { c.sm with smartDevices := c.sm.smartDevices.set i c.deviceInfo }
        collectErr := (c.err.map ofCollect).or p.collectErr
        commands := p.commands ++ c.commands
        outputs := p.outputs ++ Runs.printed (runs i) c.commands }

/-- `resolveRefreshError`. -/
def resolveRefreshError (sm : SmartManager) (scanErr collectErr : Option RefreshError) :
    Option RefreshError :=
  let noDevices := sm.smartDevices.length = 0
  let noData := sm.smartDataMap.entries.length = 0
  if noDevices ∧ scanErr.isSome then scanErr
  else if ¬ noData then none
  else if collectErr.isSome then collectErr
  else if scanErr.isSome then scanErr
  else some .noValidSmartData

/-- **`Refresh`** and then `GetCurrentData`, for a request.  `none` is a panic. -/
def step (base : String → String) (s : State) (input : Input) : Option State :=
  let (s, scanErr) := scanDevices s input
  let devices := List.range s.sm.smartDevices.length
  (run (collectDevice base input.runs) ⟨s.sm, none, s.commands, s.outputs⟩ devices).map fun p =>
    { s with
      sm := p.sm
      commands := p.commands
      outputs := p.outputs
      answers := (resolveRefreshError p.sm scanErr p.collectErr, p.sm.smartDataMap) :: s.answers }

/-! ## What is collected -/

/-- No run prints the JSON `null`. -/
structure Runs.NonNull (runs : Runs) : Prop where
  first : runs.first.output ≠ .null
  bypass : runs.bypass.output ≠ .null
  fallback : runs.fallback.output ≠ .null

/-- **Data that was printed**: under its serial number, as a parser accepted it. -/
def Printed (outputs : List Output) (serialNumber : String) (data : SmartData) : Prop :=
  ∃ output parser, .json output ∈ outputs ∧ accepts output parser = true ∧
    output.serialNumber = serialNumber ∧ data = smartDataOf output parser

/-- All data of a manager was printed. -/
def AllPrinted (outputs : List Output) (sm : SmartManager) : Prop :=
  ∀ serialNumber, ∀ data ∈ sm.smartDataMap.lookup serialNumber, Printed outputs serialNumber data

/-- A run of `smartctl` for a device with a name that is not excluded; the name comes last. -/
def Asks (excludedDevices : List String) (command : List String) : Prop :=
  ∃ name, command.getLast? = some name ∧ name ≠ "" ∧ name ∉ excludedDevices

section Collect

variable {outputs outputs' : List Output} {base : String → String} {sm sm' : SmartManager}
  {deviceInfo deviceInfo' : DeviceInfo} {valid : Bool}

theorem Printed.mono {serialNumber : String} {data : SmartData}
    (h : Printed outputs serialNumber data) (hsub : outputs ⊆ outputs') :
    Printed outputs' serialNumber data := by
  obtain ⟨output, parser, hmem, haccepts, hserial, hdata⟩ := h
  exact ⟨output, parser, hsub hmem, haccepts, hserial, hdata⟩

theorem AllPrinted.mono (h : AllPrinted outputs sm) (hsub : outputs ⊆ outputs') :
    AllPrinted outputs' sm := fun serialNumber data hdata => (h serialNumber data hdata).mono hsub

/-- What collecting for a device keeps. -/
structure Keeps (outputs : List Output) (sm sm' : SmartManager)
    (deviceInfo deviceInfo' : DeviceInfo) : Prop where
  devices : sm'.smartDevices = sm.smartDevices
  excluded : sm.excludedDevices ⊆ sm'.excludedDevices
  named : deviceInfo.name ≠ "" → deviceInfo'.name ≠ ""
  printed : AllPrinted outputs sm → AllPrinted outputs sm'

theorem Keeps.refl (outputs : List Output) (sm : SmartManager)
    (deviceInfo : DeviceInfo) : Keeps outputs sm sm deviceInfo deviceInfo :=
  ⟨rfl, List.Subset.refl _, id, id⟩

theorem Keeps.trans {sm'' : SmartManager} {deviceInfo'' : DeviceInfo}
    (h : Keeps outputs sm sm' deviceInfo deviceInfo')
    (h' : Keeps outputs sm' sm'' deviceInfo' deviceInfo'') :
    Keeps outputs sm sm'' deviceInfo deviceInfo'' where
  devices := h'.devices.trans h.devices
  excluded := List.Subset.trans h.excluded h'.excluded
  named := h'.named ∘ h.named
  printed := h'.printed ∘ h.printed

/-- What a parser accepts is put under its serial number. -/
theorem allPrinted_parseSmartFor {output : SmartctlOutput} {parser : Parser}
    (hprinted : .json output ∈ outputs) (haccepts : accepts output parser = true)
    (h : AllPrinted outputs sm) : AllPrinted outputs (parseSmartFor sm output parser) := by
  intro serialNumber data hdata
  unfold parseSmartFor at hdata
  dsimp only at hdata
  by_cases hserial : serialNumber = output.serialNumber
  · subst hserial
    rw [AList.lookup_insert, Option.mem_some_iff] at hdata
    exact ⟨output, parser, hprinted, haccepts, rfl, hdata.symm⟩
  · rw [AList.lookup_insert_ne hserial] at hdata
    exact h serialNumber data hdata

theorem keeps_json {output : SmartctlOutput} (hprinted : .json output ∈ outputs)
    (h : Smart.parseSmartOutput sm deviceInfo output = (sm', deviceInfo', valid)) :
    Keeps outputs sm sm' deviceInfo deviceInfo' := by
  have hname := (outcome_json sm deviceInfo output).name
  have hcases := parseSmartOutput_json_cases sm deviceInfo output
  rw [h] at hname hcases
  have hnamed : deviceInfo.name ≠ "" → deviceInfo'.name ≠ "" := fun hne hempty =>
    hne (hname.symm.trans hempty)
  obtain ⟨parser, hfind, hparse⟩ | ⟨-, hparse⟩ := hcases
  · obtain rfl : sm' = parseSmartFor sm output parser := congrArg Prod.fst hparse
    exact ⟨rfl, List.Subset.refl _, hnamed,
      allPrinted_parseSmartFor hprinted (List.find?_some hfind)⟩
  · obtain rfl : sm' = sm := congrArg Prod.fst hparse
    exact ⟨rfl, List.Subset.refl _, hnamed, id⟩

theorem keeps_parseSmartOutput {output : Output} (hprinted : output ∈ outputs)
    (h : Collect.parseSmartOutput sm deviceInfo output = some (sm', deviceInfo', valid)) :
    Keeps outputs sm sm' deviceInfo deviceInfo' := by
  cases output with
  | null =>
    rw [parseSmartOutput_null] at h
    cases h
  | json output =>
    rw [parseSmartOutput_json] at h
    have hparse := Option.some.inj h
    exact keeps_json hprinted hparse

theorem keeps_tryNamespace {commands : List (List String)} {fallback : Run} {c : Collected}
    (hprinted : fallback.output ∈ outputs)
    (h : tryNamespace sm deviceInfo commands fallback = some c) :
    Keeps outputs sm c.sm deviceInfo c.deviceInfo := by
  unfold tryNamespace at h
  dsimp only at h
  rw [Option.map_eq_some_iff] at h
  obtain ⟨⟨sm', deviceInfo', valid⟩, hparse, rfl⟩ := h
  have hkeeps := keeps_parseSmartOutput hprinted hparse
  have hname : deviceInfo.name ++ "n1" ≠ "" := by
    rw [Ne, String.append_eq_empty_iff]
    exact fun h => absurd h.2 (by decide)
  refine ⟨?_, ?_, fun _ => hkeeps.named hname, fun hall => ?_⟩
  · dsimp only [report]
    split_ifs <;> exact hkeeps.devices
  · dsimp only [report]
    split_ifs
    · exact List.subset_cons_of_subset _ hkeeps.excluded
    · exact hkeeps.excluded
  · dsimp only [report]
    split_ifs <;> exact hkeeps.printed hall

/-- The fallback is one more command. -/
theorem length_tryNamespace {commands : List (List String)} {fallback : Run} {c : Collected}
    (h : tryNamespace sm deviceInfo commands fallback = some c) :
    c.commands.length = commands.length + 1 := by
  unfold tryNamespace at h
  dsimp only at h
  rw [Option.map_eq_some_iff] at h
  obtain ⟨⟨sm', deviceInfo', valid⟩, -, rfl⟩ := h
  exact List.length_append

/-- What is collected from a run keeps what the run printed, and the fallback, if there is a command
for it. -/
theorem keeps_collectFrom {commands : List (List String)} {run fallback : Run} {c : Collected}
    (h : collectFrom base sm deviceInfo commands run fallback = some c)
    (hrun : run.output ∈ outputs)
    (hfallback : c.commands.length = commands.length + 1 → fallback.output ∈ outputs) :
    Keeps outputs sm c.sm deviceInfo c.deviceInfo := by
  unfold collectFrom at h
  rw [Option.bind_eq_some_iff] at h
  obtain ⟨⟨sm', deviceInfo', valid⟩, hparse, hc⟩ := h
  have hkeeps := keeps_parseSmartOutput hrun hparse
  dsimp only at hc
  split_ifs at hc
  · exact hkeeps.trans (keeps_tryNamespace (hfallback (length_tryNamespace hc)) hc)
  · cases hc
    exact hkeeps

theorem length_collectFrom {commands : List (List String)} {run fallback : Run} {c : Collected}
    (h : collectFrom base sm deviceInfo commands run fallback = some c) :
    commands.length ≤ c.commands.length := by
  unfold collectFrom at h
  rw [Option.bind_eq_some_iff] at h
  obtain ⟨⟨sm', deviceInfo', valid⟩, -, hc⟩ := h
  dsimp only at hc
  split_ifs at hc
  · exact (Nat.le_succ _).trans_eq (length_tryNamespace hc).symm
  · cases hc
    exact le_rfl

/-- A run that there is a command for was made. -/
theorem mem_printed {runs : Runs} {commands : List (List String)} {i : ℕ} {run : Run}
    (hrun : (Runs.inOrder runs)[i]? = some run) (hi : i < commands.length) :
    run.output ∈ Runs.printed runs commands := by
  refine List.mem_map_of_mem (List.mem_of_getElem? (i := i) ?_)
  rw [List.getElem?_take_of_lt hi, hrun]

/-- **What collecting for a device keeps**, with what the runs printed that were made. -/
theorem keeps_collectSmart {runs : Runs} {c : Collected}
    (h : Collect.collectSmart base sm deviceInfo runs = some c)
    (hprinted : Runs.printed runs c.commands ⊆ outputs) :
    Keeps outputs sm c.sm deviceInfo c.deviceInfo := by
  unfold Collect.collectSmart at h
  dsimp only at h
  split_ifs at h with hexcluded hstandby hdata
  · cases h
    exact .refl outputs sm deviceInfo
  · cases h
    exact .refl outputs sm deviceInfo
  · have hlength := length_collectFrom h
    have horder : Runs.inOrder runs = [runs.first, runs.bypass, runs.fallback] := if_pos hstandby
    refine keeps_collectFrom h (hprinted (mem_printed (i := 1) ?_ hlength)) fun hmore =>
      hprinted (mem_printed (i := 2) ?_ hmore.ge)
    all_goals rw [horder]; rfl
  · have hlength := length_collectFrom h
    have horder : Runs.inOrder runs = [runs.first, runs.fallback] := if_neg hstandby
    refine keeps_collectFrom h (hprinted (mem_printed (i := 0) ?_ hlength)) fun hmore =>
      hprinted (mem_printed (i := 1) ?_ hmore.ge)
    all_goals rw [horder]; rfl

/-! ## What is run -/

theorem asks_smartctlArgs {includeStandby : Bool} {excludedDevices : List String}
    (hname : deviceInfo.name ≠ "") (hincluded : deviceInfo.name ∉ excludedDevices) :
    Asks excludedDevices (smartctlArgs deviceInfo includeStandby) :=
  ⟨deviceInfo.name, List.getLast?_concat, hname, hincluded⟩

theorem asks_tryNamespace {excludedDevices : List String} {commands : List (List String)}
    {fallback : Run} {c : Collected}
    (hcommands : ∀ command ∈ commands, Asks excludedDevices command)
    (hincluded : deviceInfo.name ++ "n1" ∉ excludedDevices)
    (h : tryNamespace sm deviceInfo commands fallback = some c) :
    ∀ command ∈ c.commands, Asks excludedDevices command := by
  unfold tryNamespace at h
  dsimp only at h
  rw [Option.map_eq_some_iff] at h
  obtain ⟨⟨sm', deviceInfo', valid⟩, -, rfl⟩ := h
  dsimp only [report]
  have hname : deviceInfo.name ++ "n1" ≠ "" := by
    rw [Ne, String.append_eq_empty_iff]
    exact fun h => absurd h.2 (by decide)
  rw [List.forall_mem_append, List.forall_mem_singleton]
  exact ⟨hcommands, asks_smartctlArgs hname hincluded⟩

theorem asks_collectFrom {excludedDevices : List String} {commands : List (List String)}
    {run fallback : Run} {c : Collected} (hexcluded : excludedDevices ⊆ sm.excludedDevices)
    (hcommands : ∀ command ∈ commands, Asks excludedDevices command)
    (h : collectFrom base sm deviceInfo commands run fallback = some c) :
    ∀ command ∈ c.commands, Asks excludedDevices command := by
  unfold collectFrom at h
  rw [Option.bind_eq_some_iff] at h
  obtain ⟨⟨sm', deviceInfo', valid⟩, hparse, hc⟩ := h
  have hkeeps := keeps_parseSmartOutput (List.mem_singleton.mpr rfl) hparse
  dsimp only at hc
  split_ifs at hc with hfallback
  · -- the namespace is not excluded either
    simp only [Bool.and_eq_true, decide_eq_true_eq] at hfallback
    have hincluded : deviceInfo'.name ++ "n1" ∉ excludedDevices := fun hmem =>
      hfallback.2 (hkeeps.excluded (hexcluded hmem))
    exact asks_tryNamespace hcommands hincluded hc
  · cases hc
    exact hcommands

/-- **Collecting only asks for devices that are not excluded**, also where it wakes the device or
falls back to the namespace. -/
theorem asks_collectSmart {excludedDevices : List String} {runs : Runs} {c : Collected}
    (hname : deviceInfo.name ≠ "") (hexcluded : excludedDevices ⊆ sm.excludedDevices)
    (h : Collect.collectSmart base sm deviceInfo runs = some c) :
    ∀ command ∈ c.commands, Asks excludedDevices command := by
  unfold Collect.collectSmart at h
  dsimp only at h
  by_cases hmem : deviceInfo.name ∈ sm.excludedDevices
  · rw [if_pos hmem] at h
    cases h
    exact fun _ hcommand => nomatch hcommand
  rw [if_neg hmem] at h
  have hasks : ∀ includeStandby,
      Asks excludedDevices (smartctlArgs deviceInfo includeStandby) := fun _ =>
    asks_smartctlArgs hname fun h => hmem (hexcluded h)
  split_ifs at h
  · cases h
    exact List.forall_mem_singleton.mpr (hasks _)
  · refine asks_collectFrom hexcluded ?_ h
    rw [List.forall_mem_append, List.forall_mem_singleton, List.forall_mem_singleton]
    exact ⟨hasks _, hasks _⟩
  · exact asks_collectFrom hexcluded (List.forall_mem_singleton.mpr (hasks _)) h

/-- Collecting panics only where a run prints the JSON `null`. -/
theorem collectSmart_isSome {runs : Runs} (hruns : Runs.NonNull runs) :
    (Collect.collectSmart base sm deviceInfo runs).isSome := by
  have hparse : ∀ sm deviceInfo (output : Output), output ≠ .null →
      (Collect.parseSmartOutput sm deviceInfo output).isSome := by
    intro sm deviceInfo output hnull
    cases output with
    | null => exact absurd rfl hnull
    | json output => rw [parseSmartOutput_json, Option.isSome_some]
  have hfrom : ∀ commands {run : Run}, run.output ≠ .null →
      (collectFrom base sm deviceInfo commands run runs.fallback).isSome := by
    intro commands run hnull
    obtain ⟨⟨sm', deviceInfo', valid⟩, hsome⟩ :=
      Option.isSome_iff_exists.mp (hparse sm deviceInfo run.output hnull)
    unfold collectFrom
    rw [hsome, Option.bind_some]
    dsimp only
    split_ifs
    · unfold tryNamespace
      dsimp only
      rw [Option.isSome_map]
      exact hparse sm' _ _ hruns.fallback
    · rfl
  unfold Collect.collectSmart
  dsimp only
  split_ifs
  · rfl
  · rfl
  · exact hfrom _ hruns.bypass
  · exact hfrom _ hruns.first

end Collect

/-! ## All refreshes -/

section Run

variable {base : String → String} {excludedDevices : List String} {input : Input}

/-- What holds of the manager between any two devices. -/
structure Sane (excludedDevices : List String) (sm : SmartManager)
    (commands : List (List String)) (outputs : List Output) : Prop where
  excluded : excludedDevices ⊆ sm.excludedDevices
  named : ∀ device ∈ sm.smartDevices, device.name ≠ ""
  printed : AllPrinted outputs sm
  asks : ∀ command ∈ commands, Asks excludedDevices command

theorem length_collectDevice {runs : ℕ → Runs} {p p' : Progress} {i : ℕ}
    (h : collectDevice base runs p i = some p') :
    p'.sm.smartDevices.length = p.sm.smartDevices.length := by
  unfold collectDevice at h
  split at h
  · cases h
    rfl
  · rw [Option.map_eq_some_iff] at h
    obtain ⟨c, hc, rfl⟩ := h
    dsimp only
    rw [List.length_set, (keeps_collectSmart hc (List.Subset.refl _)).devices]

/-- What was printed is not forgotten. -/
theorem outputs_collectDevice {runs : ℕ → Runs} {p p' : Progress} {i : ℕ}
    (h : collectDevice base runs p i = some p') : p.outputs ⊆ p'.outputs := by
  unfold collectDevice at h
  split at h
  · cases h
    exact List.Subset.refl _
  · rw [Option.map_eq_some_iff] at h
    obtain ⟨c, -, rfl⟩ := h
    exact List.subset_append_left _ _

theorem Sane.collectDevice {runs : ℕ → Runs} {p p' : Progress} {i : ℕ}
    (hp : Sane excludedDevices p.sm p.commands p.outputs)
    (h : collectDevice base runs p i = some p') :
    Sane excludedDevices p'.sm p'.commands p'.outputs := by
  have houtputs := outputs_collectDevice h
  unfold Refresh.collectDevice at h
  split at h
  case h_1 =>
    cases h
    exact hp
  case h_2 deviceInfo hi =>
    rw [Option.map_eq_some_iff] at h
    obtain ⟨c, hc, rfl⟩ := h
    have hkeeps := keeps_collectSmart hc (List.subset_append_right p.outputs _)
    have hname := hp.named deviceInfo (List.mem_of_getElem? hi)
    refine ⟨List.Subset.trans hp.excluded hkeeps.excluded, fun device hdevice => ?_,
      hkeeps.printed (hp.printed.mono houtputs), ?_⟩
    · obtain hmem | rfl := List.mem_or_eq_of_mem_set hdevice
      · exact hp.named device (hkeeps.devices ▸ hmem)
      · exact hkeeps.named hname
    · exact List.forall_mem_append.mpr ⟨hp.asks, asks_collectSmart hname hp.excluded hc⟩

/-- An answer is an error or data that was printed. -/
structure Answers (outputs : List Output) (answer : Option RefreshError × GoMap SmartData) :
    Prop where
  err : answer.1 = none ↔ answer.2.entries ≠ []
  printed : ∀ serialNumber, ∀ data ∈ answer.2.lookup serialNumber,
    Printed outputs serialNumber data

/-- **The invariant of the refreshes**: and where no device is left, no data is. -/
structure Inv (excludedDevices : List String) (s : State) : Prop where
  sane : Sane excludedDevices s.sm s.commands s.outputs
  backed : s.sm.smartDevices = [] → s.sm.smartDataMap.entries = []
  answers : ∀ answer ∈ s.answers, Answers s.outputs answer

theorem inv_new (excludedDevices : List String) : Inv excludedDevices (.new excludedDevices) where
  sane :=
    { excluded := List.Subset.refl _
      named := fun _ h => nomatch h
      printed := fun _ _ h => nomatch h
      asks := fun _ h => nomatch h }
  backed _ := rfl
  answers _ h := nomatch h

/-- Merged devices have names. -/
theorem name_of_mem_mergeDeviceLists {existing scanned configured : List DeviceInfo}
    (hexisting : ∀ device ∈ existing, device.name ≠ "") {device : DeviceInfo}
    (h : device ∈ mergeDeviceLists existing scanned configured) : device.name ≠ "" := by
  unfold mergeDeviceLists at h
  split_ifs at h
  · exact hexisting device h
  obtain ⟨e, he, rfl⟩ := List.mem_map.mp h
  have hsound : Sound existing e := merged_mergeEntries.sound e (List.mem_reverse.mp he)
  exact hsound.name ▸ hsound.named

theorem backed_nil (data : SmartData) : backed [] data = false := by
  unfold backed
  split_ifs <;> simp [named]

/-- **A scan keeps the invariant**: it drops data, and all data if no device is left. -/
theorem Inv.scanDevices {s : State} (hs : Inv excludedDevices s) (input : Input) :
    Inv excludedDevices (scanDevices s input).1 := by
  unfold Refresh.scanDevices
  split
  · exact hs
  dsimp only
  split
  · exact ⟨hs.sane, hs.backed, hs.answers⟩
  · refine ⟨⟨hs.sane.excluded, fun device hdevice => ?_, fun serialNumber data hdata => ?_,
      hs.sane.asks⟩, fun hempty => ?_, hs.answers⟩
    · unfold Smart.scanDevices updateSmartDevices filterExcludedDevices at hdevice
      dsimp only at hdevice
      split_ifs at hdevice
      · exact name_of_mem_mergeDeviceLists hs.sane.named hdevice
      · exact name_of_mem_mergeDeviceLists hs.sane.named (List.mem_of_mem_filter hdevice)
    · dsimp only at hdata
      rw [lookup_scanDevices, Option.mem_def, Option.filter_eq_some_iff] at hdata
      exact hs.sane.printed serialNumber data hdata.1
    · unfold Smart.scanDevices updateSmartDevices at hempty ⊢
      dsimp only at hempty ⊢
      rw [hempty]
      simp [retain, backed_nil]

/-- The error says whether there is data. -/
theorem resolveRefreshError_eq_none {sm : SmartManager} {scanErr collectErr : Option RefreshError}
    (hbacked : sm.smartDevices = [] → sm.smartDataMap.entries = []) :
    resolveRefreshError sm scanErr collectErr = none ↔ sm.smartDataMap.entries ≠ [] := by
  unfold resolveRefreshError
  simp only [List.length_eq_zero_iff]
  by_cases hdata : sm.smartDataMap.entries = []
  · refine iff_of_false (fun hnone => ?_) fun hne => hne hdata
    rw [if_neg (not_not.mpr hdata)] at hnone
    split_ifs at hnone with hscan hcollect hscan'
    · exact absurd hnone (Option.isSome_iff_ne_none.mp hscan.2)
    · exact absurd hnone (Option.isSome_iff_ne_none.mp hcollect)
    · exact absurd hnone (Option.isSome_iff_ne_none.mp hscan')
  · refine iff_of_true ?_ hdata
    rw [if_neg fun h => hdata (hbacked h.1), if_pos hdata]

theorem Inv.step {s s' : State} (hs : Inv excludedDevices s)
    (h : step base s input = some s') : Inv excludedDevices s' := by
  have hscan := hs.scanDevices input
  unfold Refresh.step at h
  dsimp only at h
  generalize Refresh.scanDevices s input = scanned at hscan h
  obtain ⟨s, scanErr⟩ := scanned
  dsimp only at hscan h
  rw [Option.map_eq_some_iff] at h
  obtain ⟨p, hloop, rfl⟩ := h
  have hsane : Sane excludedDevices p.sm p.commands p.outputs :=
    inv_of_run (I := fun p => Sane excludedDevices p.sm p.commands p.outputs)
      (fun hp => hp.collectDevice) hscan.sane hloop
  have houtputs : s.outputs ⊆ p.outputs :=
    inv_of_run (I := fun p => s.outputs ⊆ p.outputs)
      (fun hp h => List.Subset.trans hp (outputs_collectDevice h)) (List.Subset.refl _) hloop
  have hlength : p.sm.smartDevices.length = s.sm.smartDevices.length :=
    inv_of_run (I := fun p => p.sm.smartDevices.length = s.sm.smartDevices.length)
      (fun hp h => (length_collectDevice h).trans hp) rfl hloop
  have hbacked : p.sm.smartDevices = [] → p.sm.smartDataMap.entries = [] := by
    -- the loop runs for no device
    intro hempty
    have hnone : s.sm.smartDevices = [] :=
      List.length_eq_zero_iff.mp (hlength.symm.trans (congrArg List.length hempty))
    rw [hnone, List.length_nil, List.range_zero, run_nil] at hloop
    cases hloop
    exact hscan.backed hnone
  refine ⟨hsane, hbacked, List.forall_mem_cons.mpr ⟨⟨?_, hsane.printed⟩, fun answer hanswer => ?_⟩⟩
  · exact resolveRefreshError_eq_none hbacked
  · have hold := hscan.answers answer hanswer
    exact ⟨hold.err, fun serialNumber data hdata =>
      (hold.printed serialNumber data hdata).mono houtputs⟩

theorem step_isSome (s : State) (hruns : ∀ i, Runs.NonNull (input.runs i)) :
    (step base s input).isSome := by
  unfold step
  dsimp only
  rw [Option.isSome_map]
  refine run_isSome fun p i _ => ?_
  unfold collectDevice
  split
  · rfl
  · rw [Option.isSome_map]
    exact collectSmart_isSome (hruns i)

/-- **Refreshes are safe and honest**: they only panic where the JSON `null` is printed, no device
of `EXCLUDE_SMART` is ever asked for, a refresh reports an error exactly if it has no data, and all
data was printed by a run that was made, and accepted under its serial number. -/
theorem refresh_runs (base : String → String) (excludedDevices : List String)
    (inputs : List Input) :
    ((∀ input ∈ inputs, ∀ i, Runs.NonNull (input.runs i)) →
        (run (step base) (.new excludedDevices) inputs).isSome) ∧
      ∀ s ∈ run (step base) (.new excludedDevices) inputs,
        (∀ command ∈ s.commands, Asks excludedDevices command) ∧
          ∀ answer ∈ s.answers, Answers s.outputs answer := by
  refine ⟨fun hruns => run_isSome fun s input hinput => step_isSome s (hruns input hinput), ?_⟩
  intro s hs
  have hinv : Inv excludedDevices s :=
    inv_of_run (fun hs h => hs.step h) (inv_new excludedDevices) hs
  exact ⟨hinv.sane.asks, hinv.answers⟩

/-- A disk that is scanned and read, and then sleeps: it is not woken. -/
def sleepingDisk : List Input :=
  let scan := .ok (some [⟨"/dev/sda", "sat", "", "ATA"⟩, ⟨"/dev/sdb", "sat", "", "ATA"⟩])
  [⟨0, none, scan, fun _ => ⟨⟨.json sataOutput, none⟩, .failed, .failed⟩⟩,
    ⟨1, none, scan, fun _ => ⟨⟨.json nullFields, some (.exit 2)⟩, .failed, .failed⟩⟩]

theorem refresh_runs_sleepingDisk : ∃ s,
    run (step id) (.new ["/dev/sdb"]) sleepingDisk = some s ∧
      s.commands = [["-d", "sat", "-a", "--json=c", "-l", "devstat", "/dev/sda"],
        ["-d", "sat", "-a", "--json=c", "-l", "devstat", "-n", "standby", "/dev/sda"]] ∧
      (∀ command ∈ s.commands, Asks ["/dev/sdb"] command) ∧
      s.answers.length = 2 ∧ ∀ answer ∈ s.answers, Answers s.outputs answer := by
  have hrun : (run (step id) (.new ["/dev/sdb"]) sleepingDisk).map
      (fun s => (s.commands, s.answers.length)) =
      some ([["-d", "sat", "-a", "--json=c", "-l", "devstat", "/dev/sda"],
        ["-d", "sat", "-a", "--json=c", "-l", "devstat", "-n", "standby", "/dev/sda"]], 2) := by
    decide
  obtain ⟨s, hs, hseen⟩ := Option.map_eq_some_iff.mp hrun
  obtain ⟨hcommands, hanswers⟩ := Prod.mk.inj hseen
  obtain ⟨hasks, hhonest⟩ := (refresh_runs id ["/dev/sdb"] sleepingDisk).2 s hs
  exact ⟨s, hs, hcommands, hasks, hanswers, hhonest⟩

end Run

end Refresh

end Smart

end Agent

end Beszel
