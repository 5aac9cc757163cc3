import Beszel.Agent.DiskSetup
import Beszel.Agent.Smart

/-!
# Agent/SmartCollect — up to three runs of `smartctl`

    first ──exit 2, no data──▸ bypass ──▸ parseSmartOutput ──fails, nvme0──▸ fallback: nvme0n1

`CollectSmart` of `agent/smart.go`, and the loop of `parseSmartOutput` parser by parser.  What a run
prints and how it exits is anything; where it prints JSON, `Agent/Smart` says what the parsers make
of it.  Two things go wrong: the parser for NVMe does not survive the JSON `null`, and a fallback
that fails leaves the device under the name of the fallback.
-/

namespace Beszel

namespace Agent

namespace Smart

namespace Collect

open DiskSetup (unixBase)

/-! ## Parsing, parser by parser -/

/-- What `smartctl` prints: the JSON `null`, or anything else. -/
inductive Output
  | null
  | json (output : SmartctlOutput)

/-- What decoding `null` leaves in a struct: no value at all.  The parser for NVMe decodes into a
pointer, and is left with none. -/
def nullFields : SmartctlOutput where
  decodes parser := parser ≠ .nvme
  sections := some fun _ => false
  deviceName := ""
  deviceType := ""
  serialNumber := ""
  modelName := ""
  scsiModelName := ""
  scsiVendor := ""
  scsiProduct := ""
  firmwareVersion := ""
  scsiRevision := ""
  capacity := 0
  temperature := 0
  nvmeTemperature := 0
  ataTemperature := none
  passed := false

/-- The fields that are read of an output. -/
def Output.fields : Output → SmartctlOutput
  | .null => nullFields
  | .json output => output

/-- A parser that reads a field of the pointer it does not have. -/
def panics : Output → Parser → Bool
  | .null, .nvme => true
  | _, _ => false

/-- "Try the selected parsers in order until we find one that succeeds"; `none` is a panic. -/
def tryParsers (sm : SmartManager) (output : Output) :
    List Parser → Option (SmartManager × Option Parser)
  | [] => some (sm, none)
  | parser :: parsers =>
    if panics output parser then none
    else if accepts output.fields parser then
      some (parseSmartFor sm output.fields parser, some parser)
    else tryParsers sm output parsers

/-- The device after a parse that found data with a parser. -/
def verifiedBy (deviceInfo : DeviceInfo) (parser : Parser) : DeviceInfo :=
  { adoptType { deviceInfo with parserType := parser.type } parser.type with typeVerified := true }

/-- **`parseSmartOutput`**, with the loop over the parsers. -/
def parseSmartOutput (sm : SmartManager) (deviceInfo : DeviceInfo) (output : Output) :
    Option (SmartManager × DeviceInfo × Bool) :=
  let (deviceInfo, deviceType) := detectType deviceInfo output.fields
  (tryParsers sm output (selectedParsers deviceType)).map fun
    | (sm, some parser) => (sm, verifiedBy deviceInfo parser, true)
    | (sm, none) => (sm, { deviceInfo with typeVerified := false }, false)

/-- **A parse is complete and prefers the detected format.** -/
structure Parsed (sm : SmartManager) (deviceInfo : DeviceInfo) (output : Output)
    (result : SmartManager × DeviceInfo × Bool) : Prop where
  complete : result.2.2 = true ↔ ∃ parser, accepts output.fields parser = true
  prefers : ∀ parser, deviceInfo.typeVerified = false →
    parser.type = detectSmartOutputType output.fields → accepts output.fields parser = true →
      result.1 = parseSmartFor sm output.fields parser
  verified : result.2.2 = true → ∃ parser, accepts output.fields parser = true ∧
    result.1 = parseSmartFor sm output.fields parser ∧
    result.2.1.parserType = parser.type ∧ result.2.1.typeVerified = true
  unverified : result.2.2 = false →
    result.2.1.typeVerified = false ∧ result.1.smartDataMap = sm.smartDataMap

theorem mem_selectedParsers (deviceType : String) (parser : Parser) :
    parser ∈ selectedParsers deviceType := by
  have hall : parser ∈ [Parser.nvme, .sat, .scsi] := by cases parser <;> decide
  unfold selectedParsers
  by_cases htype : parser.type = deviceType
  · exact List.mem_append_left _ (List.mem_filter.mpr ⟨hall, decide_eq_true htype⟩)
  · exact List.mem_append_right _ (List.mem_filter.mpr ⟨hall, decide_eq_true htype⟩)

/-- The parser of the type comes first. -/
theorem head_selectedParsers (parser : Parser) :
    ∃ others, selectedParsers parser.type = parser :: others := by
  cases parser <;> exact ⟨_, rfl⟩

/-- **The loop finds the first parser that accepts**, if none panics. -/
theorem tryParsers_json (sm : SmartManager) (output : SmartctlOutput) (parsers : List Parser) :
    tryParsers sm (.json output) parsers =
      match parsers.find? (accepts output) with
      | some parser => some (parseSmartFor sm output parser, some parser)
      | none => some (sm, none) := by
  induction parsers with
  | nil => rfl
  | cons parser parsers ih =>
    rw [tryParsers, if_neg (by simp [panics]), List.find?_cons]
    change (if accepts output parser = true then _ else _) = _
    cases accepts output parser with
    | true => rfl
    | false => exact ih

/-- The JSON `null` reaches the parser for NVMe: no other one accepts it. -/
theorem tryParsers_null (sm : SmartManager) {parsers : List Parser} (h : .nvme ∈ parsers) :
    tryParsers sm .null parsers = none := by
  induction parsers with
  | nil => cases h
  | cons parser parsers ih =>
    unfold tryParsers
    cases parser with
    | nvme => rfl
    | sat => exact ih ((List.mem_cons.mp h).resolve_left (by decide))
    | scsi => exact ih ((List.mem_cons.mp h).resolve_left (by decide))

/-- Where no parser panics, the loop is the search of `Agent/Smart`. -/
theorem parseSmartOutput_json (sm : SmartManager) (deviceInfo : DeviceInfo)
    (output : SmartctlOutput) :
    parseSmartOutput sm deviceInfo (.json output)
      = some (Smart.parseSmartOutput sm deviceInfo output) := by
  unfold parseSmartOutput Smart.parseSmartOutput
  dsimp only [Output.fields]
  rw [tryParsers_json]
  cases (selectedParsers (detectType deviceInfo output).2).find? (accepts output) <;> rfl

theorem parseSmartOutput_null (sm : SmartManager) (deviceInfo : DeviceInfo) :
    parseSmartOutput sm deviceInfo .null = none := by
  unfold parseSmartOutput
  dsimp only
  rw [tryParsers_null sm (mem_selectedParsers _ .nvme)]
  rfl

/-- A device that is not verified is parsed by the detected type first. -/
theorem detectType_of_unverified {deviceInfo : DeviceInfo} (h : deviceInfo.typeVerified = false)
    (output : SmartctlOutput) :
    (detectType deviceInfo output).2 = detectSmartOutputType output := by
  unfold detectType
  dsimp only
  rw [if_pos (.inr (by simp [h]))]

theorem adoptType_parserType (deviceInfo : DeviceInfo) (type : String) :
    (adoptType deviceInfo type).parserType = deviceInfo.parserType := by
  unfold adoptType
  split_ifs <;> rfl

theorem verifiedBy_parserType (deviceInfo : DeviceInfo) (parser : Parser) :
    (verifiedBy deviceInfo parser).parserType = parser.type :=
  adoptType_parserType { deviceInfo with parserType := parser.type } parser.type

/-- **What a parse does**: the first selected parser that accepts stores its data, or none does and
only the device changes. -/
theorem parseSmartOutput_json_cases (sm : SmartManager) (deviceInfo : DeviceInfo)
    (output : SmartctlOutput) :
    (∃ parser,
        (selectedParsers (detectType deviceInfo output).2).find? (accepts output) = some parser ∧
        Smart.parseSmartOutput sm deviceInfo output =
          (parseSmartFor sm output parser, verifiedBy (detectType deviceInfo output).1 parser,
            true)) ∨
      (∀ parser, accepts output parser = false) ∧
        Smart.parseSmartOutput sm deviceInfo output =
          (sm, { (detectType deviceInfo output).1 with typeVerified := false }, false) := by
  unfold Smart.parseSmartOutput
  dsimp only
  cases hfind : (selectedParsers (detectType deviceInfo output).2).find? (accepts output) with
  | none =>
    refine .inr ⟨fun parser => Bool.eq_false_iff.mpr ?_, rfl⟩
    exact List.find?_eq_none.mp hfind parser (mem_selectedParsers _ parser)
  | some parser => exact .inl ⟨parser, rfl, rfl⟩

/-- **The outcome of a parse** is that of the search for a parser. -/
theorem parsed_json (sm : SmartManager) (deviceInfo : DeviceInfo) (output : SmartctlOutput) :
    Parsed sm deviceInfo (.json output) (Smart.parseSmartOutput sm deviceInfo output) := by
  obtain ⟨parser, hfind, hparse⟩ | ⟨hreject, hparse⟩ :=
    parseSmartOutput_json_cases sm deviceInfo output
  · have haccepts : accepts output parser = true := List.find?_some hfind
    have hprefers : ∀ parser', deviceInfo.typeVerified = false →
        parser'.type = detectSmartOutputType output → accepts output parser' = true →
          parser' = parser := by
      intro parser' hunverified htype haccepts'
      obtain ⟨others, hselected⟩ := head_selectedParsers parser'
      rw [detectType_of_unverified hunverified, ← htype, hselected,
        List.find?_cons_of_pos haccepts'] at hfind
      exact Option.some.inj hfind
    rw [hparse]
    exact
      { complete := iff_of_true rfl ⟨parser, haccepts⟩
        prefers := fun parser' hunverified htype haccepts' =>
          congrArg (parseSmartFor sm output) (hprefers parser' hunverified htype haccepts').symm
        verified := fun _ => ⟨parser, haccepts, rfl, verifiedBy_parserType _ _, rfl⟩
        unverified := fun h => absurd h.symm Bool.false_ne_true }
  · have hrejects : ∀ parser, ¬ accepts output parser = true := fun parser =>
      Bool.eq_false_iff.mp (hreject parser)
    rw [hparse]
    exact
      { complete := iff_of_false Bool.false_ne_true fun ⟨parser, h⟩ => hrejects parser h
        prefers := fun parser _ _ h => absurd h (hrejects parser)
        verified := fun h => absurd h Bool.false_ne_true
        unverified := fun _ => ⟨rfl, rfl⟩ }

/-- **When a parse is complete**: for every device and every output but the JSON `null`. -/
theorem parsed_iff (sm : SmartManager) (deviceInfo : DeviceInfo) (output : Output) :
    (∃ result, parseSmartOutput sm deviceInfo output = some result ∧
        Parsed sm deviceInfo output result) ↔
      output ≠ .null := by
  cases output with
  | null =>
    refine iff_of_false ?_ fun h => h rfl
    rintro ⟨result, hresult, -⟩
    rw [parseSmartOutput_null] at hresult
    cases hresult
  | json output =>
    refine iff_of_true ⟨_, parseSmartOutput_json sm deviceInfo output, ?_⟩ (by simp)
    exact parsed_json sm deviceInfo output

/-- `null` for a new device: the parser for NVMe panics. -/
theorem parsed_fails :
    ¬ ∀ sm deviceInfo output, ∃ result, parseSmartOutput sm deviceInfo output = some result ∧
      Parsed sm deviceInfo output result := by
  intro hall
  obtain ⟨result, hresult, -⟩ := hall ⟨∅, [], []⟩ ⟨"/dev/sda", "", "", "", false, ""⟩ .null
  cases hresult

/-! ## Collecting -/

/-- How a run of `smartctl` fails: with an exit status, or otherwise. -/
inductive CommandError
  | exit (code : ℤ)
  | other
  deriving DecidableEq, Repr

/-- What a run of `smartctl` returns. -/
structure Run where
  output : Output
  err : Option CommandError

/-- What the up to three runs return: the first one, the one that wakes the device, and the one for
the path of the namespace. -/
structure Runs where
  first : Run
  bypass : Run
  fallback : Run

/-- What `CollectSmart` returns as an error. -/
inductive CollectError
  | noValidSmartData
  | smartctl (err : CommandError)
  deriving DecidableEq, Repr

/-- What `CollectSmart` leaves: the manager, the device, the error it returns, and the arguments of
the runs. -/
structure Collected where
  sm : SmartManager
  deviceInfo : DeviceInfo
  err : Option CollectError
  commands : List (List String)

/-- `smartctlArgs`. -/
def smartctlArgs (deviceInfo : DeviceInfo) (includeStandby : Bool) : List String :=
  let deviceType := GoText.toLower deviceInfo.type
  let parserType := GoText.toLower deviceInfo.parserType
  let effectiveType := if parserType = "" then deviceType else parserType
  (if deviceType ≠ "" ∧ deviceType ≠ "scsi" ∧ deviceType ≠ "ata" then ["-d", deviceInfo.type]
    else [])
    ++ ["-a", "--json=c"]
    ++ (if effectiveType = "sat" ∨ effectiveType = "ata" then ["-l", "devstat"] else [])
    ++ (if includeStandby then ["-n", "standby"] else [])
    ++ [deviceInfo.name]

/-- `hasDataForDevice`. -/
def hasDataForDevice (sm : SmartManager) (deviceName : String) : Bool :=
  sm.smartDataMap.entries.any (·.2.diskName = deviceName)

/-- `isNvmeControllerPath`, with the `filepath.Base` of the system. -/
def isNvmeControllerPath (base : String → String) (path : String) : Bool :=
  let base := base path
  let suffix := GoText.trimStart base "nvme"
  GoText.hasStart base "nvme" && suffix ≠ "" && suffix.toList.all fun c => '0' ≤ c && c ≤ '9'

/-- The end of `CollectSmart`. -/
def report (sm : SmartManager) (deviceInfo : DeviceInfo) (hasValidData : Bool)
    (err : Option CommandError) (commands : List (List String)) : Collected where
  sm := sm
  deviceInfo := deviceInfo
  err :=
    if hasValidData then none
    else some (err.elim .noValidSmartData .smartctl)
  commands := commands

/-- "Try namespace path as fallback", and exclude the controller if that works. -/
def tryNamespace (sm : SmartManager) (deviceInfo : DeviceInfo) (commands : List (List String))
    (fallback : Run) : Option Collected :=
  let controllerPath := deviceInfo.name
  let namespacePath := controllerPath ++ "n1"
  let deviceInfo := { deviceInfo with name := namespacePath }
  let commands := commands ++ [smartctlArgs deviceInfo false]
  (parseSmartOutput sm deviceInfo fallback.output).map fun (sm, deviceInfo, hasValidData) =>
    let sm :=
      if hasValidData then { sm with excludedDevices := controllerPath :: sm.excludedDevices }
      else sm
    report sm deviceInfo hasValidData fallback.err commands

/-- `CollectSmart` once the first run has returned, or the one that wakes the device.  `none` is a
panic. -/
def collectFrom (base : String → String) (sm : SmartManager) (deviceInfo : DeviceInfo)
    (commands : List (List String)) (run fallback : Run) : Option Collected :=
  (parseSmartOutput sm deviceInfo run.output).bind fun (sm, deviceInfo, hasValidData) =>
    if !hasValidData && run.err.isSome && isNvmeControllerPath base deviceInfo.name
        && deviceInfo.name ++ "n1" ∉ sm.excludedDevices then
      tryNamespace sm deviceInfo commands fallback
    else some (report sm deviceInfo hasValidData run.err commands)

/-- **`CollectSmart`**, with what the runs of `smartctl` return. -/
def collectSmart (base : String → String) (sm : SmartManager) (deviceInfo : DeviceInfo)
    (runs : Runs) : Option Collected :=
  if deviceInfo.name ∈ sm.excludedDevices then
    some ⟨sm, deviceInfo, some .noValidSmartData, []⟩
  else
    let hasExistingData := hasDataForDevice sm deviceInfo.name
    let commands := [smartctlArgs deviceInfo hasExistingData]
    -- the device is in standby
    if runs.first.err = some (.exit 2) then
      if hasExistingData then some ⟨sm, deviceInfo, none, commands⟩
      else
        collectFrom base sm deviceInfo (commands ++ [smartctlArgs deviceInfo false]) runs.bypass
          runs.fallback
    else collectFrom base sm deviceInfo commands runs.first runs.fallback

/-- **The device is restored on failure**: if an error is returned, the device has the name it had,
and the data is the same. -/
def Restores (sm : SmartManager) (deviceInfo : DeviceInfo) (result : Option Collected) : Prop :=
  ∀ r ∈ result, r.err ≠ none →
    r.deviceInfo.name = deviceInfo.name ∧ r.sm.smartDataMap = sm.smartDataMap

/-- No parser finds valid data, and none panics. -/
def Rejected (output : Output) : Prop :=
  output ≠ .null ∧ ∀ parser, accepts output.fields parser = false

/-- The run whose output is parsed: none for a device in standby that has data. -/
def parsedRun (sm : SmartManager) (deviceInfo : DeviceInfo) (runs : Runs) : Option Run :=
  if runs.first.err = some (.exit 2) then
    if hasDataForDevice sm deviceInfo.name then none else some runs.bypass
  else some runs.first

/-- **The fallback is tried and fails**: the run for a controller that is not excluded fails with no
valid data, and so does the one for its namespace, which is not excluded either. -/
structure FallbackFails (base : String → String) (sm : SmartManager) (deviceInfo : DeviceInfo)
    (runs : Runs) : Prop where
  included : deviceInfo.name ∉ sm.excludedDevices
  controller : isNvmeControllerPath base deviceInfo.name = true
  namespaceIncluded : deviceInfo.name ++ "n1" ∉ sm.excludedDevices
  run : ∃ run ∈ parsedRun sm deviceInfo runs, run.err ≠ none ∧ Rejected run.output
  fallback : Rejected runs.fallback.output

theorem adoptType_name (deviceInfo : DeviceInfo) (type : String) :
    (adoptType deviceInfo type).name = deviceInfo.name := by
  unfold adoptType
  split_ifs <;> rfl

theorem detectType_name (deviceInfo : DeviceInfo) (output : SmartctlOutput) :
    (detectType deviceInfo output).1.name = deviceInfo.name := by
  unfold detectType
  dsimp only
  split_ifs <;> first | rfl | exact adoptType_name _ _

theorem verifiedBy_name (deviceInfo : DeviceInfo) (parser : Parser) :
    (verifiedBy deviceInfo parser).name = deviceInfo.name :=
  adoptType_name { deviceInfo with parserType := parser.type } parser.type

/-- What a parse leaves for the rest of `CollectSmart`. -/
structure Outcome (sm : SmartManager) (deviceInfo : DeviceInfo) (output : Output)
    (result : SmartManager × DeviceInfo × Bool) : Prop where
  name : result.2.1.name = deviceInfo.name
  rejected : result.2.2 = false ↔ Rejected output
  unchanged : result.2.2 = false → result.1 = sm

theorem outcome_json (sm : SmartManager) (deviceInfo : DeviceInfo) (output : SmartctlOutput) :
    Outcome sm deviceInfo (.json output) (Smart.parseSmartOutput sm deviceInfo output) := by
  have hname := detectType_name deviceInfo output
  obtain ⟨parser, hfind, hparse⟩ | ⟨hreject, hparse⟩ :=
    parseSmartOutput_json_cases sm deviceInfo output
  · have haccepted : ¬ Rejected (.json output) := fun h =>
      Bool.false_ne_true ((h.2 parser).symm.trans (List.find?_some hfind))
    rw [hparse]
    generalize detectType deviceInfo output = detected at hname
    exact
      { name := (verifiedBy_name _ parser).trans hname
        rejected := iff_of_false Bool.false_ne_true.symm haccepted
        unchanged := fun h => absurd h.symm Bool.false_ne_true }
  · have hrejected : Rejected (.json output) := ⟨by simp, hreject⟩
    rw [hparse]
    generalize detectType deviceInfo output = detected at hname
    exact
      { name := hname
        rejected := iff_of_true rfl hrejected
        unchanged := fun _ => rfl }

/-- A parse that does not panic has an outcome, and `null` is not rejected: it panics. -/
theorem parseSmartOutput_cases (sm : SmartManager) (deviceInfo : DeviceInfo) (output : Output) :
    (parseSmartOutput sm deviceInfo output = none ∧ ¬ Rejected output) ∨
      ∃ result, parseSmartOutput sm deviceInfo output = some result ∧
        Outcome sm deviceInfo output result := by
  cases output with
  | null => exact .inl ⟨parseSmartOutput_null sm deviceInfo, fun h => h.1 rfl⟩
  | json output =>
    exact .inr ⟨_, parseSmartOutput_json sm deviceInfo output, outcome_json sm deviceInfo output⟩

/-- The namespace of a controller is another path. -/
theorem namespacePath_ne (controllerPath : String) : controllerPath ++ "n1" ≠ controllerPath := by
  intro h
  have hlength := congrArg String.length h
  have hsuffix : "n1".length = 2 := rfl
  rw [String.length_append, hsuffix] at hlength
  omega

theorem restores_none (sm : SmartManager) (deviceInfo : DeviceInfo) :
    Restores sm deviceInfo none := by
  intro r hr
  cases hr

theorem restores_some {sm : SmartManager} {deviceInfo : DeviceInfo} {r : Collected} :
    Restores sm deviceInfo (some r) ↔ (r.err ≠ none →
      r.deviceInfo.name = deviceInfo.name ∧ r.sm.smartDataMap = sm.smartDataMap) := by
  unfold Restores
  simp only [Option.mem_some_iff, forall_eq']

theorem report_err {sm : SmartManager} {deviceInfo : DeviceInfo} {hasValidData : Bool}
    {err : Option CommandError} {commands : List (List String)} :
    (report sm deviceInfo hasValidData err commands).err ≠ none ↔ hasValidData = false := by
  unfold report
  cases hasValidData <;> simp

/-- The fallback leaves the device under the name of the namespace. -/
theorem tryNamespace_restores {deviceInfo deviceInfo' : DeviceInfo}
    (hname : deviceInfo'.name = deviceInfo.name) (sm : SmartManager)
    (commands : List (List String)) (fallback : Run) :
    Restores sm deviceInfo (tryNamespace sm deviceInfo' commands fallback) ↔
      ¬ Rejected fallback.output := by
  unfold tryNamespace
  dsimp only
  obtain ⟨hpanics, hnot⟩ | ⟨⟨sm', deviceInfo'', hasValidData⟩, hparse, hrun⟩ :=
    parseSmartOutput_cases sm { deviceInfo' with name := deviceInfo'.name ++ "n1" }
      fallback.output
  · rw [hpanics]
    exact iff_of_true (restores_none sm deviceInfo) hnot
  · obtain ⟨hname', hrejected, -⟩ := hrun
    dsimp only at hname' hrejected
    rw [hname] at hname'
    rw [hparse, Option.map_some, restores_some, report_err, hrejected]
    constructor
    · intro h hfails
      exact namespacePath_ne deviceInfo.name (hname'.symm.trans (h hfails).1)
    · exact fun h hfails => absurd hfails h

/-- **Where the device is restored** after the run that is parsed. -/
theorem collectFrom_restores (base : String → String) (sm : SmartManager)
    (deviceInfo : DeviceInfo) (commands : List (List String)) (run fallback : Run) :
    Restores sm deviceInfo (collectFrom base sm deviceInfo commands run fallback) ↔
      ¬ (isNvmeControllerPath base deviceInfo.name = true ∧
        deviceInfo.name ++ "n1" ∉ sm.excludedDevices ∧ (run.err ≠ none ∧ Rejected run.output) ∧
        Rejected fallback.output) := by
  unfold collectFrom
  obtain ⟨hpanics, hnot⟩ | ⟨⟨sm', deviceInfo', hasValidData⟩, hparse, hrun⟩ :=
    parseSmartOutput_cases sm deviceInfo run.output
  · rw [hpanics]
    exact iff_of_true (restores_none sm deviceInfo) fun h => hnot h.2.2.1.2
  obtain ⟨hname, hrejected, hunchanged⟩ := hrun
  dsimp only at hname hrejected hunchanged
  rw [hparse, Option.bind_some]
  dsimp only
  split_ifs with hfallback
  · -- the fallback is tried: the manager is that of before
    simp only [Bool.and_eq_true, Bool.not_eq_true', decide_eq_true_eq, Option.isSome_iff_ne_none,
      hname] at hfallback
    obtain ⟨⟨⟨hinvalid, herr⟩, hcontroller⟩, hincluded⟩ := hfallback
    obtain rfl := hunchanged hinvalid
    rw [tryNamespace_restores hname]
    refine not_congr ⟨fun hfails => ?_, fun h => h.2.2.2⟩
    exact ⟨hcontroller, hincluded, ⟨herr, hrejected.mp hinvalid⟩, hfails⟩
  · -- no fallback
    rw [restores_some, report_err]
    refine iff_of_true (fun h => ⟨hname, congrArg SmartManager.smartDataMap (hunchanged h)⟩) ?_
    rintro ⟨hcontroller, hincluded, ⟨herr, hinvalid⟩, -⟩
    refine hfallback ?_
    have hinvalid' := hrejected.mpr hinvalid
    rw [hname, hinvalid', hunchanged hinvalid', Option.isSome_iff_ne_none.mpr herr, hcontroller]
    simpa using hincluded

/-- **When the device is restored**: always, unless the fallback is tried and fails. -/
theorem restores_iff (base : String → String) (sm : SmartManager) (deviceInfo : DeviceInfo)
    (runs : Runs) :
    Restores sm deviceInfo (collectSmart base sm deviceInfo runs) ↔
      ¬ FallbackFails base sm deviceInfo runs := by
  have hfails : FallbackFails base sm deviceInfo runs ↔ deviceInfo.name ∉ sm.excludedDevices ∧
      ∃ run ∈ parsedRun sm deviceInfo runs, isNvmeControllerPath base deviceInfo.name = true ∧
        deviceInfo.name ++ "n1" ∉ sm.excludedDevices ∧ (run.err ≠ none ∧ Rejected run.output) ∧
        Rejected runs.fallback.output := by
    constructor
    · rintro ⟨hincluded, hcontroller, hnamespace, ⟨run, hparsed, hrun⟩, hfallback⟩
      exact ⟨hincluded, run, hparsed, hcontroller, hnamespace, hrun, hfallback⟩
    · rintro ⟨hincluded, run, hparsed, hcontroller, hnamespace, hrun, hfallback⟩
      exact ⟨hincluded, hcontroller, hnamespace, ⟨run, hparsed, hrun⟩, hfallback⟩
  rw [hfails]
  unfold collectSmart parsedRun
  by_cases hexcluded : deviceInfo.name ∈ sm.excludedDevices
  · rw [if_pos hexcluded, restores_some]
    exact iff_of_true (fun _ => ⟨rfl, rfl⟩) fun h => h.1 hexcluded
  rw [if_neg hexcluded]
  dsimp only
  by_cases hstandby : runs.first.err = some (.exit 2)
  · rw [if_pos hstandby, if_pos hstandby]
    by_cases hdata : hasDataForDevice sm deviceInfo.name = true
    · rw [if_pos hdata, if_pos hdata, restores_some]
      exact iff_of_true (fun h => absurd rfl h) (by simp)
    · rw [if_neg hdata, if_neg hdata, collectFrom_restores]
      simp only [Option.mem_some_iff, exists_eq_left', hexcluded, not_false_iff, true_and]
  · rw [if_neg hstandby, if_neg hstandby, collectFrom_restores]
    simp only [Option.mem_some_iff, exists_eq_left', hexcluded, not_false_iff, true_and]

/-- What `smartctl` prints and returns where it does not open a device. -/
def Run.failed : Run := ⟨.json { nullFields with decodes := fun _ => true }, some (.exit 1)⟩

/-- The controller `/dev/nvme0` and its namespace cannot be read: the device is left under the name
of the namespace. -/
theorem restores_fails :
    ¬ ∀ sm deviceInfo runs, Restores sm deviceInfo (collectSmart unixBase sm deviceInfo runs) := by
  intro hall
  have hrun : (collectSmart unixBase ⟨∅, [], []⟩ ⟨"/dev/nvme0", "nvme", "", "NVMe", false, ""⟩
      ⟨.failed, .failed, .failed⟩).map (fun r => (r.deviceInfo.name, r.err)) =
        some ("/dev/nvme0n1", some (.smartctl (.exit 1))) := by
    decide
  obtain ⟨r, hr, hfields⟩ := Option.map_eq_some_iff.mp hrun
  obtain ⟨hname, herr⟩ := Prod.mk.inj hfields
  have hrestored := hall _ _ _ r hr (by simp [herr])
  exact absurd (hname.symm.trans hrestored.1) (by decide)

end Collect

end Smart

end Agent

end Beszel
