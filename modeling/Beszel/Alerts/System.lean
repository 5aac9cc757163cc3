import Beszel.Common.Stats
import Beszel.Machinery.Totals
import Mathlib.Data.List.Sort

/-!
# Alerts/System — the alerts on a system's metrics

    sample ──▸ screen ──min = 1──▸ send
                     ──min > 1──▸ window of records ──decode──▸ average ──▸ send

`HandleSystemAlerts` of `internal/alerts/alerts_system.go`.  An alert over more than one minute is
decided on the average of the stored records in its window; the loop decodes every record into one
struct that it does not reset, and adds to each alert what the struct then says.  Times are
milliseconds.
-/

namespace Beszel

open Machinery

namespace SystemAlerts

/-! ## Alerts -/

/-- The name of an alert; any other name is an alert without a metric. -/
inductive AlertName
  | cpu
  | memory
  | bandwidth
  | disk
  | temperature
  | loadAvg1
  | loadAvg5
  | loadAvg15
  | gpu
  | battery
  | other (name : String)
  deriving DecidableEq, Repr

/-- `isLowAlert`. -/
def isLowAlert (name : AlertName) : Bool := name = .battery

/-- A record of `alerts` on the system, other than `Status`; `min` is the field after its cast. -/
structure AlertRecord where
  id : String
  name : AlertName
  value : ℚ
  min : UInt8
  triggered : Bool
  deriving DecidableEq

/-- `SystemAlertData`. -/
structure SystemAlertData where
  alertRecord : AlertRecord
  name : AlertName
  unit : String
  val : ℚ
  threshold : ℚ
  triggered : Bool
  time : ℤ
  count : UInt8
  min : UInt8
  mapSums : GoMap ℚ
  descriptor : String

/-! ## The current sample -/

/-- The value of the current sample and its unit; `none` where the alert is passed over. -/
def currentValue (data : CombinedData) : AlertName → Option (ℚ × String)
  | .cpu => some (data.info.cpu, "%")
  | .memory => some (data.info.memPct, "%")
  | .bandwidth => some (data.info.bandwidth, " MB/s")
  | .disk =>
    some (data.stats.extraFs.entries.foldl
      (fun m e => if e.2.usedPct > m then e.2.usedPct else m) data.info.diskPct, "%")
  | .temperature =>
    if data.info.dashboardTemp < 1 then none else some (data.info.dashboardTemp, "°C")
  | .loadAvg1 => some (data.info.loadAvg.1, "")
  | .loadAvg5 => some (data.info.loadAvg.2.1, "")
  | .loadAvg15 => some (data.info.loadAvg.2.2, "")
  | .gpu => some (data.info.gpuPct, "%")
  | .battery =>
    if data.stats.battery.1 = 0 then none else some (data.stats.battery.1.toNat, "%")
  | .other _ => some (0, "%")

/-- The value is on the side of the threshold where the alert is already. -/
def settled (low triggered : Bool) (val threshold : ℚ) : Bool :=
  if low then (!triggered && decide (val ≥ threshold)) || (triggered && decide (val < threshold))
  else (!triggered && decide (val ≤ threshold)) || (triggered && decide (val > threshold))

/-- What the first loop does with an alert. -/
inductive Screened
  | skip
  | sendNow (alert : SystemAlertData)
  | wait (alert : SystemAlertData)

/-- The first loop, for one alert. -/
def screen (now : ℤ) (data : CombinedData) (r : AlertRecord) : Screened :=
  match currentValue data r.name with
  | none => .skip
  | some (val, unit) =>
    let low := isLowAlert r.name
    if settled low r.triggered val r.value then .skip
    else
      let min := max 1 r.min
      let alert : SystemAlertData :=
        { alertRecord := r, name := r.name, unit, val, threshold := r.value,
          triggered := r.triggered, time := 0, count := 0, min, mapSums := ∅, descriptor := "" }
      if min = 1 then
        .sendNow { alert with
          triggered := if low then decide (val < r.value) else decide (val > r.value) }
      else .wait { alert with time := now - min.toNat * 60000 }

/-- The alerts that are sent at once. -/
def immediate (now : ℤ) (data : CombinedData) (alerts : List AlertRecord) :
    List SystemAlertData :=
  alerts.filterMap fun r =>
    match screen now data r with
    | .sendNow alert => some alert
    | _ => none

/-- `validAlerts`, the alerts that need an average. -/
def validAlerts (now : ℤ) (data : CombinedData) (alerts : List AlertRecord) :
    List SystemAlertData :=
  alerts.filterMap fun r =>
    match screen now data r with
    | .wait alert => some alert
    | _ => none

/-! ## The stored records -/

/-- A `1m` record of the system, with the error of its decoding if there is one. -/
structure StatsRow where
  created : ℤ
  stats : Except String StatsJson

/-- `oldestTime`, the earliest start of a window. -/
def oldestTime (now : ℤ) (valid : List SystemAlertData) : ℤ :=
  valid.foldl (fun t a => if a.time < t then a.time else t) now

/-- The query: the rows since the oldest window, with a buffer of 90 seconds, oldest first. -/
def query (oldest : ℤ) (rows : List StatsRow) : List StatsRow :=
  (rows.filter fun r => r.created > oldest - 90000).insertionSort fun r r' => r.created ≤ r'.created

/-- `SystemAlertStats`. -/
structure SystemAlertStats where
  cpu : ℚ
  mem : ℚ
  disk : ℚ
  netSent : ℚ
  netRecv : ℚ
  gpu : GoMap ℚ
  temperatures : GoMap ℚ
  loadAvg : ℚ × ℚ × ℚ
  battery : UInt8 × UInt8

namespace SystemAlertStats

/-- `var stats SystemAlertStats`. -/
def zero : SystemAlertStats where
  cpu := 0
  mem := 0
  disk := 0
  netSent := 0
  netRecv := 0
  gpu := ∅
  temperatures := ∅
  loadAvg := (0, 0, 0)
  battery := (0, 0)

/-- `json.Unmarshal` into a map that may have entries already: those the object has are set. -/
def unmarshalMap (m : GoMap ℚ) : Option (GoMap ℚ) → GoMap ℚ
  | none => m
  | some object => object ∪ m

/-- **`json.Unmarshal(stat.Stats, &stats)`**: what the record does not have keeps its value. -/
def unmarshal (stats : SystemAlertStats) (json : StatsJson) : SystemAlertStats where
  cpu := json.cpu.getD stats.cpu
  mem := json.mp.getD stats.mem
  disk := json.dp.getD stats.disk
  netSent := json.ns.getD stats.netSent
  netRecv := json.nr.getD stats.netRecv
  gpu := unmarshalMap stats.gpu json.g
  temperatures := unmarshalMap stats.temperatures json.t
  loadAvg := json.la.getD stats.loadAvg
  battery := json.bat.getD stats.battery

end SystemAlertStats

/-! ## The averaging loop -/

namespace SystemAlertData

/-- `alert.val += v`, and the count. -/
def addValue (a : SystemAlertData) (v : ℚ) : SystemAlertData :=
  { a with val := a.val + v, count := a.count + 1 }

/-- `alert.mapSums[key] += …` for the entries, and the count. -/
def addToSums (a : SystemAlertData) (es : List (Σ _ : String, ℚ)) : SystemAlertData :=
  { a with mapSums := addEntries a.mapSums es, count := a.count + 1 }

/-- The `switch` of the loop: what a record adds to an alert.  The extra disks are those of the
current sample. -/
def accumulate (extraFs : GoMap FsStats) (stats : SystemAlertStats) (a : SystemAlertData) :
    SystemAlertData :=
  match a.name with
  | .cpu => a.addValue stats.cpu
  | .memory => a.addValue stats.mem
  | .bandwidth => a.addValue (stats.netSent + stats.netRecv)
  | .disk =>
    a.addToSums (⟨"root", stats.disk⟩ :: extraFs.entries.map fun e => ⟨e.1, e.2.usedPct⟩)
  | .temperature => a.addToSums stats.temperatures.entries
  | .loadAvg1 => a.addValue stats.loadAvg.1
  | .loadAvg5 => a.addValue stats.loadAvg.2.1
  | .loadAvg15 => a.addValue stats.loadAvg.2.2
  | .gpu =>
    if stats.gpu.entries = [] then a
    else a.addValue (highest (stats.gpu.entries.map fun e => e.2))
  | .battery => a.addValue stats.battery.1.toNat
  | .other _ => a

/-- The value of the current sample is dropped on the first iteration. -/
def reset (first : Bool) (a : SystemAlertData) : SystemAlertData :=
  if first then { a with val := 0 } else a

/-- A record counts from ten seconds after the start of the window. -/
def add (extraFs : GoMap FsStats) (created : ℤ) (stats : SystemAlertStats) (a : SystemAlertData) :
    SystemAlertData :=
  if created - 10000 < a.time then a else a.accumulate extraFs stats

/-- The body of the inner loop. -/
def visit (extraFs : GoMap FsStats) (first : Bool) (created : ℤ) (stats : SystemAlertStats)
    (a : SystemAlertData) : SystemAlertData :=
  (a.reset first).add extraFs created stats

end SystemAlertData

/-- The loop over the records; an undecodable one ends the handler. -/
def averageLoop (extraFs : GoMap FsStats) :
    Bool → SystemAlertStats → List SystemAlertData → List StatsRow →
      Except String (List SystemAlertData)
  | _, _, alerts, [] => .ok alerts
  | first, stats, alerts, row :: rows =>
    match row.stats with
    | .error err => .error err
    | .ok json =>
      let stats := stats.unmarshal json
      averageLoop extraFs false stats (alerts.map (·.visit extraFs first row.created stats)) rows

/-! ## The averages and the decision -/

/-- The highest entry of a map of sums, from zero, with its key. -/
def highestEntry (es : List (Σ _ : String, ℚ)) : ℚ × Option String :=
  es.foldl (fun best e => if e.2 > best.1 then (e.2, some e.1) else best) (0, none)

namespace SystemAlertData

/-- The descriptor for the highest key, if there is one. -/
def describe (text : String) (a : SystemAlertData) : Option String → String
  | none => a.descriptor
  | some key => text ++ key

/-- **The average of an alert.**  A count of zero is below every minimum, so the quotient by it is
never compared. -/
def finish (a : SystemAlertData) : SystemAlertData :=
  let count : ℚ := a.count.toNat
  match a.name with
  | .disk =>
    let best := highestEntry a.mapSums.entries
    { a with val := best.1 / count, descriptor := a.describe "Usage of " best.2 }
  | .temperature =>
    let best := highestEntry (a.mapSums.entries.map fun e => ⟨e.1, e.2 / count⟩)
    { a with val := best.1, descriptor := a.describe "Highest sensor " best.2 }
  | _ => { a with val := a.val / count }

/-- `float32(alert.count) >= float32(alert.min) / 1.2`. -/
def enough (a : SystemAlertData) : Bool := 5 * a.min.toNat ≤ 6 * a.count.toNat

/-- The last loop, for one alert: the alert that is sent. -/
def decision (a : SystemAlertData) : Option SystemAlertData :=
  if a.enough = false then none
  else if isLowAlert a.name then
    if a.triggered = false ∧ a.val < a.threshold then some { a with triggered := true }
    else if a.triggered = true ∧ a.val ≥ a.threshold then some { a with triggered := false }
    else none
  else
    if a.triggered = false ∧ a.val > a.threshold then some { a with triggered := true }
    else if a.triggered = true ∧ a.val ≤ a.threshold then some { a with triggered := false }
    else none

end SystemAlertData

/-! ## The handler -/

/-- What `HandleSystemAlerts` reads: the time of the system record, the sample, the alerts of the
system and its `1m` records, or the error of the query for them. -/
structure Input where
  now : ℤ
  data : CombinedData
  alerts : List AlertRecord
  rows : Except String (List StatsRow)

/-- What it does: the alerts it sends, those it has averaged and the error it returns. -/
structure Output where
  sent : List SystemAlertData
  averaged : List SystemAlertData
  error : Option String

/-- The rows of the query, for the windows of the valid alerts. -/
def Input.window (inp : Input) : Except String (List StatsRow) :=
  inp.rows.map (query (oldestTime inp.now (validAlerts inp.now inp.data inp.alerts)))

/-- The valid alerts whose window starts after the oldest row. -/
def Input.filtered (inp : Input) (oldest : StatsRow) : List SystemAlertData :=
  (validAlerts inp.now inp.data inp.alerts).filter fun a => a.time > oldest.created

/-- **`HandleSystemAlerts`.** -/
def handleSystemAlerts (inp : Input) : Output :=
  if inp.alerts = [] then ⟨[], [], none⟩
  else
    let sent := immediate inp.now inp.data inp.alerts
    match inp.window with
    | .error err => ⟨sent, [], some err⟩
    | .ok [] => ⟨sent, [], none⟩
    | .ok (oldest :: rows) =>
      let alerts := inp.filtered oldest
      if alerts.isEmpty then ⟨sent, [], none⟩
      else
        match averageLoop inp.data.stats.extraFs true .zero alerts (oldest :: rows) with
        | .error err => ⟨sent, [], some err⟩
        | .ok alerts =>
          let averaged := alerts.map (·.finish)
          ⟨sent ++ averaged.filterMap (·.decision), averaged, none⟩

end SystemAlerts

end Beszel
