import Beszel.Hub.SystemAverages

/-!
# Hub/SystemColumns — averages and peaks, column by column

What `averageSystemStats` averages is read through `Quantity`, one name for every field and map
entry, and what has a peak through `Peak`.  The values that the records carry under a name are its
column, and the result depends on the column only: `read_averageSystemStats` for an average and
`peak_averageSystemStats` for a peak.
-/

namespace Beszel

open Machinery

namespace SystemAverages

/-! ## What is averaged -/

/-- The averaged fields that are numbers. -/
inductive Field
  | cpu | mem | memUsed | memPct | memBuffCache | memZfsArc | swap | swapUsed
  | diskTotal | diskUsed | diskPct | diskReadPs | diskWritePs | networkSent | networkRecv
  | load1 | load5 | load15
  deriving DecidableEq

/-- The value of a field. -/
def Field.read : Field → Stats → ℚ
  | .cpu, s => s.cpu
  | .mem, s => s.mem
  | .memUsed, s => s.memUsed
  | .memPct, s => s.memPct
  | .memBuffCache, s => s.memBuffCache
  | .memZfsArc, s => s.memZfsArc
  | .swap, s => s.swap
  | .swapUsed, s => s.swapUsed
  | .diskTotal, s => s.diskTotal
  | .diskUsed, s => s.diskUsed
  | .diskPct, s => s.diskPct
  | .diskReadPs, s => s.diskReadPs
  | .diskWritePs, s => s.diskWritePs
  | .networkSent, s => s.networkSent
  | .networkRecv, s => s.networkRecv
  | .load1, s => s.loadAvg.1
  | .load5, s => s.loadAvg.2.1
  | .load15, s => s.loadAvg.2.2

/-- The averaged fields that count bytes. -/
inductive Counter
  | bandwidthSent | bandwidthRecv | diskIORead | diskIOWrite
  deriving DecidableEq

/-- The value of a counter. -/
def Counter.read : Counter → Stats → UInt64
  | .bandwidthSent, s => s.bandwidth.1
  | .bandwidthRecv, s => s.bandwidth.2
  | .diskIORead, s => s.diskIO.1
  | .diskIOWrite, s => s.diskIO.2

/-- The averaged numbers of a filesystem. -/
inductive FsField
  | diskTotal | diskUsed | diskReadPs | diskWritePs
  deriving DecidableEq

/-- The value of a field of a filesystem. -/
def FsField.read : FsField → FsStats → ℚ
  | .diskTotal, fs => fs.diskTotal
  | .diskUsed, fs => fs.diskUsed
  | .diskReadPs, fs => fs.diskReadPs
  | .diskWritePs, fs => fs.diskWritePs

/-- The averaged counters of a filesystem. -/
inductive FsCounter
  | diskReadBytes | diskWriteBytes
  deriving DecidableEq

/-- The value of a counter of a filesystem. -/
def FsCounter.read : FsCounter → FsStats → UInt64
  | .diskReadBytes, fs => fs.diskReadBytes
  | .diskWriteBytes, fs => fs.diskWriteBytes

/-- The averaged counters of an interface. -/
inductive InterfaceCounter
  | sent | recv
  deriving DecidableEq

/-- The value of a counter of an interface. -/
def InterfaceCounter.read : InterfaceCounter → Interface → UInt64
  | .sent, value => value.1
  | .recv, value => value.2.1

/-- The averaged numbers of a GPU. -/
inductive GpuField
  | temperature | memoryUsed | memoryTotal | usage | power | count
  deriving DecidableEq

/-- The value of a field of a GPU. -/
def GpuField.read : GpuField → GPUData → ℚ
  | .temperature, gpu => gpu.temperature
  | .memoryUsed, gpu => gpu.memoryUsed
  | .memoryTotal, gpu => gpu.memoryTotal
  | .usage, gpu => gpu.usage
  | .power, gpu => gpu.power
  | .count, gpu => gpu.count

/-- **Everything that is averaged**: the fields and the entries of the maps and slices. -/
inductive Quantity
  | field (f : Field)
  | counter (c : Counter)
  | battery
  | temperature (key : String)
  | fs (key : String) (f : FsField)
  | fsCounter (key : String) (c : FsCounter)
  | interface (key : String) (c : InterfaceCounter)
  | gpu (id : String) (f : GpuField)
  | engine (id engineKey : String)
  | breakdown (i : ℕ)
  | core (i : ℕ)
  deriving DecidableEq

namespace Quantity

/-- The value that a sample carries, if it does. -/
def read : Quantity → Stats → Option ℚ
  | field f, s => some (f.read s)
  | counter c, s => some (c.read s).toNat
  | battery, s => some s.battery.1.toNat
  | temperature key, s => s.temperatures.bind (·.lookup key)
  | fs key f, s => (s.extraFs.lookup key).map f.read
  | fsCounter key c, s => (s.extraFs.lookup key).map fun fs => ((c.read fs).toNat : ℚ)
  | interface key c, s => (s.networkInterfaces.lookup key).map fun v => ((c.read v).toNat : ℚ)
  | gpu id f, s => (s.gpuData.lookup id).map f.read
  | engine id engineKey, s => (s.gpuData.lookup id).bind (·.engines.lookup engineKey)
  | breakdown i, s => s.cpuBreakdown[i]?
  | core i, s => s.cpuCoresUsage[i]?.map fun usage => (usage.toNat : ℚ)

/-- The rounding of an average. -/
def round : Quantity → ℚ → ℚ
  | counter _, x | fsCounter _ _, x | interface _ _, x | battery, x => ⌊x⌋
  | core _, x => mathRound x
  | field _, x | temperature _, x | fs _ _, x | gpu _ _, x | engine _ _, x | breakdown _, x =>
    twoDecimals x

/-- Whether the total is kept in a `uint64`. -/
def wraps : Quantity → Bool
  | counter _ | fsCounter _ _ | interface _ _ => true
  | _ => false

/-- The total as it is kept. -/
def wrap (q : Quantity) (x : ℚ) : ℚ := if q.wraps then (⌊x⌋ % 2 ^ 64 : ℤ) else x

/-- The value where no sample carries one. -/
def missing : Quantity → Option ℚ
  | field _ | counter _ | battery => some 0
  | _ => none

/-- The samples that a total is divided by the number of: those that have temperatures for a
temperature, else all records. -/
def divisor : Quantity → List Record → ℕ
  | temperature _, records => ((decoded records).filterMap Stats.temperatures).length
  | _, records => records.length

/-- **The column of a quantity**: the values that the records carry. -/
def column (q : Quantity) (records : List Record) : List ℚ := (decoded records).filterMap q.read

end Quantity

/-! ## What has a peak -/

/-- The fields with a peak. -/
inductive PeakField
  | cpu | mem | networkSent | networkRecv | diskReadPs | diskWritePs
  | bandwidthSent | bandwidthRecv | diskIORead | diskIOWrite
  deriving DecidableEq

/-- The peak. -/
def PeakField.peak : PeakField → Stats → ℚ
  | .cpu, s => s.maxCpu
  | .mem, s => s.maxMem
  | .networkSent, s => s.maxNetworkSent
  | .networkRecv, s => s.maxNetworkRecv
  | .diskReadPs, s => s.maxDiskReadPs
  | .diskWritePs, s => s.maxDiskWritePs
  | .bandwidthSent, s => s.maxBandwidth.1.toNat
  | .bandwidthRecv, s => s.maxBandwidth.2.toNat
  | .diskIORead, s => s.maxDiskIO.1.toNat
  | .diskIOWrite, s => s.maxDiskIO.2.toNat

/-- The current value that goes with a peak. -/
def PeakField.current : PeakField → Stats → ℚ
  | .cpu, s => s.cpu
  | .mem, s => s.memUsed
  | .networkSent, s => s.networkSent
  | .networkRecv, s => s.networkRecv
  | .diskReadPs, s => s.diskReadPs
  | .diskWritePs, s => s.diskWritePs
  | .bandwidthSent, s => s.bandwidth.1.toNat
  | .bandwidthRecv, s => s.bandwidth.2.toNat
  | .diskIORead, s => s.diskIO.1.toNat
  | .diskIOWrite, s => s.diskIO.2.toNat

/-- The fields of a filesystem with a peak. -/
inductive FsPeak
  | diskReadPs | diskWritePs | diskReadBytes | diskWriteBytes
  deriving DecidableEq

/-- The peak of a filesystem. -/
def FsPeak.peak : FsPeak → FsStats → ℚ
  | .diskReadPs, fs => fs.maxDiskReadPS
  | .diskWritePs, fs => fs.maxDiskWritePS
  | .diskReadBytes, fs => fs.maxDiskReadBytes.toNat
  | .diskWriteBytes, fs => fs.maxDiskWriteBytes.toNat

/-- The current value that goes with a peak of a filesystem. -/
def FsPeak.current : FsPeak → FsStats → ℚ
  | .diskReadPs, fs => fs.diskReadPs
  | .diskWritePs, fs => fs.diskWritePs
  | .diskReadBytes, fs => fs.diskReadBytes.toNat
  | .diskWriteBytes, fs => fs.diskWriteBytes.toNat

/-- **Everything that has a peak.** -/
inductive Peak
  | field (p : PeakField)
  | fs (key : String) (p : FsPeak)
  deriving DecidableEq

namespace Peak

/-- The peak and the current value that a sample carries, if it does. -/
def read : Peak → Stats → Option (ℚ × ℚ)
  | field p, s => some (p.peak s, p.current s)
  | fs key p, s => (s.extraFs.lookup key).map fun fs => (p.peak fs, p.current fs)

/-- The peak that a sample carries. -/
def peak (p : Peak) (s : Stats) : Option ℚ := (p.read s).map Prod.fst

/-- The current value that goes with it. -/
def current (p : Peak) (s : Stats) : Option ℚ := (p.read s).map Prod.snd

/-- The column of a peak. -/
def column (p : Peak) (records : List Record) : List (ℚ × ℚ) := (decoded records).filterMap p.read

/-- The peak where no sample carries one. -/
def missing : Peak → Option ℚ
  | field _ => some 0
  | fs _ _ => none

/-- What the loop makes of a peak and of the values of a record. -/
def raise (peak : ℚ) (value : ℚ × ℚ) : ℚ := max3 peak value.1 value.2

end Peak

/-! ## The loop, column by column -/

/-- The loop runs over the samples. -/
theorem accumulateTotals_eq (records : List Record) :
    accumulateTotals records = (decoded records).foldl Sums.add .zero := by
  unfold accumulateTotals
  generalize Sums.zero = s
  induction records generalizing s with
  | nil => rfl
  | cons record records ih => cases record <;> exact ih _

theorem length_decoded_le (records : List Record) : (decoded records).length ≤ records.length :=
  List.length_filterMap_le _ _

/-- A part of the sums that is a map of totals. -/
theorem lookup_accumulateTotals {α β : Type} {start : α → β} {add : β → α → β}
    (field : Stats → GoMap β) (value : Stats → GoMap α)
    (h : ∀ s a, field (Sums.add s a).sum = accumulate start add (field s.sum) (value a).entries)
    (hzero : field .zero = ∅) (records : List Record) (k : String) :
    (field (accumulateTotals records).sum).lookup k =
      total start add ((decoded records).filterMap fun s => (value s).lookup k) := by
  have hfold := foldl_eq_foldl_map Sums.add (fun s => field s.sum) value
    (fun m m' => accumulate start add m m'.entries) h .zero (decoded records)
  have hstart : field Sums.zero.sum = ∅ := hzero
  rw [accumulateTotals_eq, hfold, hstart, lookup_foldl_accumulate, List.filterMap_map]
  rfl

theorem lookup_extraFs (records : List Record) (k : String) :
    (accumulateTotals records).sum.extraFs.lookup k =
      total (fun _ => .zero) FsStats.add ((decoded records).filterMap (·.extraFs.lookup k)) :=
  lookup_accumulateTotals Stats.extraFs Stats.extraFs (fun _ _ => rfl) rfl records k

theorem lookup_networkInterfaces (records : List Record) (k : String) :
    (accumulateTotals records).sum.networkInterfaces.lookup k =
      total (fun _ => (0, 0, 0, 0)) addInterface
        ((decoded records).filterMap (·.networkInterfaces.lookup k)) :=
  lookup_accumulateTotals Stats.networkInterfaces Stats.networkInterfaces (fun _ _ => rfl) rfl
    records k

theorem lookup_gpuData (records : List Record) (id : String) :
    (accumulateTotals records).sum.gpuData.lookup id =
      total (fun value => .named value.name) GPUData.add
        ((decoded records).filterMap (·.gpuData.lookup id)) :=
  lookup_accumulateTotals Stats.gpuData Stats.gpuData (fun _ _ => rfl) rfl records id

/-- The temperatures that are added up are those of the records that have the map. -/
theorem foldl_addTemperatures (ts : List (Option (GoMap ℚ))) (sum : Option (GoMap ℚ)) :
    ts.foldl addTemperatures sum =
      (ts.filterMap id).foldl (addOne (fun _ => ∅) fun m t =>
        accumulate (fun _ => 0) (· + ·) m t.entries) sum := by
  induction ts generalizing sum with
  | nil => rfl
  | cons t ts ih => cases t <;> exact ih _

theorem temperatures_accumulateTotals (records : List Record) :
    (accumulateTotals records).sum.temperatures =
      total (fun _ => ∅) (fun m t => accumulate (fun _ => 0) (· + ·) m t.entries)
        ((decoded records).filterMap Stats.temperatures) := by
  have hfold := foldl_eq_foldl_map Sums.add (fun s => s.sum.temperatures) Stats.temperatures
    addTemperatures (fun _ _ => rfl) .zero (decoded records)
  have hstart : Sums.zero.sum.temperatures = none := rfl
  rw [accumulateTotals_eq, hfold, hstart, foldl_addTemperatures, foldl_addOne_none,
    List.filterMap_map]
  rfl

theorem tempCount_accumulateTotals (records : List Record) :
    (accumulateTotals records).tempCount =
      ((decoded records).filterMap Stats.temperatures).length := by
  have hstep : ∀ (s : Sums) (a : Stats),
      (s.add a).tempCount = s.tempCount + a.temperatures.toList.length := by
    intro s a
    unfold Sums.add
    cases a.temperatures <;> rfl
  rw [accumulateTotals_eq, foldl_eq_add_sum _ _ _ hstep]
  have hzero : Sums.zero.tempCount = 0 := rfl
  rw [hzero, zero_add]
  induction decoded records with
  | nil => rfl
  | cons a l ih =>
    rw [List.map_cons, List.sum_cons, ih, List.filterMap_cons]
    cases a.temperatures <;> simp [add_comm]

/-- A part of the sums that is a slice of totals. -/
theorem getElem?_accumulateTotals {M : Type} [AddMonoid M] (field : Sums → List M)
    (value : Stats → List M)
    (h : ∀ s a, field (Sums.add s a) = addSlice (field s) (value a)) (hzero : field .zero = [])
    (records : List Record) (i : ℕ) :
    (field (accumulateTotals records))[i]? =
      total (fun _ => 0) (· + ·) ((decoded records).filterMap fun s => (value s)[i]?) := by
  rw [accumulateTotals_eq, foldl_eq_foldl_map _ _ _ _ h, hzero, getElem?_foldl_addSlice,
    List.filterMap_map]
  rfl

/-! ## The averages -/

theorem toNat_divCount (sum : UInt64) (count : ℕ) :
    (divCount sum count).toNat = sum.toNat / count :=
  UInt64.toNat_ofNat_of_lt' ((Nat.div_le_self _ _).trans_lt sum.toNat_lt)

/-- An average of counters. -/
theorem divCount_sum (us : List UInt64) (count : ℕ) :
    ((divCount us.sum count).toNat : ℚ) =
      ⌊((⌊(us.map fun u => (u.toNat : ℚ)).sum⌋ % 2 ^ 64 : ℤ) : ℚ) / count⌋ := by
  rw [toNat_divCount, toNat_sum, sum_map_natCast, Int.floor_natCast]
  have hmod : (((us.map UInt64.toNat).sum : ℕ) : ℤ) % 2 ^ 64 =
      ((us.map UInt64.toNat).sum % 2 ^ 64 : ℕ) := by push_cast; rfl
  rw [hmod, Int.cast_natCast, natCast_div]

/-- A mean of bytes over at least as many records is a byte. -/
theorem sum_toNat_le (us : List UInt8) {count : ℕ} (h : us.length ≤ count) :
    (us.map UInt8.toNat).sum ≤ 255 * count := by
  have hsum := List.sum_le_card_nsmul (us.map UInt8.toNat) 255 (by
    intro x hx
    obtain ⟨u, -, rfl⟩ := List.mem_map.mp hx
    have := u.toNat_lt
    omega)
  rw [List.length_map, nsmul_eq_mul, Nat.cast_id] at hsum
  calc (us.map UInt8.toNat).sum ≤ us.length * 255 := hsum
    _ ≤ 255 * count := by rw [mul_comm]; exact Nat.mul_le_mul_left 255 h

/-- A rounded mean of bytes is a byte. -/
theorem toNat_mathRound_mean {sum count : ℕ} (hcount : count ≠ 0) (h : sum ≤ 255 * count) :
    ((UInt8.ofNat (mathRound ((sum : ℚ) / count)).toNat).toNat : ℚ) =
      mathRound ((sum : ℚ) / count) := by
  have hpos : (0 : ℚ) < count := by exact_mod_cast Nat.pos_of_ne_zero hcount
  have hnonneg : 0 ≤ mathRound ((sum : ℚ) / count) := by
    have := mathRound_mono (show (0 : ℚ) ≤ (sum : ℚ) / count by positivity)
    rwa [mathRound_zero] at this
  have hle : mathRound ((sum : ℚ) / count) ≤ 255 := by
    have hmean : (sum : ℚ) / count ≤ (255 : ℤ) := by
      rw [div_le_iff₀ hpos]
      exact_mod_cast h
    exact (mathRound_mono hmean).trans_eq (mathRound_intCast 255)
  rw [UInt8.toNat_ofNat_of_lt' (by change _ < 256; omega)]
  exact_mod_cast Int.toNat_of_nonneg hnonneg

/-- **What averaging leaves alone.** -/
theorem average_eq_sum {τ : Type} (field : Stats → τ)
    (h : ∀ (s : Sums) (count : ℕ), count ≠ 0 → field (s.average count) = field s.sum) (s : Sums)
    (count : ℕ) : field (s.average count) = field s.sum := by
  rcases eq_or_ne count 0 with rfl | hcount
  · rw [Sums.average, if_pos rfl]
  · exact h s count hcount

section Average

variable {s : Sums} {count : ℕ} (hcount : count ≠ 0)
include hcount

theorem extraFs_average :
    (s.average count).extraFs = mapValues (fun _ => FsStats.average count) s.sum.extraFs := by
  unfold Sums.average
  rw [if_neg hcount]

theorem networkInterfaces_average :
    (s.average count).networkInterfaces =
      mapValues (fun _ => averageInterface count) s.sum.networkInterfaces := by
  unfold Sums.average
  rw [if_neg hcount]

theorem gpuData_average :
    (s.average count).gpuData = mapValues (fun _ => GPUData.average count) s.sum.gpuData := by
  unfold Sums.average
  rw [if_neg hcount]

theorem cpuBreakdown_average :
    (s.average count).cpuBreakdown =
      s.cpuBreakdownSums.map fun sum => twoDecimals (sum / count) := by
  unfold Sums.average
  rw [if_neg hcount]

theorem cpuCoresUsage_average :
    (s.average count).cpuCoresUsage =
      s.cpuCoresSums.map fun sum : ℕ => .ofNat (mathRound ((sum : ℚ) / count)).toNat := by
  unfold Sums.average
  rw [if_neg hcount]

end Average

section Lookup

variable (records : List Record)

/-- The entry of a filesystem, averaged. -/
theorem lookup_extraFs_averageSystemStats (key : String) :
    (averageSystemStats records).extraFs.lookup key =
      (total (fun _ => .zero) FsStats.add
        ((decoded records).filterMap (·.extraFs.lookup key))).map (.average records.length) := by
  rcases eq_or_ne records.length 0 with hnil | hrecords
  · obtain rfl := List.length_eq_zero_iff.mp hnil
    rfl
  · rw [averageSystemStats, extraFs_average hrecords, lookup_mapValues, lookup_extraFs]

/-- The entry of a GPU, averaged. -/
theorem lookup_gpuData_averageSystemStats (id : String) :
    (averageSystemStats records).gpuData.lookup id =
      (total (fun value => .named value.name) GPUData.add
        ((decoded records).filterMap (·.gpuData.lookup id))).map (.average records.length) := by
  rcases eq_or_ne records.length 0 with hnil | hrecords
  · obtain rfl := List.length_eq_zero_iff.mp hnil
    rfl
  · rw [averageSystemStats, gpuData_average hrecords, lookup_mapValues, lookup_gpuData]

/-- The entry of an interface, averaged. -/
theorem lookup_networkInterfaces_averageSystemStats (key : String) :
    (averageSystemStats records).networkInterfaces.lookup key =
      (total (fun _ => (0, 0, 0, 0)) addInterface
        ((decoded records).filterMap (·.networkInterfaces.lookup key))).map
          (averageInterface records.length) := by
  rcases eq_or_ne records.length 0 with hnil | hrecords
  · obtain rfl := List.length_eq_zero_iff.mp hnil
    rfl
  · rw [averageSystemStats, networkInterfaces_average hrecords, lookup_mapValues,
      lookup_networkInterfaces]

end Lookup

namespace Quantity

@[simp] theorem round_zero (q : Quantity) : q.round 0 = 0 := by
  cases q <;> simp [round]

@[simp] theorem wrap_zero (q : Quantity) : q.wrap 0 = 0 := by
  simp [wrap]

/-- The average of a quantity with a column. -/
def average (q : Quantity) (column : List ℚ) (divisor : ℕ) : Option ℚ :=
  if column = [] then q.missing else some (q.round (q.wrap column.sum / divisor))

/-- A field is there even where no record is. -/
theorem average_of_missing {q : Quantity} (h : q.missing = some 0) (column : List ℚ)
    (divisor : ℕ) :
    q.average column divisor = some (q.round (q.wrap column.sum / divisor)) := by
  unfold average
  split_ifs with hcolumn
  · rw [h, hcolumn]
    simp
  · rfl

end Quantity

section Entries

variable (q : Quantity) {α β : Type} {start : α → β} {add : β → α → β} {avg : β → β} {count : ℕ}

/-- The average of what the entries of a map have. -/
theorem average_total (hmissing : q.missing = none) (read : β → ℚ) (value : α → ℚ)
    (havg : ∀ b, read (avg b) = q.round (q.wrap (read b) / count))
    (hstart : ∀ a, read (start a) = 0) (hadd : ∀ b a, read (add b a) = read b + value a)
    (entries : List α) :
    ((total start add entries).map avg).map read = q.average (entries.map value) count := by
  have hcomp : read ∘ avg = (fun x => q.round (q.wrap x / count)) ∘ read := funext havg
  rw [Option.map_map, hcomp, ← Option.map_map, map_total_add _ _ read value hstart hadd]
  unfold Quantity.average
  rw [hmissing]
  simp only [List.map_eq_nil_iff]
  split_ifs <;> rfl

/-- The average of a counter that the entries of a map have. -/
theorem average_total_counter (hmissing : q.missing = none)
    (hround : ∀ (us : List UInt64) (n : ℕ), ((divCount us.sum n).toNat : ℚ) =
      q.round (q.wrap (us.map fun u => (u.toNat : ℚ)).sum / n))
    (read : β → UInt64) (value : α → UInt64) (havg : ∀ b, read (avg b) = divCount (read b) count)
    (hstart : ∀ a, read (start a) = 0) (hadd : ∀ b a, read (add b a) = read b + value a)
    (entries : List α) :
    ((total start add entries).map avg).map (fun b => ((read b).toNat : ℚ)) =
      q.average (entries.map fun a => ((value a).toNat : ℚ)) count := by
  have hcomp : (fun b => ((read b).toNat : ℚ)) ∘ avg =
      (fun u => ((divCount u count).toNat : ℚ)) ∘ read :=
    funext fun b => congrArg (fun u : UInt64 => (u.toNat : ℚ)) (havg b)
  rw [Option.map_map, hcomp, ← Option.map_map, map_total_add _ _ read value hstart hadd]
  unfold Quantity.average
  rw [hmissing]
  simp only [List.map_eq_nil_iff]
  split_ifs
  · rfl
  · rw [Option.map_some, hround, List.map_map]
    rfl

end Entries

section Averages

variable {records : List Record}

theorem read_fs (key : String) (f : FsField) :
    (Quantity.fs key f).read (averageSystemStats records) =
      (Quantity.fs key f).average ((Quantity.fs key f).column records) records.length := by
  have hcolumn : (Quantity.fs key f).column records =
      ((decoded records).filterMap (·.extraFs.lookup key)).map f.read :=
    List.map_filterMap.symm
  rw [hcolumn, Quantity.read, lookup_extraFs_averageSystemStats]
  refine average_total _ rfl f.read f.read (fun fs => ?_) (fun _ => ?_) (fun fs value => ?_) _
  all_goals cases f <;> rfl

theorem read_fsCounter (key : String) (c : FsCounter) :
    (Quantity.fsCounter key c).read (averageSystemStats records) =
      (Quantity.fsCounter key c).average ((Quantity.fsCounter key c).column records)
        records.length := by
  have hcolumn : (Quantity.fsCounter key c).column records =
      ((decoded records).filterMap (·.extraFs.lookup key)).map fun fs => ((c.read fs).toNat : ℚ) :=
    List.map_filterMap.symm
  rw [hcolumn, Quantity.read, lookup_extraFs_averageSystemStats]
  refine average_total_counter (.fsCounter key c) rfl divCount_sum c.read c.read (fun fs => ?_)
    (fun _ => ?_) (fun fs value => ?_) _
  all_goals cases c <;> rfl

theorem read_interface (key : String) (c : InterfaceCounter) :
    (Quantity.interface key c).read (averageSystemStats records) =
      (Quantity.interface key c).average ((Quantity.interface key c).column records)
        records.length := by
  have hcolumn : (Quantity.interface key c).column records =
      ((decoded records).filterMap (·.networkInterfaces.lookup key)).map fun v =>
        ((c.read v).toNat : ℚ) :=
    List.map_filterMap.symm
  rw [hcolumn, Quantity.read, lookup_networkInterfaces_averageSystemStats]
  refine average_total_counter (.interface key c) rfl divCount_sum c.read c.read (fun v => ?_)
    (fun _ => ?_) (fun sum value => ?_) _
  all_goals cases c <;> rfl

theorem read_gpu (id : String) (f : GpuField) :
    (Quantity.gpu id f).read (averageSystemStats records) =
      (Quantity.gpu id f).average ((Quantity.gpu id f).column records) records.length := by
  have hcolumn : (Quantity.gpu id f).column records =
      ((decoded records).filterMap (·.gpuData.lookup id)).map f.read :=
    List.map_filterMap.symm
  rw [hcolumn, Quantity.read, lookup_gpuData_averageSystemStats]
  refine average_total _ rfl f.read f.read (fun gpu => ?_) (fun _ => ?_) (fun gpu value => ?_) _
  all_goals cases f <;> rfl

theorem read_engine (id engineKey : String) :
    (Quantity.engine id engineKey).read (averageSystemStats records) =
      (Quantity.engine id engineKey).average ((Quantity.engine id engineKey).column records)
        records.length := by
  have hcolumn : (Quantity.engine id engineKey).column records =
      ((decoded records).filterMap (·.gpuData.lookup id)).filterMap (·.engines.lookup engineKey) :=
    List.filterMap_filterMap.symm
  rw [hcolumn, Quantity.read, lookup_gpuData_averageSystemStats]
  cases (decoded records).filterMap (·.gpuData.lookup id) with
  | nil => rfl
  | cons gpu gpus =>
    have hfold := foldl_eq_foldl_map GPUData.add GPUData.engines GPUData.engines
      (fun m m' => accumulate (fun _ => (0 : ℚ)) (· + ·) m m'.entries) (fun _ _ => rfl)
      (GPUData.named gpu.name) (gpu :: gpus)
    have hstart : (GPUData.named gpu.name).engines = ∅ := rfl
    rw [total, List.head?_cons, Option.map_some, Option.map_some, Option.bind_some,
      GPUData.average, lookup_mapValues, hfold, hstart, lookup_foldl_accumulate, total_zero_add,
      List.filterMap_map, Function.comp_def]
    unfold Quantity.average
    split_ifs
    · rfl
    · rfl

variable (hrecords : records.length ≠ 0)
include hrecords

theorem read_field (f : Field) :
    (Quantity.field f).read (averageSystemStats records) =
      (Quantity.field f).average ((Quantity.field f).column records) records.length := by
  have hdiv : ∀ (s : Sums) (n : ℕ), n ≠ 0 →
      f.read (s.average n) = twoDecimals (f.read s.sum / n) := by
    intro s n hn
    unfold Sums.average
    rw [if_neg hn]
    cases f <;> rfl
  have hadd : ∀ (s : Sums) (a : Stats), f.read (s.add a).sum = f.read s.sum + f.read a := by
    intro s a
    cases f <;> rfl
  have hzero : f.read Sums.zero.sum = 0 := by cases f <;> rfl
  have hcolumn : (Quantity.field f).column records = (decoded records).map f.read :=
    congrFun List.filterMap_eq_map' _
  rw [Quantity.average_of_missing rfl, hcolumn, Quantity.read, averageSystemStats,
    hdiv _ _ hrecords, accumulateTotals_eq,
    foldl_eq_add_sum Sums.add (fun s => f.read s.sum) _ hadd, hzero, zero_add]
  rfl

theorem read_counter (c : Counter) :
    (Quantity.counter c).read (averageSystemStats records) =
      (Quantity.counter c).average ((Quantity.counter c).column records) records.length := by
  have hdiv : ∀ (s : Sums) (n : ℕ), n ≠ 0 → c.read (s.average n) = divCount (c.read s.sum) n := by
    intro s n hn
    unfold Sums.average
    rw [if_neg hn]
    cases c <;> rfl
  have hadd : ∀ (s : Sums) (a : Stats), c.read (s.add a).sum = c.read s.sum + c.read a := by
    intro s a
    cases c <;> rfl
  have hzero : c.read Sums.zero.sum = 0 := by cases c <;> rfl
  have hcolumn : (Quantity.counter c).column records =
      ((decoded records).map c.read).map fun u => (u.toNat : ℚ) := by
    rw [List.map_map]
    exact congrFun List.filterMap_eq_map' _
  rw [Quantity.average_of_missing rfl, hcolumn, Quantity.read, averageSystemStats,
    hdiv _ _ hrecords, accumulateTotals_eq,
    foldl_eq_add_sum Sums.add (fun s => c.read s.sum) _ hadd, hzero, zero_add, divCount_sum]
  rfl

theorem read_battery :
    Quantity.battery.read (averageSystemStats records) =
      Quantity.battery.average (Quantity.battery.column records) records.length := by
  have hdiv : ((accumulateTotals records).average records.length).battery.1 =
      .ofNat ((accumulateTotals records).batterySum / records.length) := by
    unfold Sums.average
    rw [if_neg hrecords]
  have hsum : (accumulateTotals records).batterySum =
      (((decoded records).map fun s => s.battery.1).map UInt8.toNat).sum := by
    rw [accumulateTotals_eq, foldl_eq_add_sum Sums.add Sums.batterySum (fun s => s.battery.1.toNat)
      (fun _ _ => rfl), List.map_map]
    exact zero_add _
  have hle := sum_toNat_le ((decoded records).map fun s => s.battery.1)
    ((List.length_map _).trans_le (length_decoded_le records))
  have hbyte : (accumulateTotals records).batterySum / records.length < 256 := by
    rw [hsum, Nat.div_lt_iff_lt_mul (Nat.pos_of_ne_zero hrecords)]
    have := Nat.pos_of_ne_zero hrecords
    omega
  have hcolumn : Quantity.battery.column records =
      (decoded records).map fun s => (s.battery.1.toNat : ℚ) :=
    congrFun List.filterMap_eq_map' _
  rw [Quantity.average_of_missing rfl, hcolumn, Quantity.read, averageSystemStats, hdiv,
    UInt8.toNat_ofNat_of_lt' hbyte, hsum, sum_map_natCast, natCast_div, List.map_map]
  rfl

theorem read_temperature (key : String) :
    (Quantity.temperature key).read (averageSystemStats records) =
      (Quantity.temperature key).average ((Quantity.temperature key).column records)
        ((Quantity.temperature key).divisor records) := by
  have hdiv : ((accumulateTotals records).average records.length).temperatures =
      if 0 < (accumulateTotals records).tempCount then
        (accumulateTotals records).sum.temperatures.map (mapValues fun _ t =>
          twoDecimals (t / (accumulateTotals records).tempCount))
      else (accumulateTotals records).sum.temperatures := by
    unfold Sums.average
    rw [if_neg hrecords]
  have hcolumn : (Quantity.temperature key).column records =
      ((decoded records).filterMap Stats.temperatures).filterMap (·.lookup key) :=
    List.filterMap_filterMap.symm
  rw [hcolumn, Quantity.read, averageSystemStats, hdiv, temperatures_accumulateTotals,
    tempCount_accumulateTotals, Quantity.divisor]
  cases hts : (decoded records).filterMap Stats.temperatures with
  | nil => rfl
  | cons t ts =>
    have hlookup := lookup_foldl_accumulate (fun _ => (0 : ℚ)) (· + ·) (t :: ts) key
    rw [if_pos (by simp), total, List.head?_cons, Option.map_some, Option.map_some,
      Option.bind_some, lookup_mapValues, hlookup, total_zero_add]
    unfold Quantity.average
    split_ifs
    · rfl
    · rfl

theorem read_breakdown (i : ℕ) :
    (Quantity.breakdown i).read (averageSystemStats records) =
      (Quantity.breakdown i).average ((Quantity.breakdown i).column records) records.length := by
  have hread : (Quantity.breakdown i).read (averageSystemStats records) =
      ((accumulateTotals records).cpuBreakdownSums[i]?).map fun sum =>
        twoDecimals (sum / records.length) := by
    rw [Quantity.read, averageSystemStats, cpuBreakdown_average hrecords, List.getElem?_map]
  rw [hread, getElem?_accumulateTotals Sums.cpuBreakdownSums Stats.cpuBreakdown (fun _ _ => rfl)
    rfl, total_zero_add]
  unfold Quantity.average Quantity.column Quantity.read
  split_ifs
  · rfl
  · rfl

theorem read_core (i : ℕ) :
    (Quantity.core i).read (averageSystemStats records) =
      (Quantity.core i).average ((Quantity.core i).column records) records.length := by
  set us := (decoded records).filterMap fun s => s.cpuCoresUsage[i]? with hus
  have hcolumn : (Quantity.core i).column records = us.map fun u => (u.toNat : ℚ) :=
    List.map_filterMap.symm
  have hnats : ((decoded records).filterMap fun s => (s.cpuCoresUsage.map (·.toNat))[i]?) =
      us.map UInt8.toNat := by
    rw [hus, List.map_filterMap]
    exact congrArg (List.filterMap · _) (funext fun s => List.getElem?_map)
  have hsums := getElem?_accumulateTotals Sums.cpuCoresSums
    (fun s => s.cpuCoresUsage.map (·.toNat)) (fun _ _ => rfl) rfl records i
  rw [hnats, total_zero_add] at hsums
  have hle := sum_toNat_le us ((List.length_filterMap_le _ _).trans (length_decoded_le records))
  rw [Quantity.read, averageSystemStats, cpuCoresUsage_average hrecords, List.getElem?_map, hsums,
    hcolumn]
  unfold Quantity.average
  simp only [List.map_eq_nil_iff]
  split_ifs
  · rfl
  · rw [Option.map_some, Option.map_some, sum_map_natCast, toNat_mathRound_mean hrecords hle]
    rfl

end Averages

/-- **An average depends on its column only.** -/
theorem read_averageSystemStats (q : Quantity) (records : List Record) :
    q.read (averageSystemStats records) = q.average (q.column records) (q.divisor records) := by
  rcases eq_or_ne records.length 0 with hnil | hrecords
  · obtain rfl := List.length_eq_zero_iff.mp hnil
    cases q with
    | field f => cases f <;> rfl
    | counter c => cases c <;> rfl
    | _ => rfl
  · cases q with
    | field f => exact read_field hrecords f
    | counter c => exact read_counter hrecords c
    | battery => exact read_battery hrecords
    | temperature key => exact read_temperature hrecords key
    | fs key f => exact read_fs key f
    | fsCounter key c => exact read_fsCounter key c
    | interface key c => exact read_interface key c
    | gpu id f => exact read_gpu id f
    | engine id engineKey => exact read_engine id engineKey
    | breakdown i => exact read_breakdown hrecords i
    | core i => exact read_core hrecords i

/-! ## The peaks -/

theorem toNat_max (a b : UInt64) : (max a b).toNat = max a.toNat b.toNat := by
  have hif : max a b = if a ≤ b then b else a := rfl
  rw [hif]
  split_ifs with h
  · exact (max_eq_right (UInt64.le_iff_toNat_le.mp h)).symm
  · exact (max_eq_left (le_of_not_ge fun h' => h (UInt64.le_iff_toNat_le.mpr h'))).symm

theorem toNat_max3 (a b c : UInt64) :
    ((max3 a b c).toNat : ℚ) = max3 (a.toNat : ℚ) b.toNat c.toNat := by
  unfold max3
  rw [toNat_max, toNat_max, Nat.cast_max, Nat.cast_max]

/-- A step of the loop raises the peaks. -/
theorem peak_add (p : PeakField) (s : Sums) (a : Stats) :
    p.peak (s.add a).sum = Peak.raise (p.peak s.sum) (p.peak a, p.current a) := by
  cases p with
  | cpu | mem | networkSent | networkRecv | diskReadPs | diskWritePs => rfl
  | bandwidthSent | bandwidthRecv | diskIORead | diskIOWrite => exact toNat_max3 _ _ _

theorem FsPeak.peak_add (p : FsPeak) (fs value : FsStats) :
    p.peak (fs.add value) = Peak.raise (p.peak fs) (p.peak value, p.current value) := by
  cases p with
  | diskReadPs | diskWritePs => rfl
  | diskReadBytes | diskWriteBytes => exact toNat_max3 _ _ _

/-- Averaging leaves the peaks alone. -/
theorem peak_average (p : PeakField) (s : Sums) (count : ℕ) :
    p.peak (s.average count) = p.peak s.sum := by
  refine average_eq_sum p.peak (fun s count hcount => ?_) s count
  unfold Sums.average
  rw [if_neg hcount]
  cases p <;> rfl

/-- **A peak depends on its column only.** -/
theorem peak_averageSystemStats (p : Peak) (records : List Record) :
    p.peak (averageSystemStats records) =
      if p.column records = [] then p.missing
      else some ((p.column records).foldl Peak.raise 0) := by
  cases p with
  | field p =>
    have hread : (Peak.field p).peak (averageSystemStats records) =
        some (p.peak (accumulateTotals records).sum) := congrArg some (peak_average p _ _)
    have hcolumn : (Peak.field p).column records =
        (decoded records).map fun s => (p.peak s, p.current s) :=
      congrFun List.filterMap_eq_map' _
    have hzero : p.peak Sums.zero.sum = 0 := by cases p <;> rfl
    rw [hread, hcolumn, accumulateTotals_eq,
      foldl_eq_foldl_map Sums.add (fun s => p.peak s.sum) _ Peak.raise (peak_add p), hzero]
    split_ifs with hnil
    · rw [hnil]
      rfl
    · rfl
  | fs key p =>
    have hcolumn : (Peak.fs key p).column records =
        ((decoded records).filterMap (·.extraFs.lookup key)).map fun fs =>
          (p.peak fs, p.current fs) :=
      List.map_filterMap.symm
    have hpeak : p.peak ∘ FsStats.average records.length = p.peak := by
      funext fs
      cases p <;> rfl
    have hread : (Peak.fs key p).peak (averageSystemStats records) =
        ((averageSystemStats records).extraFs.lookup key).map p.peak := by
      rw [Peak.peak, Peak.read, Option.map_map]
      rfl
    rw [hread, lookup_extraFs_averageSystemStats, Option.map_map, hpeak, hcolumn,
      map_total _ _ p.peak (fun fs => (p.peak fs, p.current fs)) Peak.raise 0
        (fun _ => by cases p <;> rfl) p.peak_add]
    simp only [List.map_eq_nil_iff]
    rfl

/-! ## What is neither -/

section Rest

variable (records : List Record)

/-- **The old load averages are lost.** -/
theorem loadAvg_averageSystemStats :
    ((averageSystemStats records).loadAvg1, (averageSystemStats records).loadAvg5,
      (averageSystemStats records).loadAvg15) = (0, 0, 0) := by
  have haverage := average_eq_sum (fun s => (s.loadAvg1, s.loadAvg5, s.loadAvg15))
    fun s count hcount => by
      unfold Sums.average
      rw [if_neg hcount]
  rw [averageSystemStats, haverage, accumulateTotals_eq,
    foldl_unchanged Sums.add (fun s => (s.sum.loadAvg1, s.sum.loadAvg5, s.sum.loadAvg15))
      fun _ _ => rfl]
  rfl

/-- **The charge state is that of the last sample.** -/
theorem chargeState_averageSystemStats :
    (averageSystemStats records).battery.2 =
      ((decoded records).getLast?.map (·.battery.2)).getD 0 := by
  have haverage := average_eq_sum (fun s => s.battery.2) fun s count hcount => by
    unfold Sums.average
    rw [if_neg hcount]
  rw [averageSystemStats, haverage, accumulateTotals_eq,
    foldl_overwritten Sums.add (fun s => s.sum.battery.2) (fun a => a.battery.2) fun _ _ => rfl]
  rfl

/-- There are temperatures if a sample has the map. -/
theorem temperatures_averageSystemStats :
    (averageSystemStats records).temperatures = none ↔
      (decoded records).filterMap Stats.temperatures = [] := by
  have haverage := average_eq_sum (fun s => s.temperatures.isNone) fun s count hcount => by
    unfold Sums.average
    rw [if_neg hcount]
    by_cases htemps : 0 < s.tempCount
    · simp only [if_pos htemps, Option.isNone_map]
    · simp only [if_neg htemps]
  rw [← Option.isNone_iff_eq_none, averageSystemStats, haverage, temperatures_accumulateTotals,
    total, Option.isNone_map, Option.isNone_iff_eq_none, List.head?_eq_none_iff]

/-- **The name of a GPU is the first one**, and the power of its package is lost. -/
theorem gpuName_averageSystemStats (id : String) :
    ((averageSystemStats records).gpuData.lookup id).map (fun gpu => (gpu.name, gpu.powerPkg)) =
      ((decoded records).filterMap (·.gpuData.lookup id)).head?.map fun gpu => (gpu.name, 0) := by
  rw [lookup_gpuData_averageSystemStats]
  cases (decoded records).filterMap (·.gpuData.lookup id) with
  | nil => rfl
  | cons gpu gpus =>
    have hfold := foldl_unchanged GPUData.add (fun gpu => (gpu.name, gpu.powerPkg))
      (fun _ _ => rfl) (.named gpu.name) (gpu :: gpus)
    exact congrArg some hfold

end Rest

end SystemAverages

end Beszel
