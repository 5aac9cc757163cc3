import Beszel.Hub.SystemColumns

/-!
# Hub/AverageBounds — when averages are averages

Only the temperatures are divided by the number of the records that have them; every other total is
divided by the number of all records, those that do not decode and those without the entry included.
So an average lies between the values it is of where nothing is missing (`Complete`), and what is
missing pulls it towards zero: `between_iff_complete`.
-/

namespace Beszel

open Machinery

namespace SystemAverages

/-! ## Between the values -/

/-- The average of a quantity lies between two values that the records carry, up to its rounding. -/
def Quantity.Between (q : Quantity) (records : List Record) : Prop :=
  ∀ v, q.read (averageSystemStats records) = some v → q.column records ≠ [] →
    ∃ lo ∈ q.column records, ∃ hi ∈ q.column records, q.round lo ≤ v ∧ v ≤ q.round hi

/-- A quantity is carried by every record that its total is divided for, or by none.  The rounding
of a core hides that it is missing in one record of 510. -/
def Quantity.Carried (q : Quantity) (records : List Record) : Prop :=
  q.column records = [] ∨
    match q with
    | .core _ => 510 * (q.divisor records - (q.column records).length) ≤ q.divisor records
    | _ => (q.column records).length = q.divisor records

/-- **Nothing is missing** in any record. -/
def Complete (records : List Record) : Prop := ∀ q : Quantity, q.Carried records

/-- No counter is summed beyond a `uint64`. -/
def NoOverflow (records : List Record) : Prop :=
  ∀ q : Quantity, q.wraps → (q.column records).sum < 2 ^ 64

/-- Two records carry the same fields and entries, with values of their own. -/
def SameShape : Record → Record → Prop :=
  Option.Rel fun s s' => (∀ q : Quantity, (q.read s).isSome = (q.read s').isSome) ∧
    s.temperatures.isSome = s'.temperatures.isSome

/-! ## Columns -/

namespace Quantity

theorem length_column_le (q : Quantity) (records : List Record) :
    (q.column records).length ≤ q.divisor records := by
  have hle : ∀ q : Quantity, (q.column records).length ≤ records.length := fun q =>
    (List.length_filterMap_le _ _).trans (length_decoded_le records)
  cases q with
  | temperature key =>
    have hcolumn : (temperature key).column records =
        ((decoded records).filterMap Stats.temperatures).filterMap (·.lookup key) :=
      List.filterMap_filterMap.symm
    rw [hcolumn]
    exact List.length_filterMap_le _ _
  | _ => exact hle _

theorem divisor_le (q : Quantity) (records : List Record) :
    q.divisor records ≤ records.length := by
  cases q with
  | temperature key => exact (List.length_filterMap_le _ _).trans (length_decoded_le records)
  | _ => exact le_rfl

theorem round_mono (q : Quantity) : Monotone q.round := by
  intro x y hxy
  cases q with
  | counter | fsCounter | interface | battery => exact Int.cast_le.mpr (Int.floor_mono hxy)
  | core => exact Int.cast_le.mpr (mathRound_mono hxy)
  | field | temperature | fs | gpu | engine | breakdown => exact twoDecimals_mono hxy

/-- Counters are natural numbers. -/
theorem read_wraps {q : Quantity} (hq : q.wraps = true) {s : Stats} {v : ℚ}
    (h : q.read s = some v) : ∃ n : ℕ, v = n := by
  cases q with
  | counter c => exact ⟨_, (Option.some.inj h).symm⟩
  | fsCounter key c =>
    obtain ⟨fs, -, rfl⟩ := Option.map_eq_some_iff.mp h
    exact ⟨_, rfl⟩
  | interface key c =>
    obtain ⟨value, -, rfl⟩ := Option.map_eq_some_iff.mp h
    exact ⟨_, rfl⟩
  | _ => cases hq

/-- The usage of a core is a byte. -/
theorem read_core_le {i : ℕ} {s : Stats} {v : ℚ} (h : (core i).read s = some v) :
    ∃ n : ℕ, v = n ∧ n ≤ 255 := by
  obtain ⟨usage, -, rfl⟩ := Option.map_eq_some_iff.mp h
  have := usage.toNat_lt
  exact ⟨_, rfl, by omega⟩

end Quantity

/-- A sum of natural numbers is one. -/
theorem exists_natCast_sum {l : List ℚ} (h : ∀ v ∈ l, ∃ n : ℕ, v = n) : ∃ n : ℕ, l.sum = n := by
  induction l with
  | nil => exact ⟨0, by simp⟩
  | cons v l ih =>
    obtain ⟨n, rfl⟩ := h v List.mem_cons_self
    obtain ⟨m, hm⟩ := ih fun v hv => h v (List.mem_cons_of_mem _ hv)
    exact ⟨n + m, by rw [List.sum_cons, hm, Nat.cast_add]⟩

/-- The total of a counter that does not overflow is its sum. -/
theorem Quantity.wrap_sum {q : Quantity} {records : List Record}
    (h : q.wraps → (q.column records).sum < 2 ^ 64) :
    q.wrap (q.column records).sum = (q.column records).sum := by
  unfold Quantity.wrap
  split_ifs with hq
  · obtain ⟨n, hn⟩ := exists_natCast_sum (l := q.column records) fun v hv => by
      obtain ⟨s, -, hs⟩ := List.mem_filterMap.mp hv
      exact read_wraps hq hs
    have hlt := h hq
    rw [hn] at hlt ⊢
    have hlt : n < 2 ^ 64 := by exact_mod_cast hlt
    rw [Int.floor_natCast]
    have hmod : (n : ℤ) % 2 ^ 64 = n := by omega
    rw [hmod, Int.cast_natCast]
  · rfl

/-! ## What is complete -/

/-- The samples of records of one shape. -/
theorem forall₂_decoded {records records' : List Record}
    (h : List.Forall₂ SameShape records records') :
    List.Forall₂ (fun s s' : Stats => (∀ q : Quantity, (q.read s).isSome = (q.read s').isSome) ∧
      s.temperatures.isSome = s'.temperatures.isSome) (decoded records) (decoded records') := by
  unfold decoded
  induction h with
  | nil => exact .nil
  | cons hab _ ih =>
    cases hab with
    | none => exact ih
    | some hs => exact .cons hs ih

/-- What is kept of lists that agree in what is there has one length. -/
theorem length_filterMap_congr {α β : Type} {f : α → Option β} {l l' : List α}
    (h : List.Forall₂ (fun a a' => (f a).isSome = (f a').isSome) l l') :
    (l.filterMap f).length = (l'.filterMap f).length := by
  induction h with
  | nil => rfl
  | @cons a a' l l' haa' _ ih =>
    rw [List.filterMap_cons, List.filterMap_cons]
    cases ha : f a with
    | none =>
      rw [ha, Option.isSome_none] at haa'
      have ha' : f a' = none :=
        Option.isNone_iff_eq_none.mp (Option.isSome_eq_false_iff.mp haa'.symm)
      rw [ha']
      exact ih
    | some b =>
      rw [ha, Option.isSome_some] at haa'
      obtain ⟨b', hb'⟩ := Option.isSome_iff_exists.mp haa'.symm
      rw [hb', List.length_cons, List.length_cons, ih]

/-- Records of one shape have the same quantities carried. -/
theorem carried_congr (q : Quantity) {records records' : List Record}
    (h : List.Forall₂ SameShape records records') : q.Carried records ↔ q.Carried records' := by
  have hdecoded := forall₂_decoded h
  have hcolumn : (q.column records).length = (q.column records').length :=
    length_filterMap_congr (hdecoded.imp fun _ _ hs => hs.1 q)
  have htemps : ((decoded records).filterMap Stats.temperatures).length =
      ((decoded records').filterMap Stats.temperatures).length :=
    length_filterMap_congr (hdecoded.imp fun _ _ hs => hs.2)
  have hdivisor : q.divisor records = q.divisor records' := by
    cases q with
    | temperature key => exact htemps
    | _ => exact h.length_eq
  unfold Quantity.Carried
  rw [← List.length_eq_zero_iff, ← List.length_eq_zero_iff, hcolumn, hdivisor]

/-- Half below a natural number is rounded up to it. -/
theorem le_mathRound {n : ℕ} {x : ℚ} (hx : 0 ≤ x) (h : (n : ℚ) - 1 / 2 ≤ x) :
    (n : ℤ) ≤ mathRound x := by
  rw [mathRound, if_pos hx, Int.le_floor]
  push_cast
  linarith

/-- **The average of a core**, missing in few records. -/
theorem core_between {l : List ℚ} (hl : l ≠ []) (hbyte : ∀ v ∈ l, ∃ n : ℕ, v = n ∧ n ≤ 255)
    {d : ℕ} (hd : l.length ≤ d) (hfew : 510 * (d - l.length) ≤ d) :
    ∃ lo ∈ l, ∃ hi ∈ l, (mathRound lo : ℚ) ≤ mathRound (l.sum / d) ∧
      (mathRound (l.sum / d) : ℚ) ≤ mathRound hi := by
  have hlen : (0 : ℚ) < l.length := by exact_mod_cast List.length_pos_iff.mpr hl
  have hle : (l.length : ℚ) ≤ d := by exact_mod_cast hd
  have hnonneg : 0 ≤ l.sum := List.sum_nonneg fun v hv => by
    obtain ⟨n, rfl, -⟩ := hbyte v hv
    exact Nat.cast_nonneg n
  obtain ⟨lo, hlo, hlole⟩ := exists_le_mean hl
  obtain ⟨hi, hhi, hlehi⟩ := exists_mean_le hl
  refine ⟨lo, hlo, hi, hhi, ?_, ?_⟩
  · obtain ⟨n, rfl, hn⟩ := hbyte lo hlo
    have hround : mathRound (n : ℚ) = n := mathRound_intCast n
    rw [hround]
    have hfew' : 510 * ((d : ℚ) - l.length) ≤ d := by
      rw [← Nat.cast_sub hd]
      exact_mod_cast hfew
    have hn' : (n : ℚ) ≤ 255 := by exact_mod_cast hn
    rw [le_div_iff₀ hlen] at hlole
    -- what is missing weighs half a percent at most
    have hhalf : (n : ℚ) - 1 / 2 ≤ l.sum / d := by
      rw [le_div_iff₀ (hlen.trans_le hle)]
      nlinarith [mul_le_mul_of_nonneg_right hn' (sub_nonneg.mpr hle)]
    exact_mod_cast le_mathRound (by positivity) hhalf
  · have hmean : l.sum / d ≤ l.sum / l.length := div_le_div_of_nonneg_left hnonneg hlen hle
    exact_mod_cast mathRound_mono (hmean.trans hlehi)

/-- **What is carried everywhere is averaged.** -/
theorem between_of_carried {q : Quantity} {records : List Record} (hq : q.Carried records)
    (hoverflow : q.wraps → (q.column records).sum < 2 ^ 64) : q.Between records := by
  intro v hv hne
  rw [read_averageSystemStats, Quantity.average, if_neg hne, Quantity.wrap_sum hoverflow] at hv
  obtain rfl := Option.some.inj hv
  have hcarried := hq.resolve_left hne
  have hmean : (q.column records).length = q.divisor records → ∃ lo ∈ q.column records,
      ∃ hi ∈ q.column records, q.round lo ≤ q.round ((q.column records).sum / q.divisor records) ∧
        q.round ((q.column records).sum / q.divisor records) ≤ q.round hi := by
    intro hlength
    obtain ⟨lo, hlo, hlole⟩ := exists_le_mean hne
    obtain ⟨hi, hhi, hlehi⟩ := exists_mean_le hne
    rw [← hlength]
    exact ⟨lo, hlo, hi, hhi, q.round_mono hlole, q.round_mono hlehi⟩
  cases q with
  | core i =>
    refine core_between hne (fun v hv => ?_) (Quantity.length_column_le _ _) hcarried
    obtain ⟨s, -, hs⟩ := List.mem_filterMap.mp hv
    exact Quantity.read_core_le hs
  | _ => exact hmean hcarried

/-! ## What is missing -/

/-- A filesystem with other values: `x`, and one byte in the counters. -/
def FsStats.fill (x : ℚ) (fs : FsStats) : FsStats :=
  { fs with
    diskTotal := x
    diskUsed := x
    diskReadPs := x
    diskWritePs := x
    diskReadBytes := 1
    diskWriteBytes := 1 }

/-- A GPU with other values. -/
def GPUData.fill (x : ℚ) (gpu : GPUData) : GPUData :=
  { gpu with
    temperature := x
    memoryUsed := x
    memoryTotal := x
    usage := x
    power := x
    count := x
    engines := mapValues (fun _ _ => x) gpu.engines }

/-- A sample of the same shape in which a missing value shows: `x` for a number, one for a counter
and the charge, and full usage of the cores. -/
def Stats.fill (x : ℚ) (s : Stats) : Stats :=
  { s with
    cpu := x
    mem := x
    memUsed := x
    memPct := x
    memBuffCache := x
    memZfsArc := x
    swap := x
    swapUsed := x
    diskTotal := x
    diskUsed := x
    diskPct := x
    diskReadPs := x
    diskWritePs := x
    networkSent := x
    networkRecv := x
    loadAvg := (x, x, x)
    bandwidth := (1, 1)
    diskIO := (1, 1)
    battery := (1, s.battery.2)
    temperatures := s.temperatures.map (mapValues fun _ _ => x)
    extraFs := mapValues (fun _ => FsStats.fill x) s.extraFs
    gpuData := mapValues (fun _ => GPUData.fill x) s.gpuData
    networkInterfaces := mapValues (fun _ v => (1, 1, v.2.2.1, v.2.2.2)) s.networkInterfaces
    cpuBreakdown := s.cpuBreakdown.map fun _ => x
    cpuCoresUsage := s.cpuCoresUsage.map fun _ => 255 }

/-- The value that a sample is filled with. -/
def Quantity.fillValue : Quantity → ℚ → ℚ
  | .counter _, _ | .fsCounter _ _, _ | .interface _ _, _ | .battery, _ => 1
  | .core _, _ => 255
  | _, x => x

theorem Quantity.read_fill (q : Quantity) (x : ℚ) (s : Stats) :
    q.read (s.fill x) = (q.read s).map fun _ => q.fillValue x := by
  cases q with
  | field f => cases f <;> rfl
  | counter c => cases c <;> rfl
  | battery => rfl
  | temperature key =>
    simp only [Quantity.read, Stats.fill]
    cases s.temperatures with
    | none => rfl
    | some t => exact lookup_mapValues _ t key
  | fs key f =>
    simp only [Quantity.read, Stats.fill, lookup_mapValues, Option.map_map]
    cases f <;> rfl
  | fsCounter key c =>
    simp only [Quantity.read, Stats.fill, lookup_mapValues, Option.map_map]
    cases c <;> rfl
  | interface key c =>
    simp only [Quantity.read, Stats.fill, lookup_mapValues, Option.map_map]
    cases c <;> rfl
  | gpu id f =>
    simp only [Quantity.read, Stats.fill, lookup_mapValues, Option.map_map]
    cases f <;> rfl
  | engine id engineKey =>
    simp only [Quantity.read, Stats.fill, lookup_mapValues]
    cases s.gpuData.lookup id with
    | none => rfl
    | some gpu => exact lookup_mapValues _ gpu.engines engineKey
  | breakdown i => exact List.getElem?_map
  | core i =>
    simp only [Quantity.read, Stats.fill, List.getElem?_map, Option.map_map]
    rfl

/-- The records filled. -/
def fillRecords (x : ℚ) (records : List Record) : List Record :=
  records.map (Option.map (Stats.fill x))

theorem decoded_fillRecords (x : ℚ) (records : List Record) :
    decoded (fillRecords x records) = (decoded records).map (Stats.fill x) := by
  unfold decoded fillRecords
  rw [List.filterMap_map, List.map_filterMap]
  rfl

theorem column_fillRecords (q : Quantity) (x : ℚ) (records : List Record) :
    q.column (fillRecords x records) =
      List.replicate (q.column records).length (q.fillValue x) := by
  unfold Quantity.column
  rw [decoded_fillRecords, List.filterMap_map]
  have hread : q.read ∘ Stats.fill x = fun s => (q.read s).map fun _ => q.fillValue x :=
    funext (q.read_fill x)
  rw [hread, ← List.map_filterMap, List.map_const']

theorem divisor_fillRecords (q : Quantity) (x : ℚ) (records : List Record) :
    q.divisor (fillRecords x records) = q.divisor records := by
  have hlength : (fillRecords x records).length = records.length := List.length_map _
  cases q with
  | temperature key =>
    simp only [Quantity.divisor]
    rw [decoded_fillRecords, List.filterMap_map]
    have htemps : Stats.temperatures ∘ Stats.fill x =
        fun s => s.temperatures.map (mapValues fun _ _ => x) := rfl
    rw [htemps, ← List.map_filterMap, List.length_map]
  | _ => exact hlength

theorem sameShape_fillRecords (x : ℚ) (records : List Record) :
    List.Forall₂ SameShape records (fillRecords x records) := by
  unfold fillRecords
  rw [List.forall₂_map_right_iff, List.forall₂_same]
  intro record _
  cases record with
  | none => exact .none
  | some s => exact .some ⟨fun q => by rw [q.read_fill, Option.isSome_map], Option.isSome_map.symm⟩

/-- What is filled with ones does not overflow. -/
theorem noOverflow_fillRecords {records : List Record} (h : records.length < 2 ^ 63) (x : ℚ) :
    NoOverflow (fillRecords x records) := by
  intro q hq
  have hone : q.fillValue x = 1 := by
    cases q with
    | counter | fsCounter | interface => rfl
    | _ => cases hq
  have hlt : (q.column records).length < 2 ^ 64 :=
    ((q.length_column_le records).trans (q.divisor_le records)).trans_lt (h.trans (by norm_num))
  rw [column_fillRecords, List.sum_replicate, hone, nsmul_eq_mul, mul_one]
  exact_mod_cast hlt

/-- Ones of which some are missing have a mean below one. -/
theorem floor_mean_one {k d : ℕ} (hd : 0 < d)
    (h : (⌊(1 : ℚ)⌋ : ℚ) ≤ ⌊(k : ℚ) * 1 / d⌋) : d ≤ k := by
  have hd' : (0 : ℚ) < d := by exact_mod_cast hd
  have hfloor : (1 : ℤ) ≤ ⌊(k : ℚ) * 1 / d⌋ := by
    rw [Int.floor_one] at h
    exact_mod_cast h
  have hone : ((1 : ℤ) : ℚ) ≤ k * 1 / d := Int.le_floor.mp hfloor
  rw [le_div_iff₀ hd', Int.cast_one, one_mul, mul_one] at hone
  exact_mod_cast hone

/-- Numbers of which some are missing have a mean that is rounded below them, if they are not less
than their number. -/
theorem twoDecimals_mean {k d n : ℕ} (hd : 0 < d) (hn : d ≤ n)
    (h : twoDecimals n ≤ twoDecimals ((k : ℚ) * n / d)) : d ≤ k := by
  by_contra hk
  have hd' : (0 : ℚ) < d := by exact_mod_cast hd
  have hn' : (d : ℚ) ≤ n := by exact_mod_cast hn
  have hk' : (k : ℚ) + 1 ≤ d := by exact_mod_cast not_le.mp hk
  have hmean : (k : ℚ) * n / d ≤ ((n - 1 : ℤ) : ℚ) := by
    rw [div_le_iff₀ hd']
    push_cast
    nlinarith
  have hround := h.trans (twoDecimals_mono hmean)
  rw [twoDecimals_natCast, twoDecimals_intCast] at hround
  push_cast at hround
  linarith

/-- Full cores of which more than a few are missing have a mean that is rounded below. -/
theorem mathRound_mean {k d : ℕ} (hd : 0 < d)
    (h : (mathRound 255 : ℚ) ≤ mathRound ((k : ℚ) * 255 / d)) : 510 * (d - k) ≤ d := by
  have hd' : (0 : ℚ) < d := by exact_mod_cast hd
  have h255 : mathRound (255 : ℚ) = 255 := mathRound_intCast 255
  have hle : (255 : ℤ) ≤ mathRound ((k : ℚ) * 255 / d) := by
    rw [h255] at h
    exact_mod_cast h
  have hnonneg : (0 : ℚ) ≤ (k : ℚ) * 255 / d := by positivity
  rw [mathRound, if_pos hnonneg, Int.le_floor] at hle
  have hmean : (255 : ℚ) - 1 / 2 ≤ (k : ℚ) * 255 / d := by
    push_cast at hle
    linarith
  rw [le_div_iff₀ hd'] at hmean
  have hmul : (509 * d : ℕ) ≤ 510 * k := by
    have hcast : ((509 * d : ℕ) : ℚ) ≤ ((510 * k : ℕ) : ℚ) := by
      push_cast
      linarith
    exact_mod_cast hcast
  omega

/-- **What is missing somewhere is not averaged** when its values are filled. -/
theorem carried_of_between {q : Quantity} {records : List Record} (h : records.length < 2 ^ 63)
    (hq : q.Between (fillRecords records.length records)) : q.Carried records := by
  rcases eq_or_ne (q.column records) [] with hnil | hne
  · exact .inl hnil
  have hcolumn := column_fillRecords q records.length records
  have hne' : q.column (fillRecords records.length records) ≠ [] := by
    rw [hcolumn, Ne, List.replicate_eq_nil_iff, List.length_eq_zero_iff]
    exact hne
  have hvalue := read_averageSystemStats q (fillRecords records.length records)
  rw [Quantity.average, if_neg hne',
    Quantity.wrap_sum (noOverflow_fillRecords h _ q), hcolumn, divisor_fillRecords,
    List.sum_replicate, nsmul_eq_mul] at hvalue
  obtain ⟨lo, hlo, -, -, hle, -⟩ := hq _ hvalue hne'
  rw [hcolumn] at hlo
  obtain rfl := List.eq_of_mem_replicate hlo
  have hkd := q.length_column_le records
  have hd : 0 < q.divisor records := (List.length_pos_iff.mpr hne).trans_le hkd
  have hn := q.divisor_le records
  refine .inr ?_
  cases q with
  | counter | fsCounter | interface | battery => exact hkd.antisymm (floor_mean_one hd hle)
  | core => exact mathRound_mean hd hle
  | field | temperature | fs | gpu | engine | breakdown =>
    exact hkd.antisymm (twoDecimals_mean hd hn hle)

/-- **Averages are averages** for all records of a shape, if and only if nothing is missing. -/
theorem between_iff_complete {records : List Record} (h : records.length < 2 ^ 63) :
    (∀ records', List.Forall₂ SameShape records records' → NoOverflow records' →
      ∀ q : Quantity, q.Between records') ↔ Complete records := by
  constructor
  · intro hall q
    exact carried_of_between h
      (hall _ (sameShape_fillRecords _ _) (noOverflow_fillRecords h _) q)
  · intro hcomplete records' hshape hoverflow q
    exact between_of_carried ((carried_congr q hshape).mp (hcomplete q)) (hoverflow q)

/-- A busy minute of a machine with an extra filesystem, a GPU and two cores. -/
def busy : Stats :=
  { Stats.zero with
    cpu := 80
    maxCpu := 95
    memUsed := 12
    networkSent := 7
    temperatures := some ((∅ : GoMap ℚ).insert "cpu" 66)
    extraFs := (∅ : GoMap FsStats).insert "sda"
      { FsStats.zero with diskTotal := 100, diskUsed := 40, diskReadBytes := 4096 }
    gpuData := (∅ : GoMap GPUData).insert "i0"
      { GPUData.named "GPU" with usage := 30, engines := (∅ : GoMap ℚ).insert "Render" 12 }
    bandwidth := (7340032, 1024)
    networkInterfaces := (∅ : GoMap Interface).insert "eth0" (7340032, 1024, 9000000, 2048)
    battery := (90, 3)
    cpuBreakdown := [50, 20]
    cpuCoresUsage := [99, 61] }

/-- The same machine in a quiet minute, with the sensor not read. -/
def quiet : Stats :=
  { Stats.zero with
    cpu := 4
    memUsed := 9
    extraFs := (∅ : GoMap FsStats).insert "sda"
      { FsStats.zero with diskTotal := 100, diskUsed := 41 }
    gpuData := (∅ : GoMap GPUData).insert "i0"
      { GPUData.named "GPU" with usage := 1, engines := (∅ : GoMap ℚ).insert "Render" 2 }
    bandwidth := (2048, 512)
    networkInterfaces := (∅ : GoMap Interface).insert "eth0" (2048, 512, 9002048, 2560)
    battery := (88, 3)
    cpuBreakdown := [3, 1]
    cpuCoresUsage := [6, 2] }

theorem lookup_insert_empty {α : Type} (k key : String) (v : α) :
    ((∅ : GoMap α).insert k v).lookup key = if key = k then some v else none := by
  split_ifs with h
  · subst h
    exact AList.lookup_insert _
  · exact AList.lookup_insert_ne h

/-- Both minutes carry the same quantities, but for the temperature. -/
theorem isSome_read_quiet (q : Quantity) (hq : ∀ key, q ≠ .temperature key) :
    (q.read busy).isSome = (q.read quiet).isSome := by
  cases q with
  | field | counter | battery => rfl
  | temperature key => exact absurd rfl (hq key)
  | fs key | fsCounter key | interface key | gpu key =>
    simp only [Quantity.read, Option.isSome_map, busy, quiet, lookup_insert_empty]
    split_ifs <;> rfl
  | engine id engineKey =>
    simp only [Quantity.read, busy, quiet, lookup_insert_empty]
    split_ifs with hid
    · simp only [Option.bind_some, lookup_insert_empty]
      split_ifs <;> rfl
    · rfl
  | breakdown i | core i => rcases i with _ | _ | i <;> rfl

/-- Nothing is missing: the temperature is divided by the one minute that has it. -/
theorem complete_busy_quiet : Complete [some busy, some quiet] := by
  intro q
  have hcolumn : q.column [some busy, some quiet] = [busy, quiet].filterMap q.read := rfl
  unfold Quantity.Carried
  rw [hcolumn, List.filterMap_cons, List.filterMap_cons, List.filterMap_nil]
  by_cases hq : ∃ key, q = .temperature key
  · obtain ⟨key, rfl⟩ := hq
    have hquiet : (Quantity.temperature key).read quiet = none := rfl
    rw [hquiet]
    cases (Quantity.temperature key).read busy with
    | none => exact .inl rfl
    | some v => exact .inr rfl
  · have hsome := isSome_read_quiet q (not_exists.mp hq)
    have hdivisor : q.divisor [some busy, some quiet] = 2 := by
      cases q with
      | temperature key => exact absurd ⟨key, rfl⟩ hq
      | _ => rfl
    rw [hdivisor]
    cases hb : q.read busy with
    | none =>
      rw [hb] at hsome
      rw [Option.isNone_iff_eq_none.mp (Option.isSome_eq_false_iff.mp hsome.symm)]
      exact .inl rfl
    | some v =>
      rw [hb] at hsome
      obtain ⟨w, hw⟩ := Option.isSome_iff_exists.mp hsome.symm
      rw [hw]
      refine .inr ?_
      cases q with
      | core => simp
      | _ => rfl

/-- The averages of the two minutes are averages; with a third record that does not decode they need
not be. -/
theorem between_iff_complete_busy_quiet :
    (∀ records', List.Forall₂ SameShape [some busy, some quiet] records' → NoOverflow records' →
        ∀ q : Quantity, q.Between records') ∧
      ¬ ∀ records', List.Forall₂ SameShape [some busy, some quiet, none] records' →
        NoOverflow records' → ∀ q : Quantity, q.Between records' := by
  refine ⟨(between_iff_complete (by decide)).mpr complete_busy_quiet, fun h => ?_⟩
  have hcpu := (between_iff_complete (by decide)).mp h (.field .cpu)
  have hcarried : ¬ Quantity.Carried (.field .cpu) [some busy, some quiet, none] :=
    fun hc => hc.elim nofun nofun
  exact hcarried hcpu

/-- A filesystem that is mounted for one of two records: with 4 GB used its average is 2 GB. -/
theorem not_between :
    ¬ ∀ q : Quantity, q.Between
      [some { Stats.zero with
          extraFs := (∅ : GoMap FsStats).insert "sda" { FsStats.zero with diskUsed := 4 } },
        some Stats.zero] := by
  intro h
  obtain ⟨lo, hlo, -, -, hle, -⟩ := h (.fs "sda" .diskUsed) 2 (by decide +kernel)
    (by decide +kernel)
  have hcolumn : lo ∈ [(4 : ℚ)] := hlo
  obtain rfl := List.mem_singleton.mp hcolumn
  revert hle
  decide +kernel

end SystemAverages

end Beszel
