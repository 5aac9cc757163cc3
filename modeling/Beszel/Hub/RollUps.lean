import Beszel.Hub.Records
import Beszel.Hub.SystemColumns
import Beszel.Machinery.Totals

/-!
# Hub/RollUps — peaks survive the roll-up chain

    samples ──average──▸ 10m ──average──▸ 20m ──average──▸ 120m ──average──▸ 480m

A longer record is averaged from shorter ones, which are averages themselves.  At every level the
averaged current values enter the maximum again; they stay below the peaks, since the peaks of what
the agents send are hundredths, which rounding does not exceed.  So the peak of a longer record is
the greatest of the peaks and the current values of the samples below it: `peak_rollsUp`.
-/

namespace Beszel

open Machinery

namespace SystemAverages

/-- A record as it is stored and read again: the temperature and the count of a GPU are not in the
JSON, nor is an empty map of temperatures. -/
def Stats.stored (s : Stats) : Stats :=
  { s with
    temperatures := s.temperatures.filter fun t => !t.entries.isEmpty
    gpuData := mapValues (fun _ gpu => { gpu with temperature := 0, count := 0 }) s.gpuData }

/-- **The roll-ups** of samples: `RollsUp type samples s` if `s` is a stored record of the type with
these samples below it, grouped and ordered in any way, in groups of any size.  All records
decode. -/
inductive RollsUp : Records.RecordType → List Stats → Stats → Prop
  | sample (s : Stats) : RollsUp .m1 [s] s
  | longer (d : Records.Period) (parts : List (List Stats × Stats))
      (hparts : ∀ part ∈ parts, RollsUp d.1.shorterType part.1 part.2)
      (hne : parts ≠ []) :
      RollsUp d.1.longerType (parts.flatMap (·.1))
        (averageSystemStats (parts.map fun part => some part.2)).stored

/-- A value that an agent sends: hundredths, and not negative. -/
def IsHundredths (x : ℚ) : Prop := ∃ n : ℕ, x = n / 100

/-- A sample of which the peaks and the current values are hundredths. -/
def OnGrid (s : Stats) : Prop :=
  ∀ p : Peak, ∀ v, p.read s = some v → IsHundredths v.1 ∧ IsHundredths v.2

/-- The peaks and current values of samples. -/
def peakValues (p : Peak) (samples : List Stats) : Set ℚ :=
  {x | ∃ s ∈ samples, p.peak s = some x ∨ p.current s = some x}

/-! ## Rounding stays below the peak -/

theorem IsHundredths.nonneg {x : ℚ} (h : IsHundredths x) : 0 ≤ x := by
  obtain ⟨n, rfl⟩ := h
  positivity

theorem isHundredths_natCast (n : ℕ) : IsHundredths n := ⟨n * 100, by push_cast; ring⟩

theorem IsHundredths.twoDecimals {x : ℚ} (h : 0 ≤ x) : IsHundredths (twoDecimals x) := by
  have hnonneg : 0 ≤ mathRound (x * 100) := by
    have := mathRound_mono (show (0 : ℚ) ≤ x * 100 by positivity)
    rwa [mathRound_zero] at this
  obtain ⟨n, hn⟩ := Int.eq_ofNat_of_zero_le hnonneg
  exact ⟨n, by rw [Beszel.twoDecimals, hn, Int.cast_natCast]⟩

/-- The average that goes with a peak. -/
def Peak.quantity : Peak → Quantity
  | field .cpu => .field .cpu
  | field .mem => .field .memUsed
  | field .networkSent => .field .networkSent
  | field .networkRecv => .field .networkRecv
  | field .diskReadPs => .field .diskReadPs
  | field .diskWritePs => .field .diskWritePs
  | field .bandwidthSent => .counter .bandwidthSent
  | field .bandwidthRecv => .counter .bandwidthRecv
  | field .diskIORead => .counter .diskIORead
  | field .diskIOWrite => .counter .diskIOWrite
  | fs key .diskReadPs => .fs key .diskReadPs
  | fs key .diskWritePs => .fs key .diskWritePs
  | fs key .diskReadBytes => .fsCounter key .diskReadBytes
  | fs key .diskWriteBytes => .fsCounter key .diskWriteBytes

theorem Peak.read_quantity (p : Peak) (s : Stats) : p.quantity.read s = p.current s := by
  cases p with
  | field p => cases p <;> rfl
  | fs key p =>
    rw [Peak.current, Peak.read, Option.map_map]
    cases p <;> rfl

theorem Peak.divisor_quantity (p : Peak) (records : List Record) :
    p.quantity.divisor records = records.length := by
  cases p with
  | field p => cases p <;> rfl
  | fs key p => cases p <;> rfl

theorem Peak.round_quantity (p : Peak) (x : ℚ) :
    p.quantity.round x = twoDecimals x ∨ p.quantity.round x = ⌊x⌋ := by
  cases p with
  | field p => cases p <;> first | exact .inl rfl | exact .inr rfl
  | fs key p => cases p <;> first | exact .inl rfl | exact .inr rfl

/-- **A rounded value does not exceed the hundredths above it.** -/
theorem Peak.round_le (p : Peak) {x m : ℚ} (hm : IsHundredths m) (h : x ≤ m) :
    p.quantity.round x ≤ m := by
  rcases p.round_quantity x with hround | hround
  · obtain ⟨n, rfl⟩ := hm
    rw [hround]
    exact (twoDecimals_mono h).trans_eq (twoDecimals_hundredths n)
  · rw [hround]
    exact (Int.floor_le x).trans h

theorem Peak.isHundredths_round (p : Peak) {x : ℚ} (h : 0 ≤ x) :
    IsHundredths (p.quantity.round x) := by
  rcases p.round_quantity x with hround | hround
  · rw [hround]
    exact .twoDecimals h
  · obtain ⟨n, hn⟩ := Int.eq_ofNat_of_zero_le (Int.floor_nonneg.mpr h)
    rw [hround, hn]
    exact isHundredths_natCast n

/-- A total that wraps only gets smaller. -/
theorem Quantity.wrap_le (q : Quantity) {x : ℚ} (h : 0 ≤ x) : 0 ≤ q.wrap x ∧ q.wrap x ≤ x := by
  unfold Quantity.wrap
  split_ifs
  · have hfloor : 0 ≤ ⌊x⌋ := Int.floor_nonneg.mpr h
    have hmod : 0 ≤ ⌊x⌋ % 2 ^ 64 ∧ ⌊x⌋ % 2 ^ 64 ≤ ⌊x⌋ := by omega
    refine ⟨by exact_mod_cast hmod.1, le_trans ?_ (Int.floor_le x)⟩
    exact_mod_cast hmod.2
  · exact ⟨h, le_rfl⟩

/-! ## The peak of a column -/

/-- The values of a column, peaks and current values alike. -/
theorem foldl_raise (column : List (ℚ × ℚ)) (m : ℚ) :
    column.foldl Peak.raise m = (column.flatMap fun v => [v.1, v.2]).foldl max m := by
  induction column generalizing m with
  | nil => rfl
  | cons v column ih => exact ih _

/-- **The peak of a column** is the greatest of its values and zero. -/
theorem isGreatest_foldl_raise (column : List (ℚ × ℚ)) :
    IsGreatest (insert 0 {x | ∃ v ∈ column, x = v.1 ∨ x = v.2}) (column.foldl Peak.raise 0) := by
  have h := isGreatest_foldl_max (column.flatMap fun v => [v.1, v.2]) 0
  rw [← foldl_raise] at h
  have hvalues : {x | ∃ v ∈ column, x = v.1 ∨ x = v.2} =
      {x | x ∈ column.flatMap fun v => [v.1, v.2]} := by
    ext x
    simp [List.mem_flatMap]
  rwa [hvalues]

/-! ## One level -/

/-- What is below a record: its values are hundredths, and the greater of them is the greatest of
the samples'. -/
structure Summary (p : Peak) (samples : List Stats) (s : Stats) : Prop where
  isGreatest : ∀ v, p.read s = some v →
    IsHundredths v.1 ∧ IsHundredths v.2 ∧ IsGreatest (peakValues p samples) (max v.1 v.2)
  eq_empty : p.read s = none → peakValues p samples = ∅

/-- Storing a record keeps its peaks. -/
theorem Peak.read_stored (p : Peak) (s : Stats) : p.read s.stored = p.read s := by
  cases p with
  | field p => cases p <;> rfl
  | fs key p => rfl

theorem mem_peakValues {p : Peak} {samples : List Stats} {x : ℚ} :
    x ∈ peakValues p samples ↔
      ∃ s ∈ samples, ∃ v, p.read s = some v ∧ (x = v.1 ∨ x = v.2) := by
  constructor
  · rintro ⟨s, hs, h | h⟩
    · obtain ⟨v, hv, rfl⟩ := Option.map_eq_some_iff.mp h
      exact ⟨s, hs, v, hv, .inl rfl⟩
    · obtain ⟨v, hv, rfl⟩ := Option.map_eq_some_iff.mp h
      exact ⟨s, hs, v, hv, .inr rfl⟩
  · rintro ⟨s, hs, v, hv, rfl | rfl⟩
    · exact ⟨s, hs, .inl (Option.map_eq_some_iff.mpr ⟨v, hv, rfl⟩)⟩
    · exact ⟨s, hs, .inr (Option.map_eq_some_iff.mpr ⟨v, hv, rfl⟩)⟩

theorem summary_sample (p : Peak) {s : Stats} (h : OnGrid s) : Summary p [s] s := by
  constructor
  · intro v hv
    refine ⟨(h p v hv).1, (h p v hv).2,
      mem_peakValues.mpr ⟨s, List.mem_singleton_self s, v, hv, max_choice v.1 v.2⟩, ?_⟩
    intro x hx
    obtain ⟨s', hs', v', hv', hx⟩ := mem_peakValues.mp hx
    obtain rfl := List.mem_singleton.mp hs'
    obtain rfl := Option.some.inj (hv.symm.trans hv')
    rcases hx with rfl | rfl
    · exact le_max_left _ _
    · exact le_max_right _ _
  · intro hnone
    refine Set.eq_empty_iff_forall_notMem.mpr fun x hx => ?_
    obtain ⟨s', hs', v, hv, -⟩ := mem_peakValues.mp hx
    obtain rfl := List.mem_singleton.mp hs'
    exact nomatch hnone.symm.trans hv

section Level

variable {p : Peak} {parts : List (List Stats × Stats)}

/-- The values of the parts. -/
def partValues (p : Peak) (parts : List (List Stats × Stats)) : List (ℚ × ℚ) :=
  parts.filterMap fun part => p.read part.2

theorem decoded_parts :
    decoded (parts.map fun part => some part.2) = parts.map (·.2) := by
  unfold decoded
  rw [List.filterMap_map]
  exact congrFun List.filterMap_eq_map' _

theorem column_parts : p.column (parts.map fun part => some part.2) = partValues p parts := by
  unfold Peak.column partValues
  rw [decoded_parts, List.filterMap_map]
  rfl

theorem quantity_column_parts :
    p.quantity.column (parts.map fun part => some part.2) = (partValues p parts).map Prod.snd := by
  unfold Quantity.column partValues
  rw [decoded_parts, List.filterMap_map, List.map_filterMap]
  exact congrArg (List.filterMap · _) (funext fun part => p.read_quantity part.2)

theorem isHundredths_peak (hgrid : ∀ v ∈ partValues p parts, IsHundredths v.1 ∧ IsHundredths v.2) :
    IsHundredths ((partValues p parts).foldl Peak.raise 0) := by
  rcases (isGreatest_foldl_raise (partValues p parts)).1 with h | ⟨v, hv, h | h⟩
  · exact ⟨0, by rw [h]; norm_num⟩
  · exact h ▸ (hgrid v hv).1
  · exact h ▸ (hgrid v hv).2

/-- **The averaged current value does not exceed the peak.** -/
theorem current_le_peak (hgrid : ∀ v ∈ partValues p parts, IsHundredths v.1 ∧ IsHundredths v.2)
    (hne : partValues p parts ≠ []) :
    ∃ x, p.current (averageSystemStats (parts.map fun part => some part.2)) = some x ∧
      IsHundredths x ∧ x ≤ (partValues p parts).foldl Peak.raise 0 := by
  have hub := (isGreatest_foldl_raise (partValues p parts)).2
  have hpeak := isHundredths_peak hgrid
  set peak := (partValues p parts).foldl Peak.raise 0
  set currents := (partValues p parts).map Prod.snd with hcurrents
  have hne' : currents ≠ [] := by simpa [hcurrents] using hne
  have hnonneg : 0 ≤ currents.sum := List.sum_nonneg fun x hx => by
    obtain ⟨v, hv, rfl⟩ := List.mem_map.mp hx
    exact (hgrid v hv).2.nonneg
  have hlen : (0 : ℚ) < currents.length := by exact_mod_cast List.length_pos_iff.mpr hne'
  have hparts : (currents.length : ℚ) ≤ parts.length := by
    rw [hcurrents, List.length_map]
    exact_mod_cast List.length_filterMap_le _ _
  -- the mean of the parts that have the value is not above all of them, and the divisor is no less
  obtain ⟨x, hx, hmean⟩ := exists_mean_le hne'
  obtain ⟨v, hv, rfl⟩ := List.mem_map.mp hx
  have hwrap := p.quantity.wrap_le hnonneg
  have hle : p.quantity.wrap currents.sum / parts.length ≤ peak := by
    calc p.quantity.wrap currents.sum / parts.length
        ≤ currents.sum / parts.length := div_le_div_of_nonneg_right hwrap.2 (by positivity)
      _ ≤ currents.sum / currents.length := div_le_div_of_nonneg_left hnonneg hlen hparts
      _ ≤ v.2 := hmean
      _ ≤ peak := hub (.inr ⟨v, hv, .inr rfl⟩)
  refine ⟨p.quantity.round (p.quantity.wrap currents.sum / parts.length), ?_,
    p.isHundredths_round (div_nonneg hwrap.1 (by positivity)), p.round_le hpeak hle⟩
  rw [← p.read_quantity, read_averageSystemStats, Quantity.average, quantity_column_parts,
    if_neg hne', p.divisor_quantity, List.length_map]

/-- The greatest value of the samples is that of the parts. -/
theorem isGreatest_parts (hparts : ∀ part ∈ parts, Summary p part.1 part.2)
    (hne : partValues p parts ≠ []) :
    IsGreatest (peakValues p (parts.flatMap (·.1)))
      ((partValues p parts).foldl Peak.raise 0) := by
  obtain ⟨hmem, hub⟩ := isGreatest_foldl_raise (partValues p parts)
  set peak := (partValues p parts).foldl Peak.raise 0
  have hvalues : ∀ v ∈ partValues p parts,
      0 ≤ max v.1 v.2 ∧ max v.1 v.2 ≤ peak ∧
        max v.1 v.2 ∈ peakValues p (parts.flatMap (·.1)) := by
    intro v hv
    obtain ⟨part, hpart, hread⟩ := List.mem_filterMap.mp hv
    obtain ⟨hgrid, -, hgreatest⟩ := (hparts part hpart).isGreatest v hread
    refine ⟨hgrid.nonneg.trans (le_max_left _ _),
      max_le (hub (.inr ⟨v, hv, .inl rfl⟩)) (hub (.inr ⟨v, hv, .inr rfl⟩)), ?_⟩
    obtain ⟨s, hs, h⟩ := hgreatest.1
    exact ⟨s, List.mem_flatMap.mpr ⟨part, hpart, hs⟩, h⟩
  constructor
  · -- the peak is one of the values; where it is zero, so are all
    obtain ⟨v, hv, hle⟩ : ∃ v ∈ partValues p parts, peak ≤ max v.1 v.2 := by
      rcases hmem with h | ⟨v, hv, h | h⟩
      · obtain ⟨v, hv⟩ := List.exists_mem_of_ne_nil _ hne
        exact ⟨v, hv, h ▸ (hvalues v hv).1⟩
      · exact ⟨v, hv, h ▸ le_max_left _ _⟩
      · exact ⟨v, hv, h ▸ le_max_right _ _⟩
    exact hle.antisymm (hvalues v hv).2.1 ▸ (hvalues v hv).2.2
  · intro x hx
    obtain ⟨s, hs, h⟩ := hx
    obtain ⟨part, hpart, hs⟩ := List.mem_flatMap.mp hs
    cases hread : p.read part.2 with
    | none =>
      have hempty := (hparts part hpart).eq_empty hread
      exact absurd (show x ∈ peakValues p part.1 from ⟨s, hs, h⟩)
        (Set.eq_empty_iff_forall_notMem.mp hempty x)
    | some v =>
      have hgreatest := ((hparts part hpart).isGreatest v hread).2.2
      exact (hgreatest.2 ⟨s, hs, h⟩).trans
        (hvalues v (List.mem_filterMap.mpr ⟨part, hpart, hread⟩)).2.1

/-- **One level keeps the peaks.** -/
theorem summary_longer (hparts : ∀ part ∈ parts, Summary p part.1 part.2) (hne : parts ≠ []) :
    Summary p (parts.flatMap (·.1))
      (averageSystemStats (parts.map fun part => some part.2)).stored ∧
    ∀ v, p.read (averageSystemStats (parts.map fun part => some part.2)).stored = some v →
      v.2 ≤ v.1 := by
  have hgrid : ∀ v ∈ partValues p parts, IsHundredths v.1 ∧ IsHundredths v.2 := by
    intro v hv
    obtain ⟨part, hpart, hread⟩ := List.mem_filterMap.mp hv
    obtain ⟨h1, h2, -⟩ := (hparts part hpart).isGreatest v hread
    exact ⟨h1, h2⟩
  rw [p.read_stored]
  have hpeak := peak_averageSystemStats p (parts.map fun part => some part.2)
  rw [column_parts] at hpeak
  by_cases hnil : partValues p parts = []
  · have hnone : ∀ part ∈ parts, p.read part.2 = none := List.filterMap_eq_nil_iff.mp hnil
    have hread : p.read (averageSystemStats (parts.map fun part => some part.2)) = none := by
      obtain ⟨part, hpart⟩ := List.exists_mem_of_ne_nil _ hne
      cases p with
      | field => exact nomatch hnone part hpart
      | fs key p =>
        rw [if_pos hnil] at hpeak
        exact Option.map_eq_none_iff.mp hpeak
    refine ⟨⟨fun v hv => ?_, fun _ => ?_⟩, fun v hv => ?_⟩
    · rw [p.read_stored, hread] at hv
      exact nomatch hv
    · refine Set.eq_empty_iff_forall_notMem.mpr fun x ⟨s, hs, h⟩ => ?_
      obtain ⟨part, hpart, hs⟩ := List.mem_flatMap.mp hs
      have hempty := (hparts part hpart).eq_empty (hnone part hpart)
      exact Set.eq_empty_iff_forall_notMem.mp hempty x ⟨s, hs, h⟩
    · rw [hread] at hv
      exact nomatch hv
  · obtain ⟨x, hx, hxgrid, hxle⟩ := current_le_peak hgrid hnil
    rw [if_neg hnil] at hpeak
    have hread : p.read (averageSystemStats (parts.map fun part => some part.2)) =
        some ((partValues p parts).foldl Peak.raise 0, x) := by
      obtain ⟨v, hv, hv1⟩ := Option.map_eq_some_iff.mp hpeak
      obtain ⟨v', hv', hv2⟩ := Option.map_eq_some_iff.mp hx
      obtain rfl := Option.some.inj (hv.symm.trans hv')
      rw [hv, ← hv1, ← hv2]
    refine ⟨⟨fun v hv => ?_, fun hnone => ?_⟩, fun v hv => ?_⟩
    · rw [p.read_stored, hread] at hv
      obtain rfl := Option.some.inj hv
      refine ⟨isHundredths_peak hgrid, hxgrid, ?_⟩
      rw [max_eq_left hxle]
      exact isGreatest_parts hparts hnil
    · rw [p.read_stored, hread] at hnone
      exact nomatch hnone
    · rw [hread] at hv
      obtain rfl := Option.some.inj hv
      exact hxle

end Level

/-! ## The whole chain -/

theorem summary_rollsUp {t : Records.RecordType} {samples : List Stats} {s : Stats}
    (h : RollsUp t samples s) (hgrid : ∀ s ∈ samples, OnGrid s) (p : Peak) :
    Summary p samples s := by
  induction h with
  | sample s => exact summary_sample p (hgrid s (List.mem_singleton_self s))
  | longer d parts hparts hne ih =>
    refine (summary_longer (fun part hpart => ih part hpart fun s hs => ?_) hne).1
    exact hgrid s (List.mem_flatMap.mpr ⟨part, hpart, hs⟩)

/-- **Peaks survive every roll-up chain**: the peak of a longer record is the greatest of the peaks
and the current values of the samples below it; it has none if they have none. -/
theorem peak_rollsUp {t : Records.RecordType} {samples : List Stats} {s : Stats}
    (h : RollsUp t samples s) (ht : t ≠ .m1) (hgrid : ∀ s ∈ samples, OnGrid s) (p : Peak) (x : ℚ) :
    p.peak s = some x ↔ IsGreatest (peakValues p samples) x := by
  obtain ⟨hgreatest, hempty⟩ := summary_rollsUp h hgrid p
  have hle : ∀ v, p.read s = some v → v.2 ≤ v.1 := by
    cases h with
    | sample => exact absurd rfl ht
    | longer d parts hparts hne =>
      refine (summary_longer (fun part hpart => ?_) hne).2
      exact summary_rollsUp (hparts part hpart)
        (fun s hs => hgrid s (List.mem_flatMap.mpr ⟨part, hpart, hs⟩)) p
  unfold Peak.peak
  cases hread : p.read s with
  | none =>
    rw [hempty hread]
    exact ⟨fun hx => (nomatch hx), fun hx => absurd hx.1 (Set.notMem_empty x)⟩
  | some v =>
    have hv := (hgreatest v hread).2.2
    rw [max_eq_left (hle v hread)] at hv
    rw [Option.map_some, Option.some_inj]
    exact ⟨fun hx => hx ▸ hv, fun hx => hv.unique hx⟩

/-- Nine samples with a processor at 5 percent and an older peak of 7. -/
theorem peak_rollsUp_nine :
    let s : Stats := { Stats.zero with cpu := 5, maxCpu := 7 }
    (Peak.field .cpu).peak (averageSystemStats (List.replicate 9 (some s))).stored = some 7 := by
  intro s
  have hgrid : OnGrid s := by
    intro p v hv
    cases p with
    | fs key p => exact nomatch hv
    | field p =>
      obtain rfl := Option.some.inj hv
      have h0 : IsHundredths 0 := ⟨0, by norm_num⟩
      cases p with
      | cpu => exact ⟨isHundredths_natCast 7, isHundredths_natCast 5⟩
      | _ => exact ⟨h0, h0⟩
  have hparts : ∀ part ∈ List.replicate 9 ([s], s), RollsUp .m1 part.1 part.2 := by
    intro part hpart
    obtain rfl := List.eq_of_mem_replicate hpart
    exact .sample s
  have h : RollsUp .m10 ((List.replicate 9 ([s], s)).flatMap (·.1))
      (averageSystemStats ((List.replicate 9 ([s], s)).map fun part => some part.2)).stored :=
    .longer ⟨⟨.m1, 9, .m10, -10 * Records.minute⟩, by decide⟩ _ hparts (by decide)
  refine (peak_rollsUp h (by decide) (fun s' hs' => ?_) _ 7).mpr ⟨⟨s, by simp, .inl rfl⟩, ?_⟩
  · have hs' : s' = s := by simpa using hs'
    exact hs' ▸ hgrid
  · rintro x ⟨s', hs', hx⟩
    have hs' : s' = s := by simpa using hs'
    subst hs'
    rcases hx with hx | hx
    · exact (Option.some.inj hx).symm.le
    · obtain rfl := Option.some.inj hx
      decide +kernel

end SystemAverages

end Beszel
