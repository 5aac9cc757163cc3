import Beszel.Agent.Gather
import Beszel.Common.Rounding
import Beszel.Machinery.Run

/-!
# Agent/Systemd — the figures of a systemd service, and their peaks

    memory ──────────────────▸ mem ──▸ memPeak
    counter ──− previous one──▸ cpu ──▸ cpuPeak

`updateServiceStats` of `agent/systemd.go` and `UpdateCPUPercent` of
`internal/entities/systemd/systemd.go`.  systemd answers with the greatest 64-bit number where it
has no figure.  For the memory such an answer is left out; for the CPU it is taken for a counter,
and so is the zero that stands for an answer that did not come.  `Gather.Service.read` is the same
reading where no percentage is infinite.
-/

namespace Beszel

open Machinery

namespace Agent

namespace Systemd

/-! ## A service -/

/-- A floating-point percentage: a quotient by zero is infinite or not a number. -/
inductive Percent
  | finite (q : ℚ)
  | infinite
  | nan
  deriving DecidableEq

namespace Percent

/-- `<` of floating-point numbers. -/
def lt : Percent → Percent → Bool
  | finite p, finite q => p < q
  | finite _, infinite => true
  | _, _ => false

/-- `≤` of floating-point numbers. -/
def le : Percent → Percent → Prop
  | finite p, finite q => p ≤ q
  | finite _, infinite => True
  | infinite, infinite => True
  | _, _ => False

variable {p q : Percent}

theorem le_self (h : p ≠ nan) : p.le p := by
  cases p with
  | finite _ => exact le_rfl
  | infinite => trivial
  | nan => exact absurd rfl h

theorem le_of_lt (h : p.lt q = true) : p.le q := by
  cases p <;> cases q <;> simp_all [lt, le, LT.lt.le]

theorem le_of_not_lt (hp : p ≠ nan) (hq : q ≠ nan) (h : ¬ p.lt q = true) : q.le p := by
  cases p <;> cases q <;> simp_all [lt, le]

theorem le.not_lt (h : p.le q) : ¬ q.lt p = true := by
  cases p <;> cases q <;> simp_all [lt, le]

theorem le.trans {r : Percent} (h : p.le q) (h' : q.le r) : p.le r := by
  cases p <;> cases q <;> cases r <;> simp_all only [le]
  exact LE.le.trans h h'

theorem ne_nan_of_le (h : p.le q) : q ≠ nan := by
  rintro rfl
  cases p <;> exact h

end Percent

/-- `systemd.Service`. -/
structure Service where
  name : String
  state : Gather.ServiceState
  cpu : Percent
  mem : UInt64
  memPeak : UInt64
  sub : Gather.ServiceSubState
  cpuPeak : Percent
  prevCpuUsage : UInt64
  prevReadTime : Option ℤ

/-- A service with its name only. -/
def Service.new (name : String) : Service where
  name := name
  state := .active
  cpu := .finite 0
  mem := 0
  memPeak := 0
  sub := .dead
  cpuPeak := .finite 0
  prevCpuUsage := 0
  prevReadTime := none

/-- A product of durations, in 64 bits. -/
def wrap (duration : ℤ) : ℤ := duration.bmod (2 ^ 64)

/-- The CPU time used over a duration, in percent with two decimals. -/
def usagePercent (usageDelta : UInt64) (duration : ℤ) : Percent :=
  if duration = 0 then if usageDelta = 0 then .nan else .infinite
  else .finite (twoDecimals ((usageDelta.toNat : ℚ) / duration * 100))

/-- `UpdateCPUPercent`. -/
def Service.updateCPUPercent (numCPU : ℕ) (s : Service) (cpuUsage : UInt64) (now : ℤ) : Service :=
  if s.prevReadTime.isNone || cpuUsage < s.prevCpuUsage then
    { s with cpu := .finite 0, prevCpuUsage := cpuUsage, prevReadTime := some now }
  else
    let duration := Docker.since now s.prevReadTime
    if duration ≤ 0 then { s with prevCpuUsage := cpuUsage, prevReadTime := some now }
    else
      let cpu := usagePercent (cpuUsage - s.prevCpuUsage) (wrap (duration * numCPU))
      { s with
        cpu := cpu
        cpuPeak := if s.cpuPeak.lt cpu then cpu else s.cpuPeak
        prevCpuUsage := cpuUsage
        prevReadTime := some now }

/-- `math.MaxUint64`, which stands for a figure that is not available. -/
def maxUint64 : UInt64 := 0xffffffffffffffff

/-- What systemd answers for a unit: properties that are no 64-bit numbers, or that there was an
error for, are `none`. -/
structure Reading where
  activeEnterTimestamp : Option UInt64
  memoryPeak : Option UInt64
  memoryCurrent : Option UInt64
  cpuUsageNSec : Option UInt64
  activeState : String
  subState : String
  now : ℤ

/-- A property whose figure is available. -/
def available (property : Option UInt64) : Option UInt64 := property.filter (· ≠ maxUint64)

/-- The service has been active. -/
def Reading.hasBeenActive (unit : Reading) : Bool :=
  unit.activeEnterTimestamp.any fun ts => !(ts = 0 || ts = maxUint64)

/-- `updateServiceStats`: the entry of a unit afterwards, `none` for an error. -/
def updateServiceStats (numCPU : ℕ) (service : Service) (unit : Reading) : Option Service :=
  if unit.hasBeenActive then
    let memPeak := (available unit.memoryPeak).getD service.memPeak
    let memUsage := (available unit.memoryCurrent).getD 0
    let memPeak := if memUsage > memPeak then memUsage else memPeak
    let service := { service with
      state := Gather.parseServiceStatus unit.activeState
      sub := Gather.parseServiceSubState unit.subState
      mem := memUsage
      memPeak := if memPeak > service.memPeak then memPeak else service.memPeak }
    some (service.updateCPUPercent numCPU (unit.cpuUsageNSec.getD 0) unit.now)
  else none

/-! ## Figures that are finite -/

/-- A service whose percentages are numbers. -/
def ofFinite (s : Gather.Service) : Service where
  name := s.name
  state := s.state
  cpu := .finite s.cpu
  mem := s.mem
  memPeak := s.memPeak
  sub := s.sub
  cpuPeak := .finite s.cpuPeak
  prevCpuUsage := s.prevCpuUsage
  prevReadTime := s.prevReadTime

/-- A unit that was read, without what is not available of its memory. -/
def Reading.toGather (unit : Reading) (name serviceName : String) (numCPU : ℕ) :
    Gather.UnitReading where
  name := name
  serviceName := serviceName
  activeState := unit.activeState
  subState := unit.subState
  memoryPeak := available unit.memoryPeak
  memoryCurrent := available unit.memoryCurrent
  cpuUsage := unit.cpuUsageNSec
  coreCount := numCPU
  now := unit.now

theorem since_eq {now t : ℤ} (h : |now - t| < 2 ^ 63) : Docker.since now (some t) = now - t := by
  obtain ⟨hlow, hhigh⟩ := abs_lt.mp h
  change max (-Docker.maxDuration - 1) (min (now - t) Docker.maxDuration) = now - t
  unfold Docker.maxDuration
  omega

theorem wrap_eq {duration : ℤ} (h : |duration| < 2 ^ 63) : wrap duration = duration := by
  obtain ⟨hlow, hhigh⟩ := abs_lt.mp h
  exact Int.bmod_eq_of_le (by omega) (by omega)

theorem updateCPUPercent_ofFinite {numCPU : ℕ} (hcores : numCPU ≠ 0) {s : Gather.Service}
    {now : ℤ} (hrange : ∀ t ∈ s.prevReadTime, |(now - t) * numCPU| < 2 ^ 63) (cpuUsage : UInt64) :
    (ofFinite s).updateCPUPercent numCPU cpuUsage now =
      ofFinite (s.updateCPUPercent numCPU now cpuUsage) := by
  unfold Service.updateCPUPercent Gather.Service.updateCPUPercent
  cases hread : s.prevReadTime with
  | none => simp [ofFinite, hread]
  | some t =>
    have hrange := hrange t hread
    have hcast : (1 : ℤ) ≤ numCPU := by omega
    have hsince : Docker.since now (some t) = now - t := by
      refine since_eq (lt_of_le_of_lt ?_ hrange)
      rw [abs_mul, Nat.abs_cast]
      exact le_mul_of_one_le_right (abs_nonneg _) hcast
    simp only [ofFinite, hread, Option.isNone_some, Bool.false_or, decide_eq_true_eq, hsince]
    by_cases hless : cpuUsage < s.prevCpuUsage
    · rw [if_pos hless, if_pos hless]
    by_cases hnow : now - t ≤ 0
    · rw [if_neg hless, if_neg hless, if_pos hnow, if_pos hnow]
    · have hcpu : usagePercent (cpuUsage - s.prevCpuUsage) (wrap ((now - t) * numCPU)) =
          .finite (twoDecimals (((cpuUsage - s.prevCpuUsage).toNat : ℚ) /
            ((now - t) * numCPU : ℤ) * 100)) := by
        rw [wrap_eq hrange]
        exact if_neg (mul_ne_zero (by omega) (by omega))
      rw [if_neg hless, if_neg hless, if_neg hnow, if_neg hnow, hcpu]
      simp only [Percent.lt, decide_eq_true_eq, gt_iff_lt]
      split_ifs <;> rfl

/-- **As long as nothing overflows, a service is read as for the snapshots.** -/
theorem updateServiceStats_ofFinite {numCPU : ℕ} (hcores : numCPU ≠ 0) {s : Gather.Service}
    {unit : Reading} (hactive : unit.hasBeenActive = true)
    (hrange : ∀ t ∈ s.prevReadTime, |(unit.now - t) * numCPU| < 2 ^ 63)
    (name serviceName : String) :
    updateServiceStats numCPU (ofFinite s) unit =
      some (ofFinite (s.read (unit.toGather name serviceName numCPU))) := by
  unfold updateServiceStats Gather.Service.read Reading.toGather
  dsimp only
  rw [if_pos hactive, ← updateCPUPercent_ofFinite hcores]
  · rfl
  · exact hrange

/-! ## What is observed, and what is to hold -/

/-- A counter that was available, and when. -/
structure Observation where
  usage : UInt64
  time : ℤ

/-- The entry of a unit, with the counters that were available, and whether the last one was. -/
structure Watch where
  service : Service
  observed : List Observation
  fresh : Bool

/-- A unit that was not seen yet. -/
def Watch.new (name : String) : Watch := ⟨.new name, [], false⟩

section Run

variable (numCPU : ℕ)

/-- A reading. -/
def Watch.step (w : Watch) (unit : Reading) : Option Watch :=
  match updateServiceStats numCPU w.service unit with
  | none => some w
  | some service => some
    { service := service
      observed := match available unit.cpuUsageNSec with
        | some usage => ⟨usage, unit.now⟩ :: w.observed
        | none => w.observed
      fresh := (available unit.cpuUsageNSec).isSome }

/-- **The published CPU usage comes from figures that were available**: it is zero or what it was,
or the difference of this counter and an earlier one; only in the last case the peak may change. -/
def Genuine (w : Watch) (unit : Reading) (service : Service) : Prop :=
  (service.cpu = .finite 0 ∨ service.cpu = w.service.cpu) ∧
      service.cpuPeak = w.service.cpuPeak ∨
    ∃ usage ∈ available unit.cpuUsageNSec, ∃ o ∈ w.observed, o.usage ≤ usage ∧
      service.cpu = usagePercent (usage - o.usage)
        (wrap (Docker.since unit.now (some o.time) * numCPU)) ∧
      (service.cpuPeak = w.service.cpuPeak ∨ service.cpuPeak = service.cpu)

/-- **An update is sound**: no figure is above its peak, no peak falls, and what is not available
changes neither the CPU usage nor a peak. -/
structure Sound (w : Watch) (unit : Reading) (service : Service) : Prop where
  cpu_le : service.cpu.le service.cpuPeak
  mem_le : service.mem ≤ service.memPeak
  cpuPeak_le : w.service.cpuPeak.le service.cpuPeak
  memPeak_eq : service.memPeak.toNat = max w.service.memPeak.toNat
    (max ((available unit.memoryPeak).getD 0).toNat ((available unit.memoryCurrent).getD 0).toNat)
  genuine : Genuine numCPU w unit service

/-- So little CPU time that it is rounded to zero: less than 0.005% of the duration. -/
def Negligible (usageDelta : UInt64) (duration : ℤ) : Prop :=
  20000 * (usageDelta.toNat : ℤ) < |duration|

/-- **Wherever a CPU usage is computed, both counters are available**, unless next to no CPU time
was used. -/
def Regular (w : Watch) (unit : Reading) : Prop :=
  unit.hasBeenActive = true → ∀ t ∈ w.service.prevReadTime,
    w.service.prevCpuUsage ≤ unit.cpuUsageNSec.getD 0 → 0 < Docker.since unit.now (some t) →
      Negligible (unit.cpuUsageNSec.getD 0 - w.service.prevCpuUsage)
          (wrap (Docker.since unit.now (some t) * numCPU)) ∨
        unit.cpuUsageNSec.getD 0 ≠ w.service.prevCpuUsage ∧
          (available unit.cpuUsageNSec).isSome = true ∧ w.fresh = true

instance (w : Watch) (unit : Reading) : Decidable (Regular numCPU w unit) := by
  unfold Regular Negligible
  infer_instance

/-- **The invariant.** -/
structure Inv (w : Watch) : Prop where
  cpu_le : w.service.cpu.le w.service.cpuPeak
  cpuPeak_nonneg : (Percent.finite 0).le w.service.cpuPeak
  mem_le : w.service.mem ≤ w.service.memPeak
  observed : w.fresh = true → ∀ t ∈ w.service.prevReadTime,
    ⟨w.service.prevCpuUsage, t⟩ ∈ w.observed

/-! ## One update -/

theorem usagePercent_of_negligible {usageDelta : UInt64} {duration : ℤ}
    (h : Negligible usageDelta duration) : usagePercent usageDelta duration = .finite 0 := by
  unfold Negligible at h
  have hne : duration ≠ 0 := by
    rintro rfl
    rw [abs_zero] at h
    omega
  have hpos : (0 : ℚ) < |(duration : ℚ)| := abs_pos.mpr (by exact_mod_cast hne)
  have hcast : 20000 * (usageDelta.toNat : ℚ) < |(duration : ℚ)| := by exact_mod_cast h
  have hsmall : |(usageDelta.toNat : ℚ) / duration * 100 * 100| < 1 / 2 := by
    rw [abs_mul, abs_mul, abs_div, Nat.abs_cast, abs_of_pos (by norm_num : (0 : ℚ) < 100),
      div_mul_eq_mul_div, div_mul_eq_mul_div, div_lt_iff₀ hpos]
    linarith
  rw [usagePercent, if_neg hne, twoDecimals, mathRound_eq_zero hsmall, Int.cast_zero, zero_div]

/-- The greater of two numbers. -/
theorem toNat_ite_gt (a b : UInt64) : (if b > a then b else a).toNat = max a.toNat b.toNat := by
  split_ifs with h <;> rw [gt_iff_lt, UInt64.lt_iff_toNat_lt] at h <;> omega

variable {numCPU : ℕ}

/-- **What `UpdateCPUPercent` does.** -/
theorem updateCPUPercent_cases {s s' : Service} {cpuUsage : UInt64} {now : ℤ}
    (h : s.updateCPUPercent numCPU cpuUsage now = s') :
    (s'.prevCpuUsage = cpuUsage ∧ s'.prevReadTime = some now ∧ s'.mem = s.mem ∧
        s'.memPeak = s.memPeak) ∧
      ((s'.cpu = .finite 0 ∨ s'.cpu = s.cpu) ∧ s'.cpuPeak = s.cpuPeak ∨
        ∃ t ∈ s.prevReadTime, s.prevCpuUsage ≤ cpuUsage ∧ 0 < Docker.since now (some t) ∧
          s'.cpu = usagePercent (cpuUsage - s.prevCpuUsage)
            (wrap (Docker.since now (some t) * numCPU)) ∧
          s'.cpuPeak = if s.cpuPeak.lt s'.cpu then s'.cpu else s.cpuPeak) := by
  subst h
  unfold Service.updateCPUPercent
  by_cases hreset : (s.prevReadTime.isNone || decide (cpuUsage < s.prevCpuUsage)) = true
  · rw [if_pos hreset]
    exact ⟨⟨rfl, rfl, rfl, rfl⟩, .inl ⟨.inl rfl, rfl⟩⟩
  rw [if_neg hreset]
  simp only [Bool.or_eq_true, Option.isNone_iff_eq_none, decide_eq_true_eq, not_or] at hreset
  obtain ⟨t, ht⟩ := Option.ne_none_iff_exists'.mp hreset.1
  dsimp only
  rw [ht]
  by_cases hearly : Docker.since now (some t) ≤ 0
  · rw [if_pos hearly]
    exact ⟨⟨rfl, rfl, rfl, rfl⟩, .inl ⟨.inr rfl, rfl⟩⟩
  · rw [if_neg hearly]
    exact ⟨⟨rfl, rfl, rfl, rfl⟩,
      .inr ⟨t, rfl, UInt64.not_lt.mp hreset.2, not_le.mp hearly, rfl, rfl⟩⟩

/-- **What `updateServiceStats` does** beyond the CPU. -/
theorem updateServiceStats_cases {s s' : Service} {unit : Reading}
    (h : updateServiceStats numCPU s unit = some s') :
    unit.hasBeenActive = true ∧ s'.mem ≤ s'.memPeak ∧
      s'.memPeak.toNat = max s.memPeak.toNat (max ((available unit.memoryPeak).getD 0).toNat
        ((available unit.memoryCurrent).getD 0).toNat) ∧
      ∃ s₁ : Service, s₁.updateCPUPercent numCPU (unit.cpuUsageNSec.getD 0) unit.now = s' ∧
        s₁.cpu = s.cpu ∧ s₁.cpuPeak = s.cpuPeak ∧ s₁.prevCpuUsage = s.prevCpuUsage ∧
        s₁.prevReadTime = s.prevReadTime := by
  unfold updateServiceStats at h
  obtain ⟨hactive, hs⟩ := guard_eq_some h
  obtain ⟨⟨-, -, hmem, hmemPeak⟩, -⟩ := updateCPUPercent_cases hs.symm
  rw [hmem, hmemPeak, UInt64.le_iff_toNat_le]
  dsimp only
  rw [toNat_ite_gt, toNat_ite_gt]
  refine ⟨hactive, by omega, ?_, _, hs.symm, rfl, rfl, rfl, rfl⟩
  cases available unit.memoryPeak with
  | none =>
    rw [Option.getD_none, Option.getD_none, UInt64.toNat_zero]
    omega
  | some peak => rw [Option.getD_some, Option.getD_some]

theorem Inv.new (name : String) : Inv (.new name) where
  cpu_le := le_rfl
  cpuPeak_nonneg := le_rfl
  mem_le := UInt64.le_refl _
  observed h := absurd h Bool.false_ne_true

variable {w w' : Watch} {unit : Reading} {service : Service}

/-- **What a regular reading computes is genuine**, and it is a number. -/
theorem Inv.computed (h : Inv w) (hok : Regular numCPU w unit)
    (hactive : unit.hasBeenActive = true) {t : ℤ} (ht : t ∈ w.service.prevReadTime)
    (hle : w.service.prevCpuUsage ≤ unit.cpuUsageNSec.getD 0)
    (hlater : 0 < Docker.since unit.now (some t)) :
    usagePercent (unit.cpuUsageNSec.getD 0 - w.service.prevCpuUsage)
        (wrap (Docker.since unit.now (some t) * numCPU)) = .finite 0 ∨
      usagePercent (unit.cpuUsageNSec.getD 0 - w.service.prevCpuUsage)
          (wrap (Docker.since unit.now (some t) * numCPU)) ≠ .nan ∧
        unit.cpuUsageNSec.getD 0 ∈ available unit.cpuUsageNSec ∧
        ⟨w.service.prevCpuUsage, t⟩ ∈ w.observed := by
  rcases hok hactive t ht hle hlater with hnegligible | ⟨hne, havailable, hfresh⟩
  · exact .inl (usagePercent_of_negligible hnegligible)
  · refine .inr ⟨?_, ?_, h.observed hfresh t ht⟩
    · have hdelta : unit.cpuUsageNSec.getD 0 - w.service.prevCpuUsage ≠ 0 :=
        fun heq => hne (sub_eq_zero.mp heq)
      unfold usagePercent
      split_ifs
      · exact fun heq => Percent.noConfusion heq
      · exact fun heq => Percent.noConfusion heq
    · obtain ⟨usage, husage⟩ := Option.isSome_iff_exists.mp havailable
      obtain ⟨hsome, -⟩ := Option.filter_eq_some_iff.mp husage
      rw [hsome, Option.getD_some, ← hsome]
      exact husage

/-- **A regular reading is sound.** -/
theorem Inv.sound (h : Inv w) (hok : Regular numCPU w unit)
    (hs : updateServiceStats numCPU w.service unit = some service) :
    Sound numCPU w unit service := by
  obtain ⟨hactive, hmem, hmemPeak, s₁, hupdate, hcpu₁, hpeak₁, hprev₁, htime₁⟩ :=
    updateServiceStats_cases hs
  obtain ⟨-, ⟨hcpu, hpeak⟩ | ⟨t, ht, hle, hlater, hcpu, hpeak⟩⟩ := updateCPUPercent_cases hupdate
  · rw [hcpu₁] at hcpu
    rw [hpeak₁] at hpeak
    refine ⟨?_, hmem, ?_, hmemPeak, .inl ⟨hcpu, hpeak⟩⟩
    · rw [hpeak]
      rcases hcpu with hcpu | hcpu <;> rw [hcpu]
      · exact h.cpuPeak_nonneg
      · exact h.cpu_le
    · rw [hpeak]
      exact Percent.le_self (Percent.ne_nan_of_le h.cpu_le)
  · rw [hprev₁] at hle hcpu
    rw [htime₁] at ht
    rw [hpeak₁] at hpeak
    have hpeakNum : w.service.cpuPeak ≠ .nan := Percent.ne_nan_of_le h.cpu_le
    have hcomputed := h.computed hok hactive ht hle hlater
    rw [← hcpu] at hcomputed
    have hnum : service.cpu ≠ .nan := by
      rcases hcomputed with hzero | ⟨hnum, -⟩
      · rw [hzero]
        exact fun heq => Percent.noConfusion heq
      · exact hnum
    refine ⟨?_, hmem, ?_, hmemPeak, ?_⟩
    · rw [hpeak]
      split_ifs with hlt
      · exact Percent.le_self hnum
      · exact Percent.le_of_not_lt hpeakNum hnum hlt
    · rw [hpeak]
      split_ifs with hlt
      · exact Percent.le_of_lt hlt
      · exact Percent.le_self hpeakNum
    · rcases hcomputed with hzero | ⟨-, havailable, hobserved⟩
      · refine .inl ⟨.inl hzero, ?_⟩
        rw [hpeak, hzero, if_neg]
        exact h.cpuPeak_nonneg.not_lt
      · refine .inr ⟨_, havailable, _, hobserved, hle, hcpu, ?_⟩
        rw [hpeak]
        split_ifs
        · exact .inr rfl
        · exact .inl rfl

/-- **One reading keeps the invariant.** -/
theorem Inv.step (h : Inv w) (hok : Regular numCPU w unit)
    (hs : w.step numCPU unit = some w') : Inv w' := by
  unfold Watch.step at hs
  cases hupdate : updateServiceStats numCPU w.service unit with
  | none =>
    rw [hupdate] at hs
    obtain rfl := Option.some.inj hs
    exact h
  | some service =>
    rw [hupdate] at hs
    obtain rfl := Option.some.inj hs
    have hsound := h.sound hok hupdate
    refine ⟨hsound.cpu_le, h.cpuPeak_nonneg.trans hsound.cpuPeak_le, hsound.mem_le, ?_⟩
    rintro hfresh t ht
    obtain ⟨-, -, -, s₁, hcpu, -⟩ := updateServiceStats_cases hupdate
    obtain ⟨⟨hprev, htime, -, -⟩, -⟩ := updateCPUPercent_cases hcpu
    obtain ⟨usage, husage⟩ := Option.isSome_iff_exists.mp hfresh
    obtain ⟨hsome, -⟩ := Option.filter_eq_some_iff.mp husage
    dsimp only at ht ⊢
    rw [htime, Option.mem_some_iff] at ht
    rw [hprev, husage, hsome, ← ht]
    exact List.mem_cons_self

end Run

/-- A reading of a service that is running. -/
def readingAt (now : ℤ) (memory : UInt64) (cpuUsageNSec : Option UInt64) : Reading where
  activeEnterTimestamp := some 1700000000000000
  memoryPeak := none
  memoryCurrent := some memory
  cpuUsageNSec := cpuUsageNSec
  activeState := "active"
  subState := "running"
  now := now

end Systemd

end Agent

end Beszel
