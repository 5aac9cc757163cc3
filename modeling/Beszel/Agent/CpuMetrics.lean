import Beszel.Common.Rounding
import Beszel.Machinery.Run
import Mathlib.Algebra.BigOperators.Group.List.Basic

/-!
# Agent/CpuMetrics — CPU time is measured for each cache key

    sample ──▸ lastCpuTimes[60000] ──first poll of a key──▸ lastCpuTimes[key]
                                                              │ next sample
                                       CpuMetrics ◂───────────╯

`agent/cpu.go`: a poll of a key takes a sample of the counters, answers with the shares of the time
since the last sample that the key accepted, and keeps the new one.  A sample with no time in it
since then is not accepted.  `total` is `TimesStat.Total` of the library that reads the counters.
-/

namespace Beszel

open Machinery

namespace Agent

namespace Cpu

/-! ## The data -/

/-- `cpu.TimesStat`: seconds. -/
structure TimesStat where
  user : ℚ
  system : ℚ
  idle : ℚ
  nice : ℚ
  iowait : ℚ
  irq : ℚ
  softirq : ℚ
  steal : ℚ
  guest : ℚ
  guestNice : ℚ
  deriving DecidableEq

/-- The value a map gives for a key that it does not have. -/
def TimesStat.zero : TimesStat := ⟨0, 0, 0, 0, 0, 0, 0, 0, 0, 0⟩

/-- `CpuMetrics`: percentages. -/
structure CpuMetrics where
  total : ℚ
  user : ℚ
  system : ℚ
  iowait : ℚ
  steal : ℚ
  idle : ℚ
  deriving DecidableEq

def CpuMetrics.zero : CpuMetrics := ⟨0, 0, 0, 0, 0, 0⟩

/-- `clampPercent`. -/
def clampPercent (value : ℚ) : ℚ := min 100 (max 0 value)

/-- What an answer was, and the time between the two samples that it is about, which is zero if
there was no sample. -/
structure Answer where
  key : UInt16
  elapsed : ℚ
  metrics : CpuMetrics
  deriving DecidableEq

/-- What a poll of the cores answered, and the two samples that it is about. -/
structure CoreAnswer where
  key : UInt16
  last : List TimesStat
  cores : List TimesStat
  usage : List UInt8

/-- `lastCpuTimes` and `lastPerCoreCpuTimes`, with a record of the answers, newest first. -/
structure State where
  lastCpuTimes : UInt16 → Option TimesStat
  lastPerCoreCpuTimes : UInt16 → Option (List TimesStat)
  answers : List Answer
  coreAnswers : List CoreAnswer

/-- `init`, with what the library gives then. -/
def State.init (times : Option TimesStat) (perCoreTimes : Option (List TimesStat)) : State where
  lastCpuTimes := Function.update (fun _ => none) 60000 times
  lastPerCoreCpuTimes := Function.update (fun _ => none) 60000 perCoreTimes
  answers := []
  coreAnswers := []

section Code

variable (linux : Bool) (total : TimesStat → ℚ)

/-- `getAllBusy`. -/
def getAllBusy (t : TimesStat) : ℚ × ℚ :=
  let tot := if linux then total t - t.guest - t.guestNice else total t
  (tot, tot - t.idle - t.iowait)

/-- `calculateBusy`. -/
def calculateBusy (t1 t2 : TimesStat) : ℚ :=
  let (t1All, t1Busy) := getAllBusy linux total t1
  let (t2All, t2Busy) := getAllBusy linux total t2
  if t2All ≤ t1All ∨ t2Busy ≤ t1Busy then 0
  else clampPercent ((t2Busy - t1Busy) / (t2All - t1All) * 100)

/-- The time between two samples. -/
def totalDelta (t1 t2 : TimesStat) : ℚ :=
  (getAllBusy linux total t2).1 - (getAllBusy linux total t1).1

/-- The metrics of two samples. -/
def metricsOf (t1 t2 : TimesStat) : CpuMetrics :=
  let delta := totalDelta linux total t1 t2
  { total := calculateBusy linux total t1 t2
    user := clampPercent ((t2.user - t1.user) / delta * 100)
    system := clampPercent ((t2.system - t1.system) / delta * 100)
    iowait := clampPercent ((t2.iowait - t1.iowait) / delta * 100)
    steal := clampPercent ((t2.steal - t1.steal) / delta * 100)
    idle := clampPercent ((t2.idle - t1.idle) / delta * 100) }

/-- What a key is compared with: a key that was not polled before takes over the sample of the
default one. -/
def baseline {β : Type} (last : UInt16 → Option β) (cacheTimeMs : UInt16) (zero : β) : β :=
  (last cacheTimeMs).getD ((last 60000).getD zero)

/-- `getCpuMetrics`, with what `cpu.Times` gives; `none` is an error. -/
def getCpuMetrics (s : State) (cacheTimeMs : UInt16) (times : Option (List TimesStat)) :
    State × Option CpuMetrics :=
  match times with
  | none => (s, none)
  | some [] => ({ s with answers := ⟨cacheTimeMs, 0, .zero⟩ :: s.answers }, some .zero)
  | some (t2 :: _) =>
    let t1 := baseline s.lastCpuTimes cacheTimeMs .zero
    let s := { s with lastCpuTimes := Function.update s.lastCpuTimes cacheTimeMs (some t1) }
    if totalDelta linux total t1 t2 ≤ 0 then
      ({ s with answers := ⟨cacheTimeMs, totalDelta linux total t1 t2, .zero⟩ :: s.answers },
        some .zero)
    else
      ({ s with
          lastCpuTimes := Function.update s.lastCpuTimes cacheTimeMs (some t2)
          answers := ⟨cacheTimeMs, totalDelta linux total t1 t2, metricsOf linux total t1 t2⟩ ::
            s.answers },
        some (metricsOf linux total t1 t2))

/-- `getPerCoreCpuUsage`: the cores that both samples have. -/
def getPerCoreCpuUsage (s : State) (cacheTimeMs : UInt16) (times : Option (List TimesStat)) :
    State × Option (List UInt8) :=
  let lastTimes := baseline s.lastPerCoreCpuTimes cacheTimeMs []
  match times with
  | none => (s, none)
  | some [] =>
    ({ s with coreAnswers := ⟨cacheTimeMs, lastTimes, [], []⟩ :: s.coreAnswers }, some [])
  | some perCoreTimes =>
    let usage := (lastTimes.zip perCoreTimes).map fun (t1, t2) =>
      UInt8.ofNat (mathRound (calculateBusy linux total t1 t2)).toNat
    ({ s with
        lastPerCoreCpuTimes :=
          Function.update s.lastPerCoreCpuTimes cacheTimeMs (some perCoreTimes)
        coreAnswers := ⟨cacheTimeMs, lastTimes, perCoreTimes, usage⟩ :: s.coreAnswers },
      some usage)

/-- A poll, of the whole or of the cores. -/
inductive Event
  | cpu (cacheTimeMs : UInt16) (times : Option (List TimesStat))
  | perCore (cacheTimeMs : UInt16) (times : Option (List TimesStat))

/-- **One poll.** -/
def step (s : State) : Event → Option State
  | .cpu cacheTimeMs times => some (getCpuMetrics linux total s cacheTimeMs times).1
  | .perCore cacheTimeMs times => some (getPerCoreCpuUsage linux total s cacheTimeMs times).1

end Code

/-! ## Shares -/

/-- What is measured. -/
inductive Part
  | total
  | user
  | system
  | iowait
  | steal
  | idle

/-- The percentage of a part. -/
def Part.percent (m : CpuMetrics) : Part → ℚ
  | total => m.total
  | user => m.user
  | system => m.system
  | iowait => m.iowait
  | steal => m.steal
  | idle => m.idle

/-- **What `TimesStat.Total` is documented to be**: the sum of the counters. -/
def Totals (total : TimesStat → ℚ) : Prop :=
  ∀ t, total t = t.user + t.system + t.idle + t.nice + t.iowait + t.irq + t.softirq + t.steal +
    t.guest + t.guestNice

/-- No counter goes back. -/
structure Forward (t1 t2 : TimesStat) : Prop where
  user : t1.user ≤ t2.user
  system : t1.system ≤ t2.system
  idle : t1.idle ≤ t2.idle
  nice : t1.nice ≤ t2.nice
  iowait : t1.iowait ≤ t2.iowait
  irq : t1.irq ≤ t2.irq
  softirq : t1.softirq ≤ t2.softirq
  steal : t1.steal ≤ t2.steal
  guest : t1.guest ≤ t2.guest
  guestNice : t1.guestNice ≤ t2.guestNice

instance (t1 t2 : TimesStat) : Decidable (Forward t1 t2) :=
  decidable_of_iff (t1.user ≤ t2.user ∧ t1.system ≤ t2.system ∧ t1.idle ≤ t2.idle ∧
      t1.nice ≤ t2.nice ∧ t1.iowait ≤ t2.iowait ∧ t1.irq ≤ t2.irq ∧ t1.softirq ≤ t2.softirq ∧
      t1.steal ≤ t2.steal ∧ t1.guest ≤ t2.guest ∧ t1.guestNice ≤ t2.guestNice)
    ⟨fun ⟨h1, h2, h3, h4, h5, h6, h7, h8, h9, h10⟩ => ⟨h1, h2, h3, h4, h5, h6, h7, h8, h9, h10⟩,
      fun ⟨h1, h2, h3, h4, h5, h6, h7, h8, h9, h10⟩ => ⟨h1, h2, h3, h4, h5, h6, h7, h8, h9, h10⟩⟩

theorem clampPercent_nonneg (x : ℚ) : 0 ≤ clampPercent x :=
  le_min (by norm_num) (le_max_left 0 x)

theorem clampPercent_le (x : ℚ) : clampPercent x ≤ 100 := min_le_left _ _

theorem clampPercent_of_mem {x : ℚ} (h₀ : 0 ≤ x) (h₁ : x ≤ 100) : clampPercent x = x := by
  rw [clampPercent, max_eq_right h₀, min_eq_right h₁]

/-- A share of the time, as a percentage. -/
theorem clampPercent_mul {x delta : ℚ} (hdelta : 0 < delta) (h₀ : 0 ≤ x) (h₁ : x ≤ delta) :
    clampPercent (x / delta * 100) * delta = 100 * x := by
  rw [clampPercent_of_mem]
  · field_simp
  · positivity
  · have hshare := (div_le_one hdelta).mpr h₁
    linarith

section Shares

variable {linux : Bool} {total : TimesStat → ℚ} {t1 t2 : TimesStat}

theorem calculateBusy_nonneg (t1 t2 : TimesStat) : 0 ≤ calculateBusy linux total t1 t2 := by
  unfold calculateBusy
  dsimp only
  split_ifs
  · exact le_rfl
  · exact clampPercent_nonneg _

theorem calculateBusy_le (t1 t2 : TimesStat) : calculateBusy linux total t1 t2 ≤ 100 := by
  unfold calculateBusy
  dsimp only
  split_ifs
  · norm_num
  · exact clampPercent_le _

/-- The time of a part; that of the total is the time that was busy. -/
def Part.seconds (linux : Bool) (total : TimesStat → ℚ) (t : TimesStat) : Part → ℚ
  | .total => (getAllBusy linux total t).2
  | user => t.user
  | system => t.system
  | iowait => t.iowait
  | steal => t.steal
  | idle => t.idle

/-- **A part is no more than the whole**, and not negative. -/
theorem Part.seconds_sub (htotal : Totals total) (h : Forward t1 t2) (part : Part) :
    0 ≤ part.seconds linux total t2 - part.seconds linux total t1 ∧
      part.seconds linux total t2 - part.seconds linux total t1 ≤ totalDelta linux total t1 t2 := by
  obtain ⟨h1, h2, h3, h4, h5, h6, h7, h8, h9, h10⟩ := h
  cases part <;> cases linux <;>
    simp only [Part.seconds, totalDelta, getAllBusy, htotal t1, htotal t2, Bool.false_eq_true,
      if_true, if_false] <;>
    constructor <;> linarith

/-- **The percentage of a part, of the time between the samples, is the time of the part.** -/
theorem Part.percent_mul (htotal : Totals total) (h : Forward t1 t2)
    (hdelta : 0 < totalDelta linux total t1 t2) (part : Part) :
    part.percent (metricsOf linux total t1 t2) * totalDelta linux total t1 t2 =
      100 * (part.seconds linux total t2 - part.seconds linux total t1) := by
  obtain ⟨h₀, h₁⟩ := @Part.seconds_sub linux total t1 t2 htotal h part
  cases part with
  | total =>
    have hall : (getAllBusy linux total t1).1 < (getAllBusy linux total t2).1 := sub_pos.mp hdelta
    have hbusy : calculateBusy linux total t1 t2 * totalDelta linux total t1 t2 =
        100 * ((getAllBusy linux total t2).2 - (getAllBusy linux total t1).2) := by
      unfold calculateBusy
      dsimp only
      split_ifs with hnone
      · have hback := hnone.resolve_left (not_le.mpr hall)
        have hsame := sub_eq_zero.mpr (le_antisymm hback (sub_nonneg.mp h₀))
        rw [hsame, zero_mul, mul_zero]
      · exact clampPercent_mul hdelta h₀ h₁
    exact hbusy
  | user | system | iowait | steal | idle => exact clampPercent_mul hdelta h₀ h₁

/-- **Busy, waiting and idle are all of it.** -/
theorem percent_sum (htotal : Totals total) (h : Forward t1 t2)
    (hdelta : 0 < totalDelta linux total t1 t2) :
    (metricsOf linux total t1 t2).total + (metricsOf linux total t1 t2).iowait +
      (metricsOf linux total t1 t2).idle = 100 := by
  have hbusy := Part.percent_mul htotal h hdelta .total
  have hwait := Part.percent_mul htotal h hdelta .iowait
  have hidle := Part.percent_mul htotal h hdelta .idle
  have hparts : Part.total.seconds linux total t2 - Part.total.seconds linux total t1 +
      (t2.iowait - t1.iowait) + (t2.idle - t1.idle) = totalDelta linux total t1 t2 := by
    simp only [Part.seconds, totalDelta, getAllBusy]
    ring
  refine mul_right_cancel₀ hdelta.ne' ?_
  simp only [Part.percent, Part.seconds] at hbusy hwait hidle hparts
  rw [add_mul, add_mul, hbusy, hwait, hidle, ← hparts]
  ring

/-- **What is user's, the system's and stolen was busy.** -/
theorem percent_busy (htotal : Totals total) (h : Forward t1 t2)
    (hdelta : 0 < totalDelta linux total t1 t2) :
    (metricsOf linux total t1 t2).user + (metricsOf linux total t1 t2).system +
      (metricsOf linux total t1 t2).steal ≤ (metricsOf linux total t1 t2).total := by
  have hbusy := Part.percent_mul htotal h hdelta .total
  have huser := Part.percent_mul htotal h hdelta .user
  have hsystem := Part.percent_mul htotal h hdelta .system
  have hsteal := Part.percent_mul htotal h hdelta .steal
  have hparts : (t2.user - t1.user) + (t2.system - t1.system) + (t2.steal - t1.steal) ≤
      Part.total.seconds linux total t2 - Part.total.seconds linux total t1 := by
    obtain ⟨h1, h2, h3, h4, h5, h6, h7, h8, h9, h10⟩ := h
    cases linux <;>
      simp only [Part.seconds, getAllBusy, htotal t1, htotal t2, Bool.false_eq_true, if_true,
        if_false] <;> linarith
  refine le_of_mul_le_mul_right ?_ hdelta
  simp only [Part.percent, Part.seconds] at hbusy huser hsystem hsteal hparts
  rw [add_mul, add_mul, hbusy, huser, hsystem, hsteal]
  linarith

end Shares

/-! ## Runs -/

section Runs

variable (linux : Bool) (total : TimesStat → ℚ)

/-- The counters did not go back since the sample that a poll is compared with. -/
def Forwards (s : State) : Event → Prop
  | .cpu cacheTimeMs (some (t2 :: _)) => Forward (baseline s.lastCpuTimes cacheTimeMs .zero) t2
  | _ => True

instance (s : State) : (e : Event) → Decidable (Forwards s e)
  | .cpu cacheTimeMs (some (t2 :: _)) =>
    inferInstanceAs (Decidable (Forward (baseline s.lastCpuTimes cacheTimeMs .zero) t2))
  | .cpu _ none => .isTrue trivial
  | .cpu _ (some []) => .isTrue trivial
  | .perCore _ _ => .isTrue trivial

/-- The time that the answers of a key account for, in hundredths of a second. -/
def accounted (part : Part) (key : UInt16) (answers : List Answer) : ℚ :=
  ((answers.filter (·.key = key)).map fun a => part.percent a.metrics * a.elapsed).sum

variable {linux} {total} {s s' : State} {key : UInt16}

theorem accounted_cons (part : Part) (a : Answer) (answers : List Answer) :
    accounted part key (a :: answers) =
      (if a.key = key then part.percent a.metrics * a.elapsed else 0) +
        accounted part key answers := by
  unfold accounted
  by_cases h : a.key = key
  · rw [List.filter_cons_of_pos (by simpa using h), List.map_cons, List.sum_cons, if_pos h]
  · rw [List.filter_cons_of_neg (by simpa using h), if_neg h, zero_add]

/-- Nothing accounts for nothing. -/
theorem Part.percent_zero (part : Part) : part.percent .zero = 0 := by
  cases part <;> rfl

/-- **What a poll does**: it answers about the time since the last accepted sample and accepts its
own; or it leaves the last sample of each key that has one, and answers with zeros, as no time has
passed, or not at all. -/
theorem getCpuMetrics_cases (s : State) (cacheTimeMs : UInt16) (times : Option (List TimesStat)) :
    (∃ t2 rest, times = some (t2 :: rest) ∧
      0 < totalDelta linux total (baseline s.lastCpuTimes cacheTimeMs .zero) t2 ∧
      (getCpuMetrics linux total s cacheTimeMs times).1.lastCpuTimes =
        Function.update s.lastCpuTimes cacheTimeMs (some t2) ∧
      (getCpuMetrics linux total s cacheTimeMs times).1.answers =
        ⟨cacheTimeMs, totalDelta linux total (baseline s.lastCpuTimes cacheTimeMs .zero) t2,
          metricsOf linux total (baseline s.lastCpuTimes cacheTimeMs .zero) t2⟩ :: s.answers) ∨
    ((∀ key b, s.lastCpuTimes key = some b →
        (getCpuMetrics linux total s cacheTimeMs times).1.lastCpuTimes key = some b) ∧
      ((getCpuMetrics linux total s cacheTimeMs times).1.answers = s.answers ∨
        ∃ elapsed ≤ 0, (getCpuMetrics linux total s cacheTimeMs times).1.answers =
            ⟨cacheTimeMs, elapsed, .zero⟩ :: s.answers ∧
          (elapsed = 0 ∨ ∃ t2 rest, times = some (t2 :: rest) ∧
            elapsed = totalDelta linux total (baseline s.lastCpuTimes cacheTimeMs .zero) t2))) := by
  match times with
  | none => exact .inr ⟨fun _ _ h => h, .inl rfl⟩
  | some [] => exact .inr ⟨fun _ _ h => h, .inr ⟨0, le_rfl, rfl, .inl rfl⟩⟩
  | some (t2 :: rest) =>
    unfold getCpuMetrics
    dsimp only
    split_ifs with hdelta
    · refine .inr ⟨fun key b hb => ?_, .inr ⟨_, hdelta, rfl, .inr ⟨t2, rest, rfl, rfl⟩⟩⟩
      dsimp only
      by_cases hkey : key = cacheTimeMs
      · rw [hkey, Function.update_self, baseline, ← hkey, hb]
        rfl
      · rw [Function.update_of_ne hkey, hb]
    · refine .inl ⟨t2, rest, rfl, not_le.mp hdelta, ?_, rfl⟩
      exact Function.update_idem _ _ _

/-- **One poll accounts for the time between two samples.** -/
theorem accounted_step (htotal : Totals total) {e : Event} {b : TimesStat}
    (hok : Forwards s e) (hb : s.lastCpuTimes key = some b) (hs : step linux total s e = some s') :
    ∃ b', s'.lastCpuTimes key = some b' ∧ ∀ part : Part,
      accounted part key s'.answers = accounted part key s.answers +
        100 * (part.seconds linux total b' - part.seconds linux total b) := by
  cases e with
  | perCore cacheTimeMs times =>
    obtain rfl := Option.some.inj hs
    refine ⟨b, ?_, fun part => ?_⟩
    · rw [← hb]
      match times with
      | none | some [] | some (_ :: _) => rfl
    · rw [sub_self, mul_zero, add_zero]
      match times with
      | none | some [] | some (_ :: _) => rfl
  | cpu cacheTimeMs times =>
    obtain rfl := Option.some.inj hs
    rcases @getCpuMetrics_cases linux total s cacheTimeMs times with
      ⟨t2, rest, rfl, hdelta, hlast, hanswers⟩ | ⟨hlast, hanswers | ⟨elapsed, -, hanswers, -⟩⟩
    · by_cases hkey : cacheTimeMs = key
      · subst hkey
        have hbase : baseline s.lastCpuTimes cacheTimeMs .zero = b := by rw [baseline, hb]; rfl
        refine ⟨t2, by rw [hlast, Function.update_self], fun part => ?_⟩
        rw [Forwards, hbase] at hok
        rw [hbase] at hdelta
        rw [hanswers, accounted_cons, if_pos rfl, hbase, part.percent_mul htotal hok hdelta]
        exact add_comm _ _
      · refine ⟨b, by rw [hlast, Function.update_of_ne (Ne.symm hkey), hb], fun part => ?_⟩
        rw [hanswers, accounted_cons, if_neg hkey, zero_add, sub_self, mul_zero, add_zero]
    · exact ⟨b, hlast key b hb, fun part => by rw [hanswers, sub_self, mul_zero, add_zero]⟩
    · refine ⟨b, hlast key b hb, fun part => ?_⟩
      rw [hanswers, accounted_cons, part.percent_zero, zero_mul, ite_self, zero_add, sub_self,
        mul_zero, add_zero]

/-- **All CPU time is accounted for, and none twice.**  From any state on, whatever other keys are
polled in between, the percentages that the polls of a key answer with, each of the time it is
about, add up to the time of that part between the first and the last sample of the key. -/
theorem accounted_run (htotal : Totals total) {events : List Event} {b : TimesStat}
    (hok : Along (step linux total) Forwards s events) (hb : s.lastCpuTimes key = some b)
    (hr : run (step linux total) s events = some s') :
    ∃ b', s'.lastCpuTimes key = some b' ∧ ∀ part : Part,
      accounted part key s'.answers = accounted part key s.answers +
        100 * (part.seconds linux total b' - part.seconds linux total b) := by
  induction events generalizing s b with
  | nil =>
    obtain rfl := Option.some.inj hr
    exact ⟨b, hb, fun part => by rw [sub_self, mul_zero, add_zero]⟩
  | cons e events ih =>
    obtain ⟨s₁, hs₁, hr⟩ := run_cons_eq_some.mp hr
    obtain ⟨b₁, hb₁, hfirst⟩ := accounted_step htotal hok.1 hb hs₁
    obtain ⟨b', hb', hrest⟩ := ih (hok.2 s₁ hs₁) hb₁ hr
    refine ⟨b', hb', fun part => ?_⟩
    rw [hrest part, hfirst part]
    ring

/-- A quarter of the time is user's, the rest is idle. -/
def quarterBusy (seconds : ℚ) : TimesStat :=
  { TimesStat.zero with user := seconds, idle := 3 * seconds }

/-- The sum of the counters. -/
def sumOf (t : TimesStat) : ℚ :=
  t.user + t.system + t.idle + t.nice + t.iowait + t.irq + t.softirq + t.steal + t.guest +
    t.guestNice

/-- No time has passed. -/
def atStart : State := .init (some (quarterBusy 0)) (some [quarterBusy 0])

/-- The default key and another are polled in turn, the cores twice, and at last no time has
passed. -/
def polls : List Event :=
  [.cpu 60000 (some [quarterBusy 1]), .perCore 60000 (some [quarterBusy 1]),
    .cpu 1000 (some [quarterBusy 2]), .cpu 60000 (some [quarterBusy 3]),
    .perCore 60000 (some [quarterBusy 3, quarterBusy 3]), .cpu 60000 (some [quarterBusy 3])]

theorem forwards_polls : Along (step true sumOf) Forwards atStart polls := by
  decide +kernel

theorem accounted_run_polls :
    ∃ s b', run (step true sumOf) atStart polls = some s ∧
      s.lastCpuTimes 60000 = some b' ∧ ∀ part : Part,
        accounted part 60000 s.answers = accounted part 60000 [] +
          100 * (part.seconds true sumOf b' - part.seconds true sumOf (quarterBusy 0)) := by
  obtain ⟨s, hs⟩ := Option.isSome_iff_exists.mp
    (by decide +kernel : (run (step true sumOf) atStart polls).isSome = true)
  have hfirst : atStart.lastCpuTimes 60000 = some (quarterBusy 0) := by simp [atStart, State.init]
  obtain ⟨b', hb', haccounted⟩ := accounted_run (fun _ => rfl) forwards_polls hfirst hs
  exact ⟨s, b', hs, hb', haccounted⟩

/-! ## Every answer -/

/-- An answer that can be right: no part is out of range, busy, waiting and idle are all of the
time, or nothing if there was none, and the three parts that are busy are no more than what was. -/
structure Answer.Sound (a : Answer) : Prop where
  elapsed : 0 ≤ a.elapsed
  range : ∀ part : Part, 0 ≤ part.percent a.metrics ∧ part.percent a.metrics ≤ 100
  whole : 0 < a.elapsed → a.metrics.total + a.metrics.iowait + a.metrics.idle = 100
  nothing : a.elapsed = 0 → a.metrics = .zero
  busy : a.metrics.user + a.metrics.system + a.metrics.steal ≤ a.metrics.total

/-- An answer about cores that is right: one number for each core that both samples have, no more
than a hundred, and half a percent off at most. -/
structure CoreAnswer.Sound (linux : Bool) (total : TimesStat → ℚ) (a : CoreAnswer) : Prop where
  length : a.usage.length = min a.last.length a.cores.length
  range : ∀ u ∈ a.usage, u.toNat ≤ 100
  near : List.Forall₂
    (fun (t : TimesStat × TimesStat) (u : UInt8) =>
      |(u.toNat : ℚ) - calculateBusy linux total t.1 t.2| ≤ 1 / 2)
    (a.last.zip a.cores) a.usage

/-- The percentages are in range, whatever the samples. -/
theorem metricsOf_range (t1 t2 : TimesStat) (part : Part) :
    0 ≤ part.percent (metricsOf linux total t1 t2) ∧
      part.percent (metricsOf linux total t1 t2) ≤ 100 := by
  cases part with
  | total => exact ⟨calculateBusy_nonneg t1 t2, calculateBusy_le t1 t2⟩
  | user | system | iowait | steal | idle => exact ⟨clampPercent_nonneg _, clampPercent_le _⟩

/-- A percentage that is rounded fits the byte it is stored in. -/
theorem toNat_round {x : ℚ} (h₀ : 0 ≤ x) (h₁ : x ≤ 100) :
    (UInt8.ofNat (mathRound x).toNat).toNat ≤ 100 ∧
      ((UInt8.ofNat (mathRound x).toNat).toNat : ℚ) = mathRound x := by
  have hnonneg : 0 ≤ mathRound x := mathRound_zero ▸ mathRound_mono h₀
  have hle : mathRound x ≤ 100 := by
    have hmono := mathRound_mono h₁
    rwa [show (100 : ℚ) = ((100 : ℤ) : ℚ) from rfl, mathRound_intCast] at hmono
  have hnat : (UInt8.ofNat (mathRound x).toNat).toNat = (mathRound x).toNat :=
    Nat.mod_eq_of_lt (by omega)
  refine ⟨by omega, ?_⟩
  rw [hnat, ← Int.cast_natCast, Int.toNat_of_nonneg hnonneg]

/-- No time, and nothing in it. -/
theorem Answer.sound_zero (key : UInt16) : Answer.Sound ⟨key, 0, .zero⟩ where
  elapsed := le_rfl
  range part := by rw [part.percent_zero]; exact ⟨le_rfl, by norm_num⟩
  whole h := absurd h (lt_irrefl _)
  nothing _ := rfl
  busy := by norm_num [CpuMetrics.zero]

/-- The answer about two samples of the cores. -/
theorem coreAnswer_sound (key : UInt16) (last cores : List TimesStat) :
    CoreAnswer.Sound linux total ⟨key, last, cores, (last.zip cores).map fun (t1, t2) =>
      UInt8.ofNat (mathRound (calculateBusy linux total t1 t2)).toNat⟩ where
  length := by rw [List.length_map, List.length_zip]
  range u hu := by
    obtain ⟨t, -, rfl⟩ := List.mem_map.mp hu
    exact (toNat_round (calculateBusy_nonneg _ _) (calculateBusy_le _ _)).1
  near := by
    refine List.forall₂_map_right_iff.mpr (List.forall₂_same.mpr fun t _ => ?_)
    rw [(toNat_round (calculateBusy_nonneg _ _) (calculateBusy_le _ _)).2]
    exact abs_mathRound_sub_le _

/-- **Every answer of every run is sound**, where the counters do not go back between the samples
that are compared. -/
theorem answers_sound (htotal : Totals total) {events : List Event}
    {times : Option TimesStat} {perCoreTimes : Option (List TimesStat)}
    (hok : Along (step linux total) Forwards (.init times perCoreTimes) events)
    (hr : run (step linux total) (.init times perCoreTimes) events = some s) :
    (∀ a ∈ s.answers, a.Sound) ∧ ∀ a ∈ s.coreAnswers, a.Sound linux total := by
  refine inv_of_along (I := fun s => (∀ a ∈ s.answers, a.Sound) ∧
    ∀ a ∈ s.coreAnswers, a.Sound linux total) ?_ ⟨?_, ?_⟩ hok hr
  · rintro s e s' ⟨hanswers, hcores⟩ hforward hs
    cases e with
    | cpu cacheTimeMs times =>
      obtain rfl := Option.some.inj hs
      refine ⟨?_, ?_⟩
      · rcases @getCpuMetrics_cases linux total s cacheTimeMs times with
          ⟨t2, rest, rfl, hdelta, -, h⟩ | ⟨-, h | ⟨elapsed, hle, h, hzero⟩⟩
        · rw [h]
          refine List.forall_mem_cons.mpr ⟨?_, hanswers⟩
          exact ⟨hdelta.le, metricsOf_range _ _, fun _ => percent_sum htotal hforward hdelta,
            fun hnone => absurd hnone hdelta.ne', percent_busy htotal hforward hdelta⟩
        · rw [h]
          exact hanswers
        · obtain rfl : elapsed = 0 := by
            rcases hzero with rfl | ⟨t2, rest, rfl, rfl⟩
            · rfl
            · have hnonneg := @Part.seconds_sub linux _ _ _ htotal hforward .idle
              exact le_antisymm hle (hnonneg.1.trans hnonneg.2)
          rw [h]
          exact List.forall_mem_cons.mpr ⟨Answer.sound_zero _, hanswers⟩
      · match times with
        | none | some [] => exact hcores
        | some (t2 :: rest) =>
          unfold getCpuMetrics
          dsimp only
          split_ifs <;> exact hcores
    | perCore cacheTimeMs times =>
      obtain rfl := Option.some.inj hs
      match times with
      | none => exact ⟨hanswers, hcores⟩
      | some [] =>
        refine ⟨hanswers, List.forall_mem_cons.mpr ⟨?_, hcores⟩⟩
        exact ⟨by simp, fun _ h => absurd h List.not_mem_nil, by simp⟩
      | some (t :: ts) =>
        exact ⟨hanswers, List.forall_mem_cons.mpr ⟨coreAnswer_sound _ _ _, hcores⟩⟩
  · exact fun _ h => nomatch h
  · exact fun _ h => nomatch h

/-- The core was busy for a quarter of the time, twice. -/
theorem answers_sound_polls :
    ∃ s, run (step true sumOf) atStart polls = some s ∧
      s.coreAnswers.map (·.usage) = [[25], [25]] ∧
      (∀ a ∈ s.answers, a.Sound) ∧ ∀ a ∈ s.coreAnswers, a.Sound true sumOf := by
  obtain ⟨s, hs, husage⟩ := Option.map_eq_some_iff.mp (by decide +kernel :
    (run (step true sumOf) atStart polls).map (·.coreAnswers.map (·.usage)) = some [[25], [25]])
  exact ⟨s, hs, husage, answers_sound (fun _ => rfl) forwards_polls hs⟩

end Runs

end Cpu

end Agent

end Beszel
