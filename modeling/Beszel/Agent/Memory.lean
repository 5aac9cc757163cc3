import Beszel.Agent.Gather

/-!
# Agent/Memory — the memory figures of a sample

The memory block of `getSystemStats` in `agent/system.go`.  The figures are differences of counters
of the kernel in 64 bits without a sign, so a difference that is negative wraps around; a test
`≤ 0` there holds of zero only.
-/

namespace Beszel

namespace Agent

namespace Memory

open Gather

/-- `mem.VirtualMemoryStat`. -/
structure VirtualMemoryStat where
  total : UInt64
  free : UInt64
  used : UInt64
  usedPercent : ℚ
  cached : UInt64
  buffers : UInt64
  shared : UInt64
  swapTotal : UInt64
  swapFree : UInt64
  swapCached : UInt64
  deriving DecidableEq

/-- What the block reads of the agent, and the size of the ZFS cache, zero if it cannot be read. -/
structure Mode where
  memCalc : String
  zfs : Bool
  arcSize : UInt64

/-- The memory fields of `system.Stats`. -/
structure Figures where
  swap : ℚ
  swapUsed : ℚ
  mem : ℚ
  memUsed : ℚ
  memPct : ℚ
  memBuffCache : ℚ
  memZfsArc : ℚ
  deriving DecidableEq

namespace VirtualMemoryStat

variable (v : VirtualMemoryStat) (a : Mode)

/-- `cacheBuff`. -/
def cacheBuff : UInt64 :=
  let cacheBuff := v.cached + v.buffers - v.shared
  if cacheBuff ≤ 0 then max (v.total - v.free - v.used) 0 else cacheBuff

/-- The overrides of the htop calculation. -/
def htop : VirtualMemoryStat :=
  if a.memCalc = "htop" then
    let used := v.total - (v.free + v.cacheBuff)
    { v with used, usedPercent := (used.toNat : ℚ) / v.total.toNat * 100 }
  else v

/-- Whether the ZFS cache is taken out of the used memory. -/
def takesArc : Bool := a.zfs ∧ a.arcSize > 0 ∧ a.arcSize < (v.htop a).used

/-- **The memory block of `getSystemStats`.** -/
def figures : Figures :=
  let u := v.htop a
  let used := if v.takesArc a then u.used - a.arcSize else u.used
  { swap := bytesToGigabytes v.swapTotal
    swapUsed := bytesToGigabytes (v.swapTotal - v.swapFree - v.swapCached)
    mem := bytesToGigabytes v.total
    memUsed := bytesToGigabytes used
    memPct := twoDecimals <|
      if v.takesArc a then (used.toNat : ℚ) / v.total.toNat * 100 else u.usedPercent
    memBuffCache := bytesToGigabytes v.cacheBuff
    memZfsArc := if v.takesArc a then bytesToGigabytes a.arcSize else 0 }

/-- **The subtractions of the block**, each with its two operands. -/
def subtractions : List (UInt64 × UInt64) :=
  [(v.swapTotal, v.swapFree), (v.swapTotal - v.swapFree, v.swapCached),
    (v.cached + v.buffers, v.shared)] ++
    (if v.cached + v.buffers - v.shared ≤ 0 then
      [(v.total, v.free), (v.total - v.free, v.used)] else []) ++
    (if a.memCalc = "htop" then [(v.total, v.free + v.cacheBuff)] else []) ++
    (if v.takesArc a then [((v.htop a).used, a.arcSize)] else [])

/-- What is assumed of the counters. -/
structure Legal : Prop where
  free : v.free ≤ v.total
  used : v.used ≤ v.total
  swapFree : v.swapFree ≤ v.swapTotal

/-- **The figures do not wrap**: the parts are not more than the whole, and no subtraction
underflows. -/
structure Sound : Prop where
  swapUsed : (v.figures a).swapUsed ≤ (v.figures a).swap
  memBuffCache : (v.figures a).memBuffCache ≤ (v.figures a).mem
  memUsed : (v.figures a).memUsed ≤ (v.figures a).mem
  subtractions : ∀ p ∈ v.subtractions a, p.2 ≤ p.1

/-! ## Which counters are consistent -/

/-- `Cached + Buffers`, in 64 bits. -/
def cachedAndBuffers : ℕ := (v.cached.toNat + v.buffers.toNat) % 2 ^ 64

/-- A number of bytes in hundredths of a gigabyte. -/
def gigabyteHundredths (b : ℕ) : ℕ := (200 * b + 1073741824) / 2147483648

/-- **Counters that are consistent with each other.**  Where the cache counts as zero, free and used
memory are not more than the total; elsewhere the cache is not more than the total, up to rounding,
and with the htop calculation neither is the free memory with it. -/
structure Consistent : Prop where
  swap : v.swapFree.toNat + v.swapCached.toNat ≤ v.swapTotal.toNat
  shared : v.shared.toNat ≤ v.cachedAndBuffers
  zero : v.shared.toNat = v.cachedAndBuffers → v.free.toNat + v.used.toNat ≤ v.total.toNat
  cache : v.shared.toNat < v.cachedAndBuffers →
    gigabyteHundredths (v.cachedAndBuffers - v.shared.toNat) ≤ gigabyteHundredths v.total.toNat
  htop : a.memCalc = "htop" → v.shared.toNat < v.cachedAndBuffers →
    (v.free.toNat + (v.cachedAndBuffers - v.shared.toNat)) % 2 ^ 64 ≤ v.total.toNat

/-! ### Gigabytes -/

theorem bytesToGigabytes_eq (b : UInt64) :
    bytesToGigabytes b = (gigabyteHundredths b.toNat : ℚ) / 100 := by
  have h := twoDecimals_natCast_div b.toNat (m := 1073741824) (by norm_num)
  exact_mod_cast h

theorem bytesToGigabytes_le_iff {b c : UInt64} :
    bytesToGigabytes b ≤ bytesToGigabytes c ↔
      gigabyteHundredths b.toNat ≤ gigabyteHundredths c.toNat := by
  rw [bytesToGigabytes_eq, bytesToGigabytes_eq, div_le_div_iff_of_pos_right (by norm_num)]
  exact_mod_cast Iff.rfl

/-- Fewer bytes are not more gigabytes. -/
theorem bytesToGigabytes_mono {b c : UInt64} (h : b ≤ c) :
    bytesToGigabytes b ≤ bytesToGigabytes c := by
  rw [bytesToGigabytes_le_iff]
  rw [UInt64.le_iff_toNat_le] at h
  unfold gigabyteHundredths
  omega

/-- A difference that does not wrap is not more than what it is taken from. -/
theorem sub_le_of_le {b c : UInt64} (h : c ≤ b) : b - c ≤ b := by
  rw [UInt64.le_iff_toNat_le, UInt64.toNat_sub_of_le _ _ h]
  exact Nat.sub_le _ _

/-- What is left of a whole holds another part if the whole holds both. -/
theorem le_sub_iff {b c d : UInt64} (h : c ≤ b) :
    d ≤ b - c ↔ c.toNat + d.toNat ≤ b.toNat := by
  rw [UInt64.le_iff_toNat_le] at h ⊢
  rw [UInt64.toNat_sub_of_le _ _ (UInt64.le_iff_toNat_le.mpr h)]
  omega

/-! ### The cache -/

variable {v : VirtualMemoryStat} {a : Mode}

theorem toNat_cachedAndBuffers : (v.cached + v.buffers).toNat = v.cachedAndBuffers :=
  UInt64.toNat_add _ _

/-- The difference is zero where its operands are equal. -/
theorem difference_le_zero_iff (h : v.shared.toNat ≤ v.cachedAndBuffers) :
    v.cached + v.buffers - v.shared ≤ 0 ↔ v.shared.toNat = v.cachedAndBuffers := by
  have hle : v.shared ≤ v.cached + v.buffers := by
    rwa [UInt64.le_iff_toNat_le, toNat_cachedAndBuffers]
  rw [UInt64.le_iff_toNat_le, UInt64.toNat_sub_of_le _ _ hle, toNat_cachedAndBuffers,
    UInt64.toNat_zero]
  omega

/-- Nothing is less than zero. -/
theorem max_zero_eq (b : UInt64) : max b 0 = b := by
  change (if b ≤ 0 then 0 else b) = b
  split_ifs with h
  · rw [UInt64.le_iff_toNat_le, UInt64.toNat_zero, Nat.le_zero, ← UInt64.toNat_zero] at h
    exact (UInt64.toNat_inj.mp h).symm
  · rfl

theorem cacheBuff_of_eq (h : v.shared.toNat = v.cachedAndBuffers) :
    v.cacheBuff = v.total - v.free - v.used := by
  unfold cacheBuff
  dsimp only
  rw [if_pos ((difference_le_zero_iff h.le).mpr h)]
  exact max_zero_eq _

theorem toNat_cacheBuff_of_lt (h : v.shared.toNat < v.cachedAndBuffers) :
    v.cacheBuff.toNat = v.cachedAndBuffers - v.shared.toNat := by
  have hle : v.shared ≤ v.cached + v.buffers := by
    rw [UInt64.le_iff_toNat_le, toNat_cachedAndBuffers]
    exact h.le
  unfold cacheBuff
  dsimp only
  rw [if_neg (fun hz => h.ne ((difference_le_zero_iff h.le).mp hz)),
    UInt64.toNat_sub_of_le _ _ hle, toNat_cachedAndBuffers]

/-! ### Soundness -/

/-- **Figures that do not wrap come from consistent counters.** -/
theorem Sound.consistent (h : v.Sound a) (hlegal : v.Legal) : v.Consistent a := by
  have hsub := h.subtractions
  simp only [VirtualMemoryStat.subtractions, List.mem_append, or_imp, forall_and] at hsub
  obtain ⟨⟨⟨hplain, hzero⟩, hhtop⟩, -⟩ := hsub
  have hshared : v.shared.toNat ≤ v.cachedAndBuffers := by
    have hle := hplain (v.cached + v.buffers, v.shared) (by simp)
    rwa [UInt64.le_iff_toNat_le, toNat_cachedAndBuffers] at hle
  constructor
  · exact (le_sub_iff hlegal.swapFree).mp
      (hplain (v.swapTotal - v.swapFree, v.swapCached) (by simp))
  · exact hshared
  · intro heq
    rw [if_pos ((difference_le_zero_iff hshared).mpr heq)] at hzero
    exact (le_sub_iff hlegal.free).mp (hzero (v.total - v.free, v.used) (by simp))
  · intro hlt
    have hcache := bytesToGigabytes_le_iff.mp h.memBuffCache
    rwa [toNat_cacheBuff_of_lt hlt] at hcache
  · intro hmode hlt
    rw [if_pos hmode] at hhtop
    have hle := hhtop (v.total, v.free + v.cacheBuff) (by simp)
    rwa [UInt64.le_iff_toNat_le, UInt64.toNat_add, toNat_cacheBuff_of_lt hlt] at hle

/-- With the htop calculation, free memory and the cache are not more than the total. -/
theorem Consistent.free_add_cacheBuff_le (h : v.Consistent a) (hlegal : v.Legal)
    (hmode : a.memCalc = "htop") : v.free + v.cacheBuff ≤ v.total := by
  rw [UInt64.le_iff_toNat_le, UInt64.toNat_add]
  rcases h.shared.eq_or_lt with heq | hlt
  · have hzero := h.zero heq
    have hused : v.used ≤ v.total - v.free := (le_sub_iff hlegal.free).mpr hzero
    rw [cacheBuff_of_eq heq, UInt64.toNat_sub_of_le _ _ hused,
      UInt64.toNat_sub_of_le _ _ hlegal.free]
    have hlt := v.total.toNat_lt
    omega
  · rw [toNat_cacheBuff_of_lt hlt]
    exact h.htop hmode hlt

theorem Consistent.used_htop_le (h : v.Consistent a) (hlegal : v.Legal) :
    (v.htop a).used ≤ v.total := by
  unfold VirtualMemoryStat.htop
  split_ifs with hmode
  · exact sub_le_of_le (h.free_add_cacheBuff_le hlegal hmode)
  · exact hlegal.used

theorem arcSize_le_of_takesArc (h : v.takesArc a = true) : a.arcSize ≤ (v.htop a).used := by
  simp only [takesArc, decide_eq_true_eq] at h
  exact UInt64.le_of_lt h.2.2

/-- **Consistent counters give figures that do not wrap.** -/
theorem Consistent.sound (h : v.Consistent a) (hlegal : v.Legal) : v.Sound a := by
  have hswap : v.swapCached ≤ v.swapTotal - v.swapFree := (le_sub_iff hlegal.swapFree).mpr h.swap
  have hfirst : v.shared ≤ v.cached + v.buffers := by
    rw [UInt64.le_iff_toNat_le, toNat_cachedAndBuffers]
    exact h.shared
  have hzero : v.cached + v.buffers - v.shared ≤ 0 → v.used ≤ v.total - v.free := fun hz =>
    (le_sub_iff hlegal.free).mpr (h.zero ((difference_le_zero_iff h.shared).mp hz))
  constructor
  · exact bytesToGigabytes_mono
      (UInt64.le_trans (sub_le_of_le hswap) (sub_le_of_le hlegal.swapFree))
  · rcases h.shared.eq_or_lt with heq | hlt
    · refine bytesToGigabytes_mono ?_
      rw [cacheBuff_of_eq heq]
      have hused := hzero ((difference_le_zero_iff h.shared).mpr heq)
      exact UInt64.le_trans (sub_le_of_le hused) (sub_le_of_le hlegal.free)
    · refine bytesToGigabytes_le_iff.mpr ?_
      rw [toNat_cacheBuff_of_lt hlt]
      exact h.cache hlt
  · refine bytesToGigabytes_mono ?_
    split_ifs with harc
    · exact UInt64.le_trans (sub_le_of_le (arcSize_le_of_takesArc harc)) (h.used_htop_le hlegal)
    · exact h.used_htop_le hlegal
  · intro p hp
    simp only [VirtualMemoryStat.subtractions, List.mem_append, or_assoc] at hp
    obtain hp | hp | hp | hp := hp
    · simp only [List.mem_cons, List.not_mem_nil, or_false] at hp
      rcases hp with rfl | rfl | rfl
      · exact hlegal.swapFree
      · exact hswap
      · exact hfirst
    · split_ifs at hp with hz
      · simp only [List.mem_cons, List.not_mem_nil, or_false] at hp
        rcases hp with rfl | rfl
        · exact hlegal.free
        · exact hzero hz
      · cases hp
    · split_ifs at hp with hmode
      · rw [List.mem_singleton] at hp
        subst hp
        exact h.free_add_cacheBuff_le hlegal hmode
      · cases hp
    · split_ifs at hp with harc
      · rw [List.mem_singleton] at hp
        subst hp
        exact arcSize_le_of_takesArc harc
      · cases hp

/-- A gigabyte of memory, a quarter of it free, and a gigabyte of swap that is free but for a
page. -/
def exampleStat : VirtualMemoryStat where
  total := 1073741824
  free := 268435456
  used := 536870912
  usedPercent := 50
  cached := 234881024
  buffers := 67108864
  shared := 33554432
  swapTotal := 1073741824
  swapFree := 1073737728
  swapCached := 4096

end VirtualMemoryStat

end Memory

end Agent

end Beszel
