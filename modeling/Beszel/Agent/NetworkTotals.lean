import Beszel.Agent.Network
import Beszel.Machinery.Columns
import Beszel.Machinery.Run
import Beszel.Machinery.Table
import Mathlib.Algebra.BigOperators.Ring.List

/-!
# Agent/NetworkTotals — the total rate and the rates of the interfaces

    counters ──each interface──▸ tracker ──▸ rate of the interface
        ╰──────added up──────▸ baseline ──▸ total rate

A poll publishes a rate for each monitored interface and one for all of them.  The first are
measured against the tracker of the cache interval, the last against a sum of counters; a counter
that falls is taken to have restarted by the tracker, and makes the difference of the sums wrap.
-/

namespace Beszel

open Machinery

namespace Agent

/-! ## The two directions -/

/-- Bytes are sent and received. -/
inductive Direction
  | sent
  | recv
  deriving DecidableEq, Repr

namespace Direction

/-- What the keys of the tracker end in. -/
def suffix : Direction → String
  | sent => "up"
  | recv => "down"

/-- The counter of an interface. -/
def counter : Direction → IOCountersStat → UInt64
  | sent => IOCountersStat.bytesSent
  | recv => IOCountersStat.bytesRecv

/-- The counter of the baseline. -/
def baseline : Direction → NetIoStats → UInt64
  | sent => NetIoStats.bytesSent
  | recv => NetIoStats.bytesRecv

/-- One of two totals. -/
def part : Direction → UInt64 × UInt64 → UInt64
  | sent => Prod.fst
  | recv => Prod.snd

/-- The rate of an interface. -/
def nicRate : Direction → UInt64 × UInt64 × UInt64 × UInt64 → UInt64
  | sent => fun rates => rates.1
  | recv => fun rates => rates.2.1

/-- The sum of the loop. -/
def total : Direction → NetState.NicSums → UInt64
  | sent => NetState.NicSums.totalBytesSent
  | recv => NetState.NicSums.totalBytesRecv

instance {P : Direction → Prop} [DecidablePred P] : Decidable (∀ d, P d) :=
  decidable_of_iff (P sent ∧ P recv)
    ⟨fun h d => by cases d; exacts [h.1, h.2], fun h => ⟨h sent, h recv⟩⟩

/-- The keys of the tracker are of one interface and one direction. -/
theorem suffix_inj {n n' : String} {d d' : Direction} (h : n ++ d.suffix = n' ++ d'.suffix) :
    n = n' ∧ d = d' := by
  have hlast : ∀ (n : String) (d : Direction), (n ++ d.suffix).toList.getLast? =
      some (match d with | sent => 'p' | recv => 'n') := by
    intro n d
    cases d <;> simp [suffix]
  have hd : d = d' := by
    have hlast' := (hlast n d).symm.trans ((congrArg (·.toList.getLast?) h).trans (hlast n' d'))
    cases d <;> cases d' <;> first | rfl | exact absurd hlast' (by decide)
  subst hd
  exact ⟨(String.append_left_inj _).mp h, rfl⟩

end Direction

namespace NetState

/-! ## The loop over the interfaces -/

/-- The counters of the monitored interfaces. -/
def monitored (s : NetState) (netIo : List IOCountersStat) : List IOCountersStat :=
  netIo.filter (·.name ∈ s.netInterfaces)

/-- What the loop publishes for an interface, measured against a tracker. -/
def nicEntry (t : DeltaTracker) (msElapsed : UInt64) (v : IOCountersStat) :
    UInt64 × UInt64 × UInt64 × UInt64 :=
  (delta msElapsed v.bytesSent (t.previous? (v.name ++ "up")),
    delta msElapsed v.bytesRecv (t.previous? (v.name ++ "down")), v.bytesSent, v.bytesRecv)

theorem nicRate_nicEntry (d : Direction) (t : DeltaTracker) (msElapsed : UInt64)
    (v : IOCountersStat) :
    d.nicRate (nicEntry t msElapsed v) =
      delta msElapsed (d.counter v) (t.previous? (v.name ++ d.suffix)) := by
  cases d <;> rfl

/-- The loop passes over the interfaces that are not monitored. -/
theorem foldl_sumNic_monitored (s : NetState) (msElapsed : UInt64) (netIo : List IOCountersStat)
    (acc : NicSums) :
    netIo.foldl (sumNic s.netInterfaces msElapsed) acc =
      (s.monitored netIo).foldl (sumNic s.netInterfaces msElapsed) acc := by
  induction netIo generalizing acc with
  | nil => rfl
  | cons v netIo ih =>
    rw [List.foldl_cons, ih]
    by_cases hv : v.name ∈ s.netInterfaces
    · have hcons : s.monitored (v :: netIo) = v :: s.monitored netIo :=
        List.filter_cons_of_pos (decide_eq_true hv)
      rw [hcons, List.foldl_cons]
    · have hcons : s.monitored (v :: netIo) = s.monitored netIo :=
        List.filter_cons_of_neg (by simpa using hv)
      rw [hcons, sumNic, if_pos hv]

/-- The loop does not touch what the tracker was told before. -/
theorem previous_foldl_sumNic (netInterfaces : List String) (msElapsed : UInt64)
    (netIo : List IOCountersStat) (acc : NicSums) :
    (netIo.foldl (sumNic netInterfaces msElapsed) acc).tracker.previous = acc.tracker.previous := by
  refine foldl_unchanged _ (fun acc => acc.tracker.previous) (fun acc v => ?_) acc netIo
  unfold sumNic
  split_ifs <;> rfl

/-- The tracker after an interface. -/
def told (t : DeltaTracker) (v : IOCountersStat) : DeltaTracker :=
  (t.set (v.name ++ "up") v.bytesSent).set (v.name ++ "down") v.bytesRecv

theorem lookup_told_self (t : DeltaTracker) (v : IOCountersStat) (d : Direction) :
    (told t v).current.lookup (v.name ++ d.suffix) = some (d.counter v) := by
  cases d with
  | sent =>
    have hne : v.name ++ "up" ≠ v.name ++ "down" := by
      intro h
      have hsame : v.name = v.name ∧ Direction.sent = .recv := Direction.suffix_inj h
      cases hsame.2
    exact (AList.lookup_insert_ne hne).trans (AList.lookup_insert _)
  | recv => exact AList.lookup_insert _

theorem lookup_told_of_ne (t : DeltaTracker) {v : IOCountersStat} {n : String} (hn : n ≠ v.name)
    (d : Direction) :
    (told t v).current.lookup (n ++ d.suffix) = t.current.lookup (n ++ d.suffix) := by
  have hne : ∀ d' : Direction, n ++ d.suffix ≠ v.name ++ d'.suffix := fun d' h =>
    hn (Direction.suffix_inj h).1
  exact (AList.lookup_insert_ne (hne .recv)).trans (AList.lookup_insert_ne (hne .sent))

theorem sumNic_of_mem {netInterfaces : List String} (msElapsed : UInt64) (acc : NicSums)
    {v : IOCountersStat} (hv : v.name ∈ netInterfaces) :
    (sumNic netInterfaces msElapsed acc v).tracker = told acc.tracker v ∧
      (sumNic netInterfaces msElapsed acc v).networkInterfaces =
        acc.networkInterfaces.insert v.name (nicEntry acc.tracker msElapsed v) := by
  rw [sumNic, if_neg (not_not.mpr hv)]
  exact ⟨rfl, rfl⟩

/-- The loop, for a sample that has no interfaces yet. -/
def loop (netInterfaces : List String) (msElapsed : UInt64) (t : DeltaTracker)
    (l : List IOCountersStat) : NicSums :=
  l.foldl (sumNic netInterfaces msElapsed) ⟨t, 0, 0, ∅⟩

/-- **What the loop leaves**: the tracker knows the counters of every interface, and each has its
entry. -/
theorem loop_told {netInterfaces : List String} (msElapsed : UInt64) (t : DeltaTracker)
    (l : List IOCountersStat) (hl : ∀ v ∈ l, v.name ∈ netInterfaces)
    (hnodup : (l.map (·.name)).Nodup) :
    (∀ v ∈ l, ∀ d : Direction,
        (loop netInterfaces msElapsed t l).tracker.current.lookup (v.name ++ d.suffix) =
          some (d.counter v)) ∧
      (loop netInterfaces msElapsed t l).networkInterfaces.entries =
        (l.map fun v => ⟨v.name, nicEntry t msElapsed v⟩).reverse := by
  induction l using List.reverseRecOn with
  | nil => exact ⟨fun v hv => absurd hv List.not_mem_nil, rfl⟩
  | append_singleton l v ih =>
    have hl' : ∀ w ∈ l, w.name ∈ netInterfaces := fun w hw => hl w (List.mem_append_left _ hw)
    rw [List.map_append, List.map_singleton, List.nodup_append] at hnodup
    obtain ⟨hnodup, -, hfresh⟩ := hnodup
    have hne : ∀ w ∈ l, w.name ≠ v.name := fun w hw =>
      hfresh w.name (List.mem_map_of_mem hw) v.name (List.mem_singleton_self _)
    obtain ⟨hcurrent, hentries⟩ := ih hl' hnodup
    have hprev : (loop netInterfaces msElapsed t l).tracker.previous = t.previous :=
      previous_foldl_sumNic netInterfaces msElapsed l ⟨t, 0, 0, ∅⟩
    have hv : v.name ∈ netInterfaces :=
      hl v (List.mem_append_right _ (List.mem_singleton_self _))
    obtain ⟨htracker, hinterfaces⟩ :=
      sumNic_of_mem msElapsed (loop netInterfaces msElapsed t l) hv
    have hloop : loop netInterfaces msElapsed t (l ++ [v]) =
        sumNic netInterfaces msElapsed (loop netInterfaces msElapsed t l) v := List.foldl_concat ..
    rw [hloop]
    constructor
    · intro w hw d
      rw [htracker]
      rcases List.mem_append.mp hw with hw | hw
      · rw [lookup_told_of_ne _ (hne w hw), hcurrent w hw d]
      · obtain rfl := List.mem_singleton.mp hw
        exact lookup_told_self _ _ d
    · have hnew : v.name ∉ (loop netInterfaces msElapsed t l).networkInterfaces := by
        intro hmem
        have hkeys := AList.mem_keys.mp hmem
        rw [AList.keys, List.keys, hentries] at hkeys
        simp only [List.map_reverse, List.map_map, List.mem_reverse, List.mem_map] at hkeys
        obtain ⟨w, hw, hname⟩ := hkeys
        exact hne w hw hname
      rw [hinterfaces, AList.entries_insert_of_notMem hnew, hentries, List.map_append,
        List.reverse_append]
      simp only [List.map_singleton, List.reverse_singleton, List.singleton_append]
      congr 2
      simp only [nicEntry, DeltaTracker.previous?, hprev]

/-! ## A poll -/

/-- The state a poll works on. -/
def prepared (s : NetState) (p : Poll) : NetState := s.ensureNetInterfacesInitialized p

/-- The milliseconds since the last poll of the interval, zero if there was none. -/
def elapsed (s : NetState) (p : Poll) : UInt64 := (s.loadAndTickNetBaseline p).2

/-- What the tracker of the interval was told last. -/
def lastTold (s : NetState) (p : Poll) : DeltaTracker :=
  (s.netInterfaceDeltaTrackers p.cacheTimeMs).getD .new

/-- What a poll publishes in a new sample. -/
def published (s : NetState) (p : Poll) : Stats := (s.updateNetworkStats p .zero).2

/-- The totals of the monitored counters. -/
def totals (s : NetState) (netIo : List IOCountersStat) : UInt64 × UInt64 :=
  (((s.monitored netIo).map (·.bytesSent)).sum, ((s.monitored netIo).map (·.bytesRecv)).sum)

/-- The total rates of a poll. -/
def perSecond (s : NetState) (p : Poll) (netIo : List IOCountersStat) : UInt64 × UInt64 :=
  computeBytesPerSecond (s.elapsed p) (s.totals netIo).1 (s.totals netIo).2
    (s.loadAndTickNetBaseline p).1

theorem part_perSecond (s : NetState) (p : Poll) (netIo : List IOCountersStat) (d : Direction) :
    d.part (s.perSecond p netIo) =
      if s.elapsed p > 0 then
        (((s.monitored netIo).map d.counter).sum -
          d.baseline ((s.netIoStats p.cacheTimeMs).getD .zero)) * 1000 / s.elapsed p
      else 0 := by
  unfold perSecond computeBytesPerSecond
  split_ifs <;> cases d <;> rfl

instance (rate : UInt64) : Decidable (anomalous rate) :=
  inferInstanceAs (Decidable (1000000 < hundredths rate.toNat))

/-- **The counters are read**: the entries and the rates of the sample, and the state afterwards. -/
structure Polled (s : NetState) (p : Poll) (netIo : List IOCountersStat) (s' : NetState)
    (stats : Stats) : Prop where
  entries : stats.networkInterfaces.entries =
    ((s.monitored netIo).map fun v =>
      ⟨v.name, nicEntry (s.lastTold p).cycle (s.elapsed p) v⟩).reverse
  bandwidth : stats.bandwidth =
    if anomalous (s.perSecond p netIo).1 ∨ anomalous (s.perSecond p netIo).2 then (0, 0)
    else s.perSecond p netIo
  next : s' = s.initializeNetIoStats p.redetected ∨
    ∃ t nis, s' = { s with
      netInterfaceDeltaTrackers :=
        Function.update s.netInterfaceDeltaTrackers p.cacheTimeMs (some t)
      netIoStats := Function.update s.netIoStats p.cacheTimeMs (some nis) } ∧
      nis.time.isSome ∧
      (∀ d : Direction, d.baseline nis = ((s.monitored netIo).map d.counter).sum) ∧
      ∀ v ∈ s.monitored netIo, ∀ d : Direction,
        t.current.lookup (v.name ++ d.suffix) = some (d.counter v)

/-- **`updateNetworkStats` in one statement.** -/
theorem polled {s : NetState} {p : Poll} {netIo : List IOCountersStat} (hio : p.netIo = some netIo)
    (hnodup : (((s.prepared p).monitored netIo).map (·.name)).Nodup) :
    Polled (s.prepared p) p netIo (s.updateNetworkStats p .zero).1 (s.published p) := by
  set u := s.prepared p with hu
  set sums := u.sumAndTrackPerNicDeltas p.cacheTimeMs (u.elapsed p) netIo .zero with hsums
  have hloop : sums = loop u.netInterfaces (u.elapsed p) (u.lastTold p).cycle (u.monitored netIo) :=
    foldl_sumNic_monitored u _ _ _
  have hmem : ∀ v ∈ u.monitored netIo, v.name ∈ u.netInterfaces := fun v hv => by
    simpa using (List.mem_filter.mp hv).2
  obtain ⟨hcurrent, hentries⟩ := loop_told (u.elapsed p) (u.lastTold p).cycle
    (u.monitored netIo) hmem hnodup
  rw [← hloop] at hcurrent hentries
  have htotals : (sums.totalBytesSent, sums.totalBytesRecv) = u.totals netIo := by
    obtain ⟨hsent, hrecv⟩ := foldl_sumNic u.netInterfaces (u.elapsed p) netIo
      ⟨(u.lastTold p).cycle, 0, 0, ∅⟩
    rw [UInt64.zero_add] at hsent hrecv
    exact Prod.ext hsent hrecv
  have hsent : sums.totalBytesSent = (u.totals netIo).1 := congrArg Prod.fst htotals
  have hrecv : sums.totalBytesRecv = (u.totals netIo).2 := congrArg Prod.snd htotals
  have hpoll : s.updateNetworkStats p .zero =
      { u with
        netInterfaceDeltaTrackers := Function.update u.netInterfaceDeltaTrackers p.cacheTimeMs
          (some sums.tracker) }.applyNetworkTotals p
        { Stats.zero with networkInterfaces := sums.networkInterfaces }
        (u.loadAndTickNetBaseline p).1 sums.totalBytesSent sums.totalBytesRecv
        (u.perSecond p netIo) := by
    unfold updateNetworkStats perSecond
    rw [hio, ← hsent, ← hrecv]
    rfl
  unfold published
  rw [hpoll, applyNetworkTotals]
  dsimp only
  split_ifs with h <;> rw [anomalous_iff, anomalous_iff] at h
  · exact ⟨hentries, (if_pos h).symm, .inl rfl⟩
  · refine ⟨hentries, (if_neg h).symm, .inr ⟨sums.tracker, _, rfl, ?_, fun d => ?_, hcurrent⟩⟩
    · rfl
    · cases d
      · exact hsent
      · exact hrecv

/-! ## What is to hold of a poll -/

/-- The bytes between two readings of a counter: one that fell has restarted at zero. -/
def bytesSince (cur : UInt64) : Option UInt64 → ℕ
  | none => 0
  | some prev => if prev ≤ cur then (cur - prev).toNat else cur.toNat

/-- The bytes of an interface since the last poll of the interval. -/
def moved (s : NetState) (p : Poll) (d : Direction) (v : IOCountersStat) : ℕ :=
  bytesSince (d.counter v) ((s.lastTold p).current.lookup (v.name ++ d.suffix))

/-- The bytes of all monitored interfaces. -/
def allMoved (s : NetState) (p : Poll) (netIo : List IOCountersStat) (d : Direction) : ℕ :=
  ((s.monitored netIo).map (s.moved p d)).sum

/-- The sum of the published rates of the interfaces. -/
def nicSum (stats : Stats) (d : Direction) : ℕ :=
  (stats.networkInterfaces.entries.map fun e => (d.nicRate e.2).toNat).sum

/-- Two numbers differ by less than `n`, and not at all if `n` is zero. -/
def Near (n a b : ℕ) : Prop := a ≤ b + (n - 1) ∧ b ≤ a + (n - 1)

instance (n a b : ℕ) : Decidable (Near n a b) := instDecidableAnd

/-- **The total agrees with the interfaces**: it differs from the sum of their rates by less than
their number, and no rate stands for more bytes than were moved. -/
structure Agrees (s : NetState) (p : Poll) : Prop where
  near : ∀ d : Direction, Near (s.prepared p).netInterfaces.dedup.length
    (d.part (s.published p).bandwidth).toNat (nicSum (s.published p) d)
  nic : ∀ netIo ∈ p.netIo, ∀ v ∈ (s.prepared p).monitored netIo,
    ∀ rates ∈ (s.published p).networkInterfaces.lookup v.name, ∀ d : Direction,
      (d.nicRate rates).toNat ≤
        (s.prepared p).moved p d v * 1000 / ((s.prepared p).elapsed p).toNat
  total : ∀ netIo ∈ p.netIo, ∀ d : Direction, (d.part (s.published p).bandwidth).toNat ≤
    (s.prepared p).allMoved p netIo d * 1000 / ((s.prepared p).elapsed p).toNat

/-- **The sample has each monitored interface once.** -/
def Sampled (s : NetState) (p : Poll) : Prop :=
  ∀ netIo ∈ p.netIo,
    (((s.prepared p).monitored netIo).map (·.name)).Perm (s.prepared p).netInterfaces.dedup

/-- **A steady network**: no counter fell, and the total is neither more than 64 bits compute nor
more than counts as plausible. -/
def Steady (s : NetState) (p : Poll) : Prop :=
  ∀ netIo ∈ p.netIo, ∀ d : Direction,
    (∀ v ∈ (s.prepared p).monitored netIo,
      ∀ prev ∈ ((s.prepared p).lastTold p).current.lookup (v.name ++ d.suffix),
        prev ≤ d.counter v) ∧
    (s.prepared p).allMoved p netIo d * 1000 < 2 ^ 64 ∧
    hundredths ((s.prepared p).allMoved p netIo d * 1000 / ((s.prepared p).elapsed p).toNat) ≤
      1000000

instance (s : NetState) (p : Poll) : Decidable (s.Sampled p) :=
  inferInstanceAs (Decidable (∀ netIo ∈ p.netIo,
    (((s.prepared p).monitored netIo).map (·.name)).Perm (s.prepared p).netInterfaces.dedup))

/-- What is stored is looked at, not all 64-bit values. -/
instance (s : NetState) (p : Poll) (d : Direction) (v : IOCountersStat) :
    Decidable (∀ prev ∈ (s.lastTold p).current.lookup (v.name ++ d.suffix), prev ≤ d.counter v) :=
  Option.decidableForallMem _

instance (s : NetState) (p : Poll) : Decidable (s.Steady p) := by
  unfold Steady
  infer_instance

/-! ## Rates in whole numbers -/

theorem toNat_delta {ms cur : UInt64} {prev : Option UInt64}
    (h : bytesSince cur prev * 1000 < 2 ^ 64) :
    (delta ms cur prev).toNat = bytesSince cur prev * 1000 / ms.toNat := by
  unfold delta bytesSince at *
  cases prev with
  | none => simp
  | some prev =>
    dsimp only at h ⊢
    by_cases hms : ms = 0
    · rw [if_pos hms, hms, UInt64.toNat_zero, Nat.div_zero]
    · rw [if_neg hms]
      by_cases hle : prev ≤ cur
      · rw [if_pos hle] at h ⊢
        rw [if_pos hle, toNat_bytesPerSecond h]
      · rw [if_neg hle] at h ⊢
        rw [if_neg hle, toNat_bytesPerSecond h]

/-! ## The invariant -/

/-- **The baseline is the sum of what the tracker was told**, over the monitored interfaces. -/
def Inv (s : NetState) : Prop :=
  ∀ key nis, s.netIoStats key = some nis →
    ∃ t, s.netInterfaceDeltaTrackers key = some t ∧ ∃ f : Direction → String → UInt64, ∀ d,
      (∀ n ∈ s.netInterfaces, t.current.lookup (n ++ d.suffix) = some (f d n)) ∧
        d.baseline nis = (s.netInterfaces.dedup.map (f d)).sum

theorem inv_initialize (s : NetState) (netIo : Option (List IOCountersStat)) :
    (s.initializeNetIoStats netIo).Inv := by
  intro key nis h
  cases h

variable {s : NetState} {p : Poll} {netIo : List IOCountersStat}

theorem Inv.prepared (h : s.Inv) (p : Poll) : (s.prepared p).Inv := by
  unfold NetState.prepared ensureNetInterfacesInitialized
  split_ifs
  · exact inv_initialize s p.detected
  · exact h

theorem mem_monitored_name {v : IOCountersStat} (hv : v ∈ s.monitored netIo) :
    v.name ∈ s.netInterfaces := by
  simpa using (List.mem_filter.mp hv).2

/-- **The difference of the sums is what was moved** while no counter fell. -/
theorem Inv.toNat_difference (h : s.Inv)
    (hnames : ((s.monitored netIo).map (·.name)).Perm s.netInterfaces.dedup) {nis : NetIoStats}
    (hnis : s.netIoStats p.cacheTimeMs = some nis) {d : Direction}
    (hrise : ∀ v ∈ s.monitored netIo, ∀ prev ∈ (s.lastTold p).current.lookup (v.name ++ d.suffix),
      prev ≤ d.counter v) (hroom : s.allMoved p netIo d * 1000 < 2 ^ 64) :
    (((s.monitored netIo).map d.counter).sum - d.baseline nis).toNat = s.allMoved p netIo d := by
  obtain ⟨t, ht, f, hf⟩ := h p.cacheTimeMs nis hnis
  obtain ⟨hlookup, hsum⟩ := hf d
  have htold : s.lastTold p = t := by rw [lastTold, ht, Option.getD_some]
  have hcounter : ∀ v ∈ s.monitored netIo,
      (d.counter v).toNat = (f d v.name).toNat + s.moved p d v := by
    intro v hv
    have hprev := hlookup v.name (mem_monitored_name hv)
    have hle := hrise v hv (f d v.name) (by rw [htold]; exact hprev)
    rw [moved, htold, hprev, bytesSince, if_pos hle, UInt64.toNat_sub_of_le _ _ hle]
    rw [UInt64.le_iff_toNat_le] at hle
    omega
  have hnow : ((s.monitored netIo).map d.counter).sum.toNat =
      (((s.monitored netIo).map fun v => (f d v.name).toNat).sum + s.allMoved p netIo d) %
        2 ^ 64 := by
    rw [toNat_sum, List.map_map, allMoved, ← List.sum_map_add]
    congr 2
    exact List.map_congr_left hcounter
  have hbase : (d.baseline nis).toNat =
      ((s.monitored netIo).map fun v => (f d v.name).toNat).sum % 2 ^ 64 := by
    rw [hsum, toNat_sum, List.map_map]
    congr 1
    have hperm := (hnames.map fun n => (f d n).toNat).sum_eq
    rw [List.map_map] at hperm
    exact hperm.symm
  rw [UInt64.toNat_sub, hnow, hbase]
  omega

/-- An interval that was not polled has no time to measure. -/
theorem elapsed_eq_zero (h : s.netIoStats p.cacheTimeMs = none) : s.elapsed p = 0 := by
  unfold elapsed loadAndTickNetBaseline
  rw [h]
  rfl

/-- **The total rate is that of what was moved.** -/
theorem Inv.toNat_perSecond (h : s.Inv)
    (hnames : ((s.monitored netIo).map (·.name)).Perm s.netInterfaces.dedup) {d : Direction}
    (hrise : ∀ v ∈ s.monitored netIo, ∀ prev ∈ (s.lastTold p).current.lookup (v.name ++ d.suffix),
      prev ≤ d.counter v) (hroom : s.allMoved p netIo d * 1000 < 2 ^ 64) :
    (d.part (s.perSecond p netIo)).toNat =
      s.allMoved p netIo d * 1000 / (s.elapsed p).toNat := by
  rw [part_perSecond]
  by_cases hms : s.elapsed p = 0
  · rw [hms, if_neg (by decide), UInt64.toNat_zero, Nat.div_zero]
  · have hpos : s.elapsed p > 0 := by
      rw [gt_iff_lt, UInt64.lt_iff_toNat_lt, UInt64.toNat_zero, Nat.pos_iff_ne_zero]
      exact fun h0 => hms (UInt64.toNat_inj.mp h0)
    rw [if_pos hpos]
    cases hnis : s.netIoStats p.cacheTimeMs with
    | none => exact absurd (elapsed_eq_zero hnis) hms
    | some nis =>
      have hdiff := h.toNat_difference hnames hnis hrise hroom
      rw [Option.getD_some, toNat_bytesPerSecond (by rwa [hdiff]), hdiff]

/-- One interface moves no more than all. -/
theorem moved_le_allMoved {v : IOCountersStat} (hv : v ∈ s.monitored netIo) (d : Direction) :
    s.moved p d v ≤ s.allMoved p netIo d :=
  List.single_le_sum (fun _ _ => Nat.zero_le _) _ (List.mem_map_of_mem hv)

/-- The rate of an interface. -/
theorem toNat_nicRate {v : IOCountersStat} {d : Direction} (hv : v ∈ s.monitored netIo)
    (hroom : s.allMoved p netIo d * 1000 < 2 ^ 64) :
    (d.nicRate (nicEntry (s.lastTold p).cycle (s.elapsed p) v)).toNat =
      s.moved p d v * 1000 / (s.elapsed p).toNat := by
  have hmoved : s.moved p d v * 1000 < 2 ^ 64 :=
    (Nat.mul_le_mul_right 1000 (moved_le_allMoved hv d)).trans_lt hroom
  have hsince : bytesSince (d.counter v) ((s.lastTold p).cycle.previous? (v.name ++ d.suffix)) =
      s.moved p d v := rfl
  rw [nicRate_nicEntry, toNat_delta (hsince ▸ hmoved), hsince]

/-- **One poll.** -/
theorem Inv.agrees (h : s.Inv) (hsampled : s.Sampled p) (hsteady : s.Steady p) : s.Agrees p := by
  cases hio : p.netIo with
  | none =>
    have hpub : s.published p = .zero := by
      unfold published updateNetworkStats
      rw [hio]
    constructor
    · intro d
      rw [hpub]
      cases d <;> exact ⟨Nat.zero_le _, Nat.zero_le _⟩
    · intro netIo hnetIo
      rw [hio] at hnetIo
      cases hnetIo
    · intro netIo hnetIo
      rw [hio] at hnetIo
      cases hnetIo
  | some netIo =>
    have hinv := h.prepared p
    have hnames := hsampled netIo hio
    have hsteady := hsteady netIo hio
    have hpolled := polled hio (hnames.nodup_iff.mpr (List.nodup_dedup _))
    set u := s.prepared p with hu
    have hrate : ∀ d : Direction, (d.part (u.perSecond p netIo)).toNat =
        u.allMoved p netIo d * 1000 / (u.elapsed p).toNat := fun d =>
      hinv.toNat_perSecond hnames (hsteady d).1 (hsteady d).2.1
    have hregular : ∀ d : Direction, ¬ anomalous (d.part (u.perSecond p netIo)) := by
      intro d
      rw [anomalous, hrate d, not_lt]
      exact (hsteady d).2.2
    have hbandwidth : (s.published p).bandwidth = u.perSecond p netIo := by
      rw [hpolled.bandwidth, if_neg]
      rintro (hsent | hrecv)
      · exact hregular .sent hsent
      · exact hregular .recv hrecv
    have hnic : ∀ v ∈ u.monitored netIo, ∀ d : Direction,
        (d.nicRate (nicEntry (u.lastTold p).cycle (u.elapsed p) v)).toNat =
          u.moved p d v * 1000 / (u.elapsed p).toNat := fun v hv d =>
      toNat_nicRate hv (hsteady d).2.1
    constructor
    · intro d
      have hsum : nicSum (s.published p) d =
          (((u.monitored netIo).map fun v => u.moved p d v * 1000).map
            (· / (u.elapsed p).toNat)).sum := by
        rw [nicSum, hpolled.entries, List.map_reverse, List.sum_reverse, List.map_map, List.map_map]
        congr 1
        exact List.map_congr_left fun v hv => hnic v hv d
      have hall : u.allMoved p netIo d * 1000 =
          ((u.monitored netIo).map fun v => u.moved p d v * 1000).sum := by
        rw [allMoved, List.sum_map_mul_right]
      have hlen : ((u.monitored netIo).map fun v => u.moved p d v * 1000).length =
          u.netInterfaces.dedup.length := by
        rw [List.length_map, ← hnames.length_eq, List.length_map]
      obtain ⟨hle, hge⟩ := sum_div ((u.monitored netIo).map fun v => u.moved p d v * 1000)
        (u.elapsed p).toNat
      rw [hlen] at hge
      rw [hbandwidth, hrate d, hsum, hall]
      exact ⟨hge, hle.trans (Nat.le_add_right _ _)⟩
    · intro netIo' hnetIo v hv rates hrates d
      obtain rfl : netIo = netIo' := Option.some.inj (hio.symm.trans hnetIo)
      have hmem : (⟨v.name, rates⟩ : Σ _ : String, _) ∈ (s.published p).networkInterfaces.entries :=
        AList.mem_lookup_iff.mp hrates
      rw [hpolled.entries, List.mem_reverse] at hmem
      obtain ⟨w, hw, heq⟩ := List.mem_map.mp hmem
      obtain ⟨hname, hval⟩ := Sigma.mk.inj_iff.mp heq
      have hnodup := hnames.nodup_iff.mpr (List.nodup_dedup _)
      obtain rfl : w = v := List.inj_on_of_nodup_map hnodup hw hv hname
      obtain rfl := eq_of_heq hval
      exact (hnic w hw d).le
    · intro netIo' hnetIo d
      obtain rfl : netIo = netIo' := Option.some.inj (hio.symm.trans hnetIo)
      rw [hbandwidth]
      exact (hrate d).le

/-! ## Runs -/

/-- The counters of an interface of the sample. -/
def countersOf (netIo : List IOCountersStat) (d : Direction) (n : String) : UInt64 :=
  ((Table.lookup IOCountersStat.name netIo n).map d.counter).getD 0

theorem countersOf_name {v : IOCountersStat} (hnodup : (netIo.map (·.name)).Nodup) (hv : v ∈ netIo)
    (d : Direction) : countersOf netIo d v.name = d.counter v := by
  rw [countersOf, Table.lookup_of_mem hnodup hv]
  rfl

/-- **A poll keeps the invariant.** -/
theorem Inv.next (h : s.Inv) (hsampled : s.Sampled p) :
    (s.updateNetworkStats p .zero).1.Inv := by
  have hinv := h.prepared p
  cases hio : p.netIo with
  | none =>
    have hnext : (s.updateNetworkStats p .zero).1 = s.prepared p := by
      unfold updateNetworkStats
      rw [hio]
      rfl
    rwa [hnext]
  | some netIo =>
    have hnames := hsampled netIo hio
    have hnodup := hnames.nodup_iff.mpr (List.nodup_dedup _)
    rcases (polled hio hnodup).next with hnext | ⟨t, nis, hnext, -, hsum, hcurrent⟩
    · rw [hnext]
      exact inv_initialize _ _
    · rw [hnext]
      intro key nis' hkey
      dsimp only at hkey ⊢
      by_cases hne : key = p.cacheTimeMs
      · subst hne
        rw [Function.update_self] at hkey
        obtain rfl := Option.some.inj hkey
        refine ⟨t, Function.update_self _ _ _,
          countersOf ((s.prepared p).monitored netIo), fun d => ⟨fun n hn => ?_, ?_⟩⟩
        · obtain ⟨v, hv, rfl⟩ := List.mem_map.mp (hnames.mem_iff.mpr (List.mem_dedup.mpr hn))
          rw [hcurrent v hv d, countersOf_name hnodup hv]
        · rw [hsum d, ← (hnames.map _).sum_eq, List.map_map]
          congr 1
          exact List.map_congr_left fun v hv => (countersOf_name hnodup hv d).symm
      · rw [Function.update_of_ne hne] at hkey
        obtain ⟨t', ht', f, hf⟩ := hinv key nis' hkey
        exact ⟨t', (Function.update_of_ne hne _ _).trans ht', f, hf⟩

/-- An agent that monitors interfaces and has not polled. -/
def new (netInterfaces : List String) (nics : Option (String → Bool)) : NetState where
  netInterfaces := netInterfaces
  netIoStats := fun _ => none
  netInterfaceDeltaTrackers := fun _ => none
  nics := nics

/-- The agent polls. -/
def step (s : NetState) (p : Poll) : Option NetState := some (s.updateNetworkStats p .zero).1

/-- **Of a steady network the total agrees with the interfaces**, in every poll of a run and for all
cache intervals. -/
theorem agrees_of_steady (netInterfaces : List String) (nics : Option (String → Bool))
    (ps : List Poll)
    (hok : Along step (fun s p => s.Sampled p ∧ s.Steady p) (new netInterfaces nics) ps) :
    Along step Agrees (new netInterfaces nics) ps := by
  refine along_of_along (I := Inv) (fun h hok hs => ?_) (fun h hok => h.agrees hok.1 hok.2) ?_ hok
  · obtain rfl := Option.some.inj hs
    exact h.next hok.1
  · intro key nis h
    cases h

/-! ### A counter that restarts -/

/-- A poll of two interfaces at a time in seconds, with the bytes each has sent. -/
def pollAt (seconds : ℕ) (eth wlan : UInt64) : Poll where
  cacheTimeMs := 60000
  now := 1000 * seconds
  detected := none
  netIo := some [⟨"eth0", eth, 7000⟩, ⟨"lo", 1, 1⟩, ⟨"wlan0", wlan, 7000⟩]
  redetected := none

theorem agrees_of_steady_pair :
    Along step Agrees (new ["eth0", "wlan0"] none)
      [pollAt 0 1000 5000, pollAt 60 61000 5500, pollAt 120 62000 9000] :=
  agrees_of_steady _ _ _ (by decide +kernel)

/-- **When an interface restarts, the total of the network is zero.** -/
theorem not_agrees_restarted :
    ¬ ∀ (netInterfaces : List String) (nics : Option (String → Bool)) (ps : List Poll),
      Along step Sampled (new netInterfaces nics) ps →
        Along step Agrees (new netInterfaces nics) ps := by
  intro h
  have hreset := h ["eth0", "wlan0"] none [pollAt 0 900000000 5000, pollAt 60 600000 5000]
    (by decide +kernel)
  have hnear := ((hreset.2 _ rfl).1.near .sent).2
  revert hnear
  decide +kernel

end NetState

end Agent

end Beszel
