import Beszel.Agent.Gather

/-!
# Agent/DiskRates — the rates of the disks

    usage ──fails──▸ the record's counters are zero
    read ──▸ device ──▸ device ──▸ ⋯ ──▸ done

Each call of `updateDiskIo` measures a device against the last counters of its cache interval, or,
where the interval has none, against those in the record of the device, which all intervals and the
usage query share.  Here the loop is taken apart into its devices, and what was observed is kept: of
which device, when, and the counters.
-/

namespace Beszel

open Machinery

namespace Agent

namespace Gather

namespace DiskRates

/-! ## One device -/

/-- What becomes of a device in the loop of `updateDiskIo`. -/
inductive Fate
  | skipped
  | early
  | reset
  | published (read write : UInt64)
  deriving DecidableEq

/-- The rates of the device are published. -/
def Fate.isPublished : Fate → Bool
  | .published _ _ => true
  | _ => false

/-- The fate of a device. -/
def fate (s : State) (key : UInt16) (now : ℤ) (entry : String × DiskCounters) : Fate :=
  let (name, d) := entry
  if d.name ∉ s.devices then .skipped
  else
    let prev := s.prevOf key now name d
    let msElapsed := Docker.millisecondsSince now (some prev.time)
    if msElapsed < 100 then .early
    else
      let diskIORead := (d.readBytes - prev.readBytes) * 1000 / msElapsed
      let diskIOWrite := (d.writeBytes - prev.writeBytes) * 1000 / msElapsed
      if bytesToMegabytes diskIORead.toNat > 50000 ∨ bytesToMegabytes diskIOWrite.toNat > 50000 then
        .reset
      else .published diskIORead diskIOWrite

/-- The record of a device with counters and the time they were read at. -/
def stamped (stats : FsStats) (now : ℤ) (d : DiskCounters) : FsStats :=
  { stats with
    time := some now
    totalRead := d.readBytes
    totalWrite := d.writeBytes }

/-- The records after `initializeDiskIoStats`. -/
def restamped (s : State) (now : ℤ) (counters : List (String × DiskCounters)) (device : String) :
    FsStats :=
  if device ∈ s.devices then
    match counters.lookup device with
    | some d => stamped (s.fsStats device) now d
    | none => s.fsStats device
  else s.fsStats device

/-- The record of a device whose rates are published. -/
def withRates (stats : FsStats) (now : ℤ) (d : DiskCounters) (read write : UInt64) : FsStats :=
  { stamped stats now d with
    diskReadPs := bytesToMegabytes read.toNat
    diskWritePs := bytesToMegabytes write.toNat
    diskReadBytes := read
    diskWriteBytes := write }

section Spec

variable {s : State} {now : ℤ} {counters : List (String × DiskCounters)}

theorem stamped_stamped (stats : FsStats) (now : ℤ) (d : DiskCounters) :
    stamped (stamped stats now d) now d = stamped stats now d := rfl

/-- **`initializeDiskIoStats` stamps the records whose counters are there.** -/
theorem fsStats_foldl_initializeIo (l : List String) (s : State) (device : String) :
    (l.foldl (State.initializeIo now counters) s).fsStats device =
      if device ∈ l then
        match counters.lookup device with
        | some d => stamped (s.fsStats device) now d
        | none => s.fsStats device
      else s.fsStats device := by
  induction l generalizing s with
  | nil => rfl
  | cons first l ih =>
    rw [List.foldl_cons, ih]
    have hfirst : (State.initializeIo now counters s first).fsStats device =
        if device = first then
          match counters.lookup device with
          | some d => stamped (s.fsStats device) now d
          | none => s.fsStats device
        else s.fsStats device := by
      unfold State.initializeIo
      by_cases hdevice : device = first
      · subst hdevice
        rw [if_pos rfl]
        cases counters.lookup device with
        | none => rfl
        | some d => exact Function.update_self _ _ _
      · rw [if_neg hdevice]
        cases counters.lookup first with
        | none => rfl
        | some d => exact Function.update_of_ne hdevice _ _
    rw [hfirst]
    by_cases hdevice : device = first
    · subst hdevice
      rw [if_pos rfl, if_pos List.mem_cons_self]
      cases counters.lookup device <;> simp only [ite_self, stamped_stamped]
    · simp only [List.mem_cons, hdevice, false_or, if_false]

theorem fsStats_initializeDiskIoStats (s : State) :
    (s.initializeDiskIoStats now counters).fsStats = restamped s now counters :=
  funext fun device => fsStats_foldl_initializeIo s.devices s device

theorem initializeDiskIoStats_same (s : State) :
    (s.initializeDiskIoStats now counters).devices = s.devices ∧
      (s.initializeDiskIoStats now counters).diskPrev = s.diskPrev := by
  have hloop : ∀ l : List String,
      (l.foldl (State.initializeIo now counters) s).devices = s.devices ∧
        (l.foldl (State.initializeIo now counters) s).diskPrev = s.diskPrev := by
    intro l
    refine List.foldlRecOn
      (motive := fun t : State => t.devices = s.devices ∧ t.diskPrev = s.diskPrev) l _ ⟨rfl, rfl⟩ ?_
    rintro t ⟨hdevices, hprev⟩ device -
    unfold State.initializeIo
    cases counters.lookup device <;> exact ⟨hdevices, hprev⟩
  exact hloop s.devices

variable {key : UInt16}

/-- The counters are noted as the last ones of the interval. -/
def noted (s : State) (key : UInt16) (now : ℤ) (entry : String × DiskCounters) : State :=
  { s with
    diskPrev := Function.update s.diskPrev key
      ((s.diskPrev key).insert entry.1 ⟨entry.2.readBytes, entry.2.writeBytes, now⟩) }

/-- **The loop body by the fate of the device.** -/
theorem updateIo_cases (key : UInt16) (now : ℤ) (counters : List (String × DiskCounters))
    (s : State) (root : RootDisk) (entry : String × DiskCounters) :
    fate s key now entry = .skipped ∧
        (State.updateIo key now counters (s, root) entry).1 = s ∨
      fate s key now entry = .early ∧
        (State.updateIo key now counters (s, root) entry).1 = noted s key now entry ∨
      fate s key now entry = .reset ∧
        (State.updateIo key now counters (s, root) entry).1 =
          (noted s key now entry).initializeDiskIoStats now counters ∨
      ∃ read write, fate s key now entry = .published read write ∧
        (State.updateIo key now counters (s, root) entry).1 =
          (noted s key now entry).writeFs entry.2.name fun stats =>
            withRates stats now entry.2 read write := by
  unfold State.updateIo fate
  dsimp only
  by_cases htracked : entry.2.name ∉ s.devices
  · rw [if_pos htracked, if_pos htracked]
    exact .inl ⟨rfl, rfl⟩
  · rw [if_neg htracked, if_neg htracked]
    by_cases hearly :
        Docker.millisecondsSince now (some (s.prevOf key now entry.1 entry.2).time) < 100
    · rw [if_pos hearly, if_pos hearly]
      exact .inr (.inl ⟨rfl, rfl⟩)
    · rw [if_neg hearly, if_neg hearly]
      split_ifs
      · exact .inr (.inr (.inl ⟨rfl, rfl⟩))
      · exact .inr (.inr (.inr ⟨_, _, rfl, rfl⟩))
      · exact .inr (.inr (.inr ⟨_, _, rfl, rfl⟩))

/-- **What a device does to the records.** -/
theorem fsStats_updateIo (s : State) (root : RootDisk) (entry : String × DiskCounters) :
    (State.updateIo key now counters (s, root) entry).1.fsStats =
      match fate s key now entry with
      | .skipped | .early => s.fsStats
      | .reset => restamped s now counters
      | .published read write => Function.update s.fsStats entry.2.name
          (withRates (s.fsStats entry.2.name) now entry.2 read write) := by
  rcases updateIo_cases key now counters s root entry with
    ⟨hfate, h⟩ | ⟨hfate, h⟩ | ⟨hfate, h⟩ | ⟨read, write, hfate, h⟩ <;> rw [hfate, h]
  · rfl
  · exact fsStats_initializeDiskIoStats _
  · rfl

/-- **What a device does to the last counters of the intervals.** -/
theorem diskPrev_updateIo (s : State) (root : RootDisk) (entry : String × DiskCounters) :
    (State.updateIo key now counters (s, root) entry).1.diskPrev =
      if fate s key now entry = .skipped then s.diskPrev else (noted s key now entry).diskPrev := by
  rcases updateIo_cases key now counters s root entry with
    ⟨hfate, h⟩ | ⟨hfate, h⟩ | ⟨hfate, h⟩ | ⟨read, write, hfate, h⟩ <;> rw [hfate, h]
  · rfl
  · rfl
  · exact (initializeDiskIoStats_same _).2
  · rfl

/-- The usage query of a record is made, and fails. -/
def usageFails (usage : String → Option UsageStat) (cacheExtraFs : Bool) (stats : FsStats) : Bool :=
  !(cacheExtraFs && !stats.root) && (usage stats.mountpoint).isNone

/-- **What the usage query leaves of a record**: its time, and its counters unless it fails. -/
structure Keeps (fails : Prop) (old new : FsStats) : Prop where
  time : new.time = old.time
  root : new.root = old.root
  mountpoint : new.mountpoint = old.mountpoint
  counters : ¬ fails → new.totalRead = old.totalRead ∧ new.totalWrite = old.totalWrite

theorem Keeps.refl (fails : Prop) (stats : FsStats) : Keeps fails stats stats :=
  ⟨rfl, rfl, rfl, fun _ => ⟨rfl, rfl⟩⟩

/-- One filesystem of `updateDiskUsage`. -/
theorem keeps_updateUsage (usage : String → Option UsageStat) (cacheExtraFs : Bool)
    (acc : State × RootDisk) (first device : String) :
    Keeps (device = first ∧ usageFails usage cacheExtraFs (acc.1.fsStats device) = true)
      (acc.1.fsStats device)
      ((State.updateUsage usage cacheExtraFs acc first).1.fsStats device) := by
  have hself : ∀ change, (acc.1.writeFs first change).fsStats first =
      change (acc.1.fsStats first) := fun change => Function.update_self _ _ _
  unfold State.updateUsage
  dsimp only
  by_cases hskip : cacheExtraFs ∧ ¬ (acc.1.fsStats first).root
  · rw [if_pos hskip]
    exact .refl _ _
  · rw [if_neg hskip]
    by_cases hdevice : device = first
    · subst hdevice
      cases husage : usage (acc.1.fsStats device).mountpoint with
      | some d =>
        dsimp only
        rw [hself]
        exact ⟨rfl, rfl, rfl, fun _ => ⟨rfl, rfl⟩⟩
      | none =>
        dsimp only
        rw [hself]
        refine ⟨rfl, rfl, rfl, fun hfails => absurd ⟨rfl, ?_⟩ hfails⟩
        simpa [usageFails, husage, imp_iff_not_or] using hskip
    · have hne : ∀ change, (acc.1.writeFs first change).fsStats device = acc.1.fsStats device :=
        fun change => Function.update_of_ne hdevice _ _
      cases usage (acc.1.fsStats first).mountpoint <;> dsimp only <;> rw [hne] <;>
        exact .refl _ _

/-- `cacheExtraFs`: the filesystems that are not the root are left out. -/
def cachesExtraFs (s : State) (now : ℤ) : Bool :=
  s.diskUsageCacheDuration > 0 ∧ s.lastDiskUsageUpdate.isSome ∧
    Docker.since now s.lastDiskUsageUpdate < s.diskUsageCacheDuration

/-- The loop of `updateDiskUsage`. -/
theorem keeps_foldl_updateUsage (usage : String → Option UsageStat) (cacheExtraFs : Bool)
    (l : List String) (acc : State × RootDisk) (device : String) :
    Keeps (device ∈ l ∧ usageFails usage cacheExtraFs (acc.1.fsStats device) = true)
      (acc.1.fsStats device)
      ((l.foldl (State.updateUsage usage cacheExtraFs) acc).1.fsStats device) := by
  induction l generalizing acc with
  | nil => exact .refl _ _
  | cons first l ih =>
    have hfirst := keeps_updateUsage usage cacheExtraFs acc first device
    have hrest := ih (State.updateUsage usage cacheExtraFs acc first)
    have hsame : usageFails usage cacheExtraFs
        ((State.updateUsage usage cacheExtraFs acc first).1.fsStats device) =
          usageFails usage cacheExtraFs (acc.1.fsStats device) := by
      rw [usageFails, hfirst.root, hfirst.mountpoint, usageFails]
    rw [hsame] at hrest
    refine ⟨hrest.time.trans hfirst.time, hrest.root.trans hfirst.root,
      hrest.mountpoint.trans hfirst.mountpoint, fun hfails => ?_⟩
    obtain ⟨hread, hwrite⟩ := hrest.counters fun h => hfails ⟨List.mem_cons_of_mem _ h.1, h.2⟩
    obtain ⟨hread', hwrite'⟩ := hfirst.counters fun h =>
      hfails ⟨List.mem_cons.mpr (.inl h.1), h.2⟩
    exact ⟨hread.trans hread', hwrite.trans hwrite'⟩

theorem updateDiskUsage_same (s : State) (usage : String → Option UsageStat) (root : RootDisk) :
    (s.updateDiskUsage now usage root).1.devices = s.devices ∧
      (s.updateDiskUsage now usage root).1.diskPrev = s.diskPrev := by
  have hloop : ∀ cacheExtraFs : Bool,
      (s.devices.foldl (State.updateUsage usage cacheExtraFs) (s, root)).1.devices = s.devices ∧
        (s.devices.foldl (State.updateUsage usage cacheExtraFs) (s, root)).1.diskPrev =
          s.diskPrev := by
    intro cacheExtraFs
    refine List.foldlRecOn (motive := fun acc : State × RootDisk =>
      acc.1.devices = s.devices ∧ acc.1.diskPrev = s.diskPrev) s.devices _ ⟨rfl, rfl⟩ ?_
    rintro acc ⟨hdevices, hprev⟩ device -
    unfold State.updateUsage
    dsimp only
    split
    · exact ⟨hdevices, hprev⟩
    · cases usage (acc.1.fsStats device).mountpoint <;> exact ⟨hdevices, hprev⟩
  unfold State.updateDiskUsage
  dsimp only
  split_ifs <;> exact hloop _

/-- **`updateDiskUsage` zeroes the counters of the records whose query fails.** -/
theorem keeps_updateDiskUsage (now : ℤ) (s : State) (usage : String → Option UsageStat)
    (root : RootDisk) (device : String) :
    Keeps (device ∈ s.devices ∧ usageFails usage (cachesExtraFs s now) (s.fsStats device) = true)
      (s.fsStats device) ((s.updateDiskUsage now usage root).1.fsStats device) := by
  have hloop := keeps_foldl_updateUsage usage (cachesExtraFs s now) s.devices (s, root) device
  unfold State.updateDiskUsage
  dsimp only
  split_ifs <;> exact hloop

end Spec

/-- An entry that is found is there. -/
theorem mem_of_lookup {α : Type} {l : List (String × α)} {k : String} {a : α}
    (h : l.lookup k = some a) : (k, a) ∈ l := by
  obtain ⟨before, after, rfl, -⟩ := List.lookup_eq_some_iff.mp h
  exact List.mem_append_right _ List.mem_cons_self

/-! ## The calls, device by device -/

/-- Counters of a device that were observed, and when. -/
structure Observation where
  device : String
  time : ℤ
  read : UInt64
  write : UInt64
  deriving DecidableEq

/-- A call of `updateDiskIo` that is under way, with the devices that are left. -/
structure Call where
  key : UInt16
  now : ℤ
  counters : List (String × DiskCounters)
  rest : List (String × DiskCounters)

/-- What the call observed. -/
def Call.observed (c : Call) : List Observation :=
  c.counters.map fun e => ⟨e.2.name, c.now, e.2.readBytes, e.2.writeBytes⟩

/-- What was published for a device: its counters and its record, and all that had been observed
before the call. -/
structure Report where
  now : ℤ
  counters : DiskCounters
  record : FsStats
  observed : List Observation

/-- The agent and the call under way, with a record of what happened: what was observed, which
records were zeroed by a usage query since they were stamped, and what was published. -/
structure Watch where
  sys : State
  root : RootDisk
  call : Option Call
  observed : List Observation
  zeroed : String → Bool
  reports : List Report

/-- An agent that was not called yet.  What `initializeDiskInfo` read is observed. -/
def Watch.new (host : Agent.State) (filesystems : List (String × FsStats))
    (diskUsageCacheDuration : ℤ) (root : RootDisk) : Watch where
  sys := .new host filesystems diskUsageCacheDuration
  root := root
  call := none
  observed := filesystems.filterMap fun e =>
    e.2.time.map fun t => ⟨e.1, t, e.2.totalRead, e.2.totalWrite⟩
  zeroed := fun _ => false
  reports := []

/-- The usage of the disks is updated, counters are read, a device is measured, the call ends. -/
inductive Event
  | usage (now : ℤ) (usage : String → Option UsageStat)
  | read (key : UInt16) (now : ℤ) (counters : List (String × DiskCounters))
  | device
  | done

namespace Watch

/-- `updateDiskUsage`. -/
def updateUsage (w : Watch) (now : ℤ) (usage : String → Option UsageStat) : Watch :=
  let (sys, root) := w.sys.updateDiskUsage now usage w.root
  { w with
    sys := sys
    root := root
    zeroed := fun device => w.zeroed device ||
      device ∈ w.sys.devices && usageFails usage (cachesExtraFs w.sys now) (w.sys.fsStats device) }

/-- The records that a device stamps are not zeroed any more. -/
def zeroedAfter (w : Watch) (c : Call) (entry : String × DiskCounters) (device : String) : Bool :=
  match fate w.sys c.key c.now entry with
  | .skipped | .early => w.zeroed device
  | .reset => w.zeroed device && !(device ∈ w.sys.devices && (c.counters.lookup device).isSome)
  | .published _ _ => w.zeroed device && device ≠ entry.2.name

/-- One device in the loop of `updateDiskIo`. -/
def measure (w : Watch) (c : Call) (entry : String × DiskCounters)
    (rest : List (String × DiskCounters)) : Watch :=
  let (sys, root) := State.updateIo c.key c.now c.counters (w.sys, w.root) entry
  { w with
    sys := sys
    root := root
    call := some { c with rest := rest }
    zeroed := w.zeroedAfter c entry
    reports :=
      match fate w.sys c.key c.now entry with
      | .published _ _ => ⟨c.now, entry.2, sys.fsStats entry.2.name, w.observed⟩ :: w.reports
      | _ => w.reports }

/-- **One step.**  The counters are listed under the names of their devices. -/
def step (w : Watch) : Event → Option Watch
  | .usage now usage => if w.call.isNone then some (w.updateUsage now usage) else none
  | .read key now counters =>
    if w.call.isNone ∧ ∀ e ∈ counters, e.2.name = e.1 then
      some { w with call := some ⟨key, now, counters, counters⟩ }
    else none
  | .device =>
    match w.call with
    | some c =>
      match c.rest with
      | entry :: rest => some (w.measure c entry rest)
      | [] => none
    | none => none
  | .done =>
    match w.call with
    | some c =>
      if c.rest = [] then some { w with call := none, observed := c.observed ++ w.observed }
      else none
    | none => none

/-- **A whole call is `updateDiskIo`.** -/
theorem sys_of_call {w : Watch} {c : Call} (hcall : w.call = some c) :
    ∃ w', run step w (c.rest.map fun _ => .device) = some w' ∧
      (w'.sys, w'.root) = c.rest.foldl (State.updateIo c.key c.now c.counters) (w.sys, w.root) ∧
      w'.call = some { c with rest := [] } := by
  obtain ⟨key, now, counters, rest⟩ := c
  induction rest generalizing w with
  | nil => exact ⟨w, rfl, rfl, hcall⟩
  | cons entry rest ih =>
    have hstep : step w .device =
        some (w.measure ⟨key, now, counters, entry :: rest⟩ entry rest) := by
      simp only [step, hcall]
    obtain ⟨w', hrun, hsys, hend⟩ :=
      ih (w := w.measure ⟨key, now, counters, entry :: rest⟩ entry rest) rfl
    exact ⟨w', run_cons_eq_some.mpr ⟨_, hstep, hrun⟩, hsys, hend⟩

end Watch

/-! ## What the rates are -/

/-- Whole milliseconds since an observation. -/
def Observation.ms (o : Observation) (now : ℤ) : ℕ := (now - o.time).toNat / 1000000

/-- **The rates of a report are those since an observation** of the device, before the call, whose
counters are not above the current ones. -/
structure Report.Since (r : Report) (o : Observation) : Prop where
  device : o.device = r.counters.name
  read : o.read ≤ r.counters.readBytes
  write : o.write ≤ r.counters.writeBytes
  elapsed : 0 < o.ms r.now
  diskReadBytes : r.record.diskReadBytes.toNat =
    (r.counters.readBytes.toNat - o.read.toNat) * 1000 / o.ms r.now
  diskWriteBytes : r.record.diskWriteBytes.toNat =
    (r.counters.writeBytes.toNat - o.write.toNat) * 1000 / o.ms r.now
  diskReadPs : r.record.diskReadPs = bytesToMegabytes r.record.diskReadBytes.toNat
  diskWritePs : r.record.diskWritePs = bytesToMegabytes r.record.diskWriteBytes.toNat

/-- A report comes from a real difference of counters. -/
def Report.Real (r : Report) : Prop := ∃ o ∈ r.observed, r.Since o

/-- **What a device is measured against is sound**: it does not come from a record that a usage
query zeroed, no counter is below it, the multiplication has room, and the clock did not go back. -/
@[mk_iff]
structure Measurable (w : Watch) (c : Call) (entry : String × DiskCounters) : Prop where
  baseline : (w.sys.diskPrev c.key).lookup entry.1 = none → w.zeroed entry.2.name = false
  read : (w.sys.prevOf c.key c.now entry.1 entry.2).readBytes ≤ entry.2.readBytes
  write : (w.sys.prevOf c.key c.now entry.1 entry.2).writeBytes ≤ entry.2.writeBytes
  readFits : (entry.2.readBytes.toNat -
    (w.sys.prevOf c.key c.now entry.1 entry.2).readBytes.toNat) * 1000 < 2 ^ 64
  writeFits : (entry.2.writeBytes.toNat -
    (w.sys.prevOf c.key c.now entry.1 entry.2).writeBytes.toNat) * 1000 < 2 ^ 64
  clock : (w.sys.prevOf c.key c.now entry.1 entry.2).time ≤ c.now
  duration : c.now - (w.sys.prevOf c.key c.now entry.1 entry.2).time ≤ Docker.maxDuration

namespace Watch

/-- **The devices whose rates are published are measured against something sound.** -/
def Regular (w : Watch) : Event → Prop
  | .device => ∀ c ∈ w.call, ∀ entry ∈ c.rest.head?,
      (fate w.sys c.key c.now entry).isPublished → Measurable w c entry
  | _ => True

instance (w : Watch) (c : Call) (entry : String × DiskCounters) :
    Decidable (Measurable w c entry) :=
  decidable_of_iff _ (measurable_iff w c entry).symm

instance (w : Watch) : ∀ e, Decidable (w.Regular e)
  | .device => inferInstanceAs (Decidable (∀ c ∈ w.call, ∀ entry ∈ c.rest.head?,
      (fate w.sys c.key c.now entry).isPublished → Measurable w c entry))
  | .usage _ _ | .read _ _ _ | .done => .isTrue trivial

/-! ### The invariant -/

/-- What was observed, the call under way included. -/
def seen (w : Watch) : List Observation := (w.call.elim [] Call.observed) ++ w.observed

/-- **The invariant.**  What an interval has of a device was observed, what a record has was
observed unless it was zeroed, and all that was published is real. -/
structure Inv (w : Watch) : Prop where
  prev : ∀ key name, ∀ p ∈ (w.sys.diskPrev key).lookup name,
    ⟨name, p.time, p.readBytes, p.writeBytes⟩ ∈ w.seen
  record : ∀ device, ∀ t ∈ (w.sys.fsStats device).time, w.zeroed device = false →
    ⟨device, t, (w.sys.fsStats device).totalRead, (w.sys.fsStats device).totalWrite⟩ ∈ w.seen
  named : ∀ c ∈ w.call, ∀ e ∈ c.counters, e.2.name = e.1
  rest : ∀ c ∈ w.call, ∀ e ∈ c.rest, e ∈ c.counters
  reports : ∀ r ∈ w.reports, r.Real

variable {w w' : Watch} {c : Call} {entry : String × DiskCounters}
  {rest : List (String × DiskCounters)}

theorem inv_new (host : Agent.State) (filesystems : List (String × FsStats))
    (diskUsageCacheDuration : ℤ) (root : RootDisk) :
    (new host filesystems diskUsageCacheDuration root).Inv where
  prev := by
    intro key name p hp
    cases hp
  record := by
    intro device t ht _
    unfold new State.new at ht ⊢
    dsimp only at ht ⊢
    cases hlookup : filesystems.lookup device with
    | none =>
      rw [hlookup] at ht
      cases ht
    | some stats =>
      rw [hlookup, Option.getD_some] at ht
      refine List.mem_append_right _ (List.mem_filterMap.mpr ⟨(device, stats), ?_, ?_⟩)
      · exact mem_of_lookup hlookup
      · rw [Option.mem_def.mp ht]
        rfl
  named := by
    intro c hc
    cases hc
  rest := by
    intro c hc
    cases hc
  reports := by
    intro r hr
    cases hr

theorem Inv.usage (h : w.Inv) (now : ℤ) (usage : String → Option UsageStat) :
    (w.updateUsage now usage).Inv where
  prev := by
    intro key name p hp
    rw [updateUsage, (updateDiskUsage_same w.sys usage w.root).2] at hp
    exact h.prev key name p hp
  record := by
    intro device t ht hzeroed
    have hkeeps := keeps_updateDiskUsage now w.sys usage w.root device
    obtain ⟨hzeroed, hfails⟩ : w.zeroed device = false ∧ ¬ (device ∈ w.sys.devices ∧
        usageFails usage (cachesExtraFs w.sys now) (w.sys.fsStats device) = true) := by
      simpa [updateUsage] using hzeroed
    obtain ⟨hread, hwrite⟩ := hkeeps.counters hfails
    have htime : t ∈ (w.sys.fsStats device).time := by
      rw [← hkeeps.time]
      exact ht
    have hseen := h.record device t htime hzeroed
    unfold updateUsage
    dsimp only
    rw [hread, hwrite]
    exact hseen
  named := h.named
  rest := h.rest
  reports := h.reports

theorem seen_measure (hcall : w.call = some c) : (w.measure c entry rest).seen = w.seen := by
  rw [seen, seen, hcall]
  rfl

/-- What the call read of one of its devices is seen. -/
theorem mem_seen (hcall : w.call = some c) (hentry : entry ∈ c.counters) :
    ⟨entry.2.name, c.now, entry.2.readBytes, entry.2.writeBytes⟩ ∈ w.seen := by
  rw [seen, hcall]
  exact List.mem_append_left _ (List.mem_map.mpr ⟨entry, hentry, rfl⟩)

/-- The record of a device that is stamped has what the call read. -/
theorem Inv.restamped (h : w.Inv) (hcall : w.call = some c) {device : String} {t : ℤ}
    (ht : t ∈ (restamped w.sys c.now c.counters device).time)
    (hzeroed : device ∈ w.sys.devices ∧ (c.counters.lookup device).isSome ∨
      w.zeroed device = false) :
    ⟨device, t, (DiskRates.restamped w.sys c.now c.counters device).totalRead,
      (DiskRates.restamped w.sys c.now c.counters device).totalWrite⟩ ∈ w.seen := by
  unfold DiskRates.restamped at ht ⊢
  by_cases hdevice : device ∈ w.sys.devices
  · rw [if_pos hdevice] at ht ⊢
    cases hlookup : c.counters.lookup device with
    | some d =>
      rw [hlookup] at ht
      obtain rfl : c.now = t := Option.some.inj ht
      have hmem := mem_of_lookup hlookup
      have hname : d.name = device := h.named c hcall _ hmem
      have hseen := mem_seen hcall hmem
      rwa [hname] at hseen
    | none =>
      rw [hlookup] at ht hzeroed
      exact h.record device t ht (hzeroed.resolve_left fun h => nomatch h.2)
  · rw [if_neg hdevice] at ht ⊢
    exact h.record device t ht (hzeroed.resolve_left fun h => hdevice h.1)

/-- **Each device leaves the records observed, or zeroed.** -/
theorem Inv.record_measure (h : w.Inv) (hcall : w.call = some c) (hentry : entry ∈ c.counters)
    (device : String) (t : ℤ) (ht : t ∈ ((w.measure c entry rest).sys.fsStats device).time)
    (hzeroed : (w.measure c entry rest).zeroed device = false) :
    ⟨device, t, ((w.measure c entry rest).sys.fsStats device).totalRead,
      ((w.measure c entry rest).sys.fsStats device).totalWrite⟩ ∈ w.seen := by
  unfold measure at ht hzeroed ⊢
  dsimp only at ht hzeroed ⊢
  rw [fsStats_updateIo] at ht ⊢
  unfold zeroedAfter at hzeroed
  cases hfate : fate w.sys c.key c.now entry with
  | skipped | early =>
    rw [hfate] at ht hzeroed
    exact h.record device t ht hzeroed
  | reset =>
    rw [hfate] at ht hzeroed
    refine h.restamped hcall ht ?_
    have hor : w.zeroed device = false ∨
        device ∈ w.sys.devices ∧ (c.counters.lookup device).isSome := by
      simpa [Option.isSome_iff_ne_none, imp_iff_not_or] using hzeroed
    exact hor.symm
  | published read write =>
    rw [hfate] at ht hzeroed
    dsimp only at ht hzeroed ⊢
    by_cases hdevice : device = entry.2.name
    · subst hdevice
      rw [Function.update_self] at ht ⊢
      obtain rfl : c.now = t := Option.some.inj ht
      exact mem_seen hcall hentry
    · rw [Function.update_of_ne hdevice] at ht ⊢
      exact h.record device t ht (by simpa [hdevice] using hzeroed)

/-- **What an interval has of a device is still observed.** -/
theorem Inv.prev_measure (h : w.Inv) (hcall : w.call = some c) (hentry : entry ∈ c.counters)
    (key : UInt16) (name : String) (p : PrevDisk)
    (hp : p ∈ ((w.measure c entry rest).sys.diskPrev key).lookup name) :
    ⟨name, p.time, p.readBytes, p.writeBytes⟩ ∈ w.seen := by
  unfold measure at hp
  dsimp only at hp
  rw [diskPrev_updateIo] at hp
  by_cases hfate : fate w.sys c.key c.now entry = .skipped
  · rw [if_pos hfate] at hp
    exact h.prev key name p hp
  · rw [if_neg hfate, noted] at hp
    dsimp only at hp
    by_cases hkey : key = c.key
    · subst hkey
      rw [Function.update_self] at hp
      by_cases hname : name = entry.1
      · subst hname
        rw [AList.lookup_insert] at hp
        obtain rfl := Option.some.inj hp
        have hseen := mem_seen hcall hentry
        rwa [h.named c hcall entry hentry] at hseen
      · rw [AList.lookup_insert_ne hname] at hp
        exact h.prev c.key name p hp
    · rw [Function.update_of_ne hkey] at hp
      exact h.prev key name p hp

/-! ### What is published -/

/-- Rates that are published are over at least 100 milliseconds. -/
theorem of_published {read write : UInt64}
    (hfate : fate w.sys c.key c.now entry = .published read write) :
    100 ≤ Docker.millisecondsSince c.now
        (some (w.sys.prevOf c.key c.now entry.1 entry.2).time) ∧
      read = (entry.2.readBytes - (w.sys.prevOf c.key c.now entry.1 entry.2).readBytes) * 1000 /
        Docker.millisecondsSince c.now
          (some (w.sys.prevOf c.key c.now entry.1 entry.2).time) ∧
      write = (entry.2.writeBytes - (w.sys.prevOf c.key c.now entry.1 entry.2).writeBytes) * 1000 /
        Docker.millisecondsSince c.now
          (some (w.sys.prevOf c.key c.now entry.1 entry.2).time) := by
  unfold fate at hfate
  dsimp only at hfate
  split_ifs at hfate with htracked hearly himplausible
  · injection hfate with hread hwrite
    exact ⟨UInt64.not_lt.mp hearly, hread.symm, hwrite.symm⟩

/-- No time has passed since what a call read itself. -/
theorem millisecondsSince_self (now : ℤ) : Docker.millisecondsSince now (some now) = 0 := by
  refine UInt64.toNat_inj.mp ((Docker.toNat_millisecondsSince_of_le le_rfl ?_).trans ?_)
  · rw [sub_self]
    decide
  · rw [sub_self]
    rfl

/-- **What a device is measured against was observed**, unless it was zeroed. -/
theorem Inv.prevOf_seen (h : w.Inv) (hcall : w.call = some c) (hentry : entry ∈ c.counters)
    (hbase : (w.sys.diskPrev c.key).lookup entry.1 = none → w.zeroed entry.2.name = false) :
    ⟨entry.2.name, (w.sys.prevOf c.key c.now entry.1 entry.2).time,
      (w.sys.prevOf c.key c.now entry.1 entry.2).readBytes,
      (w.sys.prevOf c.key c.now entry.1 entry.2).writeBytes⟩ ∈ w.seen := by
  unfold State.prevOf
  cases hlookup : (w.sys.diskPrev c.key).lookup entry.1 with
  | some p =>
    have hseen := h.prev c.key entry.1 p hlookup
    rwa [← h.named c hcall entry hentry] at hseen
  | none =>
    cases htime : (w.sys.fsStats entry.2.name).time with
    | none => exact mem_seen hcall hentry
    | some t => exact h.record entry.2.name t htime (hbase hlookup)

/-- **A device that is measured against something sound is reported by a real difference.** -/
theorem Inv.real (h : w.Inv) (hcall : w.call = some c) (hentry : entry ∈ c.counters)
    (hmeas : Measurable w c entry) {read write : UInt64}
    (hfate : fate w.sys c.key c.now entry = .published read write) :
    Report.Real ⟨c.now, entry.2,
      withRates (w.sys.fsStats entry.2.name) c.now entry.2 read write, w.observed⟩ := by
  obtain ⟨hms, rfl, rfl⟩ := of_published hfate
  have hseen := h.prevOf_seen hcall hentry hmeas.baseline
  have helapsed := Docker.toNat_millisecondsSince_of_le hmeas.clock hmeas.duration
  have hobserved : ⟨entry.2.name, (w.sys.prevOf c.key c.now entry.1 entry.2).time,
      (w.sys.prevOf c.key c.now entry.1 entry.2).readBytes,
      (w.sys.prevOf c.key c.now entry.1 entry.2).writeBytes⟩ ∈ w.observed := by
    refine (List.mem_append.mp hseen).resolve_left fun hown => ?_
    rw [hcall] at hown
    -- what this call read is no milliseconds old
    obtain ⟨e, -, he⟩ := List.mem_map.mp hown
    have hnow : c.now = (w.sys.prevOf c.key c.now entry.1 entry.2).time :=
      congrArg Observation.time he
    rw [← hnow, millisecondsSince_self] at hms
    exact absurd hms (by decide)
  obtain ⟨-, hread, hwrite, hreadFits, hwriteFits, -, -⟩ := hmeas
  clear hfate hseen
  generalize w.sys.prevOf c.key c.now entry.1 entry.2 = prev at *
  have hquot : ∀ a b : UInt64, b ≤ a → (a.toNat - b.toNat) * 1000 < 2 ^ 64 →
      ((a - b) * 1000 / Docker.millisecondsSince c.now (some prev.time)).toNat =
        (a.toNat - b.toNat) * 1000 / ((c.now - prev.time).toNat / 1000000) := by
    intro a b hle hfits
    rw [← UInt64.toNat_sub_of_le _ _ hle] at hfits ⊢
    rw [toNat_bytesPerSecond hfits, helapsed]
  refine ⟨_, hobserved, rfl, hread, hwrite, ?_, hquot _ _ hread hreadFits,
    hquot _ _ hwrite hwriteFits, rfl, rfl⟩
  have h100 : (100 : UInt64).toNat ≤ _ := UInt64.le_iff_toNat_le.mp hms
  rw [helapsed] at h100
  exact lt_of_lt_of_le (by decide) h100

/-- **A device that is measured leaves all reports real.** -/
theorem Inv.reports_measure (h : w.Inv) (hcall : w.call = some c) (hentry : entry ∈ c.counters)
    (hok : (fate w.sys c.key c.now entry).isPublished → Measurable w c entry) :
    ∀ r ∈ (w.measure c entry rest).reports, r.Real := by
  unfold measure
  dsimp only
  rw [fsStats_updateIo]
  cases hfate : fate w.sys c.key c.now entry with
  | skipped | early | reset => exact h.reports
  | published read write =>
    dsimp only
    rw [Function.update_self]
    have hreal := h.real hcall hentry (hok (by rw [hfate]; rfl)) hfate
    exact List.forall_mem_cons.mpr ⟨hreal, h.reports⟩

/-- **A step that is regular keeps the invariant.** -/
theorem Inv.next {e : Event} (h : w.Inv) (hok : w.Regular e) (hs : w.step e = some w') :
    w'.Inv := by
  cases e with
  | usage now usage =>
    obtain ⟨-, rfl⟩ := guard_eq_some hs
    exact h.usage now usage
  | read key now counters =>
    obtain ⟨⟨hidle, hnamed⟩, rfl⟩ := guard_eq_some hs
    rw [Option.isNone_iff_eq_none] at hidle
    have hseen : ∀ o ∈ w.seen, o ∈ seen { w with call := some ⟨key, now, counters, counters⟩ } := by
      intro o ho
      rw [seen, hidle] at ho
      exact List.mem_append_right _ ho
    constructor
    · exact fun key name p hp => hseen _ (h.prev key name p hp)
    · exact fun device t ht hzeroed => hseen _ (h.record device t ht hzeroed)
    · rintro c ⟨⟩
      exact hnamed
    · rintro c ⟨⟩ entry hentry
      exact hentry
    · exact h.reports
  | device =>
    unfold step at hs
    dsimp only at hs
    split at hs
    · rename_i c hcall
      split at hs
      · rename_i entry rest hrest
        obtain rfl := Option.some.inj hs
        have hentry : entry ∈ c.counters :=
          h.rest c hcall entry (hrest ▸ List.mem_cons_self)
        have hseen : (w.measure c entry rest).seen = w.seen := seen_measure hcall
        constructor
        · rw [hseen]
          exact h.prev_measure hcall hentry
        · rw [hseen]
          exact h.record_measure hcall hentry
        · rintro c' ⟨⟩
          exact h.named c hcall
        · rintro c' ⟨⟩ e he
          exact h.rest c hcall e (hrest ▸ List.mem_cons_of_mem _ he)
        · exact h.reports_measure hcall hentry (hok c hcall entry (by rw [hrest]; rfl))
      · cases hs
    · cases hs
  | done =>
    unfold step at hs
    dsimp only at hs
    split at hs
    · rename_i c hcall
      obtain ⟨-, rfl⟩ := guard_eq_some hs
      have hseen : seen { w with call := none, observed := c.observed ++ w.observed } = w.seen := by
        rw [seen, seen, hcall]
        rfl
      constructor
      · rw [hseen]
        exact h.prev
      · rw [hseen]
        exact h.record
      · rintro c' ⟨⟩
      · rintro c' ⟨⟩
      · exact h.reports
    · cases hs

/-- **Where devices are measured against something sound, every published rate is a real difference
of counters over the time between them.** -/
theorem real_of_regular (host : Agent.State) (filesystems : List (String × FsStats))
    (diskUsageCacheDuration : ℤ) (root : RootDisk) {events : List Event}
    (hr : run step (new host filesystems diskUsageCacheDuration root) events = some w)
    (hok : Along step Regular (new host filesystems diskUsageCacheDuration root) events) :
    ∀ r ∈ w.reports, r.Real :=
  (inv_of_along (fun h hok hs => h.next hok hs) (inv_new _ _ _ _) hok hr).reports

/-! ### A usage query that fails -/

/-- An agent with a root disk that had read one megabyte at the start. -/
def oneDisk : Watch :=
  new (.new ⟨[], fun _ => none, fun _ => none, none⟩ "")
    [("sda", { FsStats.new true "/" "" with time := some 0, totalRead := 1048576 })] 0
    ⟨0, 0, none, 0, 0, (0, 0)⟩

/-- A call for a key at a time in seconds. -/
def callAt (key : UInt16) (seconds : ℤ) (read : UInt64) : List Event :=
  [.read key (seconds * 1000000000) [("sda", ⟨"sda", read, 0⟩)], .device, .done]

theorem real_of_regular_twice :
    (run step oneDisk (callAt 1000 1 2097152 ++ callAt 60000 2 2097152)).map
        (fun w => w.reports.map (·.record.diskReadBytes)) = some [0, 1048576] ∧
      ∀ w ∈ run step oneDisk (callAt 1000 1 2097152 ++ callAt 60000 2 2097152),
        ∀ r ∈ w.reports, r.Real :=
  ⟨by decide +kernel, fun _ hw => real_of_regular _ _ _ _ hw (by decide +kernel)⟩

/-- **After a usage query that failed, all that a disk ever read is published as a rate.** -/
theorem not_real :
    ¬ ∀ (host : Agent.State) (filesystems : List (String × FsStats)) (diskUsageCacheDuration : ℤ)
      (root : RootDisk) (events : List Event) (w : Watch),
      run step (new host filesystems diskUsageCacheDuration root) events = some w →
        ∀ r ∈ w.reports, r.Real := by
  intro h
  have hreports : (run step oneDisk (.usage 0 (fun _ => none) :: callAt 1000 1 1048576)).map
      (fun w => w.reports.map fun r =>
        (r.now, r.counters.readBytes, r.record.diskReadBytes, r.observed)) =
      some [(1000000000, 1048576, 1048576, [⟨"sda", 0, 1048576, 0⟩])] := by
    decide +kernel
  obtain ⟨w, hw, hreports⟩ := Option.map_eq_some_iff.mp hreports
  obtain ⟨r, hr, hreport⟩ := List.map_eq_singleton_iff.mp hreports
  obtain ⟨o, ho, hsince⟩ := h _ _ _ _ _ w hw r (hr ▸ List.mem_cons_self)
  injection hreport with hnow hreport
  injection hreport with hread hreport
  injection hreport with hrate hobserved
  rw [hobserved, List.mem_singleton] at ho
  have hquot := hsince.diskReadBytes
  rw [ho, hnow, hread, hrate] at hquot
  exact absurd hquot (by decide)

end Watch

end DiskRates

end Gather

end Agent

end Beszel
