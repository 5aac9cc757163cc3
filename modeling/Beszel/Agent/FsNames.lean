import Beszel.Agent.DiskRates

/-!
# Agent/FsNames — the devices whose counters are read

    fsStats ──initializeDiskIoStats──▸ fsNames ──disk.IOCounters──▸ counters ──anomaly──▸ fsNames

`initializeDiskIoStats` of `agent/disk.go` appends the devices it finds to `fsNames`, at the start
of the agent and again for each anomaly in `updateDiskIo`.  The calls are those of
`Agent/DiskRates`, device by device; here the names go on to the library, which returns the counters
of the named devices only, or those of all devices if there is no name.
-/

namespace Beszel

open Machinery

namespace Agent

namespace Gather

namespace FsNames

open DiskRates

/-! ## The runs -/

/-- An agent at the end of `initializeDiskInfo`, which has read the `counters`. -/
def start (host : Agent.State) (filesystems : GoMap FsStats) (diskUsageCacheDuration : ℤ)
    (root : RootDisk) (now : ℤ) (counters : List (String × DiskCounters)) : Watch :=
  let fs := filesystems.entries.map fun e => (e.1, e.2)
  { Watch.new host fs diskUsageCacheDuration root with
    sys := State.initializeDiskIoStats
      { State.new host fs diskUsageCacheDuration with fsNames := [] } now counters }

/-- `disk.IOCounters(a.fsNames...)` returns the counters of these devices, or of all devices if the
list is empty. -/
def Named (w : Watch) : DiskRates.Event → Prop
  | .read _ _ counters => w.sys.fsNames ≠ [] → ∀ e ∈ counters, e.1 ∈ w.sys.fsNames
  | _ => True

instance (w : Watch) (e : DiskRates.Event) : Decidable (Named w e) := by
  cases e <;> unfold Named <;> infer_instance

/-- One step, with what the library returns. -/
def step (w : Watch) (e : DiskRates.Event) : Option Watch := if Named w e then w.step e else none

/-- **The list that is passed to `disk.IOCounters`** has each device once, and no other device than
those of `fsStats`. -/
structure Listed (w : Watch) : Prop where
  nodup : w.sys.fsNames.Nodup
  subset : w.sys.fsNames ⊆ w.sys.devices

/-- **Nothing is appended twice**: where a device is reset, the list is still empty. -/
def FirstReset (w : Watch) : DiskRates.Event → Prop
  | .device => ∀ c ∈ w.call, ∀ entry ∈ c.rest.head?,
      fate w.sys c.key c.now entry = .reset → w.sys.fsNames = []
  | _ => True

/-! ## What the functions do to the list -/

variable {now : ℤ} {counters : List (String × DiskCounters)}

/-- **`initializeDiskIoStats` appends the devices whose counters are there.** -/
theorem fsNames_initializeDiskIoStats (s : State) :
    (s.initializeDiskIoStats now counters).fsNames
      = s.fsNames ++ s.devices.filter fun device => (counters.lookup device).isSome := by
  have hloop : ∀ (l : List String) (s : State),
      (l.foldl (State.initializeIo now counters) s).fsNames
        = s.fsNames ++ l.filter fun device => (counters.lookup device).isSome := by
    intro l
    induction l with
    | nil => exact fun s => (List.append_nil _).symm
    | cons device l ih =>
      intro s
      rw [List.foldl_cons, ih, List.filter_cons]
      unfold State.initializeIo
      cases counters.lookup device with
      | none => rfl
      | some d => exact List.append_assoc ..
  exact hloop s.devices s

theorem fsNames_updateDiskUsage (s : State) (usage : String → Option UsageStat) (root : RootDisk) :
    (s.updateDiskUsage now usage root).1.fsNames = s.fsNames := by
  have hloop : ∀ cacheExtraFs : Bool,
      (s.devices.foldl (State.updateUsage usage cacheExtraFs) (s, root)).1.fsNames
        = s.fsNames := by
    intro cacheExtraFs
    refine List.foldlRecOn (motive := fun acc : State × RootDisk => acc.1.fsNames = s.fsNames)
      s.devices _ rfl ?_
    rintro acc hnames device -
    unfold State.updateUsage
    dsimp only
    split
    · exact hnames
    · cases usage (acc.1.fsStats device).mountpoint <;> exact hnames
  unfold State.updateDiskUsage
  dsimp only
  split_ifs <;> exact hloop _

/-- A device that is reset is one of `fsStats`. -/
theorem mem_devices_of_reset {s : State} {key : UInt16} {entry : String × DiskCounters}
    (h : fate s key now entry = .reset) : entry.2.name ∈ s.devices := by
  by_contra hmissing
  unfold fate at h
  dsimp only at h
  rw [if_pos hmissing] at h
  cases h

/-- **One device**: the list stays, or a device is reset and all that have counters are appended. -/
theorem fsNames_updateIo (key : UInt16) (s : State) (root : RootDisk)
    (entry : String × DiskCounters) :
    (State.updateIo key now counters (s, root) entry).1.devices = s.devices ∧
      (State.updateIo key now counters (s, root) entry).1.fsNames =
        if fate s key now entry = .reset then
          s.fsNames ++ s.devices.filter fun device => (counters.lookup device).isSome
        else s.fsNames := by
  rcases updateIo_cases key now counters s root entry with
    ⟨hfate, h⟩ | ⟨hfate, h⟩ | ⟨hfate, h⟩ | ⟨read, write, hfate, h⟩
  · rw [h, hfate]
    exact ⟨rfl, rfl⟩
  · rw [h, hfate]
    exact ⟨rfl, rfl⟩
  · rw [h, hfate]
    exact ⟨(initializeDiskIoStats_same _).1, fsNames_initializeDiskIoStats _⟩
  · rw [h, hfate]
    exact ⟨rfl, rfl⟩

/-! ## Runs -/

/-- **The invariant**: the list is in order, and a call that is under way has read the counters of
listed devices, once there are any. -/
structure Settled (w : Watch) : Prop extends Listed w where
  devices_nodup : w.sys.devices.Nodup
  counted : ∀ c ∈ w.call, (∀ e ∈ c.counters, e.2.name = e.1) ∧ c.rest ⊆ c.counters ∧
    (w.sys.fsNames ≠ [] → ∀ e ∈ c.counters, e.1 ∈ w.sys.devices → e.1 ∈ w.sys.fsNames)

/-- A device of `fsStats` that was read is among those whose counters are there. -/
theorem mem_filter_lookup {devices : List String} {entry : String × DiskCounters}
    (hentry : entry ∈ counters) (hdevice : entry.1 ∈ devices) :
    entry.1 ∈ devices.filter fun device => (counters.lookup device).isSome := by
  refine List.mem_filter.mpr ⟨hdevice, ?_⟩
  rw [Option.isSome_iff_ne_none, Ne, List.lookup_eq_none_iff]
  intro hnone
  exact absurd (hnone entry hentry) (by simp)

theorem settled_start (host : Agent.State) (filesystems : GoMap FsStats)
    (diskUsageCacheDuration : ℤ) (root : RootDisk) (now : ℤ)
    (counters : List (String × DiskCounters)) :
    Settled (start host filesystems diskUsageCacheDuration root now counters) := by
  set w := start host filesystems diskUsageCacheDuration root now counters
  have hdevices : w.sys.devices = filesystems.keys :=
    (initializeDiskIoStats_same _).1.trans (List.map_map ..)
  have hnames : w.sys.fsNames
      = w.sys.devices.filter fun device => (counters.lookup device).isSome := by
    rw [hdevices]
    refine (fsNames_initializeDiskIoStats _).trans ?_
    rw [List.nil_append]
    exact congrArg _ (List.map_map ..)
  have hnodup : w.sys.devices.Nodup := hdevices ▸ filesystems.nodupKeys
  refine ⟨⟨?_, ?_⟩, hnodup, fun c hc => by cases hc⟩
  · rw [hnames]
    exact hnodup.filter _
  · rw [hnames]
    exact List.filter_subset_self _

/-- The state after a device. -/
theorem step_device {w w' : Watch} (h : step w .device = some w') :
    ∃ c entry rest, w.call = some c ∧ c.rest = entry :: rest ∧ w' = w.measure c entry rest := by
  have hnamed : Named w .device := trivial
  rw [step, if_pos hnamed, Watch.step] at h
  cases hcall : w.call with
  | none =>
    rw [hcall] at h
    cases h
  | some c =>
    rw [hcall] at h
    cases hrest : c.rest with
    | nil =>
      simp only [hrest] at h
      cases h
    | cons entry rest =>
      simp only [hrest] at h
      exact ⟨c, entry, rest, rfl, hrest, (Option.some.inj h).symm⟩

theorem measure_devices (w : Watch) (c : Call) (entry : String × DiskCounters)
    (rest : List (String × DiskCounters)) : (w.measure c entry rest).sys.devices = w.sys.devices :=
  (fsNames_updateIo c.key w.sys w.root entry).1

theorem measure_fsNames (w : Watch) (c : Call) (entry : String × DiskCounters)
    (rest : List (String × DiskCounters)) :
    (w.measure c entry rest).sys.fsNames =
      if fate w.sys c.key c.now entry = .reset then
        w.sys.fsNames ++ w.sys.devices.filter fun device => (c.counters.lookup device).isSome
      else w.sys.fsNames :=
  (fsNames_updateIo c.key w.sys w.root entry).2

theorem Settled.measure {w : Watch} (hw : Settled w) {c : Call} (hc : w.call = some c)
    {entry : String × DiskCounters} {rest : List (String × DiskCounters)}
    (hrest : c.rest = entry :: rest)
    (hfirst : fate w.sys c.key c.now entry = .reset → w.sys.fsNames = []) :
    Settled (w.measure c entry rest) := by
  obtain ⟨hnames, hread, hcounted⟩ := hw.counted c hc
  have hread' : rest ⊆ c.counters := fun e he => hread (hrest ▸ List.mem_cons_of_mem _ he)
  by_cases hreset : fate w.sys c.key c.now entry = .reset
  · have hlist : (w.measure c entry rest).sys.fsNames
        = w.sys.devices.filter fun device => (c.counters.lookup device).isSome := by
      rw [measure_fsNames, if_pos hreset, hfirst hreset, List.nil_append]
    refine ⟨⟨?_, ?_⟩, ?_, ?_⟩
    · rw [hlist]
      exact hw.devices_nodup.filter _
    · rw [hlist, measure_devices]
      exact List.filter_subset_self _
    · rw [measure_devices]
      exact hw.devices_nodup
    · rintro _ ⟨⟩
      refine ⟨hnames, hread', fun _ e he hdevice => ?_⟩
      rw [measure_devices] at hdevice
      rw [hlist]
      exact mem_filter_lookup he hdevice
  · have hlist : (w.measure c entry rest).sys.fsNames = w.sys.fsNames := by
      rw [measure_fsNames, if_neg hreset]
    refine ⟨⟨?_, ?_⟩, ?_, ?_⟩
    · rw [hlist]
      exact hw.nodup
    · rw [hlist, measure_devices]
      exact hw.subset
    · rw [measure_devices]
      exact hw.devices_nodup
    · rintro _ ⟨⟩
      refine ⟨hnames, hread', ?_⟩
      rw [hlist, measure_devices]
      exact hcounted

/-- **A step that resets nothing twice keeps the list in order.** -/
theorem Settled.step {w w' : Watch} (hw : Settled w) {e : DiskRates.Event}
    (hfirst : FirstReset w e) (hstep : step w e = some w') : Settled w' := by
  cases e with
  | usage now usage =>
    have hnamed : Named w (.usage now usage) := trivial
    rw [FsNames.step, if_pos hnamed] at hstep
    obtain ⟨hidle, rfl⟩ := guard_eq_some hstep
    have hdevices : (w.updateUsage now usage).sys.devices = w.sys.devices :=
      (updateDiskUsage_same w.sys usage w.root).1
    have hlist : (w.updateUsage now usage).sys.fsNames = w.sys.fsNames :=
      fsNames_updateDiskUsage w.sys usage w.root
    refine ⟨⟨hlist ▸ hw.nodup, ?_⟩, hdevices ▸ hw.devices_nodup, ?_⟩
    · rw [hlist, hdevices]
      exact hw.subset
    · intro c hc
      change c ∈ w.call at hc
      rw [Option.isNone_iff_eq_none.mp hidle] at hc
      cases hc
  | read key now counters =>
    obtain ⟨hnamed, hstep⟩ := Option.ite_none_right_eq_some.mp hstep
    obtain ⟨⟨-, hnames⟩, rfl⟩ := guard_eq_some hstep
    refine ⟨⟨hw.nodup, hw.subset⟩, hw.devices_nodup, ?_⟩
    rintro _ ⟨⟩
    exact ⟨hnames, List.Subset.refl _, fun hsome e he _ => hnamed hsome e he⟩
  | device =>
    obtain ⟨c, entry, rest, hc, hrest, rfl⟩ := step_device hstep
    exact hw.measure hc hrest (hfirst c hc entry (by rw [hrest]; rfl))
  | done =>
    have hnamed : Named w .done := trivial
    rw [FsNames.step, if_pos hnamed, Watch.step] at hstep
    cases hcall : w.call with
    | none =>
      rw [hcall] at hstep
      cases hstep
    | some c =>
      rw [hcall] at hstep
      obtain ⟨-, rfl⟩ := guard_eq_some hstep
      exact ⟨⟨hw.nodup, hw.subset⟩, hw.devices_nodup, fun c hc => by cases hc⟩

/-- **A reset with a list that is not empty doubles an entry.** -/
theorem not_listed_of_reset {w : Watch} (hw : Settled w) {c : Call} (hc : w.call = some c)
    {entry : String × DiskCounters} {rest : List (String × DiskCounters)}
    (hrest : c.rest = entry :: rest) (hreset : fate w.sys c.key c.now entry = .reset)
    (hnames : w.sys.fsNames ≠ []) : ¬ Listed (w.measure c entry rest) := by
  intro hlisted
  obtain ⟨hname, hread, hcounted⟩ := hw.counted c hc
  have hentry : entry ∈ c.counters := hread (hrest ▸ List.mem_cons_self)
  have hdevice : entry.1 ∈ w.sys.devices := hname entry hentry ▸ mem_devices_of_reset hreset
  have hnodup := hlisted.nodup
  rw [measure_fsNames, if_pos hreset, List.nodup_append] at hnodup
  exact hnodup.2.2 entry.1 (hcounted hnames entry hentry hdevice) entry.1
    (mem_filter_lookup hentry hdevice) rfl

/-- **When `fsNames` holds no duplicates**: the list is in order in every state that a run passes
through, if and only if no device is reset while a device is in the list. -/
theorem listed_iff_along (host : Agent.State) (filesystems : GoMap FsStats)
    (diskUsageCacheDuration : ℤ) (root : RootDisk) (now : ℤ)
    (counters : List (String × DiskCounters)) (es : List DiskRates.Event) :
    (∀ earlier, earlier <+: es →
        ∀ w ∈ run step (start host filesystems diskUsageCacheDuration root now counters) earlier,
          Listed w) ↔
      Along step FirstReset (start host filesystems diskUsageCacheDuration root now counters)
        es := by
  refine forall_prefix_iff_along Settled.toListed (fun hw hfirst hstep => hw.step hfirst hstep) ?_
    (settled_start host filesystems diskUsageCacheDuration root now counters)
  intro w e hw hbad
  cases e with
  | usage now usage => exact absurd trivial hbad
  | read key now counters => exact absurd trivial hbad
  | done => exact absurd trivial hbad
  | device =>
    simp only [FirstReset, not_forall, exists_prop] at hbad
    obtain ⟨c, hc, entry, hentry, hreset, hnames⟩ := hbad
    obtain ⟨rest, hrest⟩ : ∃ rest, c.rest = entry :: rest := List.head?_eq_some_iff.mp hentry
    refine ⟨w.measure c entry rest, ?_, not_listed_of_reset hw hc hrest hreset hnames⟩
    have hnamed : Named w .device := trivial
    rw [FsNames.step, if_pos hnamed, Watch.step, Option.mem_def.mp hc]
    simp only [hrest]

/-- A disk whose counters jump by a hundred gigabytes in a second is listed twice from then on. -/
theorem not_listed :
    ¬ ∀ (host : Agent.State) (filesystems : GoMap FsStats) (diskUsageCacheDuration : ℤ)
      (root : RootDisk) (now : ℤ) (counters : List (String × DiskCounters))
      (es : List DiskRates.Event),
      ∀ w ∈ run step (start host filesystems diskUsageCacheDuration root now counters) es,
        Listed w := by
  intro hall
  have hrun : (run step
      (start (.new ⟨[], fun _ => none, fun _ => none, none⟩ "")
        ((∅ : GoMap FsStats).insert "sda" (.new true "/" "")) 0 ⟨0, 0, none, 0, 0, (0, 0)⟩ 0
        [("sda", ⟨"sda", 0, 0⟩)])
      [.read 60000 1000000000 [("sda", ⟨"sda", 100000000000, 0⟩)], .device, .done]).map
        (fun w => w.sys.fsNames) = some ["sda", "sda"] := by
    decide +kernel
  obtain ⟨w, hw, hnames⟩ := Option.map_eq_some_iff.mp hrun
  have hnodup := (hall _ _ _ _ _ _ _ w hw).nodup
  rw [hnames] at hnodup
  exact absurd hnodup (by decide)

end FsNames

end Gather

end Agent

end Beszel
