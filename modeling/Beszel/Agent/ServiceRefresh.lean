import Beszel.Agent.Systemd

/-!
# Agent/ServiceRefresh — the services that the agent sends

    worker:  list ──▸ (begin ──▸ write · write · ⋯)⋯ ──▸ prune ──▸ flag
    gather:  flag? ──▸ copy ──▸ no flag
    send:         read · read · ⋯

`getServiceStats` of `agent/systemd.go`, by the worker and by a gathering of `agent/agent.go`.  The
worker takes the lock for every unit and for what it deletes, a gathering while it copies the
pointers to the services; the flag is written and read without it, by the gathering before it gives
the lock back.  What encodes a sample, at once or from the cache, follows those pointers without any
lock, while the worker may be writing one field of a service after the other.  `serviceName` stands
for the name that `unescapeServiceName` makes of a unit's, and may be any function.
-/

namespace Beszel

open Machinery

namespace Agent

namespace ServiceRefresh

open Systemd

/-! ## One field at a time -/

/-- The fields of `systemd.Service`. -/
inductive Field
  | name
  | state
  | cpu
  | mem
  | memPeak
  | sub
  | cpuPeak
  | prevCpuUsage
  | prevReadTime
  deriving DecidableEq

/-- A field with its value: what is read of a service, or written to it, at a time. -/
inductive Datum
  | name (name : String)
  | state (state : Gather.ServiceState)
  | cpu (cpu : Percent)
  | mem (mem : UInt64)
  | memPeak (memPeak : UInt64)
  | sub (sub : Gather.ServiceSubState)
  | cpuPeak (cpuPeak : Percent)
  | prevCpuUsage (prevCpuUsage : UInt64)
  | prevReadTime (prevReadTime : Option ℤ)
  deriving DecidableEq

namespace Datum

/-- The field that it is a value of. -/
def field : Datum → Field
  | .name _ => .name
  | .state _ => .state
  | .cpu _ => .cpu
  | .mem _ => .mem
  | .memPeak _ => .memPeak
  | .sub _ => .sub
  | .cpuPeak _ => .cpuPeak
  | .prevCpuUsage _ => .prevCpuUsage
  | .prevReadTime _ => .prevReadTime

/-- A field of a service. -/
def ofField (service : Service) : Field → Datum
  | .name => .name service.name
  | .state => .state service.state
  | .cpu => .cpu service.cpu
  | .mem => .mem service.mem
  | .memPeak => .memPeak service.memPeak
  | .sub => .sub service.sub
  | .cpuPeak => .cpuPeak service.cpuPeak
  | .prevCpuUsage => .prevCpuUsage service.prevCpuUsage
  | .prevReadTime => .prevReadTime service.prevReadTime

/-- An assignment to a field. -/
def assign (service : Service) : Datum → Service
  | .name value => { service with name := value }
  | .state value => { service with state := value }
  | .cpu value => { service with cpu := value }
  | .mem value => { service with mem := value }
  | .memPeak value => { service with memPeak := value }
  | .sub value => { service with sub := value }
  | .cpuPeak value => { service with cpuPeak := value }
  | .prevCpuUsage value => { service with prevCpuUsage := value }
  | .prevReadTime value => { service with prevReadTime := value }

/-- The field that was assigned to is what it was given. -/
theorem ofField_assign_self (service : Service) (d : Datum) :
    ofField (d.assign service) d.field = d := by
  cases d <;> rfl

/-- No other field changes. -/
theorem ofField_assign_of_ne (service : Service) {d : Datum} {f : Field} (h : f ≠ d.field) :
    ofField (d.assign service) f = ofField service f := by
  cases d <;> cases f <;> first | rfl | exact absurd rfl h

/-- Assignments to other fields leave a field as it is. -/
theorem ofField_foldl_of_notMem {ds : List Datum} {f : Field} (h : f ∉ ds.map field)
    (service : Service) : ofField (ds.foldl assign service) f = ofField service f := by
  induction ds generalizing service with
  | nil => rfl
  | cons head ds ih =>
    rw [List.map_cons, List.mem_cons, not_or] at h
    rw [List.foldl_cons, ih h.2, ofField_assign_of_ne service h.1]

/-- Of assignments to fields that differ each one is kept. -/
theorem ofField_foldl_assign {ds : List Datum} (hnodup : (ds.map field).Nodup) {d : Datum}
    (hd : d ∈ ds) (service : Service) : ofField (ds.foldl assign service) d.field = d := by
  induction ds generalizing service with
  | nil => exact absurd hd List.not_mem_nil
  | cons head ds ih =>
    rw [List.map_cons, List.nodup_cons] at hnodup
    rw [List.foldl_cons]
    rcases List.mem_cons.mp hd with rfl | hd
    · rw [ofField_foldl_of_notMem hnodup.1, ofField_assign_self]
    · exact ih hnodup.2 hd _

end Datum

/-! ## The assignments -/

/-- `UpdateCPUPercent`, assignment by assignment. -/
def cpuAssignments (numCPU : ℕ) (s : Service) (cpuUsage : UInt64) (now : ℤ) : List Datum :=
  if s.prevReadTime.isNone || cpuUsage < s.prevCpuUsage then
    [.cpu (.finite 0), .prevCpuUsage cpuUsage, .prevReadTime (some now)]
  else
    let duration := Docker.since now s.prevReadTime
    if duration ≤ 0 then [.prevCpuUsage cpuUsage, .prevReadTime (some now)]
    else
      let cpu := usagePercent (cpuUsage - s.prevCpuUsage) (wrap (duration * numCPU))
      if s.cpuPeak.lt cpu then
        [.cpu cpu, .cpuPeak cpu, .prevCpuUsage cpuUsage, .prevReadTime (some now)]
      else [.cpu cpu, .prevCpuUsage cpuUsage, .prevReadTime (some now)]

/-- `updateServiceStats` of a unit that has been active, assignment by assignment: nothing but the
worker writes to a service, so that each value is known before the first. -/
def assignments (numCPU : ℕ) (service : Service) (unit : Reading) : List Datum :=
  let memPeak := (available unit.memoryPeak).getD service.memPeak
  let memUsage := (available unit.memoryCurrent).getD 0
  let memPeak := if memUsage > memPeak then memUsage else memPeak
  [.state (Gather.parseServiceStatus unit.activeState),
      .sub (Gather.parseServiceSubState unit.subState), .mem memUsage] ++
    (if memPeak > service.memPeak then [.memPeak memPeak] else []) ++
    cpuAssignments numCPU service (unit.cpuUsageNSec.getD 0) unit.now

section Assignments

variable {numCPU : ℕ} {service : Service}

/-- The CPU's assignments read nothing that those before them write. -/
theorem foldl_cpuAssignments (s₀ : Service) (cpuUsage : UInt64) (now : ℤ)
    (hprev : s₀.prevCpuUsage = service.prevCpuUsage)
    (htime : s₀.prevReadTime = service.prevReadTime) (hpeak : s₀.cpuPeak = service.cpuPeak) :
    (cpuAssignments numCPU service cpuUsage now).foldl Datum.assign s₀ =
      s₀.updateCPUPercent numCPU cpuUsage now := by
  unfold cpuAssignments Service.updateCPUPercent
  rw [← hprev, ← htime, ← hpeak]
  dsimp only
  split_ifs <;> rfl

/-- **The assignments make what `updateServiceStats` gives.** -/
theorem updateServiceStats_eq_foldl {unit : Reading} (h : unit.hasBeenActive = true) :
    updateServiceStats numCPU service unit =
      some ((assignments numCPU service unit).foldl Datum.assign service) := by
  unfold updateServiceStats assignments
  dsimp only
  rw [if_pos h, List.foldl_append, List.foldl_append, foldl_cpuAssignments]
  · split_ifs <;> rfl
  all_goals split_ifs <;> rfl

/-- No field is assigned to twice. -/
theorem nodup_assignments (unit : Reading) :
    ((assignments numCPU service unit).map Datum.field).Nodup := by
  unfold assignments cpuAssignments
  dsimp only
  split_ifs <;> simp [Datum.field]

end Assignments

/-! ## The worker, the gatherings and what encodes a sample -/

/-- `dbus.UnitStatus` with the properties that are read. -/
structure UnitStatus where
  name : String
  reading : Reading

/-- An address, known by the unit that it was allocated for and by a number of its own. -/
structure Pointer where
  unit : String
  serial : ℕ
  deriving DecidableEq

/-- `serviceStatsMap`. -/
abbrev ServiceMap := String → Option Pointer

/-- What is done to the services under the lock: a unit is read, or entries are removed. -/
inductive Op
  | update (unit : UnitStatus)
  | prune (currentUnits : List String)

/-- A sample's services, and what had been done to them when the pointers were copied. -/
structure Sample where
  services : ServiceMap
  ops : List Op

/-- What was read through a pointer of a sample, and what had been done, or begun, by then. -/
structure Sent where
  sample : Sample
  unit : String
  field : Field
  datum : Datum
  ops : List Op

/-- Where the worker is: it reads units, with the names of all that are listed, writes to a service
under the lock, or deleted what is not listed. -/
inductive Worker
  | idle
  | reading (units : List UnitStatus) (currentUnits : List String)
  | writing (service : Pointer) (left : List Datum) (units : List UnitStatus)
      (currentUnits : List String)
  | pruned

/-- Where a gathering is: it found the flag set, or it copied the services and has the lock. -/
inductive Gathering
  | idle
  | fresh
  | copied

/-- The fields of `systemdManager` and the services that its pointers are for, the worker and the
gathering, what was done, the samples and what was read of them, newest first, and whether a refresh
ended that is in no sample. -/
structure State where
  heap : Pointer → Service
  allocated : ℕ
  serviceStatsMap : ServiceMap
  hasFreshStats : Bool
  worker : Worker
  gathering : Gathering
  ops : List Op
  samples : List Sample
  sent : List Sent
  unpublished : Bool

/-- A new manager. -/
def State.init : State where
  heap _ := .new ""
  allocated := 0
  serviceStatsMap _ := none
  hasFreshStats := false
  worker := .idle
  gathering := .idle
  ops := []
  samples := []
  sent := []
  unpublished := false

/-- What can happen next. -/
inductive Event
  | list (units : List UnitStatus)
  | begin
  | write
  | unlock
  | prune
  | flag
  | check
  | copy
  | release
  | read (sample : ℕ) (unit : String) (field : Field)

section Step

variable (numCPU : ℕ) (serviceName : String → String)

/-- The pointer to the entry of a unit, which is a new one if there is none. -/
def State.pointer (s : State) (unit : String) : Pointer :=
  (s.serviceStatsMap unit).getD ⟨unit, s.allocated⟩

/-- The entry of a unit that is about to be written to. -/
def State.service (s : State) (unit : String) : Service :=
  ((s.serviceStatsMap unit).map s.heap).getD (.new (serviceName unit))

/-- `updateServiceStats` up to the first assignment: a unit that has not been active is an error,
and any other has an entry from here on. -/
def State.begin (s : State) (unit : UnitStatus) (units : List UnitStatus)
    (currentUnits : List String) : State :=
  if unit.reading.hasBeenActive then
    let service := s.service serviceName unit.name
    { s with
      heap := Function.update s.heap (s.pointer unit.name) service
      allocated := s.allocated + 1
      serviceStatsMap :=
        Function.update s.serviceStatsMap unit.name (some (s.pointer unit.name))
      worker := .writing (s.pointer unit.name) (assignments numCPU service unit.reading) units
        currentUnits
      ops := .update unit :: s.ops }
  else { s with worker := .reading units currentUnits, ops := .update unit :: s.ops }

/-- **One step.** -/
def step (s : State) : Event → Option State
  | .list units =>
    match s.worker with
    | .idle => some { s with worker := .reading units (units.map (·.name)) }
    | _ => none
  | .begin =>
    match s.worker, s.gathering with
    | .reading _ _, .copied => none
    | .reading (unit :: units) currentUnits, _ =>
      some (s.begin numCPU serviceName unit units currentUnits)
    | _, _ => none
  | .write =>
    match s.worker with
    | .writing service (d :: left) units currentUnits => some { s with
        heap := Function.update s.heap service (d.assign (s.heap service))
        worker := .writing service left units currentUnits }
    | _ => none
  | .unlock =>
    match s.worker with
    | .writing _ [] units currentUnits => some { s with worker := .reading units currentUnits }
    | _ => none
  | .prune =>
    match s.worker, s.gathering with
    | .reading _ _, .copied => none
    | .reading [] currentUnits, _ => some { s with
        serviceStatsMap := fun unit => if unit ∈ currentUnits then s.serviceStatsMap unit else none
        worker := .pruned
        ops := .prune currentUnits :: s.ops
        unpublished := true }
    | _, _ => none
  | .flag =>
    match s.worker with
    | .pruned => some { s with hasFreshStats := true, worker := .idle }
    | _ => none
  | .check =>
    match s.gathering with
    | .idle => some { s with gathering := if s.hasFreshStats then .fresh else .idle }
    | _ => none
  | .copy =>
    match s.gathering, s.worker with
    | .fresh, .writing _ _ _ _ => none
    | .fresh, _ => some { s with
        samples := ⟨s.serviceStatsMap, s.ops⟩ :: s.samples
        unpublished := false
        gathering := .copied }
    | _, _ => none
  | .release =>
    match s.gathering with
    | .copied => some { s with hasFreshStats := false, gathering := .idle }
    | _ => none
  | .read i unit field => do
    let sample ← s.samples[i]?
    let service ← sample.services unit
    some { s with
      sent := ⟨sample, unit, field, .ofField (s.heap service) field, s.ops⟩ :: s.sent }

end Step

/-! ## What an entry says -/

/-- The readings of a unit since it was last missing, newest first, from what was done. -/
def readings (name : String) : List Op → List Reading
  | [] => []
  | .update unit :: ops =>
    if unit.name = name ∧ unit.reading.hasBeenActive then unit.reading :: readings name ops
    else readings name ops
  | .prune currentUnits :: ops => if name ∈ currentUnits then readings name ops else []

/-- The most memory that a reading tells of. -/
def memory (r : Reading) : ℕ :=
  max ((available r.memoryPeak).getD 0).toNat ((available r.memoryCurrent).getD 0).toNat

/-- **A service says what was read**: the last reading, and the most memory of all of them. -/
structure Says (service : Service) (last : Reading) (earlier : List Reading) : Prop where
  state : service.state = Gather.parseServiceStatus last.activeState
  sub : service.sub = Gather.parseServiceSubState last.subState
  mem : service.mem = (available last.memoryCurrent).getD 0
  memPeak : service.memPeak.toNat = ((last :: earlier).map memory).foldr max 0

section Entries

variable (numCPU : ℕ) (serviceName : String → String)

/-- A service after its readings, newest first. -/
def after (unit : String) (rs : List Reading) : Service :=
  rs.foldr (fun reading service => (updateServiceStats numCPU service reading).getD service)
    (.new (serviceName unit))

/-- What the entry of a unit should be, given its readings. -/
def Entry (unit : String) : Option Service → List Reading → Prop
  | none, rs => rs = []
  | some service, rs => service = after numCPU serviceName unit rs ∧
    ∃ last earlier, rs = last :: earlier ∧ Says service last earlier

/-- **A service of a sample as it was when it was taken, or later**, by the time something is sent
of it: after all readings of its unit up to some moment in between, in which time the unit was not
missing. -/
def Version (unit : String) (taken sent : List Op) (service : Service) : Prop :=
  ∃ ops, taken <:+ ops ∧ ops <:+ sent ∧ readings unit taken <:+ readings unit ops ∧
    Entry numCPU serviceName unit (some service) (readings unit ops)

variable {numCPU serviceName} {unit : String}

/-- The CPU usage does not touch the rest. -/
theorem updateCPUPercent_frame (s : Service) (cpuUsage : UInt64) (now : ℤ) :
    (s.updateCPUPercent numCPU cpuUsage now).state = s.state ∧
      (s.updateCPUPercent numCPU cpuUsage now).sub = s.sub ∧
      (s.updateCPUPercent numCPU cpuUsage now).mem = s.mem := by
  unfold Service.updateCPUPercent
  split_ifs
  · exact ⟨rfl, rfl, rfl⟩
  · dsimp only
    split_ifs <;> exact ⟨rfl, rfl, rfl⟩

/-- **A reading is told of** in what `updateServiceStats` gives. -/
theorem says_of_update {service service' : Service} {last : Reading} {earlier : List Reading}
    (h : updateServiceStats numCPU service last = some service')
    (hpeak : service.memPeak.toNat = (earlier.map memory).foldr max 0) :
    Says service' last earlier := by
  obtain ⟨-, -, hmemPeak, -⟩ := updateServiceStats_cases h
  obtain ⟨-, rfl⟩ := guard_eq_some h
  refine ⟨(updateCPUPercent_frame _ _ _).1, (updateCPUPercent_frame _ _ _).2.1,
    (updateCPUPercent_frame _ _ _).2.2, ?_⟩
  rw [hmemPeak, hpeak, List.map_cons, List.foldr_cons]
  exact max_comm _ _

/-- An entry, or the one that is to be, is the service after the readings, and its most memory
theirs. -/
theorem Entry.getD {entry : Option Service} {rs : List Reading}
    (h : Entry numCPU serviceName unit entry rs) :
    entry.getD (.new (serviceName unit)) = after numCPU serviceName unit rs ∧
      (entry.getD (.new (serviceName unit))).memPeak.toNat = (rs.map memory).foldr max 0 := by
  cases entry with
  | none =>
    obtain rfl : rs = [] := h
    exact ⟨rfl, rfl⟩
  | some service =>
    obtain ⟨hafter, last, earlier, rfl, hsays⟩ := h
    exact ⟨hafter, hsays.memPeak⟩

/-- **One more reading**, assignment by assignment. -/
theorem Entry.update {entry : Option Service} {rs : List Reading} {reading : Reading}
    (h : Entry numCPU serviceName unit entry rs) (hactive : reading.hasBeenActive = true) :
    Entry numCPU serviceName unit (some
      ((assignments numCPU (entry.getD (.new (serviceName unit))) reading).foldl Datum.assign
        (entry.getD (.new (serviceName unit))))) (reading :: rs) := by
  have hupdate := @updateServiceStats_eq_foldl numCPU (entry.getD (.new (serviceName unit))) _
    hactive
  refine ⟨?_, reading, rs, rfl, says_of_update hupdate h.getD.2⟩
  rw [after, List.foldr_cons, ← after, ← h.getD.1, hupdate, Option.getD_some]

/-- There is an entry as soon as there is a reading. -/
theorem Entry.eq_none_iff {entry : Option Service} {rs : List Reading}
    (h : Entry numCPU serviceName unit entry rs) : entry = none ↔ rs = [] := by
  cases entry with
  | none => exact iff_of_true rfl h
  | some service =>
    obtain ⟨-, last, earlier, rfl, -⟩ := h
    exact iff_of_false (Option.some_ne_none _) (List.cons_ne_nil _ _)

/-- A version by some time is one by any later time. -/
theorem Version.mono {taken sent sent' : List Op} {service : Service}
    (h : Version numCPU serviceName unit taken sent service) (hsent : sent <:+ sent') :
    Version numCPU serviceName unit taken sent' service := by
  obtain ⟨ops, htaken, hops, hreadings, hentry⟩ := h
  exact ⟨ops, htaken, hops.trans hsent, hreadings, hentry⟩

/-- What is done to a unit that is not missing adds to its readings. -/
theorem readings_suffix_update (unit : UnitStatus) (name : String) (ops : List Op) :
    readings name ops <:+ readings name (.update unit :: ops) := by
  rw [readings]
  split_ifs
  · exact List.suffix_cons _ _
  · exact List.suffix_refl _

end Entries

/-! ## What every run keeps -/

/-- The assignments to a service that the worker still has to make. -/
def Worker.left : Worker → Pointer → List Datum
  | .writing service left _ _, p => if p = service then left else []
  | _, _ => []

/-- What a pointer leads to once the assignments that are left are made. -/
def settled (heap : Pointer → Service) (left : Pointer → List Datum) (p : Pointer) : Service :=
  (left p).foldl Datum.assign (heap p)

section Runs

variable (numCPU : ℕ) (serviceName : String → String)

/-- **A pointer of a sample**: as long as it is the entry of its unit, that unit is not missing, and
each field that it leads to is that of a version. -/
structure Shares (s : State) (sample : Sample) (unit : String) (p : Pointer) : Prop where
  own : p.unit = unit
  allocated : p.serial < s.allocated
  kept : s.serviceStatsMap unit = some p → readings unit sample.ops <:+ readings unit s.ops
  fields : ∀ f, ∃ service, Version numCPU serviceName unit sample.ops s.ops service ∧
    Datum.ofField (s.heap p) f = .ofField service f

/-- A sample has the units that there was a reading of. -/
structure Sample.Sound (s : State) (sample : Sample) : Prop where
  taken : sample.ops <:+ s.ops
  listed : ∀ unit, sample.services unit = none ↔ readings unit sample.ops = []
  shares : ∀ unit p, sample.services unit = some p → Shares numCPU serviceName s sample unit p

/-- **What is sent is a field of a version.** -/
structure Sent.Sound (s : State) (sent : Sent) : Prop where
  sample : sent.sample ∈ s.samples
  ops : sent.ops <:+ s.ops
  version : ∃ service, Version numCPU serviceName sent.unit sent.sample.ops sent.ops service ∧
    sent.datum = .ofField service sent.field

/-- The entries, once written, say what was read of their units, and no field of them will be
written that does not have its last value then. -/
structure Served (s : State) (left : Pointer → List Datum) : Prop where
  pointers : ∀ unit p, s.serviceStatsMap unit = some p → p.unit = unit ∧ p.serial < s.allocated
  entries : ∀ unit, Entry numCPU serviceName unit
    ((s.serviceStatsMap unit).map (settled s.heap left)) (readings unit s.ops)
  left : ∀ p, ∀ d ∈ left p, s.serviceStatsMap p.unit = some p ∧
    Datum.ofField (settled s.heap left p) d.field = d
  samples : ∀ sample ∈ s.samples, sample.Sound numCPU serviceName s
  sent : ∀ sent ∈ s.sent, sent.Sound numCPU serviceName s

/-- **What every run keeps.** -/
structure Inv (s : State) : Prop where
  served : Served numCPU serviceName s s.worker.left
  copied : s.gathering = .copied → s.unpublished = false
  unpublished : s.unpublished = true → s.hasFreshStats = true ∨ s.worker = .pruned

variable {numCPU serviceName} {s s' : State}

theorem Shares.of_step {sample : Sample} {unit : String} {p : Pointer}
    (h : Shares numCPU serviceName s sample unit p) (hallocated : s.allocated ≤ s'.allocated)
    (hops : s.ops <:+ s'.ops) (hheap : s'.heap p = s.heap p)
    (hkept : s'.serviceStatsMap unit = some p →
      s.serviceStatsMap unit = some p ∧ readings unit s.ops <:+ readings unit s'.ops) :
    Shares numCPU serviceName s' sample unit p where
  own := h.own
  allocated := h.allocated.trans_le hallocated
  kept hentry := (h.kept (hkept hentry).1).trans (hkept hentry).2
  fields f := by
    obtain ⟨service, hversion, hfield⟩ := h.fields f
    exact ⟨service, hversion.mono hops, hheap ▸ hfield⟩

theorem Sample.Sound.of_step {sample : Sample} (h : sample.Sound numCPU serviceName s)
    (hops : s.ops <:+ s'.ops) (hshares : ∀ unit p, Shares numCPU serviceName s sample unit p →
      Shares numCPU serviceName s' sample unit p) : sample.Sound numCPU serviceName s' where
  taken := h.taken.trans hops
  listed := h.listed
  shares unit p hservice := hshares unit p (h.shares unit p hservice)

theorem Sent.Sound.of_step {sent : Sent} (h : sent.Sound numCPU serviceName s)
    (hsamples : s.samples ⊆ s'.samples) (hops : s.ops <:+ s'.ops) :
    sent.Sound numCPU serviceName s' where
  sample := hsamples h.sample
  ops := h.ops.trans hops
  version := h.version

/-- Nothing is left to be written when the lock is free. -/
theorem Worker.left_eq_nil {w : Worker} (h : ∀ service left units currentUnits,
    w ≠ .writing service left units currentUnits) : w.left = fun _ => [] := by
  cases w with
  | writing service left units currentUnits => exact absurd rfl (h service left units currentUnits)
  | idle => rfl
  | reading _ _ => rfl
  | pruned => rfl

/-! ### The worker -/

/-- The pointer to an entry is the unit's own. -/
theorem Served.pointer_unit {left : Pointer → List Datum} (h : Served numCPU serviceName s left)
    (unit : String) : (s.pointer unit).unit = unit := by
  unfold State.pointer
  cases hentry : s.serviceStatsMap unit with
  | none => rfl
  | some p => exact (h.pointers unit p hentry).1

/-- A pointer that was allocated before is that of an entry. -/
theorem State.pointer_of_lt {unit : String} (h : (s.pointer unit).serial < s.allocated) :
    s.serviceStatsMap unit = some (s.pointer unit) := by
  unfold State.pointer at h ⊢
  cases hentry : s.serviceStatsMap unit with
  | none =>
    rw [hentry] at h
    exact absurd h (lt_irrefl _)
  | some p => rfl

/-- The pointer to write to is not beyond the next. -/
theorem Served.pointer_lt {left : Pointer → List Datum} (h : Served numCPU serviceName s left)
    (unit : String) : (s.pointer unit).serial < s.allocated + 1 := by
  unfold State.pointer
  cases hentry : s.serviceStatsMap unit with
  | none => exact Nat.lt_succ_self _
  | some p => exact Nat.lt_succ_of_lt (h.pointers unit p hentry).2

/-- Opening an entry writes nothing where something was. -/
theorem State.update_pointer {unit : String} {p : Pointer} (h : p.serial < s.allocated) :
    Function.update s.heap (s.pointer unit) (s.service serviceName unit) p = s.heap p := by
  by_cases hp : p = s.pointer unit
  · subst hp
    rw [Function.update_self, State.service, State.pointer_of_lt h]
    rfl
  · exact Function.update_of_ne hp _ _

/-- The entry that is written to will say what was read, and the others do. -/
theorem Served.entries_begin (h : Served numCPU serviceName s fun _ => []) {unit : UnitStatus}
    (hactive : unit.reading.hasBeenActive = true) (units : List UnitStatus)
    (currentUnits : List String) (name : String) :
    Entry numCPU serviceName name
      ((Function.update s.serviceStatsMap unit.name (some (s.pointer unit.name)) name).map
        (settled (Function.update s.heap (s.pointer unit.name) (s.service serviceName unit.name))
          (Worker.writing (s.pointer unit.name)
            (assignments numCPU (s.service serviceName unit.name) unit.reading) units
            currentUnits).left))
      (readings name (.update unit :: s.ops)) := by
  by_cases hname : name = unit.name
  · subst hname
    rw [Function.update_self, Option.map_some, readings, if_pos ⟨rfl, hactive⟩, settled,
      Worker.left, if_pos rfl, Function.update_self]
    exact (h.entries unit.name).update hactive
  · rw [Function.update_of_ne hname, readings, if_neg fun hand => hname hand.1.symm]
    have hentry := h.entries name
    cases hp : s.serviceStatsMap name with
    | none =>
      rw [hp] at hentry
      exact hentry
    | some p =>
      have hne : p ≠ s.pointer unit.name := by
        rintro rfl
        exact hname ((h.pointers name _ hp).1.symm.trans (h.pointer_unit _))
      rw [hp] at hentry
      rw [Option.map_some, settled, Worker.left, if_neg hne, Function.update_of_ne hne]
      exact hentry

/-- **A unit that is read.**  Its entry is written to from here on, and no sample sees anything of
it yet. -/
theorem Served.begin (h : Served numCPU serviceName s fun _ => []) (unit : UnitStatus)
    (units : List UnitStatus) (currentUnits : List String) :
    Served numCPU serviceName (s.begin numCPU serviceName unit units currentUnits)
      (s.begin numCPU serviceName unit units currentUnits).worker.left := by
  have hsuffix (name : String) : readings name s.ops <:+ readings name (.update unit :: s.ops) :=
    readings_suffix_update unit name s.ops
  have hops : s.ops <:+ .update unit :: s.ops := List.suffix_cons _ _
  unfold State.begin
  by_cases hactive : unit.reading.hasBeenActive = true
  · rw [if_pos hactive]
    have hentry {name : String} {p : Pointer} (hp : Function.update s.serviceStatsMap unit.name
        (some (s.pointer unit.name)) name = some p) :
        p = s.pointer unit.name ∧ name = unit.name ∨ s.serviceStatsMap name = some p := by
      by_cases hname : name = unit.name
      · subst hname
        rw [Function.update_self] at hp
        exact .inl ⟨(Option.some.inj hp).symm, rfl⟩
      · rw [Function.update_of_ne hname] at hp
        exact .inr hp
    refine ⟨fun name p hp => ?_, h.entries_begin hactive units currentUnits, fun p d hd => ?_,
      fun sample hsample => ?_,
      fun sent hsent => (h.sent sent hsent).of_step (List.Subset.refl _) hops⟩
    · rcases hentry hp with ⟨rfl, rfl⟩ | hp
      · exact ⟨h.pointer_unit _, h.pointer_lt _⟩
      · exact ⟨(h.pointers name p hp).1, Nat.lt_succ_of_lt (h.pointers name p hp).2⟩
    · dsimp only [Worker.left] at hd
      split_ifs at hd with hp
      · subst hp
        dsimp only
        rw [h.pointer_unit, Function.update_self, settled, Worker.left, if_pos rfl,
          Function.update_self]
        exact ⟨rfl, Datum.ofField_foldl_assign (nodup_assignments unit.reading) hd _⟩
      · exact absurd hd List.not_mem_nil
    · refine (h.samples sample hsample).of_step hops fun name p hshares => ?_
      refine hshares.of_step (Nat.le_succ _) hops (State.update_pointer hshares.allocated)
        fun hp => ⟨?_, hsuffix name⟩
      rcases hentry hp with ⟨rfl, rfl⟩ | hp
      · exact State.pointer_of_lt hshares.allocated
      · exact hp
  · rw [if_neg hactive]
    have hreadings (name : String) : readings name (.update unit :: s.ops) = readings name s.ops :=
      if_neg fun hand => hactive hand.2
    refine ⟨h.pointers, fun name => ?_, fun p d hd => absurd hd List.not_mem_nil,
      fun sample hsample => ?_,
      fun sent hsent => (h.sent sent hsent).of_step (List.Subset.refl _) hops⟩
    · exact (hreadings name).symm ▸ h.entries name
    · exact (h.samples sample hsample).of_step hops fun name p hshares =>
        hshares.of_step le_rfl hops rfl fun hp => ⟨hp, hsuffix name⟩

/-- **An assignment.** -/
theorem Served.write {service : Pointer} {d : Datum} {ds : List Datum} {units : List UnitStatus}
    {currentUnits : List String}
    (h : Served numCPU serviceName s (Worker.writing service (d :: ds) units currentUnits).left) :
    Served numCPU serviceName
      { s with
        heap := Function.update s.heap service (d.assign (s.heap service))
        worker := .writing service ds units currentUnits }
      (Worker.writing service ds units currentUnits).left := by
  have hsettled : settled (Function.update s.heap service (d.assign (s.heap service)))
      (Worker.writing service ds units currentUnits).left =
        settled s.heap (Worker.writing service (d :: ds) units currentUnits).left := by
    funext p
    unfold settled Worker.left
    dsimp only
    by_cases hp : p = service
    · subst hp
      rw [if_pos rfl, if_pos rfl, Function.update_self, List.foldl_cons]
    · rw [if_neg hp, if_neg hp, Function.update_of_ne hp]
  have hd : d ∈ (Worker.writing service (d :: ds) units currentUnits).left service := by
    rw [Worker.left, if_pos rfl]
    exact List.mem_cons_self
  obtain ⟨hentry, hvalue⟩ := h.left service d hd
  refine ⟨h.pointers, fun unit => hsettled.symm ▸ h.entries unit, fun p e he => ?_,
    fun sample hsample => ?_, fun sent hsent =>
      (h.sent sent hsent).of_step (List.Subset.refl _) (List.suffix_refl _)⟩
  · rw [hsettled]
    refine h.left p e ?_
    unfold Worker.left at he ⊢
    dsimp only at he ⊢
    split_ifs at he ⊢ with hp
    · exact List.mem_cons_of_mem _ he
    · exact he
  · refine (h.samples sample hsample).of_step (List.suffix_refl _) fun unit p hshares => ?_
    refine { hshares with fields := fun f => ?_ }
    dsimp only
    by_cases hp : p = service
    · subst hp
      rw [Function.update_self]
      by_cases hf : f = d.field
      · -- what is written is what the service is to be, which is the version of this reading
        subst hf
        rw [hshares.own] at hentry
        have hlast := h.entries unit
        rw [hentry] at hlast
        refine ⟨_, ⟨s.ops, (h.samples sample hsample).taken, List.suffix_refl _,
          hshares.kept hentry, hlast⟩, ?_⟩
        rw [Datum.ofField_assign_self, hvalue]
      · rw [Datum.ofField_assign_of_ne _ hf]
        exact hshares.fields f
    · rw [Function.update_of_ne hp]
      exact hshares.fields f

/-- **The entries that are removed.** -/
theorem Served.prune (h : Served numCPU serviceName s fun _ => []) (currentUnits : List String) :
    Served numCPU serviceName
      { s with
        serviceStatsMap := fun unit => if unit ∈ currentUnits then s.serviceStatsMap unit else none
        worker := .pruned
        ops := .prune currentUnits :: s.ops
        unpublished := true }
      fun _ => [] := by
  have hops : s.ops <:+ .prune currentUnits :: s.ops := List.suffix_cons _ _
  have hentry {unit : String} {p : Pointer}
      (hp : (if unit ∈ currentUnits then s.serviceStatsMap unit else none) = some p) :
      s.serviceStatsMap unit = some p ∧
        readings unit s.ops <:+ readings unit (.prune currentUnits :: s.ops) := by
    rw [readings]
    split_ifs at hp ⊢
    exact ⟨hp, List.suffix_refl _⟩
  refine ⟨fun unit p hp => h.pointers unit p (hentry hp).1, fun unit => ?_,
    fun p d hd => absurd hd List.not_mem_nil, fun sample hsample => ?_,
    fun sent hsent => (h.sent sent hsent).of_step (List.Subset.refl _) hops⟩
  · dsimp only
    rw [readings]
    split_ifs
    · exact h.entries unit
    · exact (rfl : ([] : List Reading) = [])
  · exact (h.samples sample hsample).of_step hops fun unit p hshares =>
      hshares.of_step le_rfl hops rfl hentry

/-! ### The gatherings and what encodes their samples -/

/-- **The pointers that are copied**, while nothing is being written. -/
theorem Served.copy (h : Served numCPU serviceName s fun _ => []) :
    Served numCPU serviceName
      { s with
        samples := ⟨s.serviceStatsMap, s.ops⟩ :: s.samples
        unpublished := false
        gathering := .copied }
      fun _ => [] := by
  refine ⟨h.pointers, h.entries, h.left, List.forall_mem_cons.mpr ⟨?_, fun sample hsample => ?_⟩,
    fun sent hsent => (h.sent sent hsent).of_step (List.subset_cons_self _ _) (List.suffix_refl _)⟩
  · refine ⟨List.suffix_refl _, fun unit => ?_, fun unit p hentry => ?_⟩
    · rw [← (h.entries unit).eq_none_iff, Option.map_eq_none_iff]
    · have hcurrent := h.entries unit
      dsimp only at hentry
      rw [hentry] at hcurrent
      exact
        { own := (h.pointers unit p hentry).1
          allocated := (h.pointers unit p hentry).2
          kept := fun _ => List.suffix_refl _
          fields := fun f => ⟨s.heap p, ⟨s.ops, List.suffix_refl _, List.suffix_refl _,
            List.suffix_refl _, hcurrent⟩, rfl⟩ }
  · exact (h.samples sample hsample).of_step (List.suffix_refl _) fun _ _ hshares =>
      hshares.of_step le_rfl (List.suffix_refl _) rfl fun hp => ⟨hp, List.suffix_refl _⟩

/-- **A field that is sent.** -/
theorem Served.read {left : Pointer → List Datum} (h : Served numCPU serviceName s left)
    {sample : Sample} (hsample : sample ∈ s.samples) {unit : String} {p : Pointer}
    (hservice : sample.services unit = some p) (f : Field) :
    Served numCPU serviceName
      { s with sent := ⟨sample, unit, f, .ofField (s.heap p) f, s.ops⟩ :: s.sent } left := by
  refine ⟨h.pointers, h.entries, h.left, fun sample hsample => ?_,
    List.forall_mem_cons.mpr ⟨?_, fun sent hsent => ?_⟩⟩
  · exact (h.samples sample hsample).of_step (List.suffix_refl _) fun _ _ hshares =>
      hshares.of_step le_rfl (List.suffix_refl _) rfl fun hp => ⟨hp, List.suffix_refl _⟩
  · exact ⟨hsample, List.suffix_refl _,
      ((h.samples sample hsample).shares unit p hservice).fields f⟩
  · exact (h.sent sent hsent).of_step (List.Subset.refl _) (List.suffix_refl _)

/-! ### The run -/

theorem Inv.begin (h : Inv numCPU serviceName s)
    (hs : step numCPU serviceName s .begin = some s') : Inv numCPU serviceName s' := by
  dsimp only [step] at hs
  split at hs
  · cases hs
  · rename_i unit units currentUnits hworker hnot
    obtain rfl := Option.some.inj hs
    have hserved : Served numCPU serviceName s fun _ => [] := by
      have hleft := h.served
      rwa [hworker] at hleft
    refine ⟨hserved.begin unit units currentUnits, ?_, ?_⟩
    · unfold State.begin
      split_ifs <;> exact h.copied
    · have hflagged : s.unpublished = true → s.hasFreshStats = true := fun hunpublished =>
        (h.unpublished hunpublished).resolve_right fun hpruned =>
          Worker.noConfusion (hworker.symm.trans hpruned)
      unfold State.begin
      split_ifs <;> exact fun hunpublished => .inl (hflagged hunpublished)
  · cases hs

theorem Inv.write (h : Inv numCPU serviceName s)
    (hs : step numCPU serviceName s .write = some s') : Inv numCPU serviceName s' := by
  dsimp only [step] at hs
  split at hs
  · rename_i service d ds units currentUnits hworker
    obtain rfl := Option.some.inj hs
    have hserved := h.served
    rw [hworker] at hserved
    refine ⟨hserved.write, h.copied, fun hunpublished => .inl ?_⟩
    exact (h.unpublished hunpublished).resolve_right fun hpruned =>
      Worker.noConfusion (hworker.symm.trans hpruned)
  · cases hs

/-- The lock is free when a refresh ends, so no copy that is being taken has missed it. -/
theorem Inv.prune (h : Inv numCPU serviceName s)
    (hs : step numCPU serviceName s .prune = some s') : Inv numCPU serviceName s' := by
  dsimp only [step] at hs
  split at hs
  · cases hs
  · rename_i currentUnits hworker hnot
    obtain rfl := Option.some.inj hs
    have hserved : Served numCPU serviceName s fun _ => [] := by
      have hleft := h.served
      rwa [hworker] at hleft
    exact ⟨hserved.prune currentUnits, fun hcopied => absurd hcopied hnot, fun _ => .inr rfl⟩
  · cases hs

theorem Inv.copy (h : Inv numCPU serviceName s)
    (hs : step numCPU serviceName s .copy = some s') : Inv numCPU serviceName s' := by
  dsimp only [step] at hs
  split at hs
  · cases hs
  · rename_i hnot
    obtain rfl := Option.some.inj hs
    have hleft : s.worker.left = fun _ => [] := Worker.left_eq_nil hnot
    have hserved := h.served
    rw [hleft] at hserved
    refine ⟨?_, fun _ => rfl, fun hunpublished => absurd hunpublished Bool.false_ne_true⟩
    dsimp only
    rw [hleft]
    exact hserved.copy
  · cases hs

theorem Inv.read {i : ℕ} {unit : String} {f : Field} (h : Inv numCPU serviceName s)
    (hs : step numCPU serviceName s (.read i unit f) = some s') : Inv numCPU serviceName s' := by
  obtain ⟨sample, hsample, hs⟩ := Option.bind_eq_some_iff.mp hs
  obtain ⟨p, hservice, hs⟩ := Option.bind_eq_some_iff.mp hs
  obtain rfl := Option.some.inj hs
  exact ⟨h.served.read (List.mem_of_getElem? hsample) hservice f, h.copied, h.unpublished⟩

/-- What neither writes nor removes anything. -/
theorem Inv.of_served (h : Inv numCPU serviceName s) {hasFreshStats : Bool} {worker : Worker}
    {gathering : Gathering} (hleft : worker.left = s.worker.left)
    (hcopied : gathering = .copied → s.unpublished = false)
    (hunpublished : s.unpublished = true → hasFreshStats = true ∨ worker = .pruned) :
    Inv numCPU serviceName
      { s with hasFreshStats := hasFreshStats, worker := worker, gathering := gathering } := by
  refine ⟨?_, hcopied, hunpublished⟩
  dsimp only
  rw [hleft]
  refine ⟨h.served.pointers, h.served.entries, h.served.left, fun sample hsample => ?_,
    fun sent hsent =>
      (h.served.sent sent hsent).of_step (List.Subset.refl _) (List.suffix_refl _)⟩
  exact (h.served.samples sample hsample).of_step (List.suffix_refl _) fun _ _ hshares =>
    hshares.of_step le_rfl (List.suffix_refl _) rfl fun hp => ⟨hp, List.suffix_refl _⟩

theorem Inv.step {e : Event} (h : Inv numCPU serviceName s)
    (hs : step numCPU serviceName s e = some s') : Inv numCPU serviceName s' := by
  cases e with
  | begin => exact h.begin hs
  | write => exact h.write hs
  | prune => exact h.prune hs
  | copy => exact h.copy hs
  | read i unit f => exact h.read hs
  | list units =>
    dsimp only [ServiceRefresh.step] at hs
    split at hs
    · rename_i hworker
      obtain rfl := Option.some.inj hs
      refine h.of_served ?_ h.copied fun hunpublished => .inl ?_
      · rw [hworker]
        rfl
      · exact (h.unpublished hunpublished).resolve_right fun hpruned =>
          Worker.noConfusion (hworker.symm.trans hpruned)
    · cases hs
  | unlock =>
    dsimp only [ServiceRefresh.step] at hs
    split at hs
    · rename_i service units currentUnits hworker
      obtain rfl := Option.some.inj hs
      refine h.of_served ?_ h.copied fun hunpublished => .inl ?_
      · rw [hworker]
        funext p
        exact (ite_self _).symm
      · exact (h.unpublished hunpublished).resolve_right fun hpruned =>
          Worker.noConfusion (hworker.symm.trans hpruned)
    · cases hs
  | flag =>
    dsimp only [ServiceRefresh.step] at hs
    split at hs
    · rename_i hworker
      obtain rfl := Option.some.inj hs
      refine h.of_served ?_ h.copied fun _ => .inl rfl
      rw [hworker]
      rfl
    · cases hs
  | check =>
    dsimp only [ServiceRefresh.step] at hs
    split at hs
    · obtain rfl := Option.some.inj hs
      refine h.of_served rfl (fun hcopied => ?_) h.unpublished
      split_ifs at hcopied
    · cases hs
  | release =>
    dsimp only [ServiceRefresh.step] at hs
    split at hs
    · rename_i hcopied
      obtain rfl := Option.some.inj hs
      refine h.of_served rfl (fun hidle => Gathering.noConfusion hidle) fun hunpublished => ?_
      exact absurd hunpublished (Bool.eq_false_iff.mp (h.copied hcopied))
    · cases hs

theorem inv_init : Inv numCPU serviceName .init where
  served :=
    { pointers := fun _ _ h => absurd h.symm (Option.some_ne_none _)
      entries := fun _ => (rfl : ([] : List Reading) = [])
      left := fun _ _ h => absurd h List.not_mem_nil
      samples := fun _ h => absurd h List.not_mem_nil
      sent := fun _ h => absurd h List.not_mem_nil }
  copied h := Gathering.noConfusion h
  unpublished h := absurd h Bool.false_ne_true

/-- **What is sent of the services.**  In every interleaving of the worker, the gatherings and what
encodes their samples, a refresh that ended and is in no sample is flagged, or is about to be, so
that a gathering finds it.  A sample has the units that were active since they were last missing
from a listing.  Each field that is sent of one of them is that of its service after all readings up
to the sample, or up to some later moment at which it was still listed; two fields need not be of
the same one, since the service is written to while it is sent. -/
theorem services_published {events : List Event}
    (h : run (step numCPU serviceName) .init events = some s) :
    (s.unpublished = true → s.hasFreshStats = true ∨ s.worker = .pruned) ∧
      (∀ sample ∈ s.samples, sample.ops <:+ s.ops ∧
        ∀ unit, sample.services unit = none ↔ readings unit sample.ops = []) ∧
      ∀ sent ∈ s.sent, sent.sample ∈ s.samples ∧ sent.ops <:+ s.ops ∧
        ∃ service, Version numCPU serviceName sent.unit sent.sample.ops sent.ops service ∧
          sent.datum = .ofField service sent.field :=
  have hinv : Inv numCPU serviceName s := inv_of_run Inv.step inv_init h
  ⟨hinv.unpublished,
    fun sample hsample =>
      ⟨(hinv.served.samples sample hsample).taken, (hinv.served.samples sample hsample).listed⟩,
    fun sent hsent =>
      ⟨(hinv.served.sent sent hsent).sample, (hinv.served.sent sent hsent).ops,
        (hinv.served.sent sent hsent).version⟩⟩

/-- nginx is listed twice; the first refresh is in a sample, and is being sent when the second one
has written that the service failed, and not yet that it has no memory any more. -/
def sentWhileWritten : List Event :=
  let failed : Reading := { readingAt 600000000000 0 (some 3) with activeState := "failed" }
  [.list [⟨"nginx.service", readingAt 0 8192 (some 1)⟩], .begin] ++ List.replicate 7 .write ++
    [.unlock, .prune, .flag, .check, .copy, .release, .list [⟨"nginx.service", failed⟩], .begin,
      .write, .read 0 "nginx.service" .state, .read 0 "nginx.service" .mem] ++
    List.replicate 5 .write ++ [.unlock, .prune]

/-- The state is that of the second reading, the memory still that of the first. -/
theorem services_published_whileWritten :
    ∃ s, run (step 4 id) .init sentWhileWritten = some s ∧
      s.sent.map (·.datum) = [.mem 8192, .state .failed] ∧
      (s.unpublished = true ∧ (s.hasFreshStats = true ∨ s.worker = .pruned)) ∧
      (∀ sample ∈ s.samples, sample.ops <:+ s.ops ∧
        ∀ unit, sample.services unit = none ↔ readings unit sample.ops = []) ∧
      ∀ sent ∈ s.sent, sent.sample ∈ s.samples ∧ sent.ops <:+ s.ops ∧
        ∃ service, Version 4 id sent.unit sent.sample.ops sent.ops service ∧
          sent.datum = .ofField service sent.field := by
  obtain ⟨s, hs, hdata⟩ := Option.map_eq_some_iff.mp (by decide +kernel :
    (run (step 4 id) .init sentWhileWritten).map (fun s => (s.sent.map (·.datum), s.unpublished)) =
      some ([.mem 8192, .state .failed], true))
  obtain ⟨hsent, hunpublished⟩ := Prod.mk.inj hdata
  obtain ⟨hflagged, hpublished⟩ := services_published hs
  exact ⟨s, hs, hsent, ⟨hunpublished, hflagged hunpublished⟩, hpublished⟩

end Runs

end ServiceRefresh

end Agent

end Beszel
