import Beszel.Hub.Record
import Beszel.Machinery.Run
import Mathlib.Data.Int.Order.Basic
import Mathlib.Data.List.Basic
import Mathlib.Order.Basic

/-!
# Hub/Records — the statistics records are rolled up, and old ones deleted

    1m ──9 in 10 min──▸ 10m ──2 in 20 min──▸ 20m ──6 in 2 h──▸ 120m ──4 in 8 h──▸ 480m

`CreateLongerRecords` runs every ten minutes: for every system that is up, every longer type and
both collections it averages the shorter records of the last period into one longer record.  It
reads the clock anew for every system and type, and the longer records of one type are the shorter
ones of the next, made in the same run.  `deleteOldSystemStats` deletes what is older than the
retention of its type.

Both work in a transaction, so nothing else is written while one of them runs; but time passes
between any two of their steps.  Times are milliseconds, the precision of the stored dates.
-/

namespace Beszel

open Machinery

namespace Records

/-! ## The tables of the source -/

/-- The values of a statistics record's `type`. -/
inductive RecordType
  | m1
  | m10
  | m20
  | m120
  | m480
  deriving DecidableEq, Repr

/-- The two collections that are rolled up. -/
inductive Collection
  | systemStats
  | containerStats
  deriving DecidableEq, Repr

/-- A minute. -/
def minute : ℤ := 60000

/-- An hour. -/
def hour : ℤ := 60 * minute

/-- What is rolled up into what; the duration is negative, as it is added to the clock. -/
structure LongerRecordData where
  shorterType : RecordType
  minShorterRecords : ℕ
  longerType : RecordType
  longerTimeDuration : ℤ
  deriving DecidableEq

/-- `longerRecordData`. -/
def longerRecordData : List LongerRecordData :=
  [⟨.m1, 9, .m10, -10 * minute⟩, ⟨.m10, 2, .m20, -20 * minute⟩, ⟨.m20, 6, .m120, -120 * minute⟩,
    ⟨.m120, 4, .m480, -480 * minute⟩]

/-- A row of `longerRecordData`. -/
abbrev Period := { d : LongerRecordData // d ∈ longerRecordData }

/-- The retention periods of `deleteOldSystemStats`. -/
def retention : RecordType → ℤ
  | .m1 => hour
  | .m10 => 12 * hour
  | .m20 => 24 * hour
  | .m120 => 7 * 24 * hour
  | .m480 => 30 * 24 * hour

namespace Period

/-- Nothing is rolled up into its own type. -/
theorem shorterType_ne_longerType (d : Period) : d.1.shorterType ≠ d.1.longerType := by
  have h : ∀ d ∈ longerRecordData, d.shorterType ≠ d.longerType := by decide
  exact h d.1 d.2

/-- **The shorter records of a period are kept for longer than the period.** -/
theorem retention_shorterType (d : Period) :
    -retention d.1.shorterType ≤ d.1.longerTimeDuration := by
  have h : ∀ d ∈ longerRecordData, -retention d.shorterType ≤ d.longerTimeDuration := by decide
  exact h d.1 d.2

/-- **So is the longer record itself**, by the period less the minute of padding. -/
theorem retention_longerType (d : Period) :
    -retention d.1.longerType ≤ d.1.longerTimeDuration + minute := by
  have h : ∀ d ∈ longerRecordData,
    -retention d.longerType ≤ d.longerTimeDuration + minute := by decide
  exact h d.1 d.2

end Period

/-! ## The stored records -/

variable {α : Type*}

/-- A record of one of the two collections; `α` is the type of its statistics. -/
structure StatsRecord (α : Type*) where
  id : ℕ
  collection : Collection
  system : SystemId
  type : RecordType
  created : ℤ
  stats : α
  deriving DecidableEq

/-- The clock and the stored records.  `created` is filled from the clock when a record is saved, so
no record is dated after it. -/
structure Db (α : Type*) where
  now : ℤ
  nextId : ℕ
  records : List (StatsRecord α)
  dated : ∀ r ∈ records, r.created ≤ now

namespace Db

/-- Time passes. -/
def tick (db : Db α) (ms : ℕ) : Db α where
  now := db.now + ms
  nextId := db.nextId
  records := db.records
  dated r hr := (db.dated r hr).trans (by omega)

/-- The record that is saved, dated `lag` before the transaction that saves it is committed. -/
def newRecord (db : Db α) (collection : Collection) (system : SystemId) (type : RecordType)
    (stats : α) (lag : ℕ) : StatsRecord α :=
  ⟨db.nextId, collection, system, type, db.now - lag, stats⟩

/-- A record is saved. -/
def insert (db : Db α) (collection : Collection) (system : SystemId) (type : RecordType)
    (stats : α) (lag : ℕ) : Db α where
  now := db.now
  nextId := db.nextId + 1
  records := db.records ++ [db.newRecord collection system type stats lag]
  dated r hr := by
    obtain hr | hr := List.mem_append.mp hr
    · exact db.dated r hr
    · obtain rfl := List.mem_singleton.mp hr
      simp only [newRecord]
      omega

/-- Not yet older than the retention of its type, for a clock that reads `reading`. -/
def recent (reading : ℤ) (r : StatsRecord α) : Bool := reading - retention r.type ≤ r.created

/-- `deleteOldSystemStats`, whose clock was read `lag` before. -/
def deleteOld (db : Db α) (lag : ℕ) : Db α where
  now := db.now
  nextId := db.nextId
  records := db.records.filter (recent (db.now - lag))
  dated r hr := db.dated r (List.mem_of_mem_filter hr)

end Db

/-- The two queries of `CreateLongerRecords`: one counts what it finds, one reads it. -/
def select (records : List (StatsRecord α)) (collection : Collection) (system : SystemId)
    (type : RecordType) (after : ℤ) : List (StatsRecord α) :=
  records.filter fun r =>
    r.collection = collection ∧ r.system = system ∧ r.type = type ∧ after < r.created

theorem mem_select {records : List (StatsRecord α)} {collection : Collection} {system : SystemId}
    {type : RecordType} {after : ℤ} {r : StatsRecord α} :
    r ∈ select records collection system type after ↔ r ∈ records ∧ r.collection = collection ∧
      r.system = system ∧ r.type = type ∧ after < r.created := by
  simp [select]

/-! ## The machine -/

/-- What `CreateLongerRecords` is at: a system, a row of the table, the bounds it computed from the
clock, and the collections it has not looked at.  `started` is when its run started. -/
structure Evaluation where
  started : ℤ
  system : SystemId
  data : Period
  longerRecordPeriod : ℤ
  shorterRecordPeriod : ℤ
  collection : Collection
  rest : List Collection

/-- The time that was evaluated. -/
def Evaluation.time (e : Evaluation) : ℤ := e.shorterRecordPeriod - e.data.1.longerTimeDuration

/-- A longer record that was created: its row of the table, when its run started, the time that was
evaluated for it and the records it averages. -/
structure RollUp (α : Type*) where
  record : StatsRecord α
  data : Period
  started : ℤ
  evaluated : ℤ
  inputs : List (StatsRecord α)
  deriving DecidableEq

/-- Longer records of the same system, collection and type. -/
def RollUp.SameSeries (x y : RollUp α) : Prop :=
  x.record.system = y.record.system ∧ x.record.collection = y.record.collection ∧
    x.record.type = y.record.type

instance (x y : RollUp α) : Decidable (x.SameSeries y) := inferInstanceAs (Decidable (_ ∧ _ ∧ _))

/-- `todo` has the systems and rows of the running `CreateLongerRecords`, `log` the longer records
created so far, newest first, and `lastStart` when the last run started. -/
structure State (α : Type*) where
  db : Db α
  todo : List (SystemId × Period)
  current : Option Evaluation
  log : List (RollUp α)
  lastStart : Option ℤ

/-- Nothing runs, and nothing was created yet. -/
def State.start (db : Db α) : State α := ⟨db, [], none, [], none⟩

/-- No transaction is open. -/
def State.idle (s : State α) : Prop := s.todo = [] ∧ s.current.isNone

instance (s : State α) : Decidable s.idle := inferInstanceAs (Decidable (_ ∧ _))

/-- What can happen.  `evaluate` reads the clock twice, with `gap` between; `ok` tells whether the
queries and the save of a collection succeed; `store` saves the 1m record of a collection. -/
inductive Event (α : Type*)
  | tick (ms : ℕ)
  | createLongerRecords (systems : List SystemId)
  | evaluate (gap : ℕ)
  | collection (ok : Bool)
  | store (collection : Collection) (system : SystemId) (stats : α) (lag : ℕ)
  | deleteOldSystemStats (lag : ℕ)

/-- The longer record is not made when there is one already; 10m records are made in every run. -/
def longerExists (s : State α) (e : Evaluation) : Bool :=
  e.data.1.longerType ≠ .m10 ∧ 0 < (select s.db.records e.collection e.system e.data.1.longerType
    e.longerRecordPeriod).length

/-- The shorter records of the period. -/
def shorterRecords (s : State α) (e : Evaluation) : List (StatsRecord α) :=
  select s.db.records e.collection e.system e.data.1.shorterType e.shorterRecordPeriod

/-- The evaluation makes a longer record. -/
def due (s : State α) (e : Evaluation) : Prop :=
  longerExists s e = false ∧ e.data.1.minShorterRecords ≤ (shorterRecords s e).length

instance (s : State α) (e : Evaluation) : Decidable (due s e) :=
  inferInstanceAs (Decidable (_ ∧ _))

section Step

variable (average : Collection → List α → α)

/-- The longer record of an evaluation. -/
def rollUp (s : State α) (e : Evaluation) : RollUp α where
  record := s.db.newRecord e.collection e.system e.data.1.longerType
    (average e.collection ((shorterRecords s e).map (·.stats))) 0
  data := e.data
  started := e.started
  evaluated := e.time
  inputs := shorterRecords s e

/-- …and what saving it does. -/
def saveRollUp (s : State α) (e : Evaluation) : State α :=
  { s with
    db := s.db.insert e.collection e.system e.data.1.longerType
      (average e.collection ((shorterRecords s e).map (·.stats))) 0
    log := rollUp average s e :: s.log }

/-- The next collection of an evaluation, if there is one. -/
def Evaluation.next (e : Evaluation) : Option Evaluation :=
  match e.rest with
  | [] => none
  | c :: rest => some { e with collection := c, rest := rest }

/-- It is evaluated with the same bounds. -/
theorem Evaluation.exists_of_next {e e' : Evaluation} (h : e' ∈ e.next) :
    ∃ collection rest, e' = { e with collection, rest } := by
  unfold Evaluation.next at h
  split at h
  · exact absurd h (by simp)
  · exact ⟨_, _, (Option.some.inj h).symm⟩

/-- The bounds, computed from the clock, and the first of the two collections. -/
def State.evaluation (s : State α) (system : SystemId) (data : Period) (gap : ℕ) : Evaluation where
  started := s.lastStart.getD s.db.now
  system := system
  data := data
  longerRecordPeriod := s.db.now + (data.1.longerTimeDuration + minute)
  shorterRecordPeriod := s.db.now + gap + data.1.longerTimeDuration
  collection := .systemStats
  rest := [.containerStats]

/-- **One step.** -/
def step (s : State α) : Event α → Option (State α)
  | .tick ms => some { s with db := s.db.tick ms }
  | .createLongerRecords systems =>
    if s.idle then
      some { s with
        todo := systems.flatMap fun system => longerRecordData.attach.map (system, ·)
        lastStart := some s.db.now }
    else none
  | .evaluate gap =>
    match s.todo, s.current with
    | (system, data) :: todo, none =>
      some { s with
        db := s.db.tick gap
        todo := todo
        current := some (s.evaluation system data gap) }
    | _, _ => none
  | .collection ok =>
    match s.current with
    | none => none
    | some e =>
      some { (if ok ∧ due s e then saveRollUp average s e else s) with current := e.next }
  | .store collection system stats lag =>
    if s.idle then some { s with db := s.db.insert collection system .m1 stats lag } else none
  | .deleteOldSystemStats lag =>
    if s.idle then some { s with db := s.db.deleteOld lag } else none

end Step

/-! ## What a run of the machine keeps -/

/-- **What a longer record is**: the average of at least the required number of shorter records of
its system and collection, all created within one period before the evaluated time. -/
structure RollUp.Averages (average : Collection → List α → α) (x : RollUp α) : Prop where
  type : x.record.type = x.data.1.longerType
  min_le : x.data.1.minShorterRecords ≤ x.inputs.length
  stats : x.record.stats = average x.record.collection (x.inputs.map (·.stats))
  input : ∀ r ∈ x.inputs, r.collection = x.record.collection ∧ r.system = x.record.system ∧
    r.type = x.data.1.shorterType
  window : ∀ r ∈ x.inputs, x.evaluated + x.data.1.longerTimeDuration < r.created ∧
    r.created ≤ x.evaluated
  evaluated_le : x.evaluated ≤ x.record.created

/-- **How far a longer record is from an older one of its series**: a period less a minute, but for
the 10m records. -/
def RollUp.Spaced (new old : RollUp α) : Prop :=
  new.SameSeries old → new.record.type ≠ .m10 →
    old.record.created - new.data.1.longerTimeDuration - minute ≤ new.record.created

/-- **The invariant.**  An evaluation's bounds are those of a clock that was read before, and no
shorter record was made since; a longer record that was created is still stored, or out of every
period that is still looked at. -/
structure Inv (average : Collection → List α → α) (s : State α) : Prop where
  longer_le : ∀ e ∈ s.current,
    e.longerRecordPeriod ≤ s.db.now + (e.data.1.longerTimeDuration + minute)
  time_le : ∀ e ∈ s.current, e.time ≤ s.db.now
  shorter_le : ∀ e ∈ s.current, ∀ r ∈ s.db.records, r.type = e.data.1.shorterType →
    r.created ≤ e.time
  kept : ∀ x ∈ s.log, x.record ∈ s.db.records ∨
    x.record.created < s.db.now - retention x.record.type
  averages : ∀ x ∈ s.log, x.Averages average
  spaced : s.log.Pairwise RollUp.Spaced

namespace Inv

variable {average : Collection → List α → α} {s : State α}

theorem start (db : Db α) : Inv average (.start db) where
  longer_le e he := absurd he (by simp [State.start])
  time_le e he := absurd he (by simp [State.start])
  shorter_le e he := absurd he (by simp [State.start])
  kept x hx := absurd hx (by simp [State.start])
  averages x hx := absurd hx (by simp [State.start])
  spaced := .nil

theorem tick (h : Inv average s) (ms : ℕ) : Inv average { s with db := s.db.tick ms } where
  longer_le e he := (h.longer_le e he).trans (by simp only [Db.tick]; omega)
  time_le e he := (h.time_le e he).trans (by simp only [Db.tick]; omega)
  shorter_le e he r hr := h.shorter_le e he r hr
  kept x hx := by
    refine (h.kept x hx).imp_right fun hlt => hlt.trans_le ?_
    simp only [Db.tick]
    omega
  averages := h.averages
  spaced := h.spaced

/-- The bounds are computed from a clock that no stored record is ahead of. -/
theorem evaluate (h : Inv average s) (system : SystemId) (data : Period) (gap : ℕ)
    (todo : List (SystemId × Period)) :
    Inv average { s with
      db := s.db.tick gap, todo := todo, current := some (s.evaluation system data gap) } where
  longer_le e he := by
    obtain rfl := Option.some.inj he
    simp only [State.evaluation, Db.tick]
    omega
  time_le e he := by
    obtain rfl := Option.some.inj he
    simp only [State.evaluation, Evaluation.time, Db.tick]
    omega
  shorter_le e he r hr _ := by
    obtain rfl := Option.some.inj he
    have hdated : r.created ≤ s.db.now := s.db.dated r hr
    simp only [State.evaluation, Evaluation.time]
    omega
  kept := (h.tick gap).kept
  averages := h.averages
  spaced := h.spaced

/-- The next collection is looked at with the same bounds. -/
theorem next {e : Evaluation} (h : Inv average { s with current := some e }) :
    Inv average { s with current := e.next } := by
  refine ⟨fun e' he' => ?_, fun e' he' => ?_, fun e' he' => ?_, h.kept, h.averages, h.spaced⟩
  all_goals obtain ⟨collection, rest, rfl⟩ := Evaluation.exists_of_next he'
  · exact h.longer_le e rfl
  · exact h.time_le e rfl
  · exact h.shorter_le e rfl

/-- A record is saved while nothing is evaluated. -/
theorem insert (h : Inv average s) (hidle : s.idle) (collection : Collection) (system : SystemId)
    (type : RecordType) (stats : α) (lag : ℕ) :
    Inv average { s with db := s.db.insert collection system type stats lag } := by
  have hcurrent : s.current = none := Option.isNone_iff_eq_none.mp hidle.2
  refine ⟨h.longer_le, h.time_le, fun e he => ?_, fun x hx => ?_, h.averages, h.spaced⟩
  · exact absurd (hcurrent.symm.trans he) (by simp)
  · exact (h.kept x hx).imp_left fun hx => List.mem_append_left _ hx

/-- What is deleted is out of every period that is still looked at. -/
theorem deleteOld (h : Inv average s) (lag : ℕ) :
    Inv average { s with db := s.db.deleteOld lag } := by
  refine ⟨h.longer_le, h.time_le, fun e he r hr => ?_, fun x hx => ?_, h.averages, h.spaced⟩
  · exact h.shorter_le e he r (List.mem_of_mem_filter hr)
  · obtain hstored | hold := h.kept x hx
    · by_cases hrecent : Db.recent (s.db.now - lag) x.record
      · exact .inl (List.mem_filter.mpr ⟨hstored, hrecent⟩)
      · right
        simp only [Db.recent, decide_eq_true_eq] at hrecent
        simp only [Db.deleteOld]
        omega
    · exact .inr hold

/-- The longer record an evaluation makes averages what it should. -/
theorem averages_rollUp {e : Evaluation} (h : Inv average s) (he : s.current = some e)
    (hdue : due s e) : (rollUp average s e).Averages average where
  type := rfl
  min_le := hdue.2
  stats := rfl
  input r hr := by
    obtain ⟨-, hcollection, hsystem, htype, -⟩ := mem_select.mp hr
    exact ⟨hcollection, hsystem, htype⟩
  window r hr := by
    obtain ⟨hstored, -, -, htype, hafter⟩ := mem_select.mp hr
    have hle : r.created ≤ e.time := h.shorter_le e he r hstored htype
    refine ⟨?_, hle⟩
    simp only [rollUp, Evaluation.time]
    omega
  evaluated_le := by
    have hle := h.time_le e he
    simp only [rollUp, Db.newRecord]
    omega

/-- **No older record of the series is within a period less a minute**: a stored one would have been
found, and one that was deleted is older than that. -/
theorem spaced_rollUp {e : Evaluation} (h : Inv average s) (he : s.current = some e)
    (hdue : due s e) : ∀ x ∈ s.log, (rollUp average s e).Spaced x := by
  rintro x hx ⟨hsystem, hcollection, htype⟩ hm10
  have hlonger := h.longer_le e he
  have hbound : x.record.created ≤ s.db.now + (e.data.1.longerTimeDuration + minute) := by
    obtain hstored | hold := h.kept x hx
    · by_contra hlate
      have hfound : x.record ∈ select s.db.records e.collection e.system e.data.1.longerType
          e.longerRecordPeriod :=
        mem_select.mpr ⟨hstored, hcollection.symm, hsystem.symm, htype.symm, by omega⟩
      have hnone := hdue.1
      simp only [longerExists, decide_eq_false_iff_not, not_and, not_lt, Nat.le_zero,
        List.length_eq_zero_iff] at hnone
      rw [hnone hm10] at hfound
      exact List.not_mem_nil hfound
    · have hretention := e.data.retention_longerType
      rw [← htype] at hold
      simp only [rollUp, Db.newRecord] at hold
      omega
  simp only [rollUp, Db.newRecord]
  omega

/-- **A longer record is saved.** -/
theorem saveRollUp {e : Evaluation} (h : Inv average s) (he : s.current = some e)
    (hdue : due s e) : Inv average (saveRollUp average s e) := by
  refine ⟨h.longer_le, h.time_le, fun e' he' r hr htype => ?_, fun x hx => ?_, fun x hx => ?_,
    List.pairwise_cons.mpr ⟨h.spaced_rollUp he hdue, h.spaced⟩⟩
  · obtain rfl : e = e' := Option.some.inj (he.symm.trans he')
    obtain hr | hr := List.mem_append.mp hr
    · exact h.shorter_le e he r hr htype
    · obtain rfl := List.mem_singleton.mp hr
      exact absurd htype.symm e.data.shorterType_ne_longerType
  · obtain rfl | hx := List.mem_cons.mp hx
    · exact .inl (List.mem_append_right _ (List.mem_singleton.mpr rfl))
    · exact (h.kept x hx).imp_left fun hx => List.mem_append_left _ hx
  · obtain rfl | hx := List.mem_cons.mp hx
    · exact h.averages_rollUp he hdue
    · exact h.averages x hx

/-- **Every step keeps the invariant.** -/
theorem step {t : State α} {e : Event α} (h : Inv average s)
    (hstep : step average s e = some t) : Inv average t := by
  cases e with
  | tick ms =>
    obtain rfl := Option.some.inj hstep
    exact h.tick ms
  | createLongerRecords systems =>
    obtain ⟨-, rfl⟩ := guard_eq_some hstep
    exact ⟨h.longer_le, h.time_le, h.shorter_le, h.kept, h.averages, h.spaced⟩
  | evaluate gap =>
    simp only [Records.step] at hstep
    split at hstep
    · obtain rfl := Option.some.inj hstep
      exact h.evaluate _ _ gap _
    · exact absurd hstep (by simp)
  | collection ok =>
    simp only [Records.step] at hstep
    split at hstep
    · exact absurd hstep (by simp)
    · next e he =>
      obtain rfl := Option.some.inj hstep
      split
      · next hdue =>
        have hsave := h.saveRollUp he hdue.2
        refine next (s := Records.saveRollUp average s e) ?_
        rwa [← he]
      · refine next ?_
        rwa [← he]
  | store collection system stats lag =>
    obtain ⟨hidle, rfl⟩ := guard_eq_some hstep
    exact h.insert hidle collection system .m1 stats lag
  | deleteOldSystemStats lag =>
    obtain ⟨-, rfl⟩ := guard_eq_some hstep
    exact h.deleteOld lag

end Inv

variable {average : Collection → List α → α}

/-- Nine 1m records of a system, one a minute, and a 10m record from before. -/
def exampleDb : Db Unit where
  now := 0
  nextId := 10
  records := ⟨9, .systemStats, "a", .m10, -10 * minute, ()⟩ ::
    (List.range 9).map fun i => ⟨i, .systemStats, "a", .m1, -i * minute, ()⟩
  dated := by decide

/-- A run for the system, with a delay before each type. -/
def exampleRun (delays : List ℕ) : List (Event Unit) :=
  .createLongerRecords ["a"] :: delays.flatMap fun ms =>
    [.tick ms, .evaluate 0, .collection true, .collection true]

/-- A run at midnight and one twenty minutes later, with 1m records stored in between; each type of
the first run is `ms` late. -/
def exampleEvents (ms : ℕ) : List (Event Unit) :=
  exampleRun [ms, ms, 0, 0] ++ [.tick (660000 - 2 * ms)] ++
    (List.replicate 9 [.store .systemStats "a" () 0, .tick 60000]).flatten ++
    exampleRun [0, 0, 0, 0]

/-- **Roll-ups are spaced, and average what they should** — for any stored content, any order of
runs and deletions and any delays, two longer records of a series other than the 10m ones are a
period less a minute apart, and every longer record averages enough records of its period. -/
theorem rollUps_spaced {db : Db α} {es : List (Event α)} {t : State α}
    (ht : run (step average) (.start db) es = some t) :
    t.log.Pairwise RollUp.Spaced ∧ ∀ x ∈ t.log, x.Averages average := by
  have h : Inv average t := inv_of_run Inv.step (Inv.start db) ht
  exact ⟨h.spaced, h.averages⟩

/-- In the example four longer records are made, two of them 20m records. -/
theorem rollUps_spaced_example :
    ∃ t, run (step fun _ _ => ()) (.start exampleDb) (exampleEvents 10000) = some t ∧
      t.log.map (·.record.type) = [.m20, .m10, .m20, .m10] ∧
      t.log.Pairwise RollUp.Spaced ∧ ∀ x ∈ t.log, x.Averages fun _ _ => () := by
  have hlog : (run (step fun _ _ => ()) (.start exampleDb) (exampleEvents 10000)).map
      (fun t => t.log.map (·.record.type)) = some [.m20, .m10, .m20, .m10] := by
    decide +kernel
  obtain ⟨t, ht, htypes⟩ := Option.map_eq_some_iff.mp hlog
  exact ⟨t, ht, htypes, rollUps_spaced ht⟩

/-! ## Deletions -/

/-- The records that are still looked at are the same in both states, and so is all else: `horizon`
is a reading of the clock before those of the evaluation. -/
structure Agree (s t : State α) (horizon : ℤ) : Prop where
  now : s.db.now = t.db.now
  nextId : s.db.nextId = t.db.nextId
  records : s.db.records.filter (Db.recent horizon) = t.db.records.filter (Db.recent horizon)
  todo : s.todo = t.todo
  current : s.current = t.current
  log : s.log = t.log
  lastStart : s.lastStart = t.lastStart
  horizon_le : horizon ≤ s.db.now
  longer_le : ∀ e ∈ s.current,
    horizon + (e.data.1.longerTimeDuration + minute) ≤ e.longerRecordPeriod
  shorter_le : ∀ e ∈ s.current, horizon + e.data.1.longerTimeDuration ≤ e.shorterRecordPeriod

/-- **A query that reaches no further back than the retention of its type does not see what was
deleted.** -/
theorem select_filter_recent (records : List (StatsRecord α)) (collection : Collection)
    (system : SystemId) {type : RecordType} {after horizon : ℤ}
    (h : horizon - retention type ≤ after) :
    select (records.filter (Db.recent horizon)) collection system type after =
      select records collection system type after := by
  rw [select, select, List.filter_filter]
  refine List.filter_congr fun r _ => ?_
  simp only [Db.recent, Bool.and_eq_left_iff_imp, decide_eq_true_eq]
  rintro ⟨-, -, rfl, hafter⟩
  omega

/-- Deleting by an older clock first changes nothing. -/
theorem filter_recent_recent (records : List (StatsRecord α)) {old new : ℤ} (h : old ≤ new) :
    (records.filter (Db.recent old)).filter (Db.recent new) = records.filter (Db.recent new) := by
  rw [List.filter_filter]
  refine List.filter_congr fun r _ => ?_
  simp only [Db.recent, Bool.and_eq_left_iff_imp, decide_eq_true_eq]
  omega

namespace Agree

variable {s t : State α} {horizon : ℤ}

theorem start (db : Db α) : Agree (.start db) (.start db) db.now where
  now := rfl
  nextId := rfl
  records := rfl
  todo := rfl
  current := rfl
  log := rfl
  lastStart := rfl
  horizon_le := le_rfl
  longer_le e he := absurd he (by simp [State.start])
  shorter_le e he := absurd he (by simp [State.start])

theorem select_eq (h : Agree s t horizon) (collection : Collection) (system : SystemId)
    {type : RecordType} {after : ℤ} (hafter : horizon - retention type ≤ after) :
    select s.db.records collection system type after =
      select t.db.records collection system type after := by
  rw [← select_filter_recent _ _ _ hafter, h.records, select_filter_recent _ _ _ hafter]

/-- The averaged records are the same. -/
theorem shorterRecords_eq (h : Agree s t horizon) {e : Evaluation} (he : e ∈ s.current) :
    shorterRecords s e = shorterRecords t e := by
  have hreach := h.shorter_le e he
  have hretention := e.data.retention_shorterType
  exact h.select_eq _ _ (by omega)

/-- The existing longer records are the same. -/
theorem longerExists_eq (h : Agree s t horizon) {e : Evaluation} (he : e ∈ s.current) :
    longerExists s e = longerExists t e := by
  have hreach := h.longer_le e he
  have hretention := e.data.retention_longerType
  rw [longerExists, longerExists, h.select_eq _ _ (by omega)]

theorem due_iff (h : Agree s t horizon) {e : Evaluation} (he : e ∈ s.current) :
    due s e ↔ due t e := by
  rw [due, due, h.longerExists_eq he, h.shorterRecords_eq he]

theorem newRecord_eq (h : Agree s t horizon) (collection : Collection) (system : SystemId)
    (type : RecordType) (stats : α) (lag : ℕ) :
    s.db.newRecord collection system type stats lag =
      t.db.newRecord collection system type stats lag := by
  rw [Db.newRecord, Db.newRecord, h.now, h.nextId]

theorem tick (h : Agree s t horizon) (ms : ℕ) :
    Agree { s with db := s.db.tick ms } { t with db := t.db.tick ms } horizon where
  now := by simp only [Db.tick, h.now]
  nextId := h.nextId
  records := h.records
  todo := h.todo
  current := h.current
  log := h.log
  lastStart := h.lastStart
  horizon_le := h.horizon_le.trans (by simp only [Db.tick]; omega)
  longer_le := h.longer_le
  shorter_le := h.shorter_le

/-- The same record is saved in both states. -/
theorem insert (h : Agree s t horizon) (collection : Collection) (system : SystemId)
    (type : RecordType) (stats : α) (lag : ℕ) :
    Agree { s with db := s.db.insert collection system type stats lag }
      { t with db := t.db.insert collection system type stats lag } horizon where
  now := h.now
  nextId := congrArg (· + 1) h.nextId
  records := by
    simp only [Db.insert, List.filter_append, h.records, h.newRecord_eq]
  todo := h.todo
  current := h.current
  log := h.log
  lastStart := h.lastStart
  horizon_le := h.horizon_le
  longer_le := h.longer_le
  shorter_le := h.shorter_le

/-- The same longer record is saved in both states. -/
theorem saveRollUp (h : Agree s t horizon) {e : Evaluation} (he : e ∈ s.current) :
    Agree (saveRollUp average s e) (saveRollUp average t e) horizon := by
  have hinputs := h.shorterRecords_eq he
  have hdb := h.insert e.collection e.system e.data.1.longerType
    (average e.collection ((shorterRecords t e).map (·.stats))) 0
  have hlog : rollUp average s e :: s.log = rollUp average t e :: t.log := by
    rw [rollUp, rollUp, hinputs, h.newRecord_eq, h.log]
  rw [← hinputs] at hdb
  refine ⟨hdb.now, hdb.nextId, ?_, h.todo, h.current, hlog, h.lastStart, h.horizon_le, h.longer_le,
    h.shorter_le⟩
  rw [Records.saveRollUp, Records.saveRollUp, ← hinputs]
  exact hdb.records

/-- The loop goes on to the next collection. -/
theorem next {e : Evaluation} (h : Agree s t horizon) (he : e ∈ s.current) :
    Agree { s with current := e.next } { t with current := e.next } horizon := by
  refine ⟨h.now, h.nextId, h.records, h.todo, rfl, h.log, h.lastStart, h.horizon_le,
    fun e' he' => ?_, fun e' he' => ?_⟩
  all_goals obtain ⟨collection, rest, rfl⟩ := Evaluation.exists_of_next he'
  · exact h.longer_le e he
  · exact h.shorter_le e he

/-- The bounds of a new evaluation are computed from a later clock than the horizon. -/
theorem evaluate (h : Agree s t horizon) (system : SystemId) (data : Period) (gap : ℕ)
    (todo : List (SystemId × Period)) :
    Agree { s with
        db := s.db.tick gap, todo := todo, current := some (s.evaluation system data gap) }
      { t with
        db := t.db.tick gap, todo := todo, current := some (t.evaluation system data gap) }
      horizon where
  now := (h.tick gap).now
  nextId := h.nextId
  records := h.records
  todo := rfl
  current := by rw [State.evaluation, State.evaluation, h.now, h.lastStart]
  log := h.log
  lastStart := h.lastStart
  horizon_le := (h.tick gap).horizon_le
  longer_le e he := by
    obtain rfl := Option.some.inj he
    have hle := h.horizon_le
    simp only [State.evaluation]
    omega
  shorter_le e he := by
    obtain rfl := Option.some.inj he
    have hle := h.horizon_le
    simp only [State.evaluation]
    omega

/-- **A deletion in the one state** moves the horizon. -/
theorem deleteOld (h : Agree s t horizon) (hidle : s.idle) (lag : ℕ) :
    Agree { s with db := s.db.deleteOld lag } t (max horizon (s.db.now - lag)) where
  now := h.now
  nextId := h.nextId
  records := by
    have hfilter := congrArg (List.filter (Db.recent (max horizon (s.db.now - lag)))) h.records
    rw [filter_recent_recent _ (le_max_left _ _), filter_recent_recent _ (le_max_left _ _)]
      at hfilter
    simp only [Db.deleteOld]
    rw [filter_recent_recent _ (le_max_right _ _), hfilter]
  todo := h.todo
  current := h.current
  log := h.log
  lastStart := h.lastStart
  horizon_le := max_le h.horizon_le (by simp only [Db.deleteOld]; omega)
  longer_le e he := absurd hidle.2 (by rw [Option.mem_def.mp he]; simp)
  shorter_le e he := absurd hidle.2 (by rw [Option.mem_def.mp he]; simp)

theorem idle_iff (h : Agree s t horizon) : s.idle ↔ t.idle := by
  rw [State.idle, State.idle, h.todo, h.current]

end Agree

/-- An event that is not a deletion. -/
def Event.keeps : Event α → Bool
  | .deleteOldSystemStats _ => false
  | _ => true

/-- **The state that deleted nothing follows** every step but a deletion, which it sits out. -/
theorem Agree.step {s s' t : State α} {horizon : ℤ} {e : Event α} (h : Agree s t horizon)
    (hstep : step average s e = some s') :
    ∃ t', run (step average) t ([e].filter Event.keeps) = some t' ∧
      ∃ horizon', Agree s' t' horizon' := by
  cases e with
  | tick ms =>
    obtain rfl := Option.some.inj hstep
    exact ⟨_, rfl, horizon, h.tick ms⟩
  | createLongerRecords systems =>
    obtain ⟨hidle, rfl⟩ := guard_eq_some hstep
    refine ⟨_, (run_singleton _ _).trans (if_pos (h.idle_iff.mp hidle)), horizon, ?_⟩
    exact ⟨h.now, h.nextId, h.records, rfl, h.current, h.log, congrArg some h.now, h.horizon_le,
      h.longer_le, h.shorter_le⟩
  | evaluate gap =>
    simp only [Records.step] at hstep
    split at hstep
    · next system data todo htodo hcurrent =>
      obtain rfl := Option.some.inj hstep
      refine ⟨_, (run_singleton _ _).trans ?_, horizon, h.evaluate system data gap todo⟩
      rw [Records.step, ← h.todo, ← h.current, htodo, hcurrent]
    · exact absurd hstep (by simp)
  | collection ok =>
    simp only [Records.step] at hstep
    split at hstep
    · exact absurd hstep (by simp)
    · next e he =>
      obtain rfl := Option.some.inj hstep
      have hiff : ok = true ∧ due s e ↔ ok = true ∧ due t e := and_congr_right' (h.due_iff he)
      refine ⟨{ (if ok ∧ due t e then Records.saveRollUp average t e else t) with
        current := e.next }, (run_singleton _ _).trans ?_, horizon, ?_⟩
      · rw [Records.step, ← h.current, he]
      · by_cases hdue : ok = true ∧ due s e
        · rw [if_pos hdue, if_pos (hiff.mp hdue)]
          exact (h.saveRollUp he).next he
        · rw [if_neg hdue, if_neg (mt hiff.mpr hdue)]
          exact h.next he
  | store collection system stats lag =>
    obtain ⟨hidle, rfl⟩ := guard_eq_some hstep
    exact ⟨_, (run_singleton _ _).trans (if_pos (h.idle_iff.mp hidle)), horizon,
      h.insert collection system .m1 stats lag⟩
  | deleteOldSystemStats lag =>
    obtain ⟨hidle, rfl⟩ := guard_eq_some hstep
    exact ⟨t, rfl, _, h.deleteOld hidle lag⟩

/-- …and so it follows every run. -/
theorem Agree.run {s s' t : State α} {horizon : ℤ} {es : List (Event α)} (h : Agree s t horizon)
    (hrun : run (Records.step average) s es = some s') :
    ∃ t', Machinery.run (Records.step average) t (es.filter Event.keeps) = some t' ∧
      ∃ horizon', Agree s' t' horizon' := by
  induction es generalizing s t horizon with
  | nil =>
    obtain rfl := Option.some.inj hrun
    exact ⟨t, rfl, horizon, h⟩
  | cons e es ih =>
    obtain ⟨u, hu, hrun⟩ := run_cons_eq_some.mp hrun
    obtain ⟨v, hv, horizon', huv⟩ := h.step hu
    obtain ⟨t', ht', hagree⟩ := ih huv hrun
    refine ⟨t', ?_, hagree⟩
    rw [← List.singleton_append, List.filter_append, run_append, hv]
    exact ht'

/-- **Deletions do not disturb the roll-ups** — a run with its deletions left out can be taken too,
and it creates the same longer records from the same shorter ones. -/
theorem rollUps_without_deletions {db : Db α} {es : List (Event α)} {t : State α}
    (ht : run (step average) (.start db) es = some t) :
    ∃ t', run (step average) (.start db) (es.filter Event.keeps) = some t' ∧ t'.log = t.log := by
  obtain ⟨t', ht', _, hagree⟩ := (Agree.start db).run ht
  exact ⟨t', ht', hagree.log.symm⟩

/-- The example, with a deletion and a further run an hour later. -/
def exampleDeletion : List (Event Unit) :=
  exampleEvents 0 ++ [.tick 3600000, .deleteOldSystemStats 0] ++ exampleRun [0, 0, 0, 0]

/-- There 1m records are deleted, and the longer records are the same. -/
theorem rollUps_without_deletions_example :
    ∃ t t', run (step fun _ _ => ()) (.start exampleDb) exampleDeletion = some t ∧
      run (step fun _ _ => ()) (.start exampleDb) (exampleDeletion.filter Event.keeps) = some t' ∧
      t.db.records.length < t'.db.records.length ∧ t'.log = t.log := by
  have hlengths : ∃ t ∈ run (step fun _ _ => ()) (.start exampleDb) exampleDeletion,
      ∀ t' ∈ run (step fun _ _ => ()) (.start exampleDb) (exampleDeletion.filter Event.keeps),
        t.db.records.length < t'.db.records.length := by
    decide +kernel
  obtain ⟨t, ht, hlt⟩ := hlengths
  obtain ⟨t', ht', hlog⟩ := rollUps_without_deletions ht
  exact ⟨t, t', ht, ht', hlt t' ht', hlog⟩

end Records

end Beszel
