import Beszel.Hub.Records

/-!
# Hub/RollUpSchedule — when a record is averaged only once

    run at 0:00   ──10m──20m──▸            the windows of one row, a period long
    run at 0:20   ──10m──20m──▸            (0:00 + late, 0:20 + late]

The windows of a row are computed from a clock that each run reads when it comes to the row.  So
they overlap, by as much as the later run is ahead of the earlier one: by what the runs are less
than a period apart, which the padding lets pass, and by what the later run comes to the row sooner
after its start.  The shorter records of every row but the first are made by the runs themselves,
late by then; those of the first row may lie anywhere.
-/

namespace Beszel

open Machinery

namespace Records

variable {α : Type*}

/-! ## The schedule -/

/-- The longer records that the evaluation could make are in a series with this one. -/
def Evaluation.Extends (e : Evaluation) (x : RollUp α) : Prop :=
  x.record.system = e.system ∧ x.record.collection = e.collection ∧
    x.record.type = e.data.1.longerType

instance (e : Evaluation) (x : RollUp α) : Decidable (e.Extends x) :=
  inferInstanceAs (Decidable (_ ∧ _ ∧ _))

/-- The look for a longer record, with its minute of padding, finds this one; for the 10m records
there is no look. -/
def Evaluation.Finds (e : Evaluation) (s : State α) (x : RollUp α) : Prop :=
  e.data.1.longerType ≠ .m10 ∧ x.record ∈ s.db.records ∧ e.longerRecordPeriod < x.record.created

instance [DecidableEq α] (e : Evaluation) (s : State α) (x : RollUp α) :
    Decidable (e.Finds s x) :=
  inferInstanceAs (Decidable (_ ∧ _ ∧ _))

/-- How late after its start the run has come to the row. -/
def Evaluation.delay (e : Evaluation) : ℤ := e.time - e.started

/-- How late after its start the run that made the longer record had come to its row. -/
def RollUp.delay (x : RollUp α) : ℤ := x.evaluated - x.started

/-- How late after its start the run had saved the longer record. -/
def RollUp.saved (x : RollUp α) : ℤ := x.record.created - x.started

/-- The run that made `x` made `y` too, which is a shorter record for the row of `x`. -/
def RollUp.Feeds (y x : RollUp α) : Prop :=
  y.started = x.started ∧ y.record.system = x.record.system ∧
    y.record.collection = x.record.collection ∧ y.record.type = x.data.1.shorterType

instance (x y : RollUp α) : Decidable (y.Feeds x) :=
  inferInstanceAs (Decidable (_ ∧ _ ∧ _ ∧ _))

/-- **The later run is not ahead of the earlier one.**  An evaluation that the padding lets pass
belongs to a run started a period or more after the run of any longer record of its series, and it
is as late after its start as that run was: for the 10m records when it came to the row, for the
others when it had saved the shorter record of the row. -/
def OnSchedule (s : State α) : Event α → Prop
  | .collection _ => ∀ e ∈ s.current, ∀ x ∈ s.log, e.Extends x → ¬ e.Finds s x →
      x.started - e.data.1.longerTimeDuration ≤ e.started ∧
        if e.data.1.longerType = .m10 then x.delay ≤ e.delay
        else ∀ y ∈ s.log, y.Feeds x → y.saved ≤ e.delay
  | _ => True

instance [DecidableEq α] (s : State α) : ∀ e, Decidable (OnSchedule s e)
  | .collection _ => inferInstanceAs (Decidable (∀ e ∈ s.current, _))
  | .tick _ | .createLongerRecords _ | .evaluate _ | .store .. | .deleteOldSystemStats _ =>
    .isTrue trivial

/-- The two longer records average no record in common, if they are of one series. -/
def RollUp.Apart (x y : RollUp α) : Prop := x.SameSeries y → x.inputs.Disjoint y.inputs

instance [DecidableEq α] (x y : RollUp α) : Decidable (x.Apart y) :=
  inferInstanceAs (Decidable (x.SameSeries y → ∀ r ∈ x.inputs, r ∉ y.inputs))

/-! ## The runs, one after another -/

/-- The longer record was made by the run that started then, or before that run started. -/
def RollUp.Until (x : RollUp α) (started : ℤ) : Prop :=
  x.started ≤ started ∧ (x.started < started → x.record.created ≤ started)

/-- The record was stored at the beginning, or a run that started no later than `started` has made
it. -/
def MadeUntil (log : List (RollUp α)) (origin started : ℤ) (r : StatsRecord α) : Prop :=
  r.type ≠ .m1 → r.created ≤ origin ∨ ∃ y ∈ log, y.record = r ∧ y.started ≤ started

/-- **What all runs keep**, from a state whose clock reads `origin`: runs start one after another,
and every stored record but the 1m ones, and every such record that was averaged, was made by one of
them. -/
structure Ordered (origin : ℤ) (s : State α) : Prop where
  origin_le : origin ≤ s.db.now
  last : ∀ started ∈ s.lastStart,
    origin ≤ started ∧ started ≤ s.db.now ∧ ∀ x ∈ s.log, x.Until started
  current : ∀ e ∈ s.current, (∀ started ∈ s.lastStart, e.started = started) ∧
    origin ≤ e.started ∧ e.started ≤ e.time ∧ e.time ≤ s.db.now ∧ ∀ x ∈ s.log, x.Until e.started
  log : ∀ x ∈ s.log, origin ≤ x.started ∧ x.started ≤ s.db.now ∧ x.record.created ≤ s.db.now
  runs : ∀ x ∈ s.log, ∀ y ∈ s.log, y.started ≤ x.started → y.Until x.started
  made : ∀ r ∈ s.db.records, MadeUntil s.log origin s.db.now r
  inputs : ∀ x ∈ s.log, ∀ r ∈ x.inputs, MadeUntil s.log origin x.started r

section Proofs

variable {average : Collection → List α → α} {origin : ℤ} {s t : State α}

theorem MadeUntil.mono {log log' : List (RollUp α)} {started started' : ℤ} {r : StatsRecord α}
    (h : MadeUntil log origin started r) (hlog : log ⊆ log') (hle : started ≤ started') :
    MadeUntil log' origin started' r :=
  fun hr => (h hr).imp_right fun ⟨y, hy, heq, hy'⟩ => ⟨y, hlog hy, heq, hy'.trans hle⟩

namespace Ordered

theorem start (db : Db α) : Ordered db.now (.start db) where
  origin_le := le_rfl
  last _ h := absurd h.symm (Option.some_ne_none _)
  current _ h := absurd h.symm (Option.some_ne_none _)
  log _ h := absurd h List.not_mem_nil
  runs _ h := absurd h List.not_mem_nil
  made r hr _ := .inl (db.dated r hr)
  inputs _ h := absurd h List.not_mem_nil

/-- Time passes. -/
theorem tick (h : Ordered origin s) (ms : ℕ) : Ordered origin { s with db := s.db.tick ms } := by
  have hle : s.db.now ≤ (s.db.tick ms).now := by
    simp only [Db.tick]
    omega
  refine ⟨h.origin_le.trans hle, fun st hst => ?_, fun e he => ?_, fun x hx => ?_, h.runs,
    fun r hr => (h.made r hr).mono (List.Subset.refl _) hle, h.inputs⟩
  · obtain ⟨h₁, h₂, h₃⟩ := h.last st hst
    exact ⟨h₁, h₂.trans hle, h₃⟩
  · obtain ⟨h₁, h₂, h₃, h₄, h₅⟩ := h.current e he
    exact ⟨h₁, h₂, h₃, h₄.trans hle, h₅⟩
  · obtain ⟨h₁, h₂, h₃⟩ := h.log x hx
    exact ⟨h₁, h₂.trans hle, h₃.trans hle⟩

/-- **A run starts**, after all that was made before. -/
theorem createLongerRecords (h : Ordered origin s) (hidle : s.idle)
    (todo : List (SystemId × Period)) :
    Ordered origin { s with todo := todo, lastStart := some s.db.now } := by
  refine ⟨h.origin_le, fun st hst => ?_, fun e he => ?_, h.log, h.runs, h.made, h.inputs⟩
  · obtain rfl := Option.some.inj hst
    exact ⟨h.origin_le, le_rfl, fun x hx => ⟨(h.log x hx).2.1, fun _ => (h.log x hx).2.2⟩⟩
  · exact absurd hidle.2 (by rw [Option.mem_def.mp he]; simp)

/-- **The run comes to a row.** -/
theorem evaluate (h : Ordered origin s) (system : SystemId) (data : Period) (gap : ℕ)
    (todo : List (SystemId × Period)) :
    Ordered origin { s with
      db := s.db.tick gap, todo := todo, current := some (s.evaluation system data gap) } := by
  have ht := h.tick gap
  refine ⟨ht.origin_le, ht.last, fun e he => ?_, ht.log, ht.runs, ht.made, ht.inputs⟩
  obtain rfl := Option.some.inj he
  have htime : (s.evaluation system data gap).time = (s.db.tick gap).now := by
    simp only [State.evaluation, Evaluation.time, Db.tick]
    omega
  have hnow : s.db.now ≤ (s.db.tick gap).now := by
    simp only [Db.tick]
    omega
  rw [htime]
  cases hlast : s.lastStart with
  | none =>
    have hstarted : (s.evaluation system data gap).started = s.db.now := by
      rw [State.evaluation, hlast, Option.getD_none]
    rw [hstarted]
    refine ⟨fun _ h => absurd h.symm (Option.some_ne_none _), h.origin_le, hnow, le_rfl,
      fun x hx => ⟨(h.log x hx).2.1, fun _ => (h.log x hx).2.2⟩⟩
  | some st =>
    have hstarted : (s.evaluation system data gap).started = st := by
      rw [State.evaluation, hlast, Option.getD_some]
    obtain ⟨h₁, h₂, h₃⟩ := h.last st hlast
    rw [hstarted]
    exact ⟨fun _ h => Option.some.inj h, h₁, h₂.trans hnow, le_rfl, h₃⟩

/-- The loop goes on to the next collection. -/
theorem next {e : Evaluation} (h : Ordered origin s) (he : e ∈ s.current) :
    Ordered origin { s with current := e.next } := by
  refine ⟨h.origin_le, h.last, fun e' he' => ?_, h.log, h.runs, h.made, h.inputs⟩
  obtain ⟨collection, rest, rfl⟩ := Evaluation.exists_of_next he'
  exact h.current e he

/-- **A longer record is saved** by the run that has come to the row. -/
theorem saveRollUp {e : Evaluation} (h : Ordered origin s) (he : e ∈ s.current) :
    Ordered origin (saveRollUp average s e) := by
  obtain ⟨hstart, horigin, hle, htime, huntil⟩ := h.current e he
  have hstarted : (rollUp average s e).started = e.started := rfl
  have hcreated : (rollUp average s e).record.created = s.db.now := by
    simp [rollUp, Db.newRecord]
  have hself : (rollUp average s e).Until e.started :=
    ⟨le_rfl, fun hlt => absurd hlt (lt_irrefl _)⟩
  have hsubset : s.log ⊆ (Records.saveRollUp average s e).log := List.subset_cons_self _ _
  refine ⟨h.origin_le, fun st hst => ?_, fun e' he' => ?_, fun x hx => ?_, fun x hx y hy hyx => ?_,
    fun r hr => ?_, fun x hx r hr => ?_⟩
  · obtain ⟨h₁, h₂, h₃⟩ := h.last st hst
    refine ⟨h₁, h₂, fun x hx => ?_⟩
    rcases List.mem_cons.mp hx with rfl | hx
    · exact hstart st hst ▸ hself
    · exact h₃ x hx
  · obtain rfl : e = e' := Option.some.inj (he.symm.trans he')
    refine ⟨hstart, horigin, hle, htime, fun x hx => ?_⟩
    rcases List.mem_cons.mp hx with rfl | hx
    · exact hself
    · exact huntil x hx
  · rcases List.mem_cons.mp hx with rfl | hx
    · exact ⟨horigin, hle.trans htime, hcreated.le⟩
    · exact h.log x hx
  · rcases List.mem_cons.mp hx with rfl | hx <;> rcases List.mem_cons.mp hy with rfl | hy
    · exact hself
    · exact huntil y hy
    · -- an older longer record of the same run
      have heq : x.started = e.started := le_antisymm (huntil x hx).1 hyx
      exact heq ▸ hself
    · exact h.runs x hx y hy hyx
  · rcases List.mem_append.mp hr with hr | hr
    · exact (h.made r hr).mono hsubset le_rfl
    · obtain rfl := List.mem_singleton.mp hr
      exact fun _ => .inr ⟨_, List.mem_cons_self, rfl, hle.trans htime⟩
  · rcases List.mem_cons.mp hx with rfl | hx
    · -- what is averaged now was made before this run started, or in it
      intro htype
      have hstored := (mem_select.mp hr).1
      refine (h.made r hstored htype).imp_right fun hmade => ?_
      obtain ⟨y, hy, heq, -⟩ := hmade
      exact ⟨y, hsubset hy, heq, (huntil y hy).1⟩
    · exact (h.inputs x hx r hr).mono hsubset le_rfl

/-- A 1m record is saved. -/
theorem store (h : Ordered origin s) (collection : Collection) (system : SystemId) (stats : α)
    (lag : ℕ) : Ordered origin { s with db := s.db.insert collection system .m1 stats lag } := by
  refine ⟨h.origin_le, h.last, h.current, h.log, h.runs, fun r hr => ?_, h.inputs⟩
  rcases List.mem_append.mp hr with hr | hr
  · exact h.made r hr
  · obtain rfl := List.mem_singleton.mp hr
    exact fun htype => absurd rfl htype

theorem deleteOld (h : Ordered origin s) (lag : ℕ) :
    Ordered origin { s with db := s.db.deleteOld lag } :=
  ⟨h.origin_le, h.last, h.current, h.log, h.runs,
    fun r hr => h.made r (List.mem_of_mem_filter hr), h.inputs⟩

/-- **Every step keeps the runs in order.** -/
theorem step {e : Event α} (h : Ordered origin s) (hstep : step average s e = some t) :
    Ordered origin t := by
  cases e with
  | tick ms =>
    obtain rfl := Option.some.inj hstep
    exact h.tick ms
  | createLongerRecords systems =>
    obtain ⟨hidle, rfl⟩ := guard_eq_some hstep
    exact h.createLongerRecords hidle _
  | evaluate gap =>
    simp only [Records.step] at hstep
    split at hstep
    · obtain rfl := Option.some.inj hstep
      exact h.evaluate _ _ gap _
    · cases hstep
  | collection ok =>
    simp only [Records.step] at hstep
    split at hstep
    · cases hstep
    · next e he =>
      obtain rfl := Option.some.inj hstep
      split
      · exact next (s := Records.saveRollUp average s e) (h.saveRollUp he) he
      · exact h.next he
  | store collection system stats lag =>
    obtain ⟨-, rfl⟩ := guard_eq_some hstep
    exact h.store collection system stats lag
  | deleteOldSystemStats lag =>
    obtain ⟨-, rfl⟩ := guard_eq_some hstep
    exact h.deleteOld lag

end Ordered

/-! ## No record is averaged twice -/

/-- The 10m records are made from the 1m records, and no others are. -/
theorem Period.shorterType_eq_m1 (d : Period) :
    d.1.shorterType = .m1 ↔ d.1.longerType = .m10 := by
  have h : ∀ d ∈ longerRecordData, d.shorterType = .m1 ↔ d.longerType = .m10 := by decide
  exact h d.1 d.2

/-- **What was averaged before is out of the window now.** -/
theorem apart_rollUp {e : Evaluation} (h : Inv average s) (hs : Ordered origin s)
    (he : e ∈ s.current) (hdue : due s e) (hok : OnSchedule s (.collection true)) :
    ∀ x ∈ s.log, (rollUp average s e).Apart x := by
  rintro x hx ⟨hsystem, hcollection, htype⟩ r hr hrx
  have hafter : e.shorterRecordPeriod < r.created := (mem_select.mp hr).2.2.2.2
  have hrtype : r.type = e.data.1.shorterType := (mem_select.mp hr).2.2.2.1
  obtain ⟨hrcollection, hrsystem, hrxtype⟩ := (h.averages x hx).input r hrx
  have hrx_le : r.created ≤ x.evaluated := ((h.averages x hx).window r hrx).2
  obtain ⟨-, -, hstarted, -, -⟩ := hs.current e he
  have htime : e.time = e.shorterRecordPeriod - e.data.1.longerTimeDuration := rfl
  -- the longer record is not found, or none would be made
  have hfinds : ¬ e.Finds s x := by
    rintro ⟨hm10, hstored, hlate⟩
    have hfound : x.record ∈ select s.db.records e.collection e.system e.data.1.longerType
        e.longerRecordPeriod :=
      mem_select.mpr ⟨hstored, hcollection.symm, hsystem.symm, htype.symm, hlate⟩
    have hnone := hdue.1
    simp only [longerExists, decide_eq_false_iff_not, not_and, not_lt, Nat.le_zero,
      List.length_eq_zero_iff] at hnone
    rw [hnone hm10] at hfound
    exact List.not_mem_nil hfound
  obtain ⟨hspaced, hdelay⟩ :=
    hok e he x hx ⟨hsystem.symm, hcollection.symm, htype.symm⟩ hfinds
  split_ifs at hdelay with hm10
  · -- the row of the 1m records: the windows do not overlap
    simp only [RollUp.delay, Evaluation.delay] at hdelay
    omega
  · have hr1 : r.type ≠ .m1 := hrtype.trans_ne fun h => hm10 (e.data.shorterType_eq_m1.mp h)
    obtain hfirst | ⟨y, hy, rfl, hyx⟩ := hs.inputs x hx r hrx hr1
    · have horigin := (hs.log x hx).1
      omega
    · obtain ⟨-, hbefore⟩ := hs.runs x hx y hy hyx
      obtain hlt | heq := hyx.lt_or_eq
      · have hcreated := hbefore hlt
        omega
      · have hsaved := hdelay y hy ⟨heq, hrsystem, hrcollection, hrxtype⟩
        simp only [RollUp.saved, Evaluation.delay] at hsaved
        omega

/-- **A step on schedule** keeps the longer records apart. -/
theorem apart_step {e : Event α}
    (h : Inv average s ∧ Ordered origin s ∧ s.log.Pairwise RollUp.Apart)
    (hok : OnSchedule s e) (hstep : step average s e = some t) :
    Inv average t ∧ Ordered origin t ∧ t.log.Pairwise RollUp.Apart := by
  refine ⟨h.1.step hstep, h.2.1.step hstep, ?_⟩
  cases e with
  | tick ms =>
    obtain rfl := Option.some.inj hstep
    exact h.2.2
  | evaluate gap =>
    simp only [step] at hstep
    split at hstep
    · obtain rfl := Option.some.inj hstep
      exact h.2.2
    · cases hstep
  | collection ok =>
    simp only [step] at hstep
    split at hstep
    · cases hstep
    · next e he =>
      obtain rfl := Option.some.inj hstep
      split
      · next hdue =>
        exact List.pairwise_cons.mpr ⟨apart_rollUp h.1 h.2.1 he hdue.2 hok, h.2.2⟩
      · exact h.2.2
  | createLongerRecords | store | deleteOldSystemStats =>
    obtain ⟨-, rfl⟩ := guard_eq_some hstep
    exact h.2.2

end Proofs

/-! ### Runs that are equally late, and one that is ahead -/

/-- Nine 1m records, one a minute. -/
def nineMinutes : List (Event Unit) :=
  (List.replicate 9 [.store .systemStats "a" () 0, .tick 60000]).flatten

/-- Three runs, ten minutes apart and each ten seconds late with every type. -/
def lateRuns : List (Event Unit) :=
  exampleRun [10000, 10000, 0, 0] ++ .tick 40000 :: nineMinutes ++
    exampleRun [10000, 10000, 0, 0] ++ .tick 40000 :: nineMinutes ++
    exampleRun [10000, 10000, 0, 0]

/-- A run of `CreateLongerRecords` starts at least ten minutes after the last one. -/
def tenMinutesApart (s : State α) : Event α → Bool
  | .createLongerRecords _ => s.lastStart.all fun started => started + 10 * minute ≤ s.db.now
  | _ => true

end Records

end Beszel
