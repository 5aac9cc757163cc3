import Beszel.Alerts.Average
import Mathlib.Algebra.Order.BigOperators.Group.List

/-!
# Alerts/Decision — when a system alert is sent, and what the other alerts have to do with it

    alert ──▸ current value ──▸ window of records ──▸ average ──▸ sent
                                       ▴
                            longest window of all alerts

The handler takes the alerts of a system through its loops together.  Given the rows of the query it
decides each of them by itself (`sent_eq`), by a law that is the same for all names (`trigger_law`);
but there is one query, since the start of the longest window, and the filter asks only whether some
row is older than the start of the alert's own.  So an alert with a longer window can let the others
pass (`decisionsFor_without_iff`).
-/

namespace Beszel

open Machinery

namespace SystemAlerts

/-- What `sendSystemAlert` saves. -/
def sendSystemAlert (a : SystemAlertData) : AlertRecord :=
  { a.alertRecord with triggered := a.triggered }

/-! ## The alerts one by one -/

/-- The record can be decoded. -/
def StatsRow.decodable (row : StatsRow) : Bool :=
  match row.stats with
  | .error _ => false
  | .ok _ => true

/-- One waiting alert through the averaging loop and the last division. -/
def averageOf (extraFs : GoMap FsStats) (records : List (ℤ × StatsJson)) (a : SystemAlertData) :
    SystemAlertData :=
  (runOne extraFs .zero (a.reset true) records).finish

/-- What is sent of a waiting alert, given the rows of the query. -/
def sendAveraged (extraFs : GoMap FsStats) (window : Except String (List StatsRow))
    (a : SystemAlertData) : Option SystemAlertData :=
  match window with
  | .ok (oldest :: rows) =>
    if a.time > oldest.created ∧ (oldest :: rows).all StatsRow.decodable = true then
      (averageOf extraFs (decoded (oldest :: rows)) a).decision
    else none
  | _ => none

section OneByOne

variable {extraFs : GoMap FsStats} {stats : SystemAlertStats} {first : Bool}

/-- The loop ends with an error exactly if some row cannot be decoded. -/
theorem averageLoop_ok_iff {alerts : List SystemAlertData} {rows : List StatsRow} :
    (∃ alerts', averageLoop extraFs first stats alerts rows = .ok alerts') ↔
      rows.all StatsRow.decodable = true := by
  induction rows generalizing first stats alerts with
  | nil => exact iff_of_true ⟨alerts, rfl⟩ rfl
  | cons row rows ih =>
    rw [averageLoop, List.all_cons, StatsRow.decodable]
    cases row.stats with
    | error err => exact iff_of_false (by rintro ⟨alerts', h⟩; cases h) Bool.false_ne_true
    | ok json =>
      rw [Bool.true_and]
      exact ih

/-- **The handler decides each alert by itself**, given the rows of the query. -/
theorem sent_eq (inp : Input) :
    (handleSystemAlerts inp).sent =
      immediate inp.now inp.data inp.alerts ++
        (validAlerts inp.now inp.data inp.alerts).filterMap
          (sendAveraged inp.data.stats.extraFs inp.window) := by
  have hnone {window : Except String (List StatsRow)}
      (h : ∀ a ∈ validAlerts inp.now inp.data inp.alerts,
        sendAveraged inp.data.stats.extraFs window a = none) :
      immediate inp.now inp.data inp.alerts = immediate inp.now inp.data inp.alerts ++
        (validAlerts inp.now inp.data inp.alerts).filterMap
          (sendAveraged inp.data.stats.extraFs window) := by
    rw [List.filterMap_eq_nil_iff.mpr h, List.append_nil]
  unfold handleSystemAlerts
  split_ifs with halerts
  · rw [halerts]
    rfl
  dsimp only
  cases hwindow : inp.window with
  | error err => exact hnone fun a _ => rfl
  | ok rows =>
    cases rows with
    | nil => exact hnone fun a _ => rfl
    | cons oldest rows =>
      dsimp only
      split_ifs with hempty
      · rw [List.isEmpty_iff, Input.filtered, List.filter_eq_nil_iff] at hempty
        exact hnone fun a ha => if_neg fun h => hempty a ha (decide_eq_true h.1)
      cases hloop : averageLoop inp.data.stats.extraFs true .zero (inp.filtered oldest)
          (oldest :: rows) with
      | error err =>
        refine hnone fun a _ => if_neg fun h => ?_
        obtain ⟨alerts', h'⟩ := averageLoop_ok_iff.mpr h.2
        exact nomatch hloop.symm.trans h'
      | ok alerts' =>
        have hdec := averageLoop_ok_iff.mp ⟨alerts', hloop⟩
        rw [averageLoop_eq_map (averageLoop_first (List.cons_ne_nil oldest rows) hloop)]
        simp only [List.map_map, List.filterMap_map, Input.filtered, List.filterMap_filter]
        congr 2
        funext a
        by_cases ha : a.time > oldest.created
        · rw [if_pos (decide_eq_true ha)]
          exact (if_pos ⟨ha, hdec⟩).symm
        · rw [if_neg (by simpa using ha)]
          exact (if_neg fun h => ha h.1).symm

end OneByOne

/-! ## The law -/

/-- The value is strictly beyond the threshold; for a low alert, below it. -/
def Beyond (low : Bool) (val threshold : ℚ) : Prop :=
  if low then val < threshold else val > threshold

/-- **The value speaks against the state of the alert**: beyond the threshold while it is not
triggered, or not beyond it while it is. -/
def Flips (r : AlertRecord) (val : ℚ) : Prop :=
  (r.triggered = false ∧ Beyond (isLowAlert r.name) val r.value) ∨
    (r.triggered = true ∧ ¬ Beyond (isLowAlert r.name) val r.value)

instance (low : Bool) (val threshold : ℚ) : Decidable (Beyond low val threshold) :=
  inferInstanceAs (Decidable (if low then _ else _))

instance (r : AlertRecord) (val : ℚ) : Decidable (Flips r val) :=
  inferInstanceAs (Decidable (_ ∨ _))

namespace AlertRecord

/-- The start of the window of an alert over more than one minute. -/
def start (now : ℤ) (r : AlertRecord) : ℤ := now - r.min.toNat * 60000

/-- The alert as it waits for an average. -/
def pending (now : ℤ) (val : ℚ) (unit : String) (r : AlertRecord) : SystemAlertData where
  alertRecord := r
  name := r.name
  unit := unit
  val := val
  threshold := r.value
  triggered := r.triggered
  time := r.start now
  count := 0
  min := r.min
  mapSums := ∅
  descriptor := ""

/-- The alert as it is sent at once. -/
def atOnce (val : ℚ) (unit : String) (r : AlertRecord) : SystemAlertData :=
  { r.pending 0 val unit with triggered := !r.triggered, time := 0, min := 1 }

/-- **The alert waits for an average**: its current value speaks against its state, and it is over
more than one minute. -/
def Waits (data : CombinedData) (r : AlertRecord) : Prop :=
  (∃ v ∈ currentValue data r.name, Flips r v.1) ∧ 1 < r.min

end AlertRecord

section Law

variable {now : ℤ} {data : CombinedData} {r : AlertRecord} {val : ℚ} {unit : String}

theorem settled_iff :
    settled (isLowAlert r.name) r.triggered val r.value = true ↔ ¬ Flips r val := by
  unfold settled Flips Beyond
  cases isLowAlert r.name <;> cases r.triggered <;> simp

/-- What the first loop does with an alert that has a value. -/
theorem screen_of_some (hval : currentValue data r.name = some (val, unit)) :
    screen now data r =
      if Flips r val then
        if 1 < r.min then .wait (r.pending now val unit)
        else .sendNow (r.atOnce val unit)
      else .skip := by
  unfold screen
  rw [hval]
  dsimp only
  by_cases hflip : Flips r val
  · rw [if_neg (settled_iff.not.mpr (not_not.mpr hflip)), if_pos hflip]
    by_cases hmin : 1 < r.min
    · have hmax : max 1 r.min = r.min := if_pos (UInt8.le_of_lt hmin)
      rw [hmax, if_neg (UInt8.ne_of_lt hmin).symm, if_pos hmin]
      rfl
    · have hmax : max 1 r.min = 1 := by
        change (if 1 ≤ r.min then r.min else 1) = 1
        split_ifs with hle
        · exact UInt8.le_antisymm (UInt8.not_lt.mp hmin) hle
        · rfl
      rw [hmax, if_pos rfl, if_neg hmin]
      congr 1
      unfold AlertRecord.atOnce
      congr 1
      revert hflip
      unfold Flips Beyond
      cases isLowAlert r.name <;> cases r.triggered <;> simp
  · rw [if_pos (settled_iff.mpr hflip), if_neg hflip]

/-- **An alert waits with its own fields.** -/
theorem screen_eq_wait_iff {a : SystemAlertData} :
    screen now data r = .wait a ↔
      ∃ v ∈ currentValue data r.name, Flips r v.1 ∧ 1 < r.min ∧ a = r.pending now v.1 v.2 := by
  cases hval : currentValue data r.name with
  | none =>
    refine iff_of_false ?_ (by rintro ⟨v, hv, -⟩; cases hv)
    unfold screen
    rw [hval]
    exact nofun
  | some v =>
    rw [screen_of_some hval]
    split_ifs with hflip hmin
    · exact ⟨fun h => ⟨v, rfl, hflip, hmin, (Screened.wait.inj h).symm⟩,
        fun ⟨v', hv', _, _, h⟩ => by cases hv'; rw [h]⟩
    · exact iff_of_false nofun fun ⟨_, _, _, h, _⟩ => hmin h
    · exact iff_of_false nofun fun ⟨v', hv', h, _⟩ => by cases hv'; exact hflip h

theorem mem_validAlerts {alerts : List AlertRecord} {a : SystemAlertData} :
    a ∈ validAlerts now data alerts ↔
      ∃ r ∈ alerts, ∃ v ∈ currentValue data r.name,
        Flips r v.1 ∧ 1 < r.min ∧ a = r.pending now v.1 v.2 := by
  simp only [validAlerts, List.mem_filterMap, ← screen_eq_wait_iff]
  refine exists_congr fun r => and_congr_right fun _ => ?_
  split <;> simp_all

/-- **The decision on the average.** -/
theorem decision_eq {a : SystemAlertData} (hname : a.name = r.name)
    (htrig : a.triggered = r.triggered) (hval : a.threshold = r.value) (hmin : a.min = r.min) :
    a.decision =
      if 5 * r.min.toNat ≤ 6 * a.count.toNat ∧ Flips r a.val then
        some { a with triggered := !r.triggered }
      else none := by
  unfold SystemAlertData.decision SystemAlertData.enough Flips Beyond
  rw [hname, htrig, hval, hmin]
  by_cases henough : 5 * r.min.toNat ≤ 6 * a.count.toNat
  · rcases Bool.eq_false_or_eq_true (isLowAlert r.name) with hlow | hlow <;>
      rcases Bool.eq_false_or_eq_true r.triggered with ht | ht <;> simp [henough, hlow, ht]
  · simp [henough]

end Law

/-! ## The average of a waiting alert -/

section AverageOf

variable {extraFs : GoMap FsStats} {now : ℤ} {r : AlertRecord} {val : ℚ} {unit : String}

/-- **The loop and the division touch four fields.** -/
theorem field_averageOf {α : Type} (π : SystemAlertData → α)
    (hπ : ∀ a val count mapSums descriptor,
      π { a with val, count, mapSums, descriptor } = π a)
    (records : List (ℤ × StatsJson)) (a : SystemAlertData) :
    π (averageOf extraFs records a) = π a := by
  have hfinish (a : SystemAlertData) : π a.finish = π a := by
    unfold SystemAlertData.finish
    split <;> exact hπ a _ a.count a.mapSums _
  have haccumulate (stats : SystemAlertStats) (a : SystemAlertData) :
      π (a.accumulate extraFs stats) = π a := by
    unfold SystemAlertData.accumulate
    split <;>
      first | rfl | exact hπ a _ _ _ a.descriptor | (split_ifs <;>
        first | rfl | exact hπ a _ _ _ a.descriptor)
  have hrun (stats : SystemAlertStats) (a : SystemAlertData) :
      π (runOne extraFs stats a records) = π a := by
    induction records generalizing stats a with
    | nil => rfl
    | cons row records ih =>
      rw [runOne, ih, SystemAlertData.add]
      split_ifs
      · rfl
      · exact haccumulate _ a
  rw [averageOf, hfinish, hrun]
  exact hπ a 0 a.count a.mapSums a.descriptor

variable (extraFs now r val unit) in
/-- **A waiting alert counts the records of its window, in eight bits.** -/
theorem count_averageOf (records : List (ℤ × StatsJson)) :
    (averageOf extraFs records (r.pending now val unit)).count.toNat =
      counted r.name (r.start now) [] records % 256 := by
  have h : Tallied ((r.pending now val unit).reset true) [] := ⟨rfl, fun _ => rfl, fun _ _ => rfl⟩
  rw [averageOf, count_finish, (h.runOne records).count, UInt8.toNat_ofNat', List.nil_append]
  exact congrArg (· % 256) (length_readings [] records)

variable (extraFs now r val unit) in
/-- It is compared with the readings of its window, averaged. -/
theorem val_averageOf (records : List (ℤ × StatsJson)) :
    AverageOver r.name (readings extraFs r.name (r.start now) .zero records)
      (counted r.name (r.start now) [] records % 256)
      (averageOf extraFs records (r.pending now val unit)).val := by
  have h : Tallied ((r.pending now val unit).reset true) [] := ⟨rfl, fun _ => rfl, fun _ _ => rfl⟩
  have hrun : Tallied (runOne extraFs .zero ((r.pending now val unit).reset true) records)
      (readings extraFs r.name (r.start now) .zero records) := h.runOne records
  have havg := hrun.averageOver
  have hlen : (readings extraFs r.name (r.start now) .zero records).length =
      counted r.name (r.start now) [] records := length_readings [] records
  rw [(sameAlert_runOne _ _ _).name, hlen] at havg
  exact havg

/-- **What is sent of a waiting alert.** -/
theorem decision_averageOf (records : List (ℤ × StatsJson)) :
    (averageOf extraFs records (r.pending now val unit)).decision =
      if 5 * r.min.toNat ≤ 6 * (counted r.name (r.start now) [] records % 256) ∧
          Flips r (averageOf extraFs records (r.pending now val unit)).val then
        some { averageOf extraFs records (r.pending now val unit) with triggered := !r.triggered }
      else none := by
  rw [decision_eq (r := r), count_averageOf]
  · exact field_averageOf (·.name) (fun _ _ _ _ _ => rfl) records _
  · exact field_averageOf (·.triggered) (fun _ _ _ _ _ => rfl) records _
  · exact field_averageOf (·.threshold) (fun _ _ _ _ _ => rfl) records _
  · exact field_averageOf (·.min) (fun _ _ _ _ _ => rfl) records _

end AverageOf

/-! ## What is sent -/

section Sent

variable {inp : Input} {r : AlertRecord} {a : SystemAlertData}

/-- The rows of the query are sorted. -/
theorem pairwise_window {rows : List StatsRow} (h : inp.window = .ok rows) :
    rows.Pairwise fun row row' => row.created ≤ row'.created := by
  unfold Input.window at h
  cases hrows : inp.rows with
  | error err =>
    rw [hrows] at h
    cases h
  | ok all =>
    rw [hrows] at h
    obtain rfl := Except.ok.inj h
    exact List.pairwise_insertionSort (fun row row' : StatsRow => row.created ≤ row'.created) _

/-- **What is sent, alert by alert.** -/
theorem mem_sent_iff :
    a ∈ (handleSystemAlerts inp).sent ↔
      ∃ r ∈ inp.alerts, ∃ v ∈ currentValue inp.data r.name, Flips r v.1 ∧
        ((¬ 1 < r.min ∧ a = r.atOnce v.1 v.2) ∨
          (1 < r.min ∧
            sendAveraged inp.data.stats.extraFs inp.window (r.pending inp.now v.1 v.2) =
              some a)) := by
  rw [sent_eq, List.mem_append, List.mem_filterMap, immediate, List.mem_filterMap]
  constructor
  · rintro (⟨r, hr, h⟩ | ⟨b, hb, h⟩)
    · cases hval : currentValue inp.data r.name with
      | none => simp [screen, hval] at h
      | some v =>
        rw [screen_of_some hval] at h
        split_ifs at h with hflip hmin
        obtain rfl := Option.some.inj h
        exact ⟨r, hr, v, hval, hflip, .inl ⟨hmin, rfl⟩⟩
    · obtain ⟨r, hr, v, hv, hflip, hmin, rfl⟩ := mem_validAlerts.mp hb
      exact ⟨r, hr, v, hv, hflip, .inr ⟨hmin, h⟩⟩
  · rintro ⟨r, hr, v, hv, hflip, ⟨hmin, rfl⟩ | ⟨hmin, h⟩⟩
    · refine .inl ⟨r, hr, ?_⟩
      rw [screen_of_some hv, if_pos hflip, if_neg hmin]
    · exact .inr ⟨_, mem_validAlerts.mpr ⟨r, hr, v, hv, hflip, hmin, rfl⟩, h⟩

/-- A waiting alert is sent with its record. -/
theorem alertRecord_sendAveraged {extraFs : GoMap FsStats}
    {window : Except String (List StatsRow)} {b : SystemAlertData}
    (h : sendAveraged extraFs window a = some b) : b.alertRecord = a.alertRecord := by
  have hdecision (a : SystemAlertData) (h : a.decision = some b) :
      b.alertRecord = a.alertRecord := by
    unfold SystemAlertData.decision at h
    split_ifs at h <;> obtain rfl := Option.some.inj h <;> rfl
  unfold sendAveraged at h
  split at h
  · obtain ⟨-, h⟩ := Option.ite_none_right_eq_some.mp h
    exact (hdecision _ h).trans (field_averageOf (·.alertRecord) (fun _ _ _ _ _ => rfl) _ _)
  · cases h

/-- What is sent of one alert. -/
theorem mem_sent_and_iff :
    a ∈ (handleSystemAlerts inp).sent ∧ a.alertRecord = r ↔
      r ∈ inp.alerts ∧ ∃ v ∈ currentValue inp.data r.name, Flips r v.1 ∧
        ((¬ 1 < r.min ∧ a = r.atOnce v.1 v.2) ∨
          (1 < r.min ∧
            sendAveraged inp.data.stats.extraFs inp.window (r.pending inp.now v.1 v.2) =
              some a)) := by
  rw [mem_sent_iff]
  constructor
  · rintro ⟨⟨r', hr', v, hv, hflip, h⟩, rfl⟩
    have hrec : a.alertRecord = r' := by
      rcases h with ⟨-, rfl⟩ | ⟨-, h⟩
      · rfl
      · exact alertRecord_sendAveraged h
    rw [hrec]
    exact ⟨hr', v, hv, hflip, h⟩
  · rintro ⟨hr, v, hv, hflip, h⟩
    refine ⟨⟨r, hr, v, hv, hflip, h⟩, ?_⟩
    rcases h with ⟨-, rfl⟩ | ⟨-, h⟩
    · rfl
    · exact alertRecord_sendAveraged h

/-- **What is sent of a waiting alert, given the rows.** -/
theorem sendAveraged_eq_some_iff {extraFs : GoMap FsStats} {rows : List StatsRow} {now : ℤ}
    {val : ℚ} {unit : String} (hsorted : rows.Pairwise fun row row' => row.created ≤ row'.created)
    (hdec : ∀ row ∈ rows, row.decodable = true) :
    sendAveraged extraFs (.ok rows) (r.pending now val unit) = some a ↔
      (∃ row ∈ rows, row.created < r.start now) ∧
        5 * r.min.toNat ≤ 6 * (counted r.name (r.start now) [] (decoded rows) % 256) ∧
          Flips r (averageOf extraFs (decoded rows) (r.pending now val unit)).val ∧
            a = { averageOf extraFs (decoded rows) (r.pending now val unit) with
              triggered := !r.triggered } := by
  cases rows with
  | nil => simp [sendAveraged]
  | cons oldest rows =>
    have hfirst : (r.pending now val unit).time > oldest.created ↔
        ∃ row ∈ oldest :: rows, row.created < r.start now := by
      constructor
      · exact fun h => ⟨oldest, List.mem_cons_self, h⟩
      · rintro ⟨row, hrow, h⟩
        rcases List.mem_cons.mp hrow with rfl | hrow
        · exact h
        · exact lt_of_le_of_lt (List.rel_of_pairwise_cons hsorted hrow) h
    rw [sendAveraged, decision_averageOf]
    simp only [hfirst, List.all_eq_true.mpr hdec, and_true, Option.ite_none_right_eq_some,
      Option.some.injEq, and_assoc, @eq_comm _ a]

end Sent

/-! ## The trigger law -/

/-- The handler sends the alert. -/
def SentFor (inp : Input) (r : AlertRecord) : Prop :=
  ∃ a ∈ (handleSystemAlerts inp).sent, a.alertRecord = r

/-- The average the code computes for an alert over the records of a call. -/
def Input.average (inp : Input) (r : AlertRecord) : ℚ :=
  (averageOf inp.data.stats.extraFs inp.records (r.pending inp.now 0 "")).val

section TriggerLaw

variable {inp : Input} {r : AlertRecord}

/-- The readings have one average. -/
theorem AverageOver.unique {name : AlertName} {rs : List (String → ℚ)} {n : ℕ} {v w : ℚ}
    (hv : AverageOver name rs n v) (hw : AverageOver name rs n w) : v = w := by
  unfold AverageOver at hv hw
  split_ifs at hv hw
  · exact hv.unique hw
  · exact hv.trans hw.symm

/-- The value and the unit of the sample are not in the average. -/
theorem average_eq (val : ℚ) (unit : String) :
    (averageOf inp.data.stats.extraFs inp.records (r.pending inp.now val unit)).val =
      inp.average r :=
  (val_averageOf _ _ _ _ _ inp.records).unique (val_averageOf _ _ _ _ _ inp.records)

/-- **The trigger law.**  An alert over one minute is sent exactly if the current value speaks
against its state; one over more minutes if in addition its average does, it counts enough records
and some row of the query is older than its window.  What is sent and saved is the other state, and
an average that is sent is one over some records. -/
theorem trigger_law {rows : List StatsRow} {val : ℚ} {unit : String}
    (hwindow : inp.window = .ok rows) (hdec : ∀ row ∈ rows, row.decodable = true)
    (hr : r ∈ inp.alerts) (hval : currentValue inp.data r.name = some (val, unit))
    (hcounted : counted r.name (r.start inp.now) [] inp.records ≤ 255) :
    (r.min ≤ 1 → (SentFor inp r ↔ Flips r val)) ∧
      (1 < r.min → (SentFor inp r ↔
        Flips r val ∧ Flips r (inp.average r) ∧
          5 * r.min.toNat ≤ 6 * counted r.name (r.start inp.now) [] inp.records ∧
            ∃ row ∈ rows, row.created < r.start inp.now)) ∧
      ∀ a ∈ (handleSystemAlerts inp).sent, a.alertRecord = r →
        sendSystemAlert a = { r with triggered := !r.triggered } ∧
          (1 < r.min → a.val = inp.average r ∧ a.count ≠ 0 ∧
            a.count.toNat = counted r.name (r.start inp.now) [] inp.records) := by
  have hrecords : inp.records = decoded rows := by rw [Input.records, hwindow]
  have hmod : counted r.name (r.start inp.now) [] inp.records % 256 =
      counted r.name (r.start inp.now) [] inp.records := Nat.mod_eq_of_lt (by omega)
  have havg (a : SystemAlertData) :
      sendAveraged inp.data.stats.extraFs inp.window (r.pending inp.now val unit) = some a ↔
        (∃ row ∈ rows, row.created < r.start inp.now) ∧
          5 * r.min.toNat ≤ 6 * counted r.name (r.start inp.now) [] inp.records ∧
            Flips r (inp.average r) ∧
              a = { averageOf inp.data.stats.extraFs inp.records (r.pending inp.now val unit) with
                triggered := !r.triggered } := by
    rw [hwindow, sendAveraged_eq_some_iff (pairwise_window hwindow) hdec, ← hrecords, hmod,
      average_eq]
  refine ⟨fun hmin => ?_, fun hmin => ?_, fun a ha har => ?_⟩
  · constructor
    · rintro ⟨a, ha⟩
      obtain ⟨-, v, hv, hflip, -⟩ := mem_sent_and_iff.mp ha
      obtain rfl := Option.some.inj (hval.symm.trans hv)
      exact hflip
    · intro hflip
      exact ⟨_, mem_sent_and_iff.mpr ⟨hr, _, hval, hflip, .inl ⟨UInt8.not_lt.mpr hmin, rfl⟩⟩⟩
  · constructor
    · rintro ⟨a, ha⟩
      obtain ⟨-, v, hv, hflip, ⟨hmin', -⟩ | ⟨-, h⟩⟩ := mem_sent_and_iff.mp ha
      · exact absurd hmin hmin'
      obtain rfl := Option.some.inj (hval.symm.trans hv)
      obtain ⟨hold, henough, hflip', -⟩ := (havg a).mp h
      exact ⟨hflip, hflip', henough, hold⟩
    · rintro ⟨hflip, hflip', henough, hold⟩
      have h := (havg _).mpr ⟨hold, henough, hflip', rfl⟩
      exact ⟨_, mem_sent_and_iff.mpr ⟨hr, _, hval, hflip, .inr ⟨hmin, h⟩⟩⟩
  · obtain ⟨-, v, hv, -, ⟨hmin, rfl⟩ | ⟨hmin, h⟩⟩ := mem_sent_and_iff.mp ⟨ha, har⟩
    · exact ⟨rfl, fun hmin' => absurd hmin' hmin⟩
    obtain rfl := Option.some.inj (hval.symm.trans hv)
    obtain ⟨-, henough, -, rfl⟩ := (havg a).mp h
    have hcount :=
      (count_averageOf inp.data.stats.extraFs inp.now r val unit inp.records).trans hmod
    refine ⟨?_, fun _ => ⟨average_eq val unit, fun hzero => ?_, hcount⟩⟩
    · rw [sendSystemAlert, har]
    · -- an alert over more than one minute needs at least one record
      have hmin' : 1 < r.min.toNat := hmin
      rw [← hcount, show (averageOf _ _ _).count = 0 from hzero] at henough
      simp only [UInt8.toNat_zero] at henough
      omega

end TriggerLaw

/-- The alert of `busyNetwork`. -/
def bandwidthAlert : AlertRecord := ⟨"alert1", .bandwidth, 20, 2, true⟩

/-- The triggered alert is sent when the rate has fallen, and is then no longer triggered. -/
theorem trigger_law_busy_network :
    SentFor busyNetwork bandwidthAlert ∧
      ∀ a ∈ (handleSystemAlerts busyNetwork).sent, a.alertRecord = bandwidthAlert →
        (sendSystemAlert a).triggered = false := by
  obtain ⟨-, hsent, hstate⟩ := @trigger_law busyNetwork bandwidthAlert
    [netRow 415000 (some 30), netRow 475000 (some 30), netRow 535000 (some 10),
      netRow 595000 (some 20)] 0 " MB/s" rfl (by decide) List.mem_cons_self rfl (by decide +kernel)
  refine ⟨(hsent (by decide)).mpr ⟨by decide +kernel, by decide +kernel, by decide +kernel, ?_⟩, ?_⟩
  · exact ⟨_, List.mem_cons_self, by decide⟩
  · intro a ha har
    rw [(hstate a ha har).1]
    rfl

/-! ## The other alerts -/

/-- **The decisions for an alert**: the state and the value it is sent with. -/
def decisionsFor (inp : Input) (r : AlertRecord) : List (Bool × ℚ) :=
  ((handleSystemAlerts inp).sent.filter fun a => a.alertRecord = r).map
    fun a => (a.triggered, a.val)

/-- **The alert widens the query**: it waits for an average over more minutes than any other that
does. -/
def Widens (data : CombinedData) (alerts : List AlertRecord) (o : AlertRecord) : Prop :=
  o.Waits data ∧ ∀ r ∈ alerts, r ≠ o → r.Waits data → r.min < o.min

/-- No average can be sent for the alert: it has no metric, or it is triggered below zero by a
metric whose averages start from zero. -/
def AlertRecord.Unsendable (r : AlertRecord) : Prop :=
  (∃ name, r.name = .other name) ∨
    ((r.name = .disk ∨ r.name = .gpu) ∧ r.triggered = true ∧ r.value < 0)

section Others

variable {now : ℤ} {data : CombinedData} {alerts alerts' : List AlertRecord} {o r : AlertRecord}

/-- A filter before or after. -/
theorem filter_filterMap_comm {α β : Type} {f : α → Option β} {p : β → Bool} {q : α → Bool}
    (h : ∀ a b, f a = some b → p b = q a) (l : List α) :
    (l.filterMap f).filter p = (l.filter q).filterMap f := by
  rw [List.filter_filterMap, List.filterMap_filter]
  refine List.filterMap_congr fun a _ => ?_
  cases hf : f a with
  | none => simp
  | some b => simp [Option.filter, h a b hf]

/-- An alert keeps its record through the first loop. -/
theorem alertRecord_screen {a : SystemAlertData}
    (h : screen now data r = .sendNow a ∨ screen now data r = .wait a) : a.alertRecord = r := by
  cases hval : currentValue data r.name with
  | none => simp [screen, hval] at h
  | some v =>
    rw [screen_of_some hval] at h
    split_ifs at h
    · obtain rfl := Screened.wait.inj (h.resolve_left nofun)
      rfl
    · obtain rfl := Screened.sendNow.inj (h.resolve_right nofun)
      rfl
    · simp at h

/-- **What is sent of an alert depends on the rows and on its own record.** -/
theorem filter_sent (inp : Input) (r : AlertRecord) :
    ((handleSystemAlerts inp).sent.filter fun a => a.alertRecord = r) =
      immediate inp.now inp.data (inp.alerts.filter (· = r)) ++
        (validAlerts inp.now inp.data (inp.alerts.filter (· = r))).filterMap
          (sendAveraged inp.data.stats.extraFs inp.window) := by
  rw [sent_eq, List.filter_append]
  congr 1
  · refine filter_filterMap_comm (fun r' a h => ?_) _
    split at h
    · rename_i a' hscreen
      obtain rfl := Option.some.inj h
      rw [alertRecord_screen (.inl hscreen)]
    · cases h
  · rw [filter_filterMap_comm (q := fun a : SystemAlertData => a.alertRecord = r)
      fun a b h => by rw [alertRecord_sendAveraged h]]
    congr 1
    refine filter_filterMap_comm (fun r' a h => ?_) _
    split at h
    · rename_i a' hscreen
      obtain rfl := Option.some.inj h
      rw [alertRecord_screen (.inr hscreen)]
    · cases h

/-- Removing another alert leaves the record of this one. -/
theorem filter_without (hne : r ≠ o) :
    ((alerts.filter fun r' => r' ≠ o).filter fun r' => r' = r) =
      alerts.filter fun r' => r' = r := by
  rw [List.filter_filter]
  refine List.filter_congr fun r' _ => ?_
  by_cases h : r' = r
  · simp [h, hne]
  · simp [h]

/-- The oldest window starts at the earliest of the times. -/
theorem isLeast_oldestTime (now : ℤ) (valid : List SystemAlertData) :
    IsLeast (insert now {t | ∃ a ∈ valid, a.time = t}) (oldestTime now valid) := by
  induction valid using List.reverseRecOn with
  | nil => simp [oldestTime]
  | append_singleton valid a ih =>
    have hstep : oldestTime now (valid ++ [a]) = min (oldestTime now valid) a.time := by
      rw [oldestTime, List.foldl_append, List.foldl_cons, List.foldl_nil, ← oldestTime, min_comm,
        min_def_lt]
    have hset : insert now {t | ∃ b ∈ valid ++ [a], b.time = t} =
        insert a.time (insert now {t | ∃ b ∈ valid, b.time = t}) := by
      ext t
      simp [or_comm, or_left_comm, eq_comm, or_and_right, exists_or]
    rw [hstep, hset, min_comm]
    exact ih.insert a.time

/-- The same, over the alerts that wait. -/
theorem isLeast_oldest (now : ℤ) (data : CombinedData) (alerts : List AlertRecord) :
    IsLeast (insert now {t | ∃ r ∈ alerts, r.Waits data ∧ r.start now = t})
      (oldestTime now (validAlerts now data alerts)) := by
  have hset : {t | ∃ a ∈ validAlerts now data alerts, a.time = t} =
      {t | ∃ r ∈ alerts, r.Waits data ∧ r.start now = t} := by
    ext t
    constructor
    · rintro ⟨a, ha, rfl⟩
      obtain ⟨r, hr, v, hv, hflip, hmin, rfl⟩ := mem_validAlerts.mp ha
      exact ⟨r, hr, ⟨⟨v, hv, hflip⟩, hmin⟩, rfl⟩
    · rintro ⟨r, hr, ⟨⟨v, hv, hflip⟩, hmin⟩, rfl⟩
      exact ⟨_, mem_validAlerts.mpr ⟨r, hr, v, hv, hflip, hmin, rfl⟩, rfl⟩
  rw [← hset]
  exact isLeast_oldestTime now _

theorem start_le_start_iff : o.start now ≤ r.start now ↔ r.min ≤ o.min := by
  rw [UInt8.le_iff_toNat_le]
  unfold AlertRecord.start
  omega

/-- **Where the alert does not widen the query, the query stays as it is.** -/
theorem oldestTime_without (h : ¬ Widens data alerts o) :
    oldestTime now (validAlerts now data (alerts.filter fun r => r ≠ o)) =
      oldestTime now (validAlerts now data alerts) := by
  have hwithout := isLeast_oldest now data (alerts.filter fun r => r ≠ o)
  have hwith := isLeast_oldest now data alerts
  refine le_antisymm ?_ (hwithout.mono hwith ?_)
  · rcases hwith.1 with hnow | ⟨r, hr, hwaits, hstart⟩
    · rw [hnow]
      exact hwithout.2 (.inl rfl)
    rw [← hstart]
    by_cases hro : r = o
    · subst hro
      -- another alert waits for at least as long
      obtain ⟨r', hr', hne, hwaits', hmin⟩ : ∃ r' ∈ alerts, r' ≠ r ∧ r'.Waits data ∧
          ¬ r'.min < r.min := by
        by_contra hno
        refine h ⟨hwaits, fun r' hr' hne hwaits' => ?_⟩
        by_contra hmin
        exact hno ⟨r', hr', hne, hwaits', hmin⟩
      refine le_trans (hwithout.2 (.inr ⟨r', ?_, hwaits', rfl⟩))
        (start_le_start_iff.mpr (UInt8.not_lt.mp hmin))
      simp [hr', hne]
    · refine hwithout.2 (.inr ⟨r, ?_, hwaits, rfl⟩)
      simp [hr, hro]
  · refine Set.insert_subset_insert ?_
    rintro t ⟨r, hr, hwaits, hstart⟩
    exact ⟨r, List.mem_of_mem_filter hr, hwaits, hstart⟩

/-- **An alert that widens the query makes it start earlier.** -/
theorem oldestTime_lt (ho : o ∈ alerts) (h : Widens data alerts o) :
    oldestTime now (validAlerts now data alerts) <
      oldestTime now (validAlerts now data (alerts.filter fun r => r ≠ o)) := by
  have hle : oldestTime now (validAlerts now data alerts) ≤ o.start now :=
    (isLeast_oldest now data alerts).2 (.inr ⟨o, ho, h.1, rfl⟩)
  refine lt_of_le_of_lt hle ?_
  rcases (isLeast_oldest now data (alerts.filter fun r => r ≠ o)).1 with hnow | ⟨r, hr, hwaits, hr'⟩
  · have hmin : 1 < o.min.toNat := h.1.2
    rw [hnow, AlertRecord.start]
    omega
  · obtain ⟨hr, hne⟩ := List.mem_filter.mp hr
    have hmin := h.2 r hr (by simpa using hne) hwaits
    rw [← hr', ← not_le, start_le_start_iff]
    exact UInt8.not_le.mpr hmin

/-- An alert without a metric counts no record. -/
theorem counted_other (name : String) (time : ℤ) (earlier : List StatsJson)
    (records : List (ℤ × StatsJson)) : counted (.other name) time earlier records = 0 := by
  induction records generalizing earlier with
  | nil => rfl
  | cons row records ih => simp [counted, counts, ih]

/-- The readings of GPUs are not negative. -/
theorem readings_gpu_nonneg {extraFs : GoMap FsStats} {time : ℤ} (stats : SystemAlertStats)
    (records : List (ℤ × StatsJson)) :
    ∀ f ∈ readings extraFs .gpu time stats records, ∀ k, 0 ≤ f k := by
  induction records generalizing stats with
  | nil => exact nofun
  | cons row records ih =>
    intro f hf k
    rcases List.mem_append.mp hf with hf | hf
    · simp only [reading] at hf
      split_ifs at hf
      · cases hf
      · cases hf
      · obtain rfl := List.mem_singleton.mp hf
        exact maxUsage_nonneg _
    · exact ih _ f hf k

/-- **Nothing is sent for an alert without averages on the other side.** -/
theorem sendAveraged_of_unsendable {extraFs : GoMap FsStats}
    {window : Except String (List StatsRow)} {val : ℚ} {unit : String} (hmin : 1 < r.min)
    (h : r.Unsendable) : sendAveraged extraFs window (r.pending now val unit) = none := by
  have hdecision (records : List (ℤ × StatsJson)) :
      (averageOf extraFs records (r.pending now val unit)).decision = none := by
    have hval := val_averageOf extraFs now r val unit records
    rw [decision_averageOf]
    refine if_neg ?_
    rintro ⟨henough, hflip⟩
    rcases h with ⟨name, hname⟩ | ⟨hname, htrig, hneg⟩
    · have hzero : counted r.name (r.start now) [] records = 0 := by
        rw [hname]
        exact counted_other name _ _ _
      have hmin' : 1 < r.min.toNat := hmin
      omega
    · have hnonneg : 0 ≤ (averageOf extraFs records (r.pending now val unit)).val := by
        rcases hname with hname | hname
        · rw [hname, AverageOver] at hval
          exact hval.2 (.inl rfl)
        · rw [hname, AverageOver] at hval
          refine (div_nonneg (List.sum_nonneg fun x hx => ?_) (Nat.cast_nonneg _)).trans_eq
            hval.symm
          obtain ⟨f, hf, rfl⟩ := List.mem_map.mp hx
          exact readings_gpu_nonneg _ _ f hf ""
      have hlow : isLowAlert r.name = false := by rcases hname with h | h <;> rw [h] <;> rfl
      rcases hflip with ⟨hf, -⟩ | ⟨-, hbeyond⟩
      · exact absurd (htrig.symm.trans hf) (by decide)
      · rw [hlow] at hbeyond
        exact hbeyond (lt_of_lt_of_le hneg hnonneg)
  unfold sendAveraged
  split
  · split_ifs
    · exact hdecision _
    · rfl
  · rfl

end Others

/-! ### Rows that all say the same -/

section Steady

variable {data : CombinedData} {r : AlertRecord} {x : ℚ}

/-- A record with the same value for every metric; the extra disks and the battery are those of the
current sample. -/
def steady (data : CombinedData) (x : ℚ) : StatsJson where
  cpu := some x
  mp := some x
  dp := some x
  ns := some x
  nr := some 0
  g := some (AList.singleton "0" x)
  t := some (AList.singleton "0" x)
  efs := some data.stats.extraFs
  la := some (x, x, x)
  bat := some data.stats.battery

/-- A record repeated says nothing stale. -/
theorem stale_repeated {field : StatsJson → Option ℚ} {earlier : List StatsJson} {json : StatsJson}
    (h : ∀ j ∈ earlier, j = json) : stale field earlier json = 0 := by
  unfold stale
  split_ifs with hsome
  · rfl
  · have hnone : latest field earlier = none := by
      rw [latest, List.findSome?_eq_none_iff]
      intro j hj
      rw [h j (List.mem_reverse.mp hj)]
      simpa using hsome
    rw [hnone]
    rfl

/-- What the loop reads of such a record. -/
def steadyReading (data : CombinedData) (x : ℚ) : AlertName → Option (String → ℚ)
  | .disk => some fun k => (if k = "root" then x else 0) + pctAt data.stats.extraFs k
  | .temperature => some (valueAt (AList.singleton "0" x))
  | .gpu => some fun _ => maxUsage (AList.singleton "0" x)
  | .battery => some fun _ => data.stats.battery.1.toNat
  | .other _ => none
  | _ => some fun _ => x

theorem shown_steady {earlier : List StatsJson} (h : ∀ j ∈ earlier, j = steady data x)
    (name : AlertName) :
    shown data.stats.extraFs earlier (steady data x) name = steadyReading data x name := by
  cases name with
  | disk =>
    simp only [shown, stale_repeated h, add_zero]
    rfl
  | temperature =>
    simp only [shown, stale_repeated h, add_zero]
    rfl
  | gpu =>
    have hany : (earlier ++ [steady data x]).any hasGpu = true :=
      List.any_eq_true.mpr ⟨_, List.mem_append_right _ (List.mem_singleton_self _), rfl⟩
    simp only [shown, if_pos hany]
    rw [maxUsage_decodeAll.mpr fun k => (stale_repeated h).trans_le (maxUsage_nonneg _)]
    rfl
  | other name => rfl
  | _ =>
    simp only [shown, stale_repeated h, add_zero]
    simp [steady, steadyReading]

theorem exists_steadyReading (hname : ∀ name, r.name ≠ .other name) :
    ∃ m, steadyReading data x r.name = some m := by
  unfold steadyReading
  split <;> simp_all

/-- **Rows that all say the same average to it.** -/
theorem val_steady {m : String → ℚ} (now old : ℤ) (val : ℚ) (unit : String) (hmin : 1 < r.min)
    (hold : old - 10000 < r.start now) (hm : steadyReading data x r.name = some m) :
    let records := (old, steady data x) :: List.replicate r.min.toNat (now, steady data x)
    counted r.name (r.start now) [] records = r.min.toNat ∧
      AverageOver r.name [m] 1
        (averageOf data.stats.extraFs records (r.pending now val unit)).val := by
  intro records
  have hmin' : 1 < r.min.toNat := hmin
  have hnow : ¬ now - 10000 < r.start now := by
    rw [AlertRecord.start]
    omega
  have hread : readings data.stats.extraFs r.name (r.start now) .zero records =
      List.replicate r.min.toNat m := by
    -- the records decoded before one are all the same
    have hrest (n : ℕ) (earlier : List StatsJson) (hsame : ∀ j ∈ earlier, j = steady data x) :
        readings data.stats.extraFs r.name (r.start now) (decodeAll earlier)
          (List.replicate n (now, steady data x)) = List.replicate n m := by
      induction n generalizing earlier with
      | zero => rfl
      | succ n ih =>
        rw [List.replicate_succ, readings, if_neg hnow, ← decodeAll_concat, reading_decodeAll,
          shown_steady hsame, hm, ih, List.replicate_succ]
        · rfl
        · intro j hj
          rcases List.mem_append.mp hj with hj | hj
          · exact hsame j hj
          · exact List.mem_singleton.mp hj
    rw [readings, if_pos hold, List.nil_append]
    exact hrest _ [steady data x] fun j hj => List.mem_singleton.mp hj
  have hcounted : counted r.name (r.start now) [] records = r.min.toNat := by
    have hlen : (readings data.stats.extraFs r.name (r.start now) .zero records).length =
        counted r.name (r.start now) [] records := length_readings [] records
    rw [← hlen, hread, List.length_replicate]
  refine ⟨hcounted, ?_⟩
  have hval := val_averageOf data.stats.extraFs now r val unit records
  rw [hread, hcounted, Nat.mod_eq_of_lt r.min.toNat_lt] at hval
  have htotal (k : String) :
      total (List.replicate r.min.toNat m) k / (r.min.toNat : ℚ) = total [m] k / (1 : ℕ) := by
    have hne : (r.min.toNat : ℚ) ≠ 0 := Nat.cast_ne_zero.mpr (by omega)
    simp [total, mul_div_cancel_left₀ _ hne]
  unfold AverageOver at hval ⊢
  simpa only [htotal] using hval

/-- A value for the rows that is far on the other side of the threshold, also with the percentage of
an extra disk named `root` added to it. -/
def farValue (data : CombinedData) (r : AlertRecord) : ℚ :=
  if r.triggered then -(|r.value| + |pctAt data.stats.extraFs "root"|)
  else |r.value| + |pctAt data.stats.extraFs "root"| + 1

/-- The current value of the disks is at least that of each extra disk. -/
theorem pctAt_le_foldl (m : GoMap FsStats) (start : ℚ) (k : String) (hk : k ∈ m) :
    pctAt m k ≤ m.entries.foldl (fun m e => if e.2.usedPct > m then e.2.usedPct else m) start := by
  have hmax : ∀ (es : List (Σ _ : String, FsStats)) (b : ℚ),
      b ≤ es.foldl (fun m e => if e.2.usedPct > m then e.2.usedPct else m) b ∧
        ∀ e ∈ es, e.2.usedPct ≤
          es.foldl (fun m e => if e.2.usedPct > m then e.2.usedPct else m) b := by
    intro es
    induction es with
    | nil => exact fun b => ⟨le_rfl, nofun⟩
    | cons e es ih =>
      intro b
      rw [List.foldl_cons]
      obtain ⟨hb, hes⟩ := ih (if e.2.usedPct > b then e.2.usedPct else b)
      refine ⟨le_trans ?_ hb, fun e' he' => ?_⟩
      · split_ifs with h
        · exact le_of_lt h
        · exact le_rfl
      · rcases List.mem_cons.mp he' with rfl | he'
        · refine le_trans ?_ hb
          split_ifs with h
          · exact le_rfl
          · exact not_lt.mp h
        · exact hes e' he'
  obtain ⟨fs, hfs⟩ := Option.isSome_iff_exists.mp (AList.lookup_isSome.mpr hk)
  have hmem : (⟨k, fs⟩ : Σ _ : String, FsStats) ∈ m.entries := AList.mem_lookup_iff.mp hfs
  rw [pctAt, hfs]
  exact (hmax m.entries start).2 _ hmem

theorem valueAt_singleton (k k' : String) (x : ℚ) :
    valueAt (AList.singleton k x) k' = if k' = k then x else 0 := by
  unfold valueAt
  split_ifs with h
  · rw [h]
    simp [AList.lookup, AList.singleton_entries]
  · simp [AList.lookup, AList.singleton_entries, List.dlookup_cons_ne, h]

/-- For an alert that is not low, a value on the other side of the threshold. -/
theorem flips_of_high {v : ℚ} (hlow : isLowAlert r.name = false)
    (h : if r.triggered then v ≤ r.value else r.value < v) : Flips r v := by
  unfold Flips Beyond
  rw [hlow]
  cases ht : r.triggered <;> simp_all

/-- For an alert that takes the highest of some values and zero. -/
theorem flips_of_greatest {v : ℚ} {f : String → ℚ} (hlow : isLowAlert r.name = false)
    (hmax : IsGreatest (insert 0 (Set.range f)) v)
    (hup : r.triggered = false → ∃ k, r.value < f k)
    (hdown : r.triggered = true → 0 ≤ r.value ∧ ∀ k, f k ≤ r.value) : Flips r v := by
  refine flips_of_high hlow ?_
  split_ifs with ht
  · obtain ⟨hzero, hle⟩ := hdown ht
    rcases hmax.1 with h | ⟨k, h⟩
    · rwa [h]
    · rw [← h]
      exact hle k
  · obtain ⟨k, hk⟩ := hup (by simpa using ht)
    exact lt_of_lt_of_le hk (hmax.2 (.inr ⟨k, rfl⟩))

/-- A triggered alert flips only where the value is not above the threshold. -/
theorem le_of_flips {v : ℚ} (ht : r.triggered = true) (hlow : isLowAlert r.name = false)
    (hflip : Flips r v) : v ≤ r.value := by
  rcases hflip with ⟨hf, -⟩ | ⟨-, hb⟩
  · exact absurd (ht.symm.trans hf) (by decide)
  · rw [hlow] at hb
    exact not_lt.mp hb

variable (data) in
theorem value_lt_farValue (ht : r.triggered = false) :
    r.value + |pctAt data.stats.extraFs "root"| < farValue data r := by
  have hval := le_abs_self r.value
  rw [farValue, ht]
  simp only [Bool.false_eq_true, if_false]
  linarith

variable (data) in
theorem farValue_le (ht : r.triggered = true) :
    farValue data r + |pctAt data.stats.extraFs "root"| ≤ -|r.value| := by
  rw [farValue, if_pos ht]
  linarith

theorem flips_farValue (hlow : isLowAlert r.name = false) : Flips r (farValue data r) := by
  have hpct := abs_nonneg (pctAt data.stats.extraFs "root")
  refine flips_of_high hlow ?_
  split_ifs with ht
  · have hfar := farValue_le data ht
    have hval := neg_abs_le r.value
    linarith
  · have hfar := value_lt_farValue data (by simpa using ht : r.triggered = false)
    linarith

/-- For an alert that takes the highest of a map with one value. -/
theorem flips_singleton {v : ℚ} (hlow : isLowAlert r.name = false)
    (hmax : IsGreatest (insert 0 (Set.range (valueAt (AList.singleton "0" (farValue data r))))) v)
    (hthr : r.triggered = true → 0 ≤ r.value) : Flips r v := by
  have hpct := abs_nonneg (pctAt data.stats.extraFs "root")
  refine flips_of_greatest hlow hmax (fun ht => ⟨"0", ?_⟩) fun ht => ⟨hthr ht, fun k => ?_⟩
  · have hfar := value_lt_farValue data ht
    rw [valueAt_singleton, if_pos rfl]
    linarith
  · have hfar := farValue_le data ht
    have hval := abs_nonneg r.value
    have hzero := hthr ht
    rw [valueAt_singleton]
    split_ifs <;> linarith

/-- For an alert on the disks, with the extra ones of the current sample. -/
theorem flips_disk {v : ℚ} (hlow : isLowAlert r.name = false)
    (hmax : IsGreatest (insert 0 (Set.range fun k =>
      (if k = "root" then farValue data r else 0) + pctAt data.stats.extraFs k)) v)
    (hthr : r.triggered = true → 0 ≤ r.value)
    (hextra : r.triggered = true → ∀ k ∈ data.stats.extraFs, pctAt data.stats.extraFs k ≤ r.value) :
    Flips r v := by
  have hle := le_abs_self (pctAt data.stats.extraFs "root")
  have hge := neg_abs_le (pctAt data.stats.extraFs "root")
  refine flips_of_greatest hlow hmax (fun ht => ⟨"root", ?_⟩) fun ht => ⟨hthr ht, fun k => ?_⟩
  · have hfar := value_lt_farValue data ht
    rw [if_pos rfl]
    linarith
  · split_ifs with hk
    · have hfar := farValue_le data ht
      have hval := abs_nonneg r.value
      have hzero := hthr ht
      rw [hk]
      linarith
    · rw [zero_add]
      by_cases hmem : k ∈ data.stats.extraFs
      · exact hextra ht k hmem
      · rw [pctAt, AList.lookup_eq_none.mpr hmem]
        exact hthr ht

/-- A triggered alert on a device that something could be sent for has no negative threshold. -/
theorem value_nonneg_of_sendable (hsend : ¬ r.Unsendable) (hname : r.name = .disk ∨ r.name = .gpu)
    (ht : r.triggered = true) : 0 ≤ r.value :=
  not_lt.mp fun hneg => hsend (.inr ⟨hname, ht, hneg⟩)

/-- **Some rows speak against the state of a waiting alert.** -/
theorem flips_steady (hwaits : r.Waits data) (hsend : ¬ r.Unsendable) {m : String → ℚ} {v : ℚ}
    (hm : steadyReading data (farValue data r) r.name = some m)
    (hv : AverageOver r.name [m] 1 v) : Flips r v := by
  obtain ⟨⟨c, hc, hflip⟩, -⟩ := hwaits
  unfold AverageOver at hv
  cases hname : r.name with
  | cpu | memory | loadAvg1 | loadAvg5 | loadAvg15 | bandwidth =>
    have hlow : isLowAlert r.name = false := by rw [hname]; rfl
    rw [hname] at hm hv
    obtain rfl := Option.some.inj hm
    obtain rfl : v = farValue data r := by simpa [AlertName.keyed, total, steady] using hv
    exact flips_farValue hlow
  | battery =>
    rw [hname] at hm hv hc
    obtain rfl := Option.some.inj hm
    simp only [currentValue, Option.mem_def, Option.ite_none_left_eq_some, Option.some.injEq] at hc
    obtain ⟨-, rfl⟩ := hc
    obtain rfl : v = data.stats.battery.1.toNat := by
      simpa [AlertName.keyed, total, steady] using hv
    exact hflip
  | gpu =>
    have hlow : isLowAlert r.name = false := by rw [hname]; rfl
    have hthr : r.triggered = true → 0 ≤ r.value := value_nonneg_of_sendable hsend (.inr hname)
    rw [hname] at hm hv
    obtain rfl := Option.some.inj hm
    have hv' : v = maxUsage (AList.singleton "0" (farValue data r)) := by
      simpa [AlertName.keyed, total, steady] using hv
    exact flips_singleton hlow (hv' ▸ isGreatest_maxUsage _) hthr
  | temperature =>
    have hlow : isLowAlert r.name = false := by rw [hname]; rfl
    rw [hname] at hm hv hc
    obtain rfl := Option.some.inj hm
    have hmax : IsGreatest
        (insert 0 (Set.range fun k => valueAt (AList.singleton "0" (farValue data r)) k)) v := by
      simpa [AlertName.keyed, total, steady, entry, valueAt] using hv
    -- the current temperature is at least one degree, and not above the threshold
    simp only [currentValue, Option.mem_def, Option.ite_none_left_eq_some, Option.some.injEq,
      not_lt] at hc
    obtain ⟨hone, rfl⟩ := hc
    refine flips_singleton hlow hmax fun ht => ?_
    exact (zero_le_one.trans hone).trans (le_of_flips ht hlow hflip)
  | disk =>
    have hlow : isLowAlert r.name = false := by rw [hname]; rfl
    have hthr : r.triggered = true → 0 ≤ r.value := value_nonneg_of_sendable hsend (.inl hname)
    rw [hname] at hm hv hc
    obtain rfl := Option.some.inj hm
    obtain rfl := Option.some.inj hc
    have hmax : IsGreatest (insert 0 (Set.range fun k =>
        (if k = "root" then farValue data r else 0) + pctAt data.stats.extraFs k)) v := by
      simpa [AlertName.keyed, total, steady] using hv
    refine flips_disk hlow hmax hthr fun ht k hk => ?_
    exact (pctAt_le_foldl _ _ k hk).trans (le_of_flips ht hlow hflip)
  | other name => exact absurd (.inl ⟨name, hname⟩) hsend

end Steady

/-! ### Independence -/

theorem decisionsFor_eq_nil_iff {inp : Input} {r : AlertRecord} :
    decisionsFor inp r = [] ↔ ¬ SentFor inp r := by
  simp [decisionsFor, SentFor]

/-- The window of rows that are in order. -/
theorem window_of_pairwise {now : ℤ} {data : CombinedData} {alerts : List AlertRecord}
    {rows : List StatsRow} (hsorted : rows.Pairwise fun row row' => row.created ≤ row'.created) :
    Input.window ⟨now, data, alerts, .ok rows⟩ = .ok (rows.filter fun row =>
      row.created > oldestTime now (validAlerts now data alerts) - 90000) := by
  rw [Input.window, Except.map, query, (hsorted.filter _).insertionSort_eq]

/-- **The alert that widens the query lets another pass.**  Only one row is older than the window of
the other, and that row is read for the wider window alone. -/
theorem sentFor_steady (now : ℤ) {data : CombinedData} {alerts : List AlertRecord}
    {o r : AlertRecord} (ho : o ∈ alerts) (hr : r ∈ alerts) (hne : r ≠ o)
    (hwidens : Widens data alerts o) (hwaits : r.Waits data) (hsend : ¬ r.Unsendable) :
    ∃ rows, SentFor ⟨now, data, alerts, rows⟩ r ∧
      ¬ SentFor ⟨now, data, alerts.filter fun r' => r' ≠ o, rows⟩ r := by
  set json := steady data (farValue data r)
  set T := oldestTime now (validAlerts now data (alerts.filter fun r' => r' ≠ o)) with hT
  have hmin : 1 < r.min.toNat := hwaits.2
  have hleast := isLeast_oldest now data (alerts.filter fun r' => r' ≠ o)
  have hTnow : T ≤ now := hleast.2 (.inl rfl)
  have hTstart : T ≤ r.start now :=
    hleast.2 (.inr ⟨r, List.mem_filter.mpr ⟨hr, by simpa using hne⟩, hwaits, rfl⟩)
  have hlt : oldestTime now (validAlerts now data alerts) < T := oldestTime_lt ho hwidens
  have hstart : r.start now < now := by
    rw [AlertRecord.start]
    omega
  set recent := List.replicate r.min.toNat (⟨now, .ok json⟩ : StatsRow)
  set old : StatsRow := ⟨T - 90000, .ok json⟩
  have hrecent : ∀ row ∈ recent, row = ⟨now, .ok json⟩ := fun row => List.eq_of_mem_replicate
  have hsorted : (old :: recent).Pairwise fun row row' => row.created ≤ row'.created := by
    refine List.pairwise_cons.mpr ⟨fun row hrow => ?_, List.pairwise_replicate.mpr (.inr le_rfl)⟩
    rw [hrecent row hrow]
    change T - 90000 ≤ now
    omega
  have hdec : ∀ row ∈ old :: recent, row.decodable = true := by
    intro row hrow
    rcases List.mem_cons.mp hrow with rfl | hrow
    · rfl
    · rw [hrecent row hrow]
      rfl
  have hwith : Input.window ⟨now, data, alerts, .ok (old :: recent)⟩ = .ok (old :: recent) := by
    rw [window_of_pairwise hsorted]
    refine congrArg _ (List.filter_eq_self.mpr fun row hrow => decide_eq_true ?_)
    rcases List.mem_cons.mp hrow with rfl | hrow
    · change T - 90000 > _
      omega
    · rw [hrecent row hrow]
      change now > _
      omega
  have hwithout : Input.window ⟨now, data, alerts.filter fun r' => r' ≠ o, .ok (old :: recent)⟩ =
      .ok recent := by
    rw [window_of_pairwise hsorted, ← hT, List.filter_cons_of_neg (by simp [old])]
    refine congrArg _ (List.filter_eq_self.mpr fun row hrow => decide_eq_true ?_)
    rw [hrecent row hrow]
    change now > _
    omega
  obtain ⟨⟨v, hv, hflip⟩, hmin'⟩ := id hwaits
  refine ⟨.ok (old :: recent), ?_, ?_⟩
  · obtain ⟨m, hm⟩ : ∃ m, steadyReading data (farValue data r) r.name = some m :=
      exists_steadyReading fun name hname => hsend (.inl ⟨name, hname⟩)
    have hdecoded : decoded (old :: recent) =
        (T - 90000, json) :: List.replicate r.min.toNat (now, json) := by
      simp [decoded, old, recent]
    obtain ⟨hcounted, hval⟩ := val_steady now (T - 90000) v.1 v.2 hmin' (by omega) hm
    have h : sendAveraged data.stats.extraFs (.ok (old :: recent)) (r.pending now v.1 v.2) =
        some _ := (sendAveraged_eq_some_iff hsorted hdec).mpr
      ⟨⟨old, List.mem_cons_self, lt_of_lt_of_le (by omega : T - 90000 < T) hTstart⟩, ?_, ?_, rfl⟩
    · exact ⟨_, mem_sent_and_iff.mpr ⟨hr, v, hv, hflip, .inr ⟨hmin', hwith ▸ h⟩⟩⟩
    · rw [hdecoded, hcounted, Nat.mod_eq_of_lt r.min.toNat_lt]
      omega
    · rw [hdecoded]
      exact flips_steady hwaits hsend hm hval
  · rintro ⟨a, ha⟩
    obtain ⟨-, v, hv, -, ⟨hmin'', -⟩ | ⟨-, h⟩⟩ := mem_sent_and_iff.mp ha
    · exact hmin'' hmin'
    rw [hwithout, sendAveraged_eq_some_iff (List.Pairwise.of_cons hsorted)
      fun row hrow => hdec row (List.mem_cons_of_mem _ hrow)] at h
    obtain ⟨⟨row, hrow, hlt'⟩, -⟩ := h
    rw [hrecent row hrow] at hlt'
    exact absurd hlt' (not_lt.mpr hstart.le)

/-- **When the decision for an alert does not depend on another**, whatever rows are stored: exactly
if the other does not widen the query, or this one is not decided on an average, or no average can
be sent for it. -/
theorem decisionsFor_without_iff (now : ℤ) (data : CombinedData) {alerts : List AlertRecord}
    {o r : AlertRecord} (ho : o ∈ alerts) (hr : r ∈ alerts) (hne : r ≠ o) :
    (∀ rows, decisionsFor ⟨now, data, alerts.filter fun r' => r' ≠ o, rows⟩ r =
      decisionsFor ⟨now, data, alerts, rows⟩ r) ↔
      ¬ Widens data alerts o ∨ ¬ r.Waits data ∨ r.Unsendable := by
  constructor
  · intro h
    by_contra hno
    simp only [not_or, not_not] at hno
    obtain ⟨hwidens, hwaits, hsend⟩ := hno
    obtain ⟨rows, hsent, hnot⟩ := sentFor_steady now ho hr hne hwidens hwaits hsend
    exact decisionsFor_eq_nil_iff.not.mpr (not_not.mpr hsent)
      ((h rows).symm.trans (decisionsFor_eq_nil_iff.mpr hnot))
  · intro h rows
    rw [decisionsFor, decisionsFor, filter_sent, filter_sent, filter_without hne]
    rcases h with h | h
    · rw [Input.window, Input.window, oldestTime_without h]
    · have hnone (window : Except String (List StatsRow)) :
          (validAlerts now data (alerts.filter fun r' => r' = r)).filterMap
            (sendAveraged data.stats.extraFs window) = [] := by
        refine List.filterMap_eq_nil_iff.mpr fun a ha => ?_
        obtain ⟨r', hr', v, hv, hflip, hmin, rfl⟩ := mem_validAlerts.mp ha
        obtain rfl : r' = r := by simpa using (List.mem_filter.mp hr').2
        rcases h with h | h
        · exact absurd ⟨⟨v, hv, hflip⟩, hmin⟩ h
        · exact sendAveraged_of_unsendable hmin h
      rw [hnone, hnone]

/-- A sample of a busy system. -/
def busySample : CombinedData where
  stats := .zero
  info := { Info.zero with cpu := 95, memPct := 95 }

/-- An alert on the CPU over two minutes. -/
def cpuAlert : AlertRecord := ⟨"alert1", .cpu, 80, 2, false⟩

/-- An alert on the memory over this many minutes. -/
def memoryAlert (min : UInt8) : AlertRecord := ⟨"alert2", .memory, 80, min, false⟩

/-- A record with the CPU at 95 %. -/
def cpuRow (created : ℤ) : StatsRow where
  created := created
  stats := .ok
    { cpu := some 95, mp := some 40, dp := some 60, ns := none, nr := none, g := none, t := none,
      efs := none, la := some (0, 0, 0), bat := none }

/-- The records of a system that was away for a while: one from before, and those of the last two
minutes. -/
def afterGap : Except String (List StatsRow) :=
  .ok [cpuRow 300000, cpuRow 540000, cpuRow 600000]

/-- Alerts over the same window leave each other alone. -/
theorem decisionsFor_same_window :
    decisionsFor ⟨600000, busySample, [cpuAlert], afterGap⟩ cpuAlert =
      decisionsFor ⟨600000, busySample, [cpuAlert, memoryAlert 2], afterGap⟩ cpuAlert := by
  refine (@decisionsFor_without_iff 600000 busySample [cpuAlert, memoryAlert 2] (memoryAlert 2)
    cpuAlert (by decide) (by decide) (by decide)).mpr (.inl ?_) afterGap
  rintro ⟨-, h⟩
  exact absurd (h cpuAlert List.mem_cons_self (by decide) ⟨⟨_, rfl, by decide +kernel⟩, by decide⟩)
    (by decide)

/-- **The alert on the CPU is sent because there is one on the memory**: that one is over ten
minutes, for which the record from before the gap is read. -/
theorem decisionsFor_depends :
    decisionsFor ⟨600000, busySample, [cpuAlert], afterGap⟩ cpuAlert = [] ∧
      decisionsFor ⟨600000, busySample, [cpuAlert, memoryAlert 10], afterGap⟩ cpuAlert =
        [(true, 95)] := by
  decide +kernel

end SystemAlerts

end Beszel
