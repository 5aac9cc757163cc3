import Mathlib.Data.Int.Order.Basic
import Mathlib.Data.List.Basic

/-!
# Alerts/QuietHours — times at which no notification is sent

`IsNotificationSilenced` of `internal/alerts/alerts.go` and the clean-up `deleteOldQuietHours` of
`internal/records/records.go`.  A window is once, from an instant to another, or daily, from a
minute of the day to another, across midnight if the second comes first.  Times are nanoseconds, and
UTC.
-/

namespace Beszel

namespace QuietHours

/-- `quiet_hours.type`. -/
inductive WindowType
  | oneTime
  | daily
  deriving DecidableEq, Repr

/-- A row of `quiet_hours`: without a system it is for all of them.  `stop` is `end`. -/
structure Window where
  user : String
  system : String
  type : WindowType
  start : ℤ
  stop : ℤ
  deriving DecidableEq

/-- The hour of `Time.Clock`. -/
def hour (t : ℤ) : ℤ := t / 3600000000000 % 24

/-- The minute of `Time.Clock`. -/
def minute (t : ℤ) : ℤ := t / 60000000000 % 60

/-- Minutes since midnight. -/
def minutes (t : ℤ) : ℤ := hour t * 60 + minute t

/-- The filter of the query. -/
def selected (userID systemID : String) (w : Window) : Bool :=
  if systemID = "" then w.user = userID ∧ w.system = ""
  else w.user = userID ∧ (w.system = "" ∨ w.system = systemID)

/-- The body of the loop: whether a window silences the time. -/
def silences (now : ℤ) (w : Window) : Bool :=
  match w.type with
  | .daily =>
    let startMinutes := minutes w.start
    let endMinutes := minutes w.stop
    let nowMinutes := minutes now
    if endMinutes < startMinutes then nowMinutes ≥ startMinutes ∨ nowMinutes < endMinutes
    else nowMinutes ≥ startMinutes ∧ nowMinutes < endMinutes
  | .oneTime => (now > w.start ∨ now = w.start) ∧ now < w.stop

/-- `IsNotificationSilenced`, on what the query gives; `none` is an error. -/
def isNotificationSilenced (quietHourWindows : Option (List Window)) (now : ℤ) : Bool :=
  match quietHourWindows with
  | none => false
  | some windows => windows.any (silences now)

/-- **`IsNotificationSilenced`**, with the rows of the collection. -/
def silenced (db : List Window) (userID systemID : String) (now : ℤ) : Bool :=
  isNotificationSilenced (some (db.filter (selected userID systemID))) now

/-- `deleteOldQuietHours`.  The database compares the stored text of a date with the text of the
time it is given: `earlier` is that comparison. -/
def deleteOldQuietHours (earlier : ℤ → ℤ → Bool) (db : List Window) (now : ℤ) : List Window :=
  db.filter fun w => !(w.type = .oneTime && earlier w.stop now)

/-! ## Covering -/

/-- **The half-open interval from `a` to `b` on a circle of `n` points**, empty if they are equal:
`x` is met before `b` on the way from `a`. -/
def OnCircle (n a b x : ℤ) : Prop := (x - a) % n < (b - a) % n

/-- **A window covers a time**: a daily one by the minute of the day. -/
def Covers (w : Window) (t : ℤ) : Prop :=
  match w.type with
  | .daily => OnCircle 1440 (minutes w.start) (minutes w.stop) (minutes t)
  | .oneTime => w.start ≤ t ∧ t < w.stop

/-- The way from `a` to `x`. -/
theorem sub_emod {n a x : ℤ} (ha : 0 ≤ a ∧ a < n) (hx : 0 ≤ x ∧ x < n) :
    (x - a) % n = if a ≤ x then x - a else x - a + n := by
  split_ifs with h
  · exact Int.emod_eq_of_lt (by omega) (by omega)
  · rw [← Int.add_emod_right]
    exact Int.emod_eq_of_lt (by omega) (by omega)

/-- **The interval on the line**: it goes on across zero if its end comes before its start. -/
theorem onCircle_iff {n a b x : ℤ} (ha : 0 ≤ a ∧ a < n) (hb : 0 ≤ b ∧ b < n) (hx : 0 ≤ x ∧ x < n) :
    OnCircle n a b x ↔ if b < a then a ≤ x ∨ x < b else a ≤ x ∧ x < b := by
  rw [OnCircle, sub_emod ha hx, sub_emod ha hb]
  split_ifs <;> omega

theorem minutes_mem (t : ℤ) : 0 ≤ minutes t ∧ minutes t < 1440 := by
  unfold minutes hour minute
  omega

/-- **The loop asks whether a window covers the time.** -/
theorem silences_iff (now : ℤ) (w : Window) : silences now w = true ↔ Covers w now := by
  unfold silences Covers
  cases w.type with
  | daily =>
    dsimp only
    rw [onCircle_iff (minutes_mem _) (minutes_mem _) (minutes_mem _)]
    split_ifs <;> simp
  | oneTime =>
    simp only [decide_eq_true_eq]
    omega

/-- A window is global or for the system. -/
theorem selected_iff (userID systemID : String) (w : Window) :
    selected userID systemID w = true ↔
      w.user = userID ∧ (w.system = "" ∨ w.system = systemID) := by
  unfold selected
  split_ifs with h
  · simp [h]
  · simp

/-- **When a notification is silenced.** -/
theorem silenced_iff {db : List Window} {userID systemID : String} {now : ℤ} :
    silenced db userID systemID now = true ↔
      ∃ w ∈ db, w.user = userID ∧ (w.system = "" ∨ w.system = systemID) ∧ Covers w now := by
  simp only [silenced, isNotificationSilenced, List.any_eq_true, List.mem_filter, selected_iff,
    silences_iff, and_assoc]

/-! ## The clean-up -/

variable {earlier : ℤ → ℤ → Bool} {db : List Window} {t t' : ℤ}

/-- A window that is deleted covers no later time. -/
theorem not_covers_of_deleted (hearlier : ∀ e n, earlier e n = true → e < n) {w : Window}
    (htype : w.type = .oneTime) (hdeleted : earlier w.stop t = true) (ht : t ≤ t') :
    ¬ Covers w t' := by
  unfold Covers
  rw [htype]
  have hstop := hearlier w.stop t hdeleted
  rintro ⟨-, hlt⟩
  omega

/-- **The clean-up changes no later answer.** -/
theorem silenced_deleteOldQuietHours (hearlier : ∀ e n, earlier e n = true → e < n) (ht : t ≤ t')
    (userID systemID : String) :
    silenced (deleteOldQuietHours earlier db t) userID systemID t' =
      silenced db userID systemID t' := by
  rw [Bool.eq_iff_iff, silenced_iff, silenced_iff]
  refine exists_congr fun w => ⟨fun ⟨hw, hcovers⟩ => ⟨(List.mem_filter.mp hw).1, hcovers⟩,
    fun ⟨hw, huser, hsystem, hcovers⟩ => ⟨?_, huser, hsystem, hcovers⟩⟩
  refine List.mem_filter.mpr ⟨hw, ?_⟩
  rw [Bool.not_eq_true', Bool.and_eq_false_iff, decide_eq_false_iff_not, ← Bool.not_eq_true]
  by_contra hcontra
  rw [not_or, not_not, not_not] at hcontra
  exact not_covers_of_deleted hearlier hcontra.1 hcontra.2 ht hcovers

/-- **Quiet hours.**  A notification is silenced if a window of the user, global or for the system,
covers the time; more windows silence more; and the clean-up, whenever it runs, changes no answer
from then on. -/
theorem quietHours_exact (hearlier : ∀ e n, earlier e n = true → e < n) (db : List Window)
    (userID systemID : String) :
    (∀ now, silenced db userID systemID now = true ↔
        ∃ w ∈ db, w.user = userID ∧ (w.system = "" ∨ w.system = systemID) ∧ Covers w now) ∧
      (∀ db' now, db ⊆ db' → silenced db userID systemID now = true →
        silenced db' userID systemID now = true) ∧
      ∀ t t', t ≤ t' → silenced (deleteOldQuietHours earlier db t) userID systemID t' =
        silenced db userID systemID t' := by
  refine ⟨fun _ => silenced_iff, fun db' now hsub h => ?_, fun t t' ht =>
    silenced_deleteOldQuietHours hearlier ht userID systemID⟩
  obtain ⟨w, hw, hcovers⟩ := silenced_iff.mp h
  exact silenced_iff.mpr ⟨w, hsub hw, hcovers⟩

/-- A window from 23:00 to 01:00 every night, and one that ended at noon of the first day. -/
def nightAndMorning : List Window :=
  [⟨"u", "", .daily, 23 * 3600000000000, 25 * 3600000000000⟩,
    ⟨"u", "s", .oneTime, 0, 12 * 3600000000000⟩]

theorem quietHours_exact_night :
    (∀ now, silenced nightAndMorning "u" "s" now = true ↔
        ∃ w ∈ nightAndMorning, w.user = "u" ∧ (w.system = "" ∨ w.system = "s") ∧ Covers w now) ∧
      (∀ db' now, nightAndMorning ⊆ db' → silenced nightAndMorning "u" "s" now = true →
        silenced db' "u" "s" now = true) ∧
      ∀ t t', t ≤ t' →
        silenced (deleteOldQuietHours (fun e n => e < n) nightAndMorning t) "u" "s" t' =
          silenced nightAndMorning "u" "s" t' :=
  quietHours_exact (fun _ _ h => by simpa using h) nightAndMorning "u" "s"

example : silenced nightAndMorning "u" "" (24 * 3600000000000 + 1) = true := by decide

end QuietHours

end Beszel
