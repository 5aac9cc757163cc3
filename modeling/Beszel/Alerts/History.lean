import Beszel.Machinery.Run
import Beszel.Machinery.Table
import Mathlib.Data.Rat.Defs

/-!
# Alerts/History — the history records that follow an alert's `triggered` field

    load ──▸ set ──▸ save ──hook: false → true──▸ new unresolved record
                          ──hook: true → false──▸ first unresolved record resolved

`internal/alerts/alerts_history.go`, with the writers of alerts and `deleteOldAlertsHistory` of
`internal/records/records.go`.  The hook of a save compares the record with the one *its own writer*
loaded, the hook of a delete looks at the record the deleter loaded; neither asks the database.

Two machines run over the same hooks: one in which every operation is atomic (`Op`), and one in
which writers load, and save or delete later (`Event`).
-/

namespace Beszel

open Machinery

namespace AlertsHistory

/-! ## Records and hooks -/

/-- A record of `alerts`. -/
structure Alert where
  id : String
  user : String
  system : String
  name : String
  value : ℚ
  triggered : Bool
  deriving DecidableEq

/-- A record of `alerts_history`. -/
structure AlertHistory where
  id : ℕ
  alertId : String
  user : String
  system : String
  name : String
  value : ℚ
  created : ℕ
  resolved : Option ℕ
  deriving DecidableEq

/-- The two collections; `nextId` is an id no history record has. -/
structure Db where
  alerts : List Alert
  history : List AlertHistory
  nextId : ℕ
  deriving DecidableEq

/-- The filter `alert_id={:alert_id} && resolved=null`. -/
def AlertHistory.isOpen (alertId : String) (h : AlertHistory) : Bool :=
  h.alertId = alertId && h.resolved.isNone

/-- The first record that the filter finds, saved with the time it was resolved at. -/
def resolveFirst (alertId : String) (now : ℕ) : List AlertHistory → List AlertHistory
  | [] => []
  | h :: hs =>
    if h.isOpen alertId then { h with resolved := some now } :: hs
    else h :: resolveFirst alertId now hs

/-- `resolveAlertHistoryRecord`. -/
def resolveAlertHistoryRecord (db : Db) (alertId : String) (now : ℕ) : Db :=
  { db with history := resolveFirst alertId now db.history }

/-- `createAlertHistoryRecord`. -/
def createAlertHistoryRecord (db : Db) (alert : Alert) (now : ℕ) : Db :=
  { db with
    history := db.history ++ [{
      id := db.nextId
      alertId := alert.id
      user := alert.user
      system := alert.system
      name := alert.name
      value := alert.value
      created := now
      resolved := none }]
    nextId := db.nextId + 1 }

/-- `updateHistoryOnAlertUpdate`. -/
def updateHistoryOnAlertUpdate (db : Db) (original new : Alert) (now : ℕ) : Db :=
  if original.triggered = new.triggered then db
  else if new.triggered then createAlertHistoryRecord db new now
  else resolveAlertHistoryRecord db new.id now

/-- `resolveHistoryOnAlertDelete`. -/
def resolveHistoryOnAlertDelete (db : Db) (record : Alert) (now : ℕ) : Db :=
  if record.triggered = false then db else resolveAlertHistoryRecord db record.id now

/-- The stored alert. -/
def Db.find (db : Db) (id : String) : Option Alert := Table.lookup Alert.id db.alerts id

/-- `Save` of an existing alert that was loaded as `original`, with its hook. -/
def saveAlert (db : Db) (original new : Alert) (now : ℕ) : Db :=
  updateHistoryOnAlertUpdate { db with alerts := Table.replace Alert.id db.alerts new }
    original new now

/-- `Delete` of an alert that was loaded as `record`, with its hook. -/
def deleteAlert (db : Db) (record : Alert) (now : ℕ) : Db :=
  resolveHistoryOnAlertDelete { db with alerts := Table.remove Alert.id db.alerts record.id }
    record now

/-- `LIMIT` of SQLite, where a negative number is no limit. -/
def limit (n : ℤ) (l : List AlertHistory) : List AlertHistory :=
  if n < 0 then l else l.take n.toNat

/-- `deleteOldAlertsHistory`.  `order` has the records by `created`, newest first: of a user with
more than `countBeforeDeletion` records, those are deleted that are not among the first
`countToKeep` of the user. -/
def deleteOldAlertsHistory (db : Db) (countToKeep countBeforeDeletion : ℤ)
    (order : List AlertHistory) : Db :=
  { db with
    history := db.history.filter fun h =>
      decide ((db.history.countP (·.user = h.user) : ℤ) ≤ countBeforeDeletion) ||
        (limit countToKeep (order.filter (·.user = h.user))).any (·.id = h.id) }

/-- The number of unresolved records of an alert. -/
def Db.unresolved (db : Db) (alertId : String) : ℕ :=
  db.history.countP (AlertHistory.isOpen alertId)

/-- The number that the stored alert asks for. -/
def Db.expected (db : Db) (alertId : String) : ℕ :=
  match db.find alertId with
  | some a => if a.triggered then 1 else 0
  | none => 0

variable {db : Db} {alertId : String} {now : ℕ}

theorem expected_of_none (h : db.find alertId = none) : db.expected alertId = 0 := by
  rw [Db.expected, h]

theorem expected_of_some {a : Alert} (h : db.find alertId = some a) :
    db.expected alertId = if a.triggered then 1 else 0 := by
  rw [Db.expected, h]

/-! ### Counting unresolved records -/

/-- **Resolving** takes one unresolved record away, if there is one. -/
theorem countP_resolveFirst (id : String) (hs : List AlertHistory) :
    (resolveFirst alertId now hs).countP (AlertHistory.isOpen id)
      = hs.countP (AlertHistory.isOpen id) - if id = alertId then 1 else 0 := by
  induction hs with
  | nil => simp [resolveFirst]
  | cons h hs ih =>
    unfold resolveFirst
    by_cases ho : h.isOpen alertId
    · have hnew : AlertHistory.isOpen id { h with resolved := some now } = false := by
        simp [AlertHistory.isOpen]
      have hold : h.isOpen id = decide (id = alertId) := by
        simp only [AlertHistory.isOpen, Bool.and_eq_true, decide_eq_true_eq] at ho ⊢
        simp [ho.1, ho.2, eq_comm]
      rw [if_pos ho, List.countP_cons, List.countP_cons, hnew, hold]
      by_cases hid : id = alertId <;> simp [hid]
    · rw [if_neg ho, List.countP_cons, List.countP_cons, ih]
      by_cases hid : id = alertId
      · subst hid
        simp [ho]
      · simp [hid]

theorem unresolved_resolve (id : String) :
    (resolveAlertHistoryRecord db alertId now).unresolved id
      = db.unresolved id - if id = alertId then 1 else 0 := countP_resolveFirst id db.history

/-- **A new record** is unresolved. -/
theorem unresolved_create (alert : Alert) (id : String) :
    (createAlertHistoryRecord db alert now).unresolved id
      = db.unresolved id + if id = alert.id then 1 else 0 := by
  by_cases hid : id = alert.id
  · simp [Db.unresolved, createAlertHistoryRecord, AlertHistory.isOpen, hid]
  · simp [Db.unresolved, createAlertHistoryRecord, AlertHistory.isOpen, hid, Ne.symm hid]

@[simp] theorem unresolved_with_alerts (alerts : List Alert) (id : String) :
    Db.unresolved { db with alerts := alerts } id = db.unresolved id := rfl

/-- **What a save does to the unresolved records** is decided by the two values of its writer. -/
theorem unresolved_saveAlert (original new : Alert) (id : String) :
    (saveAlert db original new now).unresolved id =
      if id = new.id ∧ original.triggered = false ∧ new.triggered = true then db.unresolved id + 1
      else if id = new.id ∧ original.triggered = true ∧ new.triggered = false then
        db.unresolved id - 1
      else db.unresolved id := by
  unfold saveAlert updateHistoryOnAlertUpdate
  by_cases hid : id = new.id <;> cases ho : original.triggered <;> cases hn : new.triggered <;>
    simp [hid, unresolved_create, unresolved_resolve]

/-- What a delete does to them, by the value its deleter loaded. -/
theorem unresolved_deleteAlert (record : Alert) (id : String) :
    (deleteAlert db record now).unresolved id =
      if id = record.id ∧ record.triggered = true then db.unresolved id - 1
      else db.unresolved id := by
  unfold deleteAlert resolveHistoryOnAlertDelete
  by_cases hid : id = record.id <;> cases hr : record.triggered <;>
    simp [hid, unresolved_resolve]

/-! ### The stored alert -/

theorem find_saveAlert (original new : Alert) (id : String) :
    (saveAlert db original new now).find id
      = if new.id = id then (db.find id).map fun _ => new else db.find id := by
  have h : (saveAlert db original new now).alerts = Table.replace Alert.id db.alerts new := by
    unfold saveAlert updateHistoryOnAlertUpdate
    split_ifs <;> rfl
  rw [Db.find, h, Table.lookup_replace]
  rfl

theorem find_deleteAlert (record : Alert) (id : String) :
    (deleteAlert db record now).find id = if id = record.id then none else db.find id := by
  have h : (deleteAlert db record now).alerts = Table.remove Alert.id db.alerts record.id := by
    unfold deleteAlert resolveHistoryOnAlertDelete
    split_ifs <;> rfl
  rw [Db.find, h, Table.lookup_remove]
  rfl

theorem find_create (alert : Alert) (id : String) :
    Db.find { db with alerts := alert :: db.alerts } id
      = if alert.id = id then some alert else db.find id := by
  unfold Db.find Table.lookup
  rw [List.find?_cons]
  by_cases hid : alert.id = id <;> simp [hid]

/-! ## Atomic operations -/

/-- An operation on alerts that loads, changes and saves at once, or a run of the trimming. -/
inductive Op
  | create (alert : Alert)
  | update (new : Alert) (now : ℕ)
  | delete (id : String) (now : ℕ)
  | trim (countToKeep countBeforeDeletion : ℤ) (order : List AlertHistory)

/-- One operation. -/
def opStep (db : Db) : Op → Option Db
  | .create alert =>
    match db.find alert.id with
    | none => some { db with alerts := alert :: db.alerts }
    | some _ => none
  | .update new now => (db.find new.id).map fun original => saveAlert db original new now
  | .delete id now => (db.find id).map fun record => deleteAlert db record now
  | .trim countToKeep countBeforeDeletion order =>
    if order.Perm db.history ∧ order.Pairwise (fun h h' => h'.created ≤ h.created) then
      some (deleteOldAlertsHistory db countToKeep countBeforeDeletion order)
    else none

/-- **The history follows the alerts**: an alert that exists is triggered exactly if it has one
unresolved record, and not triggered exactly if it has none. -/
def Db.Consistent (db : Db) : Prop :=
  ∀ id a, db.find id = some a →
    (a.triggered = true ↔ db.unresolved id = 1) ∧ (a.triggered = false ↔ db.unresolved id = 0)

/-- Alerts are created untriggered, and an unresolved record is trimmed neither by number, since the
user has no more than the threshold, nor by age, since it is among the newest that are kept. -/
def Careful (db : Db) : Op → Prop
  | .create alert => alert.triggered = false
  | .trim countToKeep countBeforeDeletion order => ∀ h ∈ db.history, h.resolved = none →
      (db.history.countP (·.user = h.user) : ℤ) ≤ countBeforeDeletion ∨
        ∃ k ∈ limit countToKeep (order.filter (·.user = h.user)), k.id = h.id
  | _ => True

/-- The number of unresolved records is the one the alert asks for. -/
def Db.Exact (db : Db) : Prop := ∀ id, db.unresolved id = db.expected id

theorem consistent_of_exact (h : db.Exact) : db.Consistent := by
  intro id a ha
  have hid := h id
  rw [expected_of_some ha] at hid
  cases ht : a.triggered <;> simp [hid, ht]

/-- A stored alert has the id it is found under. -/
theorem id_of_find {id : String} {a : Alert} (h : db.find id = some a) : a.id = id :=
  Table.key_of_lookup h

theorem exact_update {original new : Alert} (h : db.Exact) (hf : db.find new.id = some original) :
    (saveAlert db original new now).Exact := by
  intro id
  have hid := h id
  rw [unresolved_saveAlert, Db.expected, find_saveAlert]
  by_cases hne : new.id = id
  · subst hne
    rw [expected_of_some hf] at hid
    cases ho : original.triggered <;> cases hn : new.triggered <;> simp_all
  · rw [if_neg hne, if_neg fun hc => hne hc.1.symm, if_neg fun hc => hne hc.1.symm]
    exact hid

theorem exact_delete {record : Alert} (h : db.Exact) (hf : db.find record.id = some record) :
    (deleteAlert db record now).Exact := by
  intro id
  have hid := h id
  rw [unresolved_deleteAlert, Db.expected, find_deleteAlert]
  by_cases hne : id = record.id
  · subst hne
    rw [expected_of_some hf] at hid
    cases hr : record.triggered <;> simp_all
  · rw [if_neg hne, if_neg fun hc => hne hc.1]
    exact hid

/-- **One careful operation** keeps the numbers right. -/
theorem exact_opStep {db' : Db} {op : Op} (h : db.Exact) (hok : Careful db op)
    (hstep : opStep db op = some db') : db'.Exact := by
  cases op with
  | create alert =>
    simp only [opStep] at hstep
    cases hf : db.find alert.id with
    | some a => simp [hf] at hstep
    | none =>
      rw [hf] at hstep
      obtain rfl := Option.some.inj hstep
      intro id
      have hid := h id
      rw [unresolved_with_alerts, hid, Db.expected, Db.expected, find_create]
      by_cases hne : alert.id = id
      · subst hne
        have ht : alert.triggered = false := hok
        simp [hf, ht]
      · rw [if_neg hne]
  | update new now =>
    obtain ⟨original, hf, rfl⟩ := Option.map_eq_some_iff.mp hstep
    exact exact_update h hf
  | delete id now =>
    obtain ⟨record, hf, rfl⟩ := Option.map_eq_some_iff.mp hstep
    obtain rfl := id_of_find hf
    exact exact_delete h hf
  | trim countToKeep countBeforeDeletion order =>
    simp only [opStep] at hstep
    split_ifs at hstep
    obtain rfl := Option.some.inj hstep
    intro id
    refine Eq.trans ?_ (h id)
    unfold Db.unresolved deleteOldAlertsHistory
    rw [List.countP_filter]
    refine List.countP_congr fun h hmem => ?_
    rw [Bool.and_eq_true, and_iff_left_iff_imp]
    intro hopen
    have hres : h.resolved = none := by
      simp only [AlertHistory.isOpen, Bool.and_eq_true, Option.isNone_iff_eq_none] at hopen
      exact hopen.2
    simpa using hok h hmem hres

/-- No alerts and no history. -/
def Db.init : Db := ⟨[], [], 0⟩

/-- **Careful operations keep the history consistent**, in every sequence of them. -/
theorem consistent_of_along {ops : List Op} (hok : Along opStep Careful Db.init ops)
    (hr : run opStep Db.init ops = some db) : db.Consistent :=
  consistent_of_exact (inv_of_along (fun h hc hs => exact_opStep h hc hs) (fun _ => rfl) hok hr)

/-- An alert on the CPU of a system. -/
def cpuAlert (id system : String) (triggered : Bool) : Alert :=
  ⟨id, "user", system, "CPU", 80, triggered⟩

theorem consistent_of_along_triggered :
    ∃ db, run opStep Db.init [.create (cpuAlert "a" "s" false), .update (cpuAlert "a" "s" true) 1]
        = some db ∧ db.Consistent ∧ db.unresolved "a" = 1 := by
  have hr : run opStep Db.init
    [.create (cpuAlert "a" "s" false), .update (cpuAlert "a" "s" true) 1] = some _ := rfl
  refine ⟨_, hr, consistent_of_along ?_ hr, rfl⟩
  exact .cons rfl rfl (.cons trivial rfl (along_nil _))

/-- The history record of the alert, created at its id. -/
def openRecord (n : ℕ) (alert : Alert) : AlertHistory :=
  ⟨n, alert.id, alert.user, alert.system, alert.name, alert.value, n, none⟩

/-- Two alerts of a user are triggered one after the other, and the trimming keeps one record. -/
def trimOpen : List Op :=
  [.create (cpuAlert "a" "s" false), .create (cpuAlert "b" "t" false),
    .update (cpuAlert "a" "s" true) 0, .update (cpuAlert "b" "t" true) 1,
    .trim 1 1 [openRecord 1 (cpuAlert "b" "t" true), openRecord 0 (cpuAlert "a" "s" true)]]

/-- The first alert is still triggered, and its unresolved record is gone. -/
theorem not_consistent_trimOpen :
    ∃ db, run opStep Db.init trimOpen = some db ∧
      db.find "a" = some (cpuAlert "a" "s" true) ∧ db.unresolved "a" = 0 ∧ ¬ db.Consistent := by
  refine ⟨⟨[cpuAlert "b" "t" true, cpuAlert "a" "s" true], [openRecord 1 (cpuAlert "b" "t" true)],
    2⟩, by decide, by decide, by decide, fun h => ?_⟩
  have ha := (h "a" (cpuAlert "a" "s" true) (by decide)).1.mp rfl
  exact absurd ha (by decide)

/-! ## Writers that load and save

`HandleSystemAlerts` loads the alerts of a system and leaves the save to a goroutine of
`sendSystemAlert`; the status worker saves what `HandleStatusAlerts` loaded minutes before;
`deactivateAlerts` and `resolveStatusAlerts` load and save one alert after the other. -/

/-- Who loads an alert to save or delete it. -/
inductive Writer
  | sendSystemAlert
  | statusDown
  | statusUp
  | deactivateAlerts
  | resolveStatusAlerts
  | user (triggered : Bool)
  deriving DecidableEq

namespace Writer

/-- `deactivateAlerts` loads triggered alerts only. -/
def loads (w : Writer) (a : Alert) : Bool :=
  match w with
  | .deactivateAlerts => a.triggered
  | _ => true

/-- The value the writer sets: system alerts are sent when the value changes. -/
def sets (w : Writer) (triggered : Bool) : Bool :=
  match w with
  | .sendSystemAlert => !triggered
  | .statusDown => true
  | .statusUp | .deactivateAlerts | .resolveStatusAlerts => false
  | .user value => value

end Writer

/-- A writer's copy of an alert, as it was loaded. -/
structure Copy where
  writer : Writer
  original : Alert
  deriving DecidableEq

/-- The copy with the value its writer sets. -/
def Copy.new (c : Copy) : Alert :=
  { c.original with triggered := c.writer.sets c.original.triggered }

/-- The database and the copies that writers hold. -/
structure State where
  db : Db
  copies : List Copy
  deriving DecidableEq

/-- A database with some alerts and no history. -/
def State.init (alerts : List Alert) : State := ⟨⟨alerts, [], 0⟩, []⟩

/-- What can happen.  A save may fail, also because the alert is gone, and then nothing is
written. -/
inductive Event
  | create (alert : Alert)
  | load (w : Writer) (id : String)
  | save (c : Copy) (ok : Bool) (now : ℕ)
  | delete (c : Copy) (now : ℕ)

/-- One step. -/
def step (s : State) : Event → Option State
  | .create alert =>
    match s.db.find alert.id with
    | none => some { s with db := { s.db with alerts := alert :: s.db.alerts } }
    | some _ => none
  | .load w id =>
    match s.db.find id with
    | some a => if w.loads a then some { s with copies := ⟨w, a⟩ :: s.copies } else none
    | none => none
  | .save c ok now =>
    if c ∈ s.copies then
      some { s with
        db := if ok then saveAlert s.db c.original c.new now else s.db
        copies := s.copies.erase c }
    else none
  | .delete c now =>
    if c ∈ s.copies then
      some { s with db := deleteAlert s.db c.original now, copies := s.copies.erase c }
    else none

/-- **At most one unresolved record** for every alert, and none for one that is not there. -/
def State.AtMostOne (s : State) : Prop :=
  ∀ id, s.db.unresolved id ≤ 1 ∧ (s.db.find id = none → s.db.unresolved id = 0)

/-- A writer that loaded the alert untriggered saves or deletes it only while it still is, and
triggers it only while it is there. -/
def Fresh (s : State) : Event → Prop
  | .save c true _ => c.original.triggered = false →
      match s.db.find c.original.id with
      | some a => a.triggered = false
      | none => c.new.triggered = false
  | .delete c _ => c.original.triggered = false →
      ∀ a, s.db.find c.original.id = some a → a.triggered = false
  | _ => True

/-- No more unresolved records than the alert asks for. -/
def Db.Bounded (db : Db) : Prop := ∀ id, db.unresolved id ≤ db.expected id

theorem atMostOne_of_bounded {s : State} (h : s.db.Bounded) : s.AtMostOne := by
  intro id
  have hid := h id
  cases hf : s.db.find id with
  | none =>
    rw [expected_of_none hf] at hid
    exact ⟨by omega, fun _ => by omega⟩
  | some a =>
    rw [expected_of_some hf] at hid
    exact ⟨hid.trans (by split_ifs <;> omega), nofun⟩

/-- **A save** with a copy that is triggered, or still agrees with the stored alert. -/
theorem bounded_saveAlert {original new : Alert} (h : db.Bounded)
    (hf : original.triggered = false → match db.find new.id with
      | some a => a.triggered = false
      | none => new.triggered = false) : (saveAlert db original new now).Bounded := by
  intro id
  have hid := h id
  rw [unresolved_saveAlert]
  by_cases hne : id = new.id
  · subst hne
    have hfind : (saveAlert db original new now).find new.id
        = (db.find new.id).map fun _ => new := by rw [find_saveAlert, if_pos rfl]
    cases hold : db.find new.id with
    | none =>
      rw [expected_of_none hold] at hid
      rw [hold] at hf hfind
      rw [expected_of_none hfind]
      cases ho : original.triggered <;> cases hn : new.triggered <;> simp_all
    | some a =>
      rw [expected_of_some hold] at hid
      rw [hold] at hf hfind
      rw [expected_of_some hfind]
      cases ho : original.triggered <;> cases hn : new.triggered <;> cases ha : a.triggered <;>
        simp_all
  · rw [if_neg fun hc => hne hc.1, if_neg fun hc => hne hc.1, Db.expected, find_saveAlert,
      if_neg (Ne.symm hne)]
    exact hid

/-- **A delete** with a copy that is triggered, or still agrees with the stored alert. -/
theorem bounded_deleteAlert {record : Alert} (h : db.Bounded)
    (hf : record.triggered = false → ∀ a, db.find record.id = some a → a.triggered = false) :
    (deleteAlert db record now).Bounded := by
  intro id
  have hid := h id
  rw [unresolved_deleteAlert, Db.expected, find_deleteAlert]
  by_cases hne : id = record.id
  · subst hne
    rw [if_pos rfl]
    cases hold : db.find record.id with
    | none =>
      rw [expected_of_none hold] at hid
      split_ifs <;> omega
    | some a =>
      rw [expected_of_some hold] at hid
      cases hr : record.triggered with
      | false =>
        have ha := hf hr a hold
        simp_all
      | true =>
        simp only [and_self, if_true]
        split_ifs at hid <;> omega
  · rw [if_neg hne, if_neg fun hc => hne hc.1]
    exact hid

/-- **One step with fresh copies** keeps the bound. -/
theorem bounded_step {s s' : State} {e : Event} (h : s.db.Bounded) (hok : Fresh s e)
    (hstep : step s e = some s') : s'.db.Bounded := by
  cases e with
  | create alert =>
    simp only [step] at hstep
    cases hf : s.db.find alert.id with
    | some a => simp [hf] at hstep
    | none =>
      rw [hf] at hstep
      obtain rfl := Option.some.inj hstep
      intro id
      have hid := h id
      rw [unresolved_with_alerts, Db.expected, find_create]
      by_cases hne : alert.id = id
      · subst hne
        rw [expected_of_none hf] at hid
        exact hid.trans (Nat.zero_le _)
      · rw [if_neg hne]
        exact hid
  | load w id =>
    simp only [step] at hstep
    cases hf : s.db.find id with
    | none => simp [hf] at hstep
    | some a =>
      simp only [hf] at hstep
      split_ifs at hstep
      obtain rfl := Option.some.inj hstep
      exact h
  | save c ok now =>
    simp only [step] at hstep
    split_ifs at hstep with hc hok'
    · obtain rfl := Option.some.inj hstep
      subst hok'
      exact bounded_saveAlert h hok
    · obtain rfl := Option.some.inj hstep
      exact h
  | delete c now =>
    simp only [step] at hstep
    split_ifs at hstep
    obtain rfl := Option.some.inj hstep
    exact bounded_deleteAlert h hok

/-- **With fresh copies** there is at most one unresolved record for every alert, and none once it
was deleted — in every run, from any alerts. -/
theorem atMostOne_of_along {alerts : List Alert} {es : List Event} {s : State}
    (hok : Along step Fresh (State.init alerts) es)
    (hr : run step (State.init alerts) es = some s) : s.AtMostOne := by
  refine atMostOne_of_bounded (inv_of_along (I := fun s => s.db.Bounded)
    (fun h hc hs => bounded_step h hc hs) (fun id => ?_) hok hr)
  exact Nat.zero_le _

/-- A user saves the alert between the load and the save of what is sent of it, and again while it
is being deactivated. -/
def overlappingWriters : List Event :=
  let untriggered := cpuAlert "a" "s" false
  [.load .sendSystemAlert "a", .load (.user false) "a", .save ⟨.user false, untriggered⟩ true 1,
    .save ⟨.sendSystemAlert, untriggered⟩ true 2, .load .deactivateAlerts "a",
    .load (.user true) "a", .save ⟨.user true, cpuAlert "a" "s" true⟩ true 3]

theorem atMostOne_of_along_overlapping :
    ∃ s, run step (State.init [cpuAlert "a" "s" false]) overlappingWriters = some s ∧
      s.AtMostOne ∧ s.db.unresolved "a" = 1 := by
  have hr : run step (State.init [cpuAlert "a" "s" false]) overlappingWriters = some _ := rfl
  refine ⟨_, hr, atMostOne_of_along ?_ hr, rfl⟩
  exact .cons trivial rfl (.cons trivial rfl (.cons (fun _ => rfl) rfl (.cons (fun _ => rfl) rfl
    (.cons trivial rfl (.cons trivial rfl (.cons (fun h => absurd h.symm Bool.false_ne_true) rfl
      (along_nil _)))))))

/-- Two system alerts are sent from copies that were loaded before either was saved. -/
def staleWriters : List Event :=
  let c : Copy := ⟨.sendSystemAlert, cpuAlert "a" "s" false⟩
  [.load .sendSystemAlert "a", .load .sendSystemAlert "a", .save c true 1, .save c true 2]

/-- Each of them sees the edge from `false` to `true`: two unresolved records. -/
theorem not_atMostOne_staleWriters :
    ∃ s, run step (State.init [cpuAlert "a" "s" false]) staleWriters = some s ∧
      s.db.unresolved "a" = 2 ∧ ¬ s.AtMostOne := by
  refine ⟨⟨⟨[cpuAlert "a" "s" true], [openRecord 0 (cpuAlert "a" "s" true) |> fun h =>
    { h with created := 1 }, openRecord 1 (cpuAlert "a" "s" true) |> fun h =>
    { h with created := 2 }], 2⟩, []⟩, by decide, by decide, fun h => ?_⟩
  exact absurd (h "a").1 (by decide)

end AlertsHistory

end Beszel
