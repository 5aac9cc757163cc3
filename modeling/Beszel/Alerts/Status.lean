import Beszel.Machinery.Run
import Beszel.Hub.Record
import Mathlib.Data.Int.Order.Basic
import Mathlib.Logic.Function.Basic

/-!
# Alerts/Status — the delayed "down" alert and its cancellation

    save ──▸ hook ──▸ HandleStatusAlerts ──task──▸ worker ──▸ pendingAlerts ──ticker──▸ send

`internal/alerts/alerts_status.go`, with the record hook of
`internal/hub/systems/system_manager.go` that calls it.  A status is committed first and its hook
runs afterwards, on the goroutine that saved; `HandleStatusAlerts` looks each alert of the system up
in the map of pending alerts and queues a task for it; the worker stores or deletes map entries as
it takes the tasks, and sends what has expired when its ticker fires.

Every step below is one access to what these goroutines share.  Times are in nanoseconds.
-/

namespace Beszel

open Machinery

namespace StatusAlerts

/-! ## The records and the goroutines -/

/-- `time.Minute`. -/
def minute : ℤ := 60000000000

/-- An `alerts` record with the name `Status`. -/
structure StatusAlert where
  id : String
  system : SystemId
  min : ℤ
  deriving DecidableEq, Repr

/-- `time.Duration(max(1, min)) * time.Minute`. -/
def StatusAlert.delay (a : StatusAlert) : ℤ := max 1 a.min * minute

/-- The two actions of a task. -/
inductive Action
  | schedule
  | cancel
  deriving DecidableEq, Repr

/-- `alertTask`; a cancellation has no delay. -/
structure AlertTask where
  action : Action
  alert : StatusAlert
  delay : ℤ
  deriving DecidableEq, Repr

/-- A call of `HandleStatusAlerts` that has read its alerts: those still to be looked up, and the
one whose task waits for room in the queue.  `action` is `schedule` in `handleSystemDown` and
`cancel` in `handleSystemUp`. -/
structure Job where
  action : Action
  todo : List StatusAlert
  sending : Option StatusAlert
  deriving DecidableEq, Repr

/-- The status of a system record, and since when it has had it. -/
structure StatusRecord where
  status : SystemStatus
  since : ℤ
  deriving DecidableEq, Repr

/-- A notification, with the system's record at the time it was sent. -/
structure Sent where
  status : SystemStatus
  alert : StatusAlert
  record : StatusRecord
  time : ℤ
  deriving DecidableEq, Repr

/-- `db` is the `systems` collection, `store` the status field of the instances in the manager,
`hooks` the committed saves whose hook has not run, `jobs` the calls of `HandleStatusAlerts` in
progress; `sweep` is the ticker's branch of the worker: the time it began and the entries it has
still to look at. -/
structure State where
  now : ℤ
  db : SystemId → StatusRecord
  store : SystemId → Option SystemStatus
  hooks : List (SystemId × SystemStatus)
  jobs : List Job
  alertQueue : List AlertTask
  pendingAlerts : List (StatusAlert × ℤ)
  sweep : Option (ℤ × List (StatusAlert × ℤ))
  log : List Sent

/-- A hub that has just started, over any statuses in the database and in the manager. -/
def State.init (db : SystemId → SystemStatus) (store : SystemId → Option SystemStatus) : State where
  now := 0
  db sys := ⟨db sys, 0⟩
  store := store
  hooks := []
  jobs := []
  alertQueue := []
  pendingAlerts := []
  sweep := none
  log := []

/-- What can happen.  `ws` says whether the instance has a WebSocket connection, `added` whether
`AddRecord` succeeds; `load` and `push` are the two steps of a call of `HandleStatusAlerts` for one
alert, `dequeue`, `tick` and `sweepNext` those of the worker. -/
inductive Event
  | advance (ns : ℕ)
  | commit (sys : SystemId) (status : SystemStatus)
  | hook (sys : SystemId) (status : SystemStatus) (ws added : Bool)
  | removeSystem (sys : SystemId)
  | addRecord (sys : SystemId)
  | load (j : Job)
  | push (j : Job)
  | dequeue
  | tick
  | sweepNext
  deriving DecidableEq, Repr

/-! ## The steps -/

section Steps

variable (alerts : List StatusAlert)

/-- A committed save: a status that does not change keeps its age. -/
def commit (s : State) (sys : SystemId) (status : SystemStatus) : State :=
  { s with
    db := if (s.db sys).status = status then s.db
      else Function.update s.db sys ⟨status, s.now⟩
    hooks := (sys, status) :: s.hooks }

/-- A call in progress, unless nothing is left of it. -/
def putJob (s : State) (j : Job) : State :=
  { s with jobs := if j.todo = [] ∧ j.sending = none then s.jobs else j :: s.jobs }

/-- `HandleStatusAlerts` up to its loop, for a status that is `up` or `down`. -/
def handleStatusAlerts (s : State) (sys : SystemId) (action : Action) : State :=
  putJob s ⟨action, alerts.filter (·.system = sys), none⟩

/-- `AddRecord`, of a record with the given status. -/
def addRecord (s : State) (sys : SystemId) (status : SystemStatus) (added : Bool) : State :=
  { s with store := Function.update s.store sys (if added then some status else none) }

/-- The part of `onRecordAfterUpdateSuccess` that depends on the new status, for an instance whose
status was `prevStatus`. -/
def onStatusChange (s : State) (sys : SystemId) (prevStatus : SystemStatus) (ws added : Bool) :
    SystemStatus → State
  | .paused => s
  | .pending => if ws then s else addRecord s sys .pending added
  | .down => if prevStatus = .up then handleStatusAlerts alerts s sys .schedule else s
  | .up => if prevStatus = .down then handleStatusAlerts alerts s sys .cancel else s

/-- `onRecordAfterUpdateSuccess`.  An instance in the store takes the new status; a system that is
not in the store is added, unless it is paused. -/
def onRecordAfterUpdateSuccess (s : State) (sys : SystemId) (status : SystemStatus)
    (ws added : Bool) : State :=
  match s.store sys with
  | some prevStatus =>
    onStatusChange alerts { s with store := Function.update s.store sys (some status) } sys
      prevStatus ws added status
  | none => if status = .paused then s else addRecord s sys status added

/-- The alert has an entry in `pendingAlerts`, which is keyed by the alert's id. -/
def State.pends (s : State) (a : StatusAlert) : Bool := s.pendingAlerts.any (·.1.id = a.id)

/-- `pendingAlerts.Delete`. -/
def deletePending (s : State) (a : StatusAlert) : State :=
  { s with pendingAlerts := s.pendingAlerts.filter (·.1.id ≠ a.id) }

/-- `sendStatusAlert`. -/
def sendStatusAlert (s : State) (status : SystemStatus) (a : StatusAlert) : State :=
  { s with log := ⟨status, a, s.db a.system, s.now⟩ :: s.log }

/-- One turn of the loop of `handleSystemDown` or `handleSystemUp`, up to the send on the queue. -/
def load (s : State) (j : Job) (a : StatusAlert) (rest : List StatusAlert) : State :=
  match j.action with
  | .schedule =>
    if s.pends a then putJob s ⟨.schedule, rest, none⟩ else putJob s ⟨.schedule, rest, some a⟩
  | .cancel =>
    if s.pends a then putJob s ⟨.cancel, rest, some a⟩
    else putJob (sendStatusAlert s .up a) ⟨.cancel, rest, none⟩

/-- The task a call sends for an alert. -/
def task (action : Action) (a : StatusAlert) : AlertTask :=
  ⟨action, a, match action with | .schedule => a.delay | .cancel => 0⟩

/-- The worker's branch for a task. -/
def handleTask (s : State) (t : AlertTask) : State :=
  match t.action with
  | .schedule =>
    { s with
      pendingAlerts := (t.alert, s.now + t.delay) :: (deletePending s t.alert).pendingAlerts }
  | .cancel => deletePending s t.alert

/-- The worker looks at one entry in the ticker's branch that began at `began`. -/
def sweepEntry (s : State) (began : ℤ) (p : StatusAlert × ℤ) : State :=
  if p ∈ s.pendingAlerts ∧ p.2 < began then deletePending (sendStatusAlert s .down p.1) p.1 else s

/-- **One event.**  The queue holds five tasks; the worker takes a task or a tick only when it has
finished the last one. -/
def step (s : State) : Event → Option State
  | .advance ns => some { s with now := s.now + ns }
  | .commit sys status => some (commit s sys status)
  | .hook sys status ws added =>
    if (sys, status) ∈ s.hooks then
      some (onRecordAfterUpdateSuccess alerts { s with hooks := s.hooks.erase (sys, status) }
        sys status ws added)
    else none
  | .removeSystem sys => some { s with store := Function.update s.store sys none }
  | .addRecord sys => some (addRecord s sys (s.db sys).status true)
  | .load j =>
    match j.todo, j.sending with
    | a :: rest, none =>
      if j ∈ s.jobs then some (load { s with jobs := s.jobs.erase j } j a rest) else none
    | _, _ => none
  | .push j =>
    match j.sending with
    | some a =>
      if j ∈ s.jobs ∧ s.alertQueue.length < 5 then
        some (putJob
          { s with jobs := s.jobs.erase j, alertQueue := s.alertQueue ++ [task j.action a] }
          { j with sending := none })
      else none
    | none => none
  | .dequeue =>
    match s.sweep, s.alertQueue with
    | none, t :: rest => some (handleTask { s with alertQueue := rest } t)
    | _, _ => none
  | .tick => if s.sweep = none then some { s with sweep := some (s.now, s.pendingAlerts) } else none
  | .sweepNext =>
    match s.sweep with
    | some (began, p :: rest) => some (sweepEntry { s with sweep := some (began, rest) } began p)
    | some (_, []) => some { s with sweep := none }
    | none => none

end Steps

/-! ## When an alert may fire

An entry of the map is sent without another look at the system.  So it must be the entry of an
outage that still lasts, and that is decided by the steps that end the outage: nothing may still be
on its way into the map then, what is in the map must be found by `handleSystemUp`, and the ticker
must leave an entry alone that is about to be cancelled. -/

/-- **The system is down and has been for the alert's minutes** when the notification is sent. -/
def Timely (n : Sent) : Prop :=
  n.record.status = .down ∧ n.record.since + n.alert.min * minute ≤ n.time

/-- A task of this action for the alert is queued, or a call of `HandleStatusAlerts` has still to
look the alert up or to send the task. -/
def UnderWay (s : State) (action : Action) (a : StatusAlert) : Prop :=
  (∃ t ∈ s.alertQueue, t.action = action ∧ t.alert = a) ∨
    ∃ j ∈ s.jobs, j.action = action ∧ (a ∈ j.todo ∨ j.sending = some a)

/-- The system has an entry in the map that no cancellation under way will delete. -/
def Loose (s : State) (sys : SystemId) : Prop :=
  ∃ p ∈ s.pendingAlerts, p.1.system = sys ∧ ¬ UnderWay s .cancel p.1

/-- A save that takes the system out of `down`: nothing of it is still being scheduled, and if it
has an entry, the new status is `up`, and its hook will find an instance that is `down` and no hook
of a pause or a resume before it. -/
def EndsOutage (s : State) (sys : SystemId) (status : SystemStatus) : Prop :=
  (∀ a, a.system = sys → ¬ UnderWay s .schedule a) ∧ (sys, .down) ∉ s.hooks ∧
    (Loose s sys → status = .up ∧ s.store sys = some .down ∧ (sys, .paused) ∉ s.hooks ∧
      (sys, .pending) ∉ s.hooks)

/-- The steps that keep the map and the outages together. -/
def Orderly (s : State) : Event → Prop
  | .commit sys status =>
    ((s.db sys).status = .down → status ≠ .down → EndsOutage s sys status) ∧
      (status = .paused ∨ status = .pending → Loose s sys → (sys, .up) ∉ s.hooks)
  | .removeSystem sys | .addRecord sys => Loose s sys → (sys, .up) ∉ s.hooks
  | .sweepNext => ∀ began p rest, s.sweep = some (began, p :: rest) → p ∈ s.pendingAlerts →
    p.2 < began → ¬ UnderWay s .cancel p.1 ∧ (p.1.system, .up) ∉ s.hooks
  | _ => True

/-- The hook of an `up` is waiting and will cancel the system's entries. -/
def WillCancel (s : State) (sys : SystemId) : Prop :=
  (sys, .up) ∈ s.hooks ∧ s.store sys = some .down ∧ (sys, .paused) ∉ s.hooks ∧
    (sys, .pending) ∉ s.hooks

/-- The entry belongs to an outage that still lasts, and expires late enough. -/
def Due (s : State) (p : StatusAlert × ℤ) : Prop :=
  (s.db p.1.system).status = .down ∧ (s.db p.1.system).since + p.1.min * minute ≤ p.2

/-- What orderly runs keep: `entries` is the point, the rest says what is on its way into the
map. -/
structure Inv (alerts : List StatusAlert) (s : State) : Prop where
  timely : ∀ n ∈ s.log, n.status = .down → Timely n
  clock : ∀ sys, (s.db sys).since ≤ s.now
  began : ∀ r ∈ s.sweep, r.1 ≤ s.now
  delays : ∀ t ∈ s.alertQueue, t.action = .schedule → t.delay = t.alert.delay
  scheduled : ∀ a, UnderWay s .schedule a → a ∈ alerts ∧ (s.db a.system).status = .down
  downHooks : ∀ sys, (sys, .down) ∈ s.hooks → (s.db sys).status = .down
  entries : ∀ p ∈ s.pendingAlerts, p.1 ∈ alerts ∧
    (UnderWay s .cancel p.1 ∨ WillCancel s p.1.system ∨ Due s p)

section Proofs

variable {alerts : List StatusAlert} {s s' : State} {sys : SystemId} {a : StatusAlert}
  {action : Action} {j : Job}

theorem inv_init (db : SystemId → SystemStatus) (store : SystemId → Option SystemStatus) :
    Inv alerts (State.init db store) := by
  constructor <;> simp [State.init, UnderWay]

/-! ### What is under way -/

theorem underWay_putJob : UnderWay (putJob s j) action a ↔
    UnderWay s action a ∨ (j.action = action ∧ (a ∈ j.todo ∨ j.sending = some a)) := by
  unfold UnderWay putJob
  by_cases h : j.todo = [] ∧ j.sending = none
  · simp [h]
  · rw [if_neg h, or_assoc]
    refine or_congr_right ?_
    simp only [List.mem_cons, exists_eq_or_imp]
    exact or_comm

/-- Taking a call out of the list takes its share away, and nothing else. -/
theorem underWay_erase (hj : j ∈ s.jobs) : UnderWay s action a ↔
    UnderWay { s with jobs := s.jobs.erase j } action a ∨
      (j.action = action ∧ (a ∈ j.todo ∨ j.sending = some a)) := by
  unfold UnderWay
  rw [or_assoc]
  refine or_congr_right ⟨fun ⟨k, hk, h⟩ => ?_, ?_⟩
  · by_cases hkj : k = j
    · exact .inr (hkj ▸ h)
    · exact .inl ⟨k, (List.mem_erase_of_ne hkj).mpr hk, h⟩
  · rintro (⟨k, hk, h⟩ | h)
    · exact ⟨k, List.mem_of_mem_erase hk, h⟩
    · exact ⟨j, hj, h⟩

/-- A task at the end of the queue. -/
theorem underWay_enqueue (t : AlertTask) :
    UnderWay { s with alertQueue := s.alertQueue ++ [t] } action a ↔
      UnderWay s action a ∨ (t.action = action ∧ t.alert = a) := by
  unfold UnderWay
  simp only [List.mem_append, List.mem_singleton, or_and_right, exists_or, exists_eq_left]
  exact or_right_comm

/-- A task at the head of the queue. -/
theorem underWay_dequeue {t : AlertTask} {rest : List AlertTask} (h : s.alertQueue = t :: rest) :
    UnderWay s action a ↔
      UnderWay { s with alertQueue := rest } action a ∨ (t.action = action ∧ t.alert = a) := by
  unfold UnderWay
  simp only [h, List.mem_cons, or_and_right, exists_or, exists_eq_left]
  rw [or_assoc]
  exact or_comm

/-! ### The saves and their hooks -/

theorem db_commit_ne {status : SystemStatus} {sys' : SystemId} (h : sys' ≠ sys) :
    (commit s sys status).db sys' = s.db sys' := by
  unfold commit
  split_ifs
  · rfl
  · exact Function.update_of_ne h _ _

/-- The saved record: a new status begins now. -/
theorem db_commit_self (s : State) (sys : SystemId) (status : SystemStatus) :
    (commit s sys status).db sys =
      if (s.db sys).status = status then s.db sys else ⟨status, s.now⟩ := by
  unfold commit
  split_ifs
  · rfl
  · exact Function.update_self sys _ s.db

theorem status_commit (s : State) (sys : SystemId) (status : SystemStatus) :
    ((commit s sys status).db sys).status = status := by
  rw [db_commit_self]
  split_ifs with h
  · exact h
  · rfl

/-- Saving a status again keeps its age. -/
theorem db_commit_same {status : SystemStatus} (h : (s.db sys).status = status) :
    (commit s sys status).db = s.db := if_pos h

/-- A waiting cancellation stays one when another save is committed, unless that is a pause or a
resume. -/
theorem WillCancel.commit {status : SystemStatus} {sys' : SystemId} (h : WillCancel s sys')
    (hst : sys' = sys → status ≠ .paused ∧ status ≠ .pending) :
    WillCancel (commit s sys status) sys' := by
  obtain ⟨hup, hstore, hpause, hresume⟩ := h
  refine ⟨List.mem_cons_of_mem _ hup, hstore, ?_, ?_⟩
  · rintro (_ | ⟨_, h⟩)
    exacts [(hst rfl).1 rfl, hpause h]
  · rintro (_ | ⟨_, h⟩)
    exacts [(hst rfl).2 rfl, hresume h]

/-- A system that is down stays so, unless the save is one of its own and of another status. -/
theorem down_commit {status : SystemStatus} {sys' : SystemId} (hdown : (s.db sys').status = .down)
    (hkeep : sys' = sys → status = .down) : ((commit s sys status).db sys').status = .down := by
  by_cases h : sys' = sys
  · rw [h, status_commit]
    exact hkeep h
  · rw [db_commit_ne h]
    exact hdown

theorem Due.commit {status : SystemStatus} {p : StatusAlert × ℤ} (hdue : Due s p)
    (hkeep : p.1.system = sys → status = .down) : Due (commit s sys status) p := by
  unfold Due
  by_cases h : p.1.system = sys
  · rw [db_commit_same (h ▸ hdue.1.trans (hkeep h).symm)]
    exact hdue
  · rw [db_commit_ne h]
    exact hdue

/-- The save that ends an outage will cancel its entries, if its own hook comes first. -/
theorem willCancel_commit_up (hstore : s.store sys = some .down) (hpause : (sys, .paused) ∉ s.hooks)
    (hresume : (sys, .pending) ∉ s.hooks) : WillCancel (commit s sys .up) sys := by
  refine ⟨List.mem_cons_self, hstore, ?_, ?_⟩
  · rintro (_ | ⟨_, hm⟩)
    exact hpause hm
  · rintro (_ | ⟨_, hm⟩)
    exact hresume hm

/-- An entry is covered after a save: its outage lasts, or the save will cancel it. -/
theorem Inv.covered_commit (hs : Inv alerts s) {status : SystemStatus}
    (hok : Orderly s (.commit sys status)) {p : StatusAlert × ℤ} (hp : p ∈ s.pendingAlerts)
    (hcan : ¬ UnderWay s .cancel p.1) :
    WillCancel (StatusAlerts.commit s sys status) p.1.system ∨
      Due (StatusAlerts.commit s sys status) p := by
  obtain ⟨hend, hpause⟩ := hok
  have hloose : p.1.system = sys → Loose s sys := fun h => ⟨p, hp, h, hcan⟩
  rcases (hs.entries p hp).2.resolve_left hcan with hw | hdue
  · refine .inl (hw.commit fun h => ⟨?_, ?_⟩)
    · rintro rfl
      exact hpause (.inl rfl) (hloose h) (h ▸ hw.1)
    · rintro rfl
      exact hpause (.inr rfl) (hloose h) (h ▸ hw.1)
  · by_cases h : p.1.system = sys ∧ status ≠ .down
    · obtain ⟨hsys, hne⟩ := h
      obtain ⟨rfl, hstore, hp₁, hp₂⟩ := (hend (hsys ▸ hdue.1) hne).2.2 (hloose hsys)
      rw [hsys]
      exact .inl (willCancel_commit_up hstore hp₁ hp₂)
    · refine .inr (hdue.commit fun hsys => ?_)
      by_contra hne
      exact h ⟨hsys, hne⟩

/-- **A save**, in a state where the entries are covered. -/
theorem Inv.commit (hs : Inv alerts s) {status : SystemStatus}
    (hok : Orderly s (.commit sys status)) : Inv alerts (commit s sys status) := by
  have hend := hok.1
  refine ⟨hs.timely, fun sys' => ?_, hs.began, hs.delays, fun a ha => ?_, fun sys' hh => ?_,
    fun p hp => ⟨(hs.entries p hp).1, ?_⟩⟩
  · by_cases h : sys' = sys
    · subst h
      rw [db_commit_self]
      split_ifs
      · exact hs.clock sys'
      · exact le_rfl
    · rw [db_commit_ne h]
      exact hs.clock sys'
  · -- nothing is being scheduled for a system that leaves `down`
    obtain ⟨hmem, hdown⟩ := hs.scheduled a ha
    refine ⟨hmem, down_commit hdown fun h => ?_⟩
    by_contra hne
    exact (hend (h ▸ hdown) hne).1 a h ha
  · rcases hh with _ | ⟨_, hh⟩
    · exact status_commit _ _ _
    · refine down_commit (hs.downHooks sys' hh) fun h => ?_
      subst h
      by_contra hne
      exact (hend (hs.downHooks _ hh) hne).2.1 hh
  · by_cases hcan : UnderWay s .cancel p.1
    · exact .inl hcan
    · exact .inr (hs.covered_commit hok hp hcan)

/-- A waiting cancellation needs the store and the hooks of its own system only. -/
theorem WillCancel.of_ne {sys' : SystemId} {status : SystemStatus} {store : Option SystemStatus}
    (h : WillCancel s sys') (hne : sys' ≠ sys) :
    WillCancel { s with
      hooks := s.hooks.erase (sys, status)
      store := Function.update s.store sys store } sys' := by
  obtain ⟨hup, hstore, hpause, hresume⟩ := h
  refine ⟨(List.mem_erase_of_ne ?_).mpr hup, ?_, fun hm => hpause (List.mem_of_mem_erase hm),
    fun hm => hresume (List.mem_of_mem_erase hm)⟩
  · exact fun he => hne (congrArg Prod.fst he)
  · exact (Function.update_of_ne hne _ _).trans hstore

/-- **What a hook does**: it sets the instance's status — an instance that was `down` stays so for a
`down`, and takes an `up` only with the alerts handled — or it calls `HandleStatusAlerts` for a
change from `up` to `down` or from `down` to `up`. -/
theorem hook_cases (alerts : List StatusAlert) (s : State) (sys : SystemId)
    (status : SystemStatus) (ws added : Bool) :
    (∃ instance', onRecordAfterUpdateSuccess alerts s sys status ws added
        = { s with store := Function.update s.store sys instance' } ∧
      (s.store sys = some .down → status ≠ .up ∧ (status = .down → instance' = some .down))) ∨
    (status = .down ∧ s.store sys = some .up ∧
      onRecordAfterUpdateSuccess alerts s sys status ws added = handleStatusAlerts alerts
        { s with store := Function.update s.store sys (some .down) } sys .schedule) ∨
    (status = .up ∧ s.store sys = some .down ∧
      onRecordAfterUpdateSuccess alerts s sys status ws added = handleStatusAlerts alerts
        { s with store := Function.update s.store sys (some .up) } sys .cancel) := by
  rcases hst : s.store sys with _ | prevStatus
  · by_cases hp : status = .paused
    · refine .inl ⟨none, ?_, by simp⟩
      rw [← hst, Function.update_eq_self]
      simp [onRecordAfterUpdateSuccess, hst, hp]
    · exact .inl ⟨_, by simp only [onRecordAfterUpdateSuccess, hst, hp, if_false]; rfl, by simp⟩
  · rcases status with _ | _ | _ | _
    · by_cases hd : prevStatus = .down
      · subst hd
        exact .inr (.inr ⟨rfl, rfl, by simp [onRecordAfterUpdateSuccess, hst, onStatusChange]⟩)
      · exact .inl ⟨some .up, by simp [onRecordAfterUpdateSuccess, hst, onStatusChange, hd],
          fun h => absurd (Option.some.inj h) hd⟩
    · by_cases hu : prevStatus = .up
      · subst hu
        exact .inr (.inl ⟨rfl, rfl, by simp [onRecordAfterUpdateSuccess, hst, onStatusChange]⟩)
      · exact .inl ⟨some .down, by simp [onRecordAfterUpdateSuccess, hst, onStatusChange, hu],
          fun _ => ⟨by simp, fun _ => rfl⟩⟩
    · exact .inl ⟨some .paused, by simp [onRecordAfterUpdateSuccess, hst, onStatusChange], by simp⟩
    · rcases ws with _ | _
      · exact .inl ⟨if added then some .pending else none,
          by simp [onRecordAfterUpdateSuccess, hst, onStatusChange, addRecord], by simp⟩
      · exact .inl ⟨some .pending, by simp [onRecordAfterUpdateSuccess, hst, onStatusChange],
          by simp⟩

/-- The alerts of the system are under way once `HandleStatusAlerts` has read them. -/
theorem underWay_handleStatusAlerts {action' : Action} :
    UnderWay (handleStatusAlerts alerts s sys action') action a ↔
      UnderWay s action a ∨ (action' = action ∧ a ∈ alerts ∧ a.system = sys) := by
  rw [handleStatusAlerts, underWay_putJob]
  simp

/-- **A hook**, whatever the order in which the hooks of a system run. -/
theorem Inv.hook (hs : Inv alerts s) {status : SystemStatus} (hmem : (sys, status) ∈ s.hooks)
    (ws added : Bool) :
    Inv alerts (onRecordAfterUpdateSuccess alerts { s with hooks := s.hooks.erase (sys, status) }
      sys status ws added) := by
  have hhooks : ∀ {h}, h ∈ s.hooks.erase (sys, status) → h ∈ s.hooks := List.mem_of_mem_erase
  obtain ⟨inst, heq, hinst⟩ | ⟨rfl, hup, heq⟩ | ⟨rfl, hdown, heq⟩ :=
    hook_cases alerts { s with hooks := s.hooks.erase (sys, status) } sys status ws added
  · rw [heq]
    refine ⟨hs.timely, hs.clock, hs.began, hs.delays, hs.scheduled,
      fun sys' h => hs.downHooks sys' (hhooks h), fun p hp => ⟨(hs.entries p hp).1, ?_⟩⟩
    obtain hcan | hw | hdue := (hs.entries p hp).2
    · exact .inl hcan
    · refine .inr (.inl ?_)
      by_cases h : p.1.system = sys
      · -- the hook that runs first is one of a `down`
        obtain ⟨hu, hstore, hpause, hresume⟩ := hw
        rw [h] at hu hstore hpause hresume ⊢
        obtain ⟨hnup, hinst⟩ := hinst hstore
        have hst : status = .down := by
          rcases status with _ | _ | _ | _
          exacts [absurd rfl hnup, rfl, absurd hmem hpause, absurd hmem hresume]
        subst hst
        refine ⟨(List.mem_erase_of_ne (by simp)).mpr hu, ?_, fun h => hpause (hhooks h),
          fun h => hresume (hhooks h)⟩
        exact (Function.update_self sys inst s.store).trans (hinst rfl)
      · exact hw.of_ne h
    · exact .inr (.inr hdue)
  · rw [heq]
    refine ⟨hs.timely, hs.clock, hs.began, hs.delays, fun a ha => ?_,
      fun sys' h => hs.downHooks sys' (hhooks h), fun p hp => ⟨(hs.entries p hp).1, ?_⟩⟩
    · rcases underWay_handleStatusAlerts.mp ha with ha | ⟨-, hknown, rfl⟩
      · exact hs.scheduled a ha
      · exact ⟨hknown, hs.downHooks _ hmem⟩
    · obtain hcan | hw | hdue := (hs.entries p hp).2
      · exact .inl (underWay_handleStatusAlerts.mpr (.inl hcan))
      · refine .inr (.inl (hw.of_ne fun h => ?_))
        have := (h ▸ hw.2.1).symm.trans hup
        cases this
      · exact .inr (.inr hdue)
  · rw [heq]
    refine ⟨hs.timely, hs.clock, hs.began, hs.delays, fun a ha => ?_,
      fun sys' h => hs.downHooks sys' (hhooks h), fun p hp => ⟨(hs.entries p hp).1, ?_⟩⟩
    · rcases underWay_handleStatusAlerts.mp ha with ha | ⟨h, -⟩
      · exact hs.scheduled a ha
      · cases h
    · obtain hcan | hw | hdue := (hs.entries p hp).2
      · exact .inl (underWay_handleStatusAlerts.mpr (.inl hcan))
      · by_cases h : p.1.system = sys
        · exact .inl (underWay_handleStatusAlerts.mpr (.inr ⟨rfl, (hs.entries p hp).1, h⟩))
        · exact .inr (.inl (hw.of_ne h))
      · exact .inr (.inr hdue)

/-- Taking the instance out of the store, or putting one in, while no entry relies on it. -/
theorem Inv.setStore (hs : Inv alerts s) (hok : Loose s sys → (sys, .up) ∉ s.hooks)
    (instance' : Option SystemStatus) :
    Inv alerts { s with store := Function.update s.store sys instance' } := by
  refine ⟨hs.timely, hs.clock, hs.began, hs.delays, hs.scheduled, hs.downHooks,
    fun p hp => ⟨(hs.entries p hp).1, ?_⟩⟩
  by_cases hcan : UnderWay s .cancel p.1
  · exact .inl hcan
  obtain hw | hdue := (hs.entries p hp).2.resolve_left hcan
  · refine .inr (.inl ?_)
    by_cases h : p.1.system = sys
    · exact absurd (h ▸ hw.1) (hok ⟨p, hp, h, hcan⟩)
    · obtain ⟨hup, hstore, hpause, hresume⟩ := hw
      exact ⟨hup, (Function.update_of_ne h _ _).trans hstore, hpause, hresume⟩
  · exact .inr (.inr hdue)

/-! ### The calls of `HandleStatusAlerts` -/

/-- **A call that moves on** changes the jobs, the queue and the log.  It may put nothing new on its
way into the map, drop no cancellation of an entry, and send nothing but an `up`. -/
theorem Inv.moved (hs : Inv alerts s) {jobs : List Job} {queue : List AlertTask} {log : List Sent}
    (heq : s' = { s with jobs := jobs, alertQueue := queue, log := log })
    (hlog : ∀ n ∈ log, n ∈ s.log ∨ n.status = .up)
    (hdelay : ∀ t ∈ queue, t.action = .schedule → t.delay = t.alert.delay)
    (hsched : ∀ a, UnderWay s' .schedule a → UnderWay s .schedule a)
    (hcan : ∀ p ∈ s.pendingAlerts, UnderWay s .cancel p.1 → UnderWay s' .cancel p.1) :
    Inv alerts s' := by
  subst heq
  refine ⟨fun n hn hd => ?_, hs.clock, hs.began, hdelay, fun a ha => hs.scheduled a (hsched a ha),
    hs.downHooks, fun p hp => ⟨(hs.entries p hp).1, ?_⟩⟩
  · rcases hlog n hn with hn | hup
    · exact hs.timely n hn hd
    · exact absurd (hup.symm.trans hd) (by simp)
  · exact (hs.entries p hp).2.imp_left (hcan p hp)

/-- An entry of the map is found under its alert's id. -/
theorem pends_of_mem {p : StatusAlert × ℤ} (hp : p ∈ s.pendingAlerts) : s.pends p.1 = true :=
  List.any_eq_true.mpr ⟨p, hp, by simp⟩

/-- What is under way after an alert was looked up: the rest of the call, and the alert itself if
its task is to be sent. -/
theorem underWay_load {rest : List StatusAlert} {b : StatusAlert} :
    UnderWay (load s j a rest) action b ↔ UnderWay s action b ∨ (j.action = action ∧
      (b ∈ rest ∨ (b = a ∧ (s.pends a = true ↔ action = .cancel)))) := by
  unfold load
  rcases hj : j.action with _ | _ <;> rcases hp : s.pends a with _ | _ <;>
    simp only [Bool.false_eq_true, if_true, if_false, underWay_putJob] <;>
    refine or_congr Iff.rfl (and_congr_right fun h => ?_) <;> subst h <;> simp [eq_comm]

/-- Looking an alert up sends at most an `up`, and touches nothing but the jobs and the log. -/
theorem load_eq (s : State) (j : Job) (a : StatusAlert) (rest : List StatusAlert) :
    ∃ jobs log, load s j a rest = { s with jobs := jobs, log := log } ∧
      ∀ n ∈ log, n ∈ s.log ∨ n.status = .up := by
  unfold load
  rcases j.action with _ | _ <;> rcases s.pends a with _ | _ <;>
    refine ⟨_, _, rfl, ?_⟩
  case cancel.false =>
    rintro n (_ | ⟨_, hn⟩)
    exacts [.inr rfl, .inl hn]
  all_goals exact fun n hn => .inl hn

/-- **One alert looked up.** -/
theorem Inv.load (hs : Inv alerts s) (hj : j ∈ s.jobs) {rest : List StatusAlert}
    (htodo : j.todo = a :: rest) (hsend : j.sending = none) :
    Inv alerts (load { s with jobs := s.jobs.erase j } j a rest) := by
  obtain ⟨jobs, log, heq, hlog⟩ := load_eq { s with jobs := s.jobs.erase j } j a rest
  refine hs.moved heq hlog hs.delays (fun b hb => ?_) fun p hp hb => ?_
  · refine (underWay_erase hj).mpr ?_
    refine (underWay_load.mp hb).imp_right (And.imp_right fun h => .inl ?_)
    rw [htodo]
    exact h.elim (List.mem_cons_of_mem a) fun h => h.1 ▸ List.mem_cons_self
  · rcases (underWay_erase hj).mp hb with hb | ⟨hact, hb⟩
    · exact underWay_load.mpr (.inl hb)
    · refine underWay_load.mpr (.inr ⟨hact, ?_⟩)
      rw [htodo, hsend] at hb
      obtain (rfl | hb) := List.mem_cons.mp (hb.resolve_right (by simp))
      · exact .inr ⟨rfl, iff_of_true (pends_of_mem hp) rfl⟩
      · exact .inl hb

/-- Sending a task moves its alert from the call into the queue. -/
theorem underWay_push {b : StatusAlert} (hj : j ∈ s.jobs) (hsend : j.sending = some a) :
    UnderWay (putJob
        { s with jobs := s.jobs.erase j, alertQueue := s.alertQueue ++ [task j.action a] }
        { j with sending := none }) action b ↔ UnderWay s action b := by
  rw [underWay_putJob, underWay_erase hj, hsend]
  refine (or_congr_left (underWay_enqueue (s := { s with jobs := s.jobs.erase j }) _)).trans ?_
  rw [or_assoc]
  refine or_congr_right ?_
  simp only [task, reduceCtorEq, or_false, Option.some.injEq, ← and_or_left]
  exact and_congr_right fun _ => or_comm

/-- **One task sent.** -/
theorem Inv.push (hs : Inv alerts s) (hj : j ∈ s.jobs) (hsend : j.sending = some a) :
    Inv alerts (putJob
      { s with jobs := s.jobs.erase j, alertQueue := s.alertQueue ++ [task j.action a] }
      { j with sending := none }) := by
  refine hs.moved rfl (fun n hn => .inl hn) (fun t ht hact => ?_)
    (fun b hb => (underWay_push hj hsend).mp hb) fun p _ hb => (underWay_push hj hsend).mpr hb
  rcases List.mem_append.mp ht with ht | ht
  · exact hs.delays t ht hact
  · obtain rfl := List.mem_singleton.mp ht
    have hact : j.action = .schedule := hact
    simp [task, hact]

/-! ### The worker -/

/-- An alert's own delay is at least its minutes. -/
theorem min_le_delay (a : StatusAlert) : a.min * minute ≤ a.delay :=
  Int.mul_le_mul_of_nonneg_right (le_max_right 1 a.min) (by decide)

theorem mem_deletePending {p : StatusAlert × ℤ} :
    p ∈ (deletePending s a).pendingAlerts ↔ p ∈ s.pendingAlerts ∧ p.1.id ≠ a.id := by
  simp [deletePending]

/-- **A task taken from the queue.**  A schedule puts in an entry of the outage that lasts, a
cancellation deletes the entry it was counted for. -/
theorem Inv.dequeue (hs : Inv alerts s) {t : AlertTask} {rest : List AlertTask}
    (hq : s.alertQueue = t :: rest) : Inv alerts (handleTask { s with alertQueue := rest } t) := by
  have hrest : ∀ u ∈ rest, u ∈ s.alertQueue := fun u hu => hq ▸ List.mem_cons_of_mem t hu
  -- an entry of another alert is covered as before
  have hother : ∀ p ∈ s.pendingAlerts, (t.action = .cancel → p.1 ≠ t.alert) →
      p.1 ∈ alerts ∧ (UnderWay { s with alertQueue := rest } .cancel p.1 ∨
        WillCancel s p.1.system ∨ Due s p) := by
    intro p hp hne
    refine ⟨(hs.entries p hp).1, (hs.entries p hp).2.imp_left fun h => ?_⟩
    exact ((underWay_dequeue hq).mp h).resolve_right fun h => hne h.1 h.2.symm
  have hsched : ∀ b, UnderWay { s with alertQueue := rest } .schedule b → UnderWay s .schedule b :=
    fun b hb => (underWay_dequeue hq).mpr (.inl hb)
  unfold handleTask
  rcases hact : t.action with _ | _
  · have ht : UnderWay s .schedule t.alert := (underWay_dequeue hq).mpr (.inr ⟨hact, rfl⟩)
    obtain ⟨hknown, hdown⟩ := hs.scheduled _ ht
    refine ⟨hs.timely, hs.clock, hs.began, fun u hu => hs.delays u (hrest u hu),
      fun b hb => hs.scheduled b (hsched b hb), hs.downHooks, fun p hp => ?_⟩
    rcases List.mem_cons.mp hp with rfl | hp
    · refine ⟨hknown, .inr (.inr ⟨hdown, ?_⟩)⟩
      have hclock := hs.clock t.alert.system
      have hmin := min_le_delay t.alert
      have hdelay := hs.delays t (hq ▸ List.mem_cons_self) hact
      show (s.db t.alert.system).since + t.alert.min * minute ≤ s.now + t.delay
      omega
    · exact hother p (mem_deletePending.mp hp).1 (by simp [hact])
  · refine ⟨hs.timely, hs.clock, hs.began, fun u hu => hs.delays u (hrest u hu),
      fun b hb => hs.scheduled b (hsched b hb), hs.downHooks, fun p hp => ?_⟩
    obtain ⟨hp, hid⟩ := mem_deletePending.mp hp
    exact hother p hp fun _ h => hid (congrArg StatusAlert.id h)

/-- **An entry the ticker looks at** is sent only if it is due. -/
theorem Inv.sweepEntry (hs : Inv alerts s) {began : ℤ} {p : StatusAlert × ℤ}
    {rest : List (StatusAlert × ℤ)} (hsw : s.sweep = some (began, p :: rest))
    (hok : Orderly s .sweepNext) :
    Inv alerts (sweepEntry { s with sweep := some (began, rest) } began p) := by
  have hbegan : began ≤ s.now := hs.began _ hsw
  have hs₁ : Inv alerts { s with sweep := some (began, rest) } :=
    ⟨hs.timely, hs.clock, fun r hr => Option.some.inj hr ▸ hbegan, hs.delays, hs.scheduled,
      hs.downHooks, hs.entries⟩
  unfold StatusAlerts.sweepEntry
  split_ifs with h
  · obtain ⟨hp, hexp⟩ := h
    obtain ⟨hcan, hup⟩ := hok began p rest hsw hp hexp
    obtain ⟨hdown, hdue⟩ : Due s p :=
      ((hs.entries p hp).2.resolve_left hcan).resolve_left fun hw => hup hw.1
    refine ⟨fun n hn => ?_, hs₁.clock, hs₁.began, hs₁.delays, hs₁.scheduled, hs₁.downHooks,
      fun q hq => hs₁.entries q (mem_deletePending.mp hq).1⟩
    rcases List.mem_cons.mp hn with rfl | hn
    · refine fun _ => ⟨hdown, ?_⟩
      show (s.db p.1.system).since + p.1.min * minute ≤ s.now
      omega
    · exact hs.timely n hn
  · exact hs₁

/-! ### What a step does -/

theorem mem_hooks_of_hook {status : SystemStatus} {ws added : Bool}
    (h : step alerts s (.hook sys status ws added) = some s') :
    (sys, status) ∈ s.hooks ∧
      onRecordAfterUpdateSuccess alerts { s with hooks := s.hooks.erase (sys, status) }
        sys status ws added = s' := by
  simpa only [step, Option.ite_none_right_eq_some, Option.some.injEq] using h

/-- A call that is between two alerts looks the next one up. -/
theorem exists_alert_of_load (h : step alerts s (.load j) = some s') :
    ∃ action a rest, j = ⟨action, a :: rest, none⟩ ∧ j ∈ s.jobs ∧
      load { s with jobs := s.jobs.erase j } j a rest = s' := by
  obtain ⟨action, _ | ⟨a, rest⟩, _ | b⟩ := j <;>
    simp only [step, Option.ite_none_right_eq_some, Option.some.injEq, reduceCtorEq] at h
  exact ⟨action, a, rest, rfl, h⟩

/-- A call that waits for the queue sends its task. -/
theorem exists_alert_of_push (h : step alerts s (.push j) = some s') :
    ∃ action todo a, j = ⟨action, todo, some a⟩ ∧ j ∈ s.jobs ∧
      putJob { s with jobs := s.jobs.erase j, alertQueue := s.alertQueue ++ [task action a] }
        ⟨action, todo, none⟩ = s' := by
  obtain ⟨action, todo, _ | a⟩ := j <;>
    simp only [step, Option.ite_none_right_eq_some, Option.some.injEq, reduceCtorEq] at h
  exact ⟨action, todo, a, rfl, h.1.1, h.2⟩

/-- The worker takes the oldest task, and does so between two runs of the ticker's loop. -/
theorem exists_task_of_dequeue (h : step alerts s .dequeue = some s') :
    ∃ t rest, s.sweep = none ∧ s.alertQueue = t :: rest ∧
      handleTask { s with alertQueue := rest } t = s' := by
  simp only [step] at h
  split at h
  · next t rest hsw hq => exact ⟨t, rest, hsw, hq, Option.some.inj h⟩
  · cases h

theorem eq_of_tick (h : step alerts s .tick = some s') :
    { s with sweep := some (s.now, s.pendingAlerts) } = s' := by
  simp only [step, Option.ite_none_right_eq_some, Option.some.injEq] at h
  exact h.2

/-! ### Runs -/

/-- **Every orderly step keeps the invariant.** -/
theorem Inv.step (hs : Inv alerts s) {e : Event} (hok : Orderly s e)
    (h : step alerts s e = some s') : Inv alerts s' := by
  rcases e with ns | ⟨sys, status⟩ | ⟨sys, status, ws, added⟩ | sys | sys | j | j | _ | _ | _
  · obtain rfl := Option.some.inj h
    have hle : s.now ≤ s.now + ns := Int.le_add_of_nonneg_right (Int.natCast_nonneg ns)
    exact ⟨hs.timely, fun sys => (hs.clock sys).trans hle, fun r hr => (hs.began r hr).trans hle,
      hs.delays, hs.scheduled, hs.downHooks, hs.entries⟩
  · obtain rfl := Option.some.inj h
    exact hs.commit hok
  · obtain ⟨hmem, rfl⟩ := mem_hooks_of_hook h
    exact hs.hook hmem ws added
  · obtain rfl := Option.some.inj h
    exact hs.setStore hok none
  · obtain rfl := Option.some.inj h
    exact hs.setStore hok _
  · obtain ⟨action, a, rest, rfl, hj, rfl⟩ := exists_alert_of_load h
    exact hs.load hj rfl rfl
  · obtain ⟨action, todo, a, rfl, hj, rfl⟩ := exists_alert_of_push h
    exact hs.push hj rfl
  · obtain ⟨t, rest, -, hq, rfl⟩ := exists_task_of_dequeue h
    exact hs.dequeue hq
  · obtain rfl := eq_of_tick h
    exact ⟨hs.timely, hs.clock, fun r hr => (Option.some.inj hr) ▸ le_rfl, hs.delays, hs.scheduled,
      hs.downHooks, hs.entries⟩
  · rcases hsw : s.sweep with _ | ⟨began, _ | ⟨p, rest⟩⟩ <;>
      simp only [StatusAlerts.step, hsw, Option.some.injEq, reduceCtorEq] at h
    · obtain rfl := h
      exact ⟨hs.timely, hs.clock, fun r hr => (nomatch hr), hs.delays, hs.scheduled, hs.downHooks,
        hs.entries⟩
    · obtain rfl := h
      exact hs.sweepEntry hsw hok

/-- **In every orderly run, whatever the statuses it starts from, a `down` notification is sent only
while the system is down and has been for the alert's minutes.** -/
theorem timely_of_orderly (db : SystemId → SystemStatus) (store : SystemId → Option SystemStatus)
    {es : List Event} (hok : Along (StatusAlerts.step alerts) Orderly (State.init db store) es)
    (hrun : run (StatusAlerts.step alerts) (State.init db store) es = some s) :
    ∀ n ∈ s.log, n.status = .down → Timely n := by
  have hs : Inv alerts s :=
    inv_of_along (fun hs hok h => hs.step hok h) (inv_init db store) hok hrun
  exact hs.timely

end Proofs

/-! ### One system, one alert -/

/-- An alert after one minute. -/
def exampleAlert : StatusAlert := ⟨"alert", "system", 1⟩

/-- A hub whose systems are all up. -/
def exampleInit : State := State.init (fun _ => .up) fun _ => some .up

/-- The system goes down and its hook looks the alert up. -/
def goesDown : List Event :=
  [.commit "system" .down, .hook "system" .down false false,
    .load ⟨.schedule, [exampleAlert], none⟩]

/-- The task reaches the worker's map. -/
def scheduled : List Event := [.push ⟨.schedule, [], some exampleAlert⟩, .dequeue]

/-- Two minutes later the ticker looks at the entry. -/
def fires : List Event := [.advance (120 * 10 ^ 9), .tick, .sweepNext]

/-- An outage that lasts is reported once the minute is over. -/
theorem timely_outage :
    ∃ s, run (step [exampleAlert]) exampleInit (goesDown ++ scheduled ++ fires) = some s ∧
      s.log ≠ [] ∧ ∀ n ∈ s.log, n.status = .down → Timely n := by
  suffices hok : Along (step [exampleAlert]) Orderly exampleInit (goesDown ++ scheduled ++ fires)
    from ⟨_, rfl, by decide, timely_of_orderly _ _ hok rfl⟩
  refine .cons ⟨fun h => (nomatch h), fun h => absurd h (by decide)⟩ rfl ?_
  -- of the seven steps that follow only the last has a condition
  refine .cons trivial rfl (.cons trivial rfl (.cons trivial rfl ?_))
  refine .cons trivial rfl (.cons trivial rfl (.cons trivial rfl (.cons ?_ rfl trivial)))
  refine fun began p rest _ _ _ => ⟨?_, List.not_mem_nil⟩
  rintro (⟨t, ht, -⟩ | ⟨j, hj, -⟩)
  exacts [List.not_mem_nil ht, List.not_mem_nil hj]

/-- **A pause during an outage does not stop its alert, and neither does an `up` that is handled
before the worker has taken the task.** -/
theorem timely_fails_on_pause_and_early_up :
    (∃ s, run (step [exampleAlert]) exampleInit
        (goesDown ++ scheduled ++ [.commit "system" .paused, .hook "system" .paused false false] ++
          fires) = some s ∧ ¬ ∀ n ∈ s.log, n.status = .down → Timely n) ∧
    ∃ s, run (step [exampleAlert]) exampleInit
        (goesDown ++ [.commit "system" .up, .hook "system" .up false false,
          .load ⟨.cancel, [exampleAlert], none⟩] ++ scheduled ++ fires) = some s ∧
      ¬ ∀ n ∈ s.log, n.status = .down → Timely n := by
  unfold Timely
  exact ⟨⟨_, rfl, by decide⟩, ⟨_, rfl, by decide⟩⟩

end StatusAlerts

end Beszel
