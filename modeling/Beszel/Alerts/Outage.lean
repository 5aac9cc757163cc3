import Beszel.Alerts.Status
import Mathlib.Data.List.Nodup

/-!
# Alerts/Outage — the alerts of an outage, and none without its `down`

    down handled ──▸ looked up ──▸ queued ──▸ pending ──▸ 'down' sent ──▸ up handled ──▸ 'up' sent

The machine of `Alerts/Status` with the `alerts` collection beside it: alerts are created, edited
and deleted while it runs, sending a notification saves the alert's `triggered` field, and
`deactivateAlerts` and `resolveStatusAlerts` clear the field without a notification.  The hub can be
restarted, which empties everything but the database.  The worker's ticker sends a notification
first and deletes the entry of the map afterwards, and other goroutines run in between.

`handleSystemDown` takes an entry in the map for one that will stay.  The result says when it is
right: when no outage goes without its `down`.
-/

namespace Beszel

open Machinery

namespace Outage

open StatusAlerts (StatusAlert AlertTask Action Job)

/-! ## The hub and the collection -/

/-- A record of `alerts` with the name `Status`.  It stays in the list when it is deleted: ids are
not used twice. -/
structure AlertRecord where
  alert : StatusAlert
  triggered : Bool
  deleted : Bool
  deriving DecidableEq

/-- What followed the last call of `HandleStatusAlerts` for a system, if that was for a `down`: the
alerts it read, and the ids of the alerts whose `down` was sent since the system's first `down` that
no `up` followed. -/
structure DownHandled where
  alerts : List StatusAlert
  notified : List String
  deriving DecidableEq

/-- `sent` is the alert whose expired entry the ticker's branch has sent and not yet deleted,
`untriggering` the ids that `deactivateAlerts` or `resolveStatusAlerts` has found and not yet
saved; `handled` records the calls of `HandleStatusAlerts`.  `inOutage` has the ids of the alerts
that a call for a `down` has read and that no call for an `up` has looked up since; a restart takes
out those whose `down` is lost in it. -/
structure State where
  hub : StatusAlerts.State
  records : List AlertRecord
  sent : Option StatusAlert
  untriggering : List String
  handled : SystemId → Option DownHandled
  inOutage : List String

/-- A hub that has just started, without alerts. -/
def State.init (db : SystemId → SystemStatus) (store : SystemId → Option SystemStatus) : State where
  hub := .init db store
  records := []
  sent := none
  untriggering := []
  handled _ := none
  inOutage := []

/-- What can happen: a step of the hub, a step of the ticker's branch, a user's request for an
alert, or a restart. -/
inductive Event
  | hub (e : StatusAlerts.Event)
  | sweepNext
  | sweepDelete
  | create (alert : StatusAlert) (triggered : Bool)
  | edit (alert : StatusAlert) (triggered : Bool)
  | delete (id : String)
  | resolveStatusAlerts
  | untrigger (id : String)
  | restart (store : SystemId → Option SystemStatus)

/-- The alerts that exist. -/
def State.alerts (s : State) : List StatusAlert :=
  (s.records.filter fun r => !r.deleted).map (·.alert)

/-- The alerts that exist or existed. -/
def State.known (s : State) : List StatusAlert := s.records.map (·.alert)

/-- The existing record with this id, changed. -/
def modify (records : List AlertRecord) (id : String) (f : AlertRecord → AlertRecord) :
    List AlertRecord :=
  records.map fun r => if r.alert.id = id ∧ r.deleted = false then f r else r

/-- `sendStatusAlert` in the collection: the alert is saved with its new `triggered`. -/
def AlertRecord.notify (status : SystemStatus) (r : AlertRecord) : AlertRecord :=
  { r with triggered := status = .down }

/-- The alert for which a step of `handleSystemUp` sends an `up`. -/
def upSent (s : StatusAlerts.State) : StatusAlerts.Event → Option StatusAlert
  | .load ⟨.cancel, a :: _, none⟩ => if s.pends a then none else some a
  | _ => none

/-- The call of `HandleStatusAlerts` that a hook makes. -/
def call (s : StatusAlerts.State) : StatusAlerts.Event → Option (SystemId × Action)
  | .hook sys .down _ _ => if s.store sys = some .up then some (sys, .schedule) else none
  | .hook sys .up _ _ => if s.store sys = some .down then some (sys, .cancel) else none
  | _ => none

/-- The system whose alerts a hook deactivates: of one that is paused, and of one that is resumed
without a WebSocket connection. -/
def deactivates (s : StatusAlerts.State) : StatusAlerts.Event → Option SystemId
  | .hook sys .paused _ _ => some sys
  | .hook sys .pending ws _ => if (s.store sys).isSome ∧ ws then none else some sys
  | _ => none

/-- The filter of `deactivateAlerts`. -/
def deactivateAlerts (s : State) (sys : SystemId) : List String :=
  (s.records.filter fun r => !r.deleted && r.triggered && r.alert.system = sys).map (·.alert.id)

/-- The query of `resolveStatusAlerts`. -/
def resolveStatusAlerts (s : State) : List String :=
  (s.records.filter fun r =>
    !r.deleted && r.triggered && (s.hub.db r.alert.system).status = .up).map (·.alert.id)

/-- A call of `HandleStatusAlerts`, recorded. -/
def record (s : State) : SystemId × Action → SystemId → Option DownHandled
  | (sys, .schedule) => Function.update s.handled sys <| some
      ⟨s.alerts.filter (·.system = sys), ((s.handled sys).map (·.notified)).getD []⟩
  | (sys, .cancel) => Function.update s.handled sys none

/-- The alerts of a system. -/
def State.alertsOf (s : State) (sys : SystemId) : List StatusAlert :=
  s.alerts.filter (·.system = sys)

/-- The alerts that are in an outage after a step of the hub. -/
def outagesAfter (s : State) (e : StatusAlerts.Event) : List String :=
  match e, call s.hub e with
  | .load ⟨.cancel, a :: _, none⟩, _ => s.inOutage.filter (· ≠ a.id)
  | _, some (sys, .schedule) => (s.alertsOf sys).map (·.id) ++ s.inOutage
  | _, _ => s.inOutage

/-- What the calls in progress have still to look up. -/
def toLookUp (hub : StatusAlerts.State) : List (Action × String) :=
  hub.jobs.flatMap fun j => j.todo.map fun a => (j.action, a.id)

/-- The tasks that are queued, or wait for room in the queue. -/
def toTake (hub : StatusAlerts.State) : List (Action × String) :=
  (hub.jobs.flatMap fun j => j.sending.toList.map fun a => (j.action, a.id)) ++
    hub.alertQueue.map fun t => (t.action, t.alert.id)

/-- What is still to be done for the alerts, and with which action. -/
def underWay (hub : StatusAlerts.State) : List (Action × String) := toLookUp hub ++ toTake hub

/-- The alert has an entry, and it is not the one the ticker's branch has sent. -/
def State.pending (s : State) (id : String) : Bool :=
  s.hub.pendingAlerts.any (·.1.id = id) && s.sent.all (·.id ≠ id)

/-- A restart loses the `down` of the alert. -/
def State.loses (s : State) (id : String) : Bool :=
  decide ((.schedule, id) ∈ underWay s.hub) || s.pending id

/-- A step of the hub, with what it does to the collection. -/
def hubStep (s : State) (e : StatusAlerts.Event) (hub : StatusAlerts.State) : State where
  hub := hub
  records := match upSent s.hub e with
    | some a => modify s.records a.id (·.notify .up)
    | none => s.records
  sent := s.sent
  untriggering := match deactivates s.hub e with
    | some sys => deactivateAlerts s sys ++ s.untriggering
    | none => s.untriggering
  handled := match call s.hub e with
    | some c => record s c
    | none => s.handled
  inOutage := outagesAfter s e

/-- The ticker's branch sends a `down`; the entry stays for now. -/
def sendDown (s : State) (a : StatusAlert) : State :=
  { s with
    hub := StatusAlerts.sendStatusAlert s.hub .down a
    records := modify s.records a.id (·.notify .down)
    sent := some a
    handled := fun sys => (s.handled sys).map fun d => { d with notified := a.id :: d.notified } }

/-- The entry is still in the map and has expired. -/
def expired (hub : StatusAlerts.State) (began : ℤ) (p : StatusAlert × ℤ) : Bool :=
  hub.pendingAlerts.any (· = p) && decide (p.2 < began)

/-- One turn of the ticker's loop, up to the deletion of an entry that is sent. -/
def sweepEntry (s : State) (began : ℤ) (p : StatusAlert × ℤ) : State :=
  if expired s.hub began p then sendDown s p.1 else s

/-- **One event.**  The ticker's loop goes on only when the last entry is deleted; while it runs the
worker takes no task. -/
def step (s : State) : Event → Option State
  | .hub .sweepNext => none
  | .hub e => (StatusAlerts.step s.alerts s.hub e).map (hubStep s e)
  | .sweepNext =>
    match s.sent, s.hub.sweep with
    | none, some (began, p :: rest) =>
      some (sweepEntry { s with hub := { s.hub with sweep := some (began, rest) } } began p)
    | none, some (_, []) => some { s with hub := { s.hub with sweep := none } }
    | _, _ => none
  | .sweepDelete => s.sent.map fun a =>
    { s with hub := StatusAlerts.deletePending s.hub a, sent := none }
  | .create alert triggered =>
    if ∃ r ∈ s.records, r.alert.id = alert.id then none
    else some { s with records := ⟨alert, triggered, false⟩ :: s.records }
  | .edit alert triggered =>
    if alert.id ∈ s.alerts.map (·.id) then
      some { s with
        records := modify s.records alert.id ({ · with alert := alert, triggered := triggered })
        -- an alert that is moved is no longer one of its old system's
        handled := fun sys => (s.handled sys).map fun d =>
          { d with alerts := d.alerts.filter fun a => a.id ≠ alert.id ∨ alert.system = sys } }
    else none
  | .delete id => some { s with records := modify s.records id ({ · with deleted := true }) }
  | .resolveStatusAlerts => some { s with untriggering := resolveStatusAlerts s ++ s.untriggering }
  | .untrigger id =>
    if id ∈ s.untriggering then
      some { s with
        records := modify s.records id ({ · with triggered := false })
        untriggering := s.untriggering.erase id }
    else none
  | .restart store => some
    { s with
      hub := { s.hub with
        store := store, hooks := [], jobs := [], alertQueue := [], pendingAlerts := [],
        sweep := none }
      sent := none
      untriggering := []
      handled := fun _ => none
      inOutage := s.inOutage.filter fun id => !s.loses id }

/-- The alert of the expired entry that the ticker's loop comes to. -/
def State.due (s : State) : Option StatusAlert :=
  match s.hub.sweep with
  | some (began, p :: _) => if expired s.hub began p then some p.1 else none
  | _ => none

/-- **What a step of the hub sends is what `upSent` says**: the records and the log of
`Alerts/Status` agree. -/
theorem log_of_step {alerts : List StatusAlert} {s s' : StatusAlerts.State}
    {e : StatusAlerts.Event} (hne : e ≠ .sweepNext) (h : StatusAlerts.step alerts s e = some s') :
    s'.log = (upSent s e).toList.map (fun a => ⟨.up, a, s.db a.system, s.now⟩) ++ s.log := by
  cases e with
  | advance ns | commit sys status | removeSystem sys | addRecord sys =>
    obtain rfl := Option.some.inj h
    rfl
  | hook sys status ws added =>
    obtain ⟨-, rfl⟩ := StatusAlerts.mem_hooks_of_hook h
    unfold StatusAlerts.onRecordAfterUpdateSuccess
    split
    · cases status with
      | paused => rfl
      | pending | down | up =>
        simp only [StatusAlerts.onStatusChange]
        split_ifs <;> rfl
    · split_ifs <;> rfl
  | load j =>
    obtain ⟨action, a, rest, rfl, -, rfl⟩ := StatusAlerts.exists_alert_of_load h
    unfold StatusAlerts.load
    cases action with
    | schedule =>
      dsimp only
      split_ifs <;> rfl
    | cancel =>
      simp only [upSent]
      split_ifs with hp hp' hp'
      · rfl
      · exact absurd hp hp'
      · exact absurd hp' hp
      · rfl
  | push j =>
    obtain ⟨action, todo, a, rfl, -, rfl⟩ := StatusAlerts.exists_alert_of_push h
    rfl
  | dequeue =>
    obtain ⟨t, rest, -, -, rfl⟩ := StatusAlerts.exists_task_of_dequeue h
    unfold StatusAlerts.handleTask
    cases t.action <;> rfl
  | tick =>
    obtain rfl := StatusAlerts.eq_of_tick h
    rfl
  | sweepNext => exact absurd rfl hne

/-- **A step of the hub** is one of `Alerts/Status`, with the ticker's loop taken apart. -/
theorem exists_hub_of_step {s s' : State} {e : StatusAlerts.Event} (h : step s (.hub e) = some s') :
    e ≠ .sweepNext ∧
      ∃ hub, StatusAlerts.step s.alerts s.hub e = some hub ∧ hubStep s e hub = s' := by
  cases e <;> simp only [step, Option.map_eq_some_iff, reduceCtorEq] at h <;>
    exact ⟨nofun, h⟩

/-- **A turn of the ticker's loop**: the next entry is looked at, or there is none left. -/
theorem sweepNext_cases {s s' : State} (h : step s .sweepNext = some s') :
    s.sent = none ∧
      ((∃ began p rest, s.hub.sweep = some (began, p :: rest) ∧
          s' = sweepEntry { s with hub := { s.hub with sweep := some (began, rest) } } began p) ∨
        s' = { s with hub := { s.hub with sweep := none } }) := by
  simp only [step] at h
  split at h
  · rename_i began p rest hsent hsweep
    exact ⟨hsent, .inl ⟨began, p, rest, hsweep, (Option.some.inj h).symm⟩⟩
  · rename_i hsent _
    exact ⟨hsent, .inr (Option.some.inj h).symm⟩
  · cases h

/-- The steps of `Alerts/Status`. -/
def hubEvents (es : List StatusAlerts.Event) : List Event := es.map .hub

/-- The system goes down and its alert gets an entry. -/
def entered : List Event := hubEvents (StatusAlerts.goesDown ++ StatusAlerts.scheduled)

/-- The system comes up and its alert is looked up. -/
def comesUp : List Event := hubEvents
  [.commit "system" .up, .hook "system" .up false false,
    .load ⟨.cancel, [StatusAlerts.exampleAlert], none⟩]

/-! ## No outage without its `down`

What is still to happen to the entry of an alert is in three places: the calls of
`HandleStatusAlerts` in progress, the queue, and the ticker's branch that is about to delete what it
has sent. -/

/-- The call will look the alert up, to schedule it. -/
def ToSchedule (sys : SystemId) (id : String) (j : Job) : Prop :=
  j.action = .schedule ∧ ∃ a ∈ j.todo, a.id = id ∧ a.system = sys

/-- The call waits for room in the queue, to schedule the alert. -/
def Schedules (sys : SystemId) (id : String) (j : Job) : Prop :=
  j.action = .schedule ∧ ∃ a ∈ j.sending, a.id = id ∧ a.system = sys

/-- The call is for an `up` and is not done with the alert. -/
def Cancels (id : String) (j : Job) : Prop :=
  j.action = .cancel ∧ ((∃ a ∈ j.todo, a.id = id) ∨ ∃ a ∈ j.sending, a.id = id)

/-- Whether the alert has an entry once the worker has taken these tasks. -/
def settle (id : String) : List AlertTask → Bool → Bool
  | [], pending => pending
  | t :: rest, pending =>
    settle id rest (if t.alert.id = id then t.action = .schedule else pending)

/-- Whether the alert has an entry once the worker has deleted what it has sent, and has taken the
tasks that are queued. -/
def State.keeps (s : State) (id : String) : Bool :=
  settle id s.hub.alertQueue
    (s.hub.pendingAlerts.any (·.1.id = id) && s.sent.all (·.id ≠ id))

/-- **No `down` is missed**: when the queue is empty, no call for the system is in progress and the
last one was for a `down`, each alert that it read has an entry or its `down` was sent. -/
def State.NoneMissed (s : State) : Prop :=
  ∀ sys d, s.handled sys = some d → s.hub.alertQueue = [] →
    (∀ j ∈ s.hub.jobs, ∀ a, a ∈ j.todo ∨ j.sending = some a → a.system ≠ sys) →
    ∀ a ∈ d.alerts, s.hub.pends a = true ∨ a.id ∈ d.notified

/-- `handleSystemDown` looks an alert up when no call for an `up` has still to deal with it, and
skips it only for an entry that stays: no cancellation of it is queued, and it is not one that was
sent before the outage and is about to be deleted. -/
def Undisturbed (s : State) : Event → Prop
  | .hub (.load ⟨.schedule, a :: _, none⟩) => ∀ d, s.handled a.system = some d →
      (¬ ∃ j ∈ s.hub.jobs, Cancels a.id j) ∧
        (s.hub.pends a = true → (∀ t ∈ s.hub.alertQueue, t.alert.id = a.id → t.action = .schedule) ∧
          ((∃ b ∈ s.sent, b.id = a.id) → a.id ∈ d.notified))
  | _ => True

/-- The alert is on its way into the map, or in the map to stay, or was sent. -/
def Covered (s : State) (sys : SystemId) (d : DownHandled) (id : String) : Prop :=
  id ∈ d.notified ∨ (∃ j ∈ s.hub.jobs, ToSchedule sys id j) ∨
    ((¬ ∃ j ∈ s.hub.jobs, Cancels id j) ∧
      ((∃ j ∈ s.hub.jobs, Schedules sys id j) ∨ s.keeps id = true))

/-- What all runs keep: ids are not used twice, and what the ticker's branch has sent is from its
own loop. -/
structure WellFormed (s : State) : Prop where
  ids : (s.known.map (·.id)).Nodup
  busy : s.sent ≠ none → s.hub.sweep ≠ none

/-- What undisturbed runs keep. -/
structure Inv (s : State) : Prop where
  owned : ∀ sys d, s.handled sys = some d → ∀ a ∈ d.alerts,
    ∃ b ∈ s.known, b.id = a.id ∧ b.system = sys
  covered : ∀ sys d, s.handled sys = some d → ∀ a ∈ d.alerts, Covered s sys d a.id

section Coverage

variable {s s' : State} {sys : SystemId} {d : DownHandled} {id : String} {j j' : Job}
  {hub : StatusAlerts.State}

/-! ### Tasks and calls -/

theorem settle_append (queue : List AlertTask) (t : AlertTask) (pending : Bool) :
    settle id (queue ++ [t]) pending =
      if t.alert.id = id then decide (t.action = .schedule) else settle id queue pending := by
  induction queue generalizing pending with
  | nil => rfl
  | cons t' queue ih => exact ih _

/-- Tasks that only schedule the alert leave its entry where it is. -/
theorem settle_of_schedule {queue : List AlertTask}
    (h : ∀ t ∈ queue, t.alert.id = id → t.action = .schedule) : settle id queue true = true := by
  induction queue with
  | nil => rfl
  | cons t queue ih =>
    have ht : (if t.alert.id = id then decide (t.action = .schedule) else true) = true := by
      split_ifs with hid
      · exact decide_eq_true (h t List.mem_cons_self hid)
      · rfl
    rw [settle, ht]
    exact ih fun t' ht' => h t' (List.mem_cons_of_mem _ ht')

/-- Of a call that is done nothing is left. -/
theorem exists_putJob {P : Job → Prop} (hP : P j → ¬ (j.todo = [] ∧ j.sending = none)) :
    (∃ k ∈ (StatusAlerts.putJob hub j).jobs, P k) ↔ (∃ k ∈ hub.jobs, P k) ∨ P j := by
  unfold StatusAlerts.putJob
  split_ifs with h
  · exact (or_iff_left fun hp => hP hp h).symm
  · rw [List.exists_mem_cons_iff, or_comm]

/-- **A call goes on**: what was true of some call is true of another one, or of this. -/
theorem exists_erase {P : Job → Prop} (hj : j ∈ hub.jobs) :
    (∃ k ∈ hub.jobs, P k) ↔ (∃ k ∈ hub.jobs.erase j, P k) ∨ P j := by
  refine ⟨fun ⟨k, hk, hp⟩ => ?_, ?_⟩
  · by_cases hkj : k = j
    · exact .inr (hkj ▸ hp)
    · exact .inl ⟨k, (List.mem_erase_of_ne hkj).mpr hk, hp⟩
  · rintro (⟨k, hk, hp⟩ | hp)
    · exact ⟨k, List.mem_of_mem_erase hk, hp⟩
    · exact ⟨j, hj, hp⟩

theorem ToSchedule.ne_done (h : ToSchedule sys id j) : ¬ (j.todo = [] ∧ j.sending = none) := by
  rintro ⟨htodo, -⟩
  obtain ⟨-, a, ha, -⟩ := h
  rw [htodo] at ha
  cases ha

theorem Schedules.ne_done (h : Schedules sys id j) : ¬ (j.todo = [] ∧ j.sending = none) := by
  rintro ⟨-, hsending⟩
  obtain ⟨-, a, ha, -⟩ := h
  rw [hsending] at ha
  cases ha

theorem Cancels.ne_done (h : Cancels id j) : ¬ (j.todo = [] ∧ j.sending = none) := by
  rintro ⟨htodo, hsending⟩
  obtain ⟨-, ⟨a, ha, -⟩ | ⟨a, ha, -⟩⟩ := h
  · rw [htodo] at ha
    cases ha
  · rw [hsending] at ha
    cases ha

/-- **The frame rule**: an alert stays covered if no call that schedules it is lost, none that
cancels it is new, and its entry is kept as before. -/
theorem Covered.mono (h : Covered s sys d id)
    (htodo : (∃ k ∈ s.hub.jobs, ToSchedule sys id k) → Covered s' sys d id)
    (hsends : (∃ k ∈ s.hub.jobs, Schedules sys id k) →
      (∃ k ∈ s'.hub.jobs, Schedules sys id k) ∨ s'.keeps id = true)
    (hcancels : (∃ k ∈ s'.hub.jobs, Cancels id k) → ∃ k ∈ s.hub.jobs, Cancels id k)
    (hkeeps : (¬ ∃ k ∈ s.hub.jobs, Cancels id k) → s.keeps id = true → s'.keeps id = true) :
    Covered s' sys d id := by
  obtain h | h | ⟨hno, h | h⟩ := h
  · exact .inl h
  · exact htodo h
  · exact .inr (.inr ⟨fun hc => hno (hcancels hc), hsends h⟩)
  · exact .inr (.inr ⟨fun hc => hno (hcancels hc), .inr (hkeeps hno h)⟩)

/-- The same calls, and the same fate of the entry. -/
theorem Covered.congr (h : Covered s sys d id) (hjobs : s'.hub.jobs = s.hub.jobs)
    (hkeeps : s'.keeps id = s.keeps id) : Covered s' sys d id := by
  refine h.mono (fun ht => ?_) (fun hs => ?_) (fun hc => ?_) (fun _ hk => ?_)
  · exact .inr (.inl (hjobs ▸ ht))
  · exact .inl (hjobs ▸ hs)
  · exact hjobs ▸ hc
  · exact hkeeps ▸ hk

/-! ### The steps of a call -/

/-- A turn of the loop of `HandleStatusAlerts` leaves the queue and the map alone. -/
theorem load_fields (action : Action) (a : StatusAlert) (rest : List StatusAlert)
    (hub : StatusAlerts.State) :
    (StatusAlerts.load hub ⟨action, a :: rest, none⟩ a rest).jobs =
        (StatusAlerts.putJob hub
          ⟨action, rest, if hub.pends a = decide (action = .cancel) then some a else none⟩).jobs ∧
      (StatusAlerts.load hub ⟨action, a :: rest, none⟩ a rest).alertQueue = hub.alertQueue ∧
      (StatusAlerts.load hub ⟨action, a :: rest, none⟩ a rest).pendingAlerts = hub.pendingAlerts ∧
      (StatusAlerts.load hub ⟨action, a :: rest, none⟩ a rest).sweep = hub.sweep := by
  unfold StatusAlerts.load
  cases action <;> cases hp : hub.pends a <;>
    simp [StatusAlerts.putJob, StatusAlerts.sendStatusAlert]

/-- **An alert is looked up**: it was to be scheduled and now waits for the queue, or it has an
entry that stays. -/
theorem covered_load {action : Action} {a : StatusAlert} {rest : List StatusAlert}
    (hj : ⟨action, a :: rest, none⟩ ∈ s.hub.jobs) (hd : s.handled sys = some d)
    (hok : Undisturbed s (.hub (.load ⟨action, a :: rest, none⟩)))
    (hjobs : s'.hub.jobs = (StatusAlerts.putJob
      { s.hub with jobs := s.hub.jobs.erase ⟨action, a :: rest, none⟩ } ⟨action, rest,
        if s.hub.pends a = decide (action = .cancel) then some a else none⟩).jobs)
    (hkeeps : s'.keeps id = s.keeps id) (h : Covered s sys d id) : Covered s' sys d id := by
  have hcancels : (∃ k ∈ s'.hub.jobs, Cancels id k) → ∃ k ∈ s.hub.jobs, Cancels id k := by
    rw [hjobs, exists_putJob Cancels.ne_done, exists_erase hj]
    refine Or.imp_right fun ⟨haction, hc⟩ => ⟨haction, .inl ?_⟩
    obtain ⟨b, hb, hid⟩ | ⟨b, hb, hid⟩ := hc
    · exact ⟨b, List.mem_cons_of_mem _ hb, hid⟩
    · split_ifs at hb
      · cases hb
        exact ⟨a, List.mem_cons_self, hid⟩
      · cases hb
  refine h.mono (fun ht => ?_) (fun hs => ?_) hcancels (fun _ hk => hkeeps ▸ hk)
  · obtain ht | ⟨haction, b, hb, hid, hsys⟩ := (exists_erase hj).mp ht
    · refine .inr (.inl ?_)
      rw [hjobs, exists_putJob ToSchedule.ne_done]
      exact .inl ht
    · obtain rfl | hb := List.mem_cons.mp hb
      · -- the alert itself is looked up
        obtain rfl : action = .schedule := haction
        obtain ⟨hno, hpends⟩ := hok d (hsys ▸ hd)
        subst hid
        cases hp : s.hub.pends b with
        | false =>
          refine .inr (.inr ⟨fun hc => hno (hcancels hc), .inl ?_⟩)
          rw [hjobs, exists_putJob Schedules.ne_done, hp]
          exact .inr ⟨rfl, b, rfl, rfl, hsys⟩
        | true =>
          obtain ⟨hqueue, hsent⟩ := hpends hp
          by_cases hs : ∃ c ∈ s.sent, c.id = b.id
          · exact .inl (hsent hs)
          · refine .inr (.inr ⟨fun hc => hno (hcancels hc), .inr ?_⟩)
            have hall : s.sent.all (·.id ≠ b.id) = true := by
              cases hsent' : s.sent with
              | none => rfl
              | some c =>
                exact decide_eq_true fun hc => hs ⟨c, hsent', hc⟩
            have hany : s.hub.pendingAlerts.any (·.1.id = b.id) = true := hp
            rw [hkeeps, State.keeps, hany, hall]
            exact settle_of_schedule hqueue
      · refine .inr (.inl ?_)
        rw [hjobs, exists_putJob ToSchedule.ne_done]
        exact .inr ⟨haction, b, hb, hid, hsys⟩
  · obtain hs | ⟨-, b, hb, -⟩ := (exists_erase hj).mp hs
    · rw [hjobs, exists_putJob Schedules.ne_done]
      exact .inl (.inl hs)
    · cases hb

/-- **A task is queued**: if it is a cancellation, the alert was not covered by its entry. -/
theorem covered_push {action : Action} {a : StatusAlert} {todo : List StatusAlert}
    (hj : ⟨action, todo, some a⟩ ∈ s.hub.jobs)
    (hjobs : s'.hub.jobs = (StatusAlerts.putJob
      { s.hub with jobs := s.hub.jobs.erase ⟨action, todo, some a⟩ } ⟨action, todo, none⟩).jobs)
    (hkeeps : s'.keeps id = if a.id = id then decide (action = .schedule) else s.keeps id)
    (h : Covered s sys d id) : Covered s' sys d id := by
  refine h.mono (fun ht => ?_) (fun hs => ?_) (fun hc => ?_) (fun hno hk => ?_)
  · refine .inr (.inl ?_)
    rw [hjobs, exists_putJob ToSchedule.ne_done]
    exact (exists_erase hj).mp ht
  · rw [hjobs, exists_putJob Schedules.ne_done]
    obtain hs | ⟨haction, b, hb, hid, -⟩ := (exists_erase hj).mp hs
    · exact .inl (.inl hs)
    · cases hb
      rw [hkeeps, if_pos hid]
      exact .inr (decide_eq_true haction)
  · rw [hjobs, exists_putJob Cancels.ne_done] at hc
    refine (exists_erase hj).mpr (hc.imp_right fun ⟨haction, hc⟩ => ⟨haction, hc.imp_right ?_⟩)
    rintro ⟨b, hb, -⟩
    cases hb
  · rw [hkeeps]
    split_ifs with hid
    · cases action with
      | schedule => rfl
      | cancel => exact absurd ⟨_, hj, rfl, .inr ⟨a, rfl, hid⟩⟩ hno
    · exact hk

/-! ### The worker -/

theorem any_deletePending (a : StatusAlert) :
    (StatusAlerts.deletePending hub a).pendingAlerts.any (·.1.id = id) =
      (hub.pendingAlerts.any (·.1.id = id) && decide (a.id ≠ id)) := by
  rw [StatusAlerts.deletePending, List.any_filter]
  by_cases hid : a.id = id
  · subst hid
    simp
  · simp only [ne_eq, hid, not_false_eq_true, decide_true, Bool.and_true]
    refine List.any_congr rfl fun p => ?_
    by_cases hp : p.1.id = id
    · simp [hp, Ne.symm hid]
    · simp [hp]

/-- **A task is taken**: the entry is what the task asks for. -/
theorem any_handleTask (t : AlertTask) :
    (StatusAlerts.handleTask hub t).pendingAlerts.any (·.1.id = id) =
      if t.alert.id = id then decide (t.action = .schedule)
      else hub.pendingAlerts.any (·.1.id = id) := by
  have hdel : (StatusAlerts.deletePending hub t.alert).pendingAlerts.any (·.1.id = id) =
    (hub.pendingAlerts.any (·.1.id = id) && decide (t.alert.id ≠ id)) := any_deletePending t.alert
  unfold StatusAlerts.handleTask
  split_ifs with hid
  · cases ht : t.action <;> simp [hid, hdel]
  · cases ht : t.action <;> simp [hid, hdel]

/-- Taking the first task of the queue changes nothing about what is kept. -/
theorem keeps_dequeue {t : AlertTask} {rest : List AlertTask} (hq : s.hub.alertQueue = t :: rest)
    (hsent : s.sent = none) :
    State.keeps { s with hub := StatusAlerts.handleTask { s.hub with alertQueue := rest } t } id
      = s.keeps id := by
  have hqueue :
      (StatusAlerts.handleTask { s.hub with alertQueue := rest } t).alertQueue = rest := by
    unfold StatusAlerts.handleTask
    cases t.action <;> rfl
  simp only [State.keeps, hqueue, any_handleTask, hsent, hq, settle, Option.all_none,
    Bool.and_true]

/-- Deleting what was sent changes nothing about what is kept. -/
theorem keeps_sweepDelete {a : StatusAlert} (hsent : s.sent = some a) :
    State.keeps { s with hub := StatusAlerts.deletePending s.hub a, sent := none } id
      = s.keeps id := by
  simp only [State.keeps, any_deletePending, hsent, Option.all_none, Option.all_some,
    Bool.and_true]
  rfl

/-! ### Hooks -/

/-- **The hook** starts a call, or leaves the calls alone. -/
theorem hook_fields (alerts : List StatusAlert) (hub : StatusAlerts.State) (sys : SystemId)
    (status : SystemStatus) (ws added : Bool) :
    (StatusAlerts.onRecordAfterUpdateSuccess alerts hub sys status ws added).jobs =
        (match call hub (.hook sys status ws added) with
          | some (sys, action) => (StatusAlerts.handleStatusAlerts alerts hub sys action).jobs
          | none => hub.jobs) ∧
      (StatusAlerts.onRecordAfterUpdateSuccess alerts hub sys status ws added).alertQueue =
        hub.alertQueue ∧
      (StatusAlerts.onRecordAfterUpdateSuccess alerts hub sys status ws added).pendingAlerts =
        hub.pendingAlerts ∧
      (StatusAlerts.onRecordAfterUpdateSuccess alerts hub sys status ws added).sweep =
        hub.sweep := by
  unfold StatusAlerts.onRecordAfterUpdateSuccess
  cases hstore : hub.store sys with
  | none =>
    cases status <;> simp [call, hstore, StatusAlerts.addRecord]
  | some prev =>
    cases status with
    | paused => exact ⟨rfl, rfl, rfl, rfl⟩
    | pending =>
      cases ws <;> exact ⟨rfl, rfl, rfl, rfl⟩
    | down =>
      cases prev <;>
        simp [call, hstore, StatusAlerts.onStatusChange, StatusAlerts.handleStatusAlerts,
          StatusAlerts.putJob]
    | up =>
      cases prev <;>
        simp [call, hstore, StatusAlerts.onStatusChange, StatusAlerts.handleStatusAlerts,
          StatusAlerts.putJob]

/-! ### The collection -/

/-- **A change** does not show in what it leaves alone. -/
theorem map_modify {β : Type} {records : List AlertRecord} {f : AlertRecord → AlertRecord}
    {g : AlertRecord → β} (hf : ∀ r, r.alert.id = id → g (f r) = g r) :
    (modify records id f).map g = records.map g := by
  rw [modify, List.map_map]
  refine List.map_congr_left fun r _ => ?_
  rw [Function.comp_apply]
  split_ifs with hr
  · exact hf r hr.1
  · rfl

theorem known_hubStep (e : StatusAlerts.Event) : (hubStep s e hub).known = s.known := by
  unfold State.known hubStep
  cases upSent s.hub e with
  | none => rfl
  | some a => exact map_modify fun _ _ => rfl

theorem mem_known {a : StatusAlert} (h : a ∈ s.alerts) : a ∈ s.known := by
  obtain ⟨r, hr, rfl⟩ := List.mem_map.mp h
  exact List.mem_map_of_mem (List.mem_of_mem_filter hr)

/-- Two alerts with one id are one alert. -/
theorem WellFormed.eq_of_id (hw : WellFormed s) {a b : StatusAlert} (ha : a ∈ s.known)
    (hb : b ∈ s.known) (hid : a.id = b.id) : a = b :=
  List.inj_on_of_nodup_map hw.ids ha hb hid

/-- The hub does not leave the ticker's loop. -/
theorem sweep_of_step {alerts : List StatusAlert} {hub' : StatusAlerts.State}
    {e : StatusAlerts.Event} (hne : e ≠ .sweepNext) (hsweep : hub.sweep ≠ none)
    (h : StatusAlerts.step alerts hub e = some hub') : hub'.sweep ≠ none := by
  cases e with
  | advance ns | commit sys status | removeSystem sys | addRecord sys =>
    obtain rfl := Option.some.inj h
    exact hsweep
  | hook sys status ws added =>
    obtain ⟨-, rfl⟩ := StatusAlerts.mem_hooks_of_hook h
    exact (hook_fields alerts _ sys status ws added).2.2.2.trans_ne hsweep
  | load j =>
    obtain ⟨action, a, rest, rfl, -, rfl⟩ := StatusAlerts.exists_alert_of_load h
    exact (load_fields action a rest _).2.2.2.trans_ne hsweep
  | push j =>
    obtain ⟨action, todo, a, rfl, -, rfl⟩ := StatusAlerts.exists_alert_of_push h
    unfold StatusAlerts.putJob
    exact hsweep
  | dequeue =>
    obtain ⟨t, rest, hnone, -, -⟩ := StatusAlerts.exists_task_of_dequeue h
    exact absurd hnone hsweep
  | tick =>
    obtain rfl := StatusAlerts.eq_of_tick h
    exact Option.some_ne_none _
  | sweepNext => exact absurd rfl hne

/-- **Every step** leaves the ids and the ticker's loop in order. -/
theorem WellFormed.step {e : Event} (hw : WellFormed s) (h : step s e = some s') :
    WellFormed s' := by
  have hids (id : String) (f : AlertRecord → AlertRecord) (hf : ∀ r, r.alert.id = id →
      (f r).alert.id = r.alert.id) :
      (((modify s.records id f).map (·.alert)).map (·.id)).Nodup := by
    rw [List.map_map, map_modify hf, ← List.map_map]
    exact hw.ids
  cases e with
  | hub e =>
    obtain ⟨hne, hub, hhub, rfl⟩ := exists_hub_of_step h
    refine ⟨?_, fun hsent => sweep_of_step hne (hw.busy hsent) hhub⟩
    rw [known_hubStep]
    exact hw.ids
  | sweepNext =>
    obtain ⟨hsent, ⟨began, p, rest, -, rfl⟩ | rfl⟩ := sweepNext_cases h
    · unfold sweepEntry
      split_ifs
      · exact ⟨hids p.1.id _ fun _ _ => rfl, fun _ => Option.some_ne_none _⟩
      · exact ⟨hw.ids, fun _ => Option.some_ne_none _⟩
    · exact ⟨hw.ids, fun hne => absurd hsent hne⟩
  | sweepDelete =>
    obtain ⟨a, -, rfl⟩ := Option.map_eq_some_iff.mp h
    exact ⟨hw.ids, fun hne => absurd rfl hne⟩
  | create alert triggered =>
    simp only [Outage.step] at h
    split_ifs at h with hnew
    obtain rfl := Option.some.inj h
    refine ⟨List.nodup_cons.mpr ⟨fun hid => hnew ?_, hw.ids⟩, hw.busy⟩
    simpa [State.known] using hid
  | edit alert triggered =>
    obtain ⟨-, rfl⟩ := guard_eq_some h
    exact ⟨hids alert.id _ fun _ hr => hr.symm, hw.busy⟩
  | delete id =>
    obtain rfl := Option.some.inj h
    exact ⟨hids id _ fun _ _ => rfl, hw.busy⟩
  | resolveStatusAlerts =>
    obtain rfl := Option.some.inj h
    exact ⟨hw.ids, hw.busy⟩
  | untrigger id =>
    obtain ⟨-, rfl⟩ := guard_eq_some h
    exact ⟨hids id _ fun _ _ => rfl, hw.busy⟩
  | restart store =>
    obtain rfl := Option.some.inj h
    exact ⟨hw.ids, fun h => absurd rfl h⟩

theorem wellFormed_init (db : SystemId → SystemStatus) (store : SystemId → Option SystemStatus) :
    WellFormed (State.init db store) :=
  ⟨List.nodup_nil, fun h => absurd rfl h⟩

/-! ### Every step -/

/-- **The frame rule** for a step that starts no call and sends nothing. -/
theorem Inv.frame (hs : Inv s) (hknown : s'.known = s.known) (hhandled : s'.handled = s.handled)
    (hcovered : ∀ sys d, s.handled sys = some d → ∀ id, Covered s sys d id → Covered s' sys d id) :
    Inv s' := by
  refine ⟨fun sys d hd a ha => ?_, fun sys d hd a ha => ?_⟩
  · rw [hknown]
    exact hs.owned sys d (hhandled ▸ hd) a ha
  · rw [hhandled] at hd
    exact hcovered sys d hd a.id (hs.covered sys d hd a ha)

/-- The calls, the queue and the map are left alone. -/
theorem Inv.idle (hs : Inv s) (hknown : s'.known = s.known) (hhandled : s'.handled = s.handled)
    (hsent : s'.sent = s.sent) (hjobs : s'.hub.jobs = s.hub.jobs)
    (hqueue : s'.hub.alertQueue = s.hub.alertQueue)
    (hpending : s'.hub.pendingAlerts = s.hub.pendingAlerts) : Inv s' := by
  refine hs.frame hknown hhandled fun sys d _ id h => h.congr hjobs ?_
  rw [State.keeps, State.keeps, hqueue, hpending, hsent]

theorem record_ne {action : Action} {sys' : SystemId} (h : sys' ≠ sys) :
    record s (sys, action) sys' = s.handled sys' := by
  cases action <;> exact Function.update_of_ne h _ _

theorem record_self {action : Action} (h : record s (sys, action) sys = some d) :
    action = .schedule ∧ d.alerts = s.alerts.filter (·.system = sys) := by
  cases action with
  | schedule =>
    rw [record, Function.update_self] at h
    obtain rfl := Option.some.inj h
    exact ⟨rfl, rfl⟩
  | cancel =>
    rw [record, Function.update_self] at h
    cases h

/-- **A status is handled**: after a `down` all alerts of the system are to be looked up, and an
`up` cancels no alert of another system. -/
theorem Inv.handle (hw : WellFormed s) (hs : Inv s) {action : Action} (hknown : s'.known = s.known)
    (hhandled : s'.handled = record s (sys, action))
    (hjobs : s'.hub.jobs = (StatusAlerts.handleStatusAlerts s.alerts s.hub sys action).jobs)
    (hkeeps : ∀ id, s'.keeps id = s.keeps id) : Inv s' := by
  have hjob (P : Job → Prop) (hP : ∀ j, P j → ¬ (j.todo = [] ∧ j.sending = none)) :
      (∃ k ∈ s'.hub.jobs, P k) ↔
        (∃ k ∈ s.hub.jobs, P k) ∨ P ⟨action, s.alerts.filter (·.system = sys), none⟩ := by
    rw [hjobs, StatusAlerts.handleStatusAlerts, exists_putJob (hP _)]
  refine ⟨fun sys' d hd a ha => ?_, fun sys' d hd a ha => ?_⟩ <;>
    rw [hhandled] at hd <;> by_cases hsys : sys' = sys
  · subst hsys
    rw [(record_self hd).2] at ha
    obtain ⟨ha, hsys⟩ := List.mem_filter.mp ha
    exact ⟨a, hknown ▸ mem_known ha, rfl, of_decide_eq_true hsys⟩
  · rw [record_ne hsys] at hd
    exact hknown ▸ hs.owned sys' d hd a ha
  · subst hsys
    obtain ⟨rfl, halerts⟩ := record_self hd
    rw [halerts] at ha
    refine .inr (.inl ((hjob _ fun _ => ToSchedule.ne_done).mpr (.inr ⟨rfl, a, ha, rfl, ?_⟩)))
    exact of_decide_eq_true (List.mem_filter.mp ha).2
  · rw [record_ne hsys] at hd
    refine (hs.covered sys' d hd a ha).mono (fun h => ?_) (fun h => ?_) (fun h => ?_)
      (fun _ hk => hkeeps _ ▸ hk)
    · exact .inr (.inl ((hjob _ fun _ => ToSchedule.ne_done).mpr (.inl h)))
    · exact .inl ((hjob _ fun _ => Schedules.ne_done).mpr (.inl h))
    · obtain h | ⟨-, ⟨b, hb, hid⟩ | ⟨b, hb, -⟩⟩ := (hjob _ fun _ => Cancels.ne_done).mp h
      · exact h
      · obtain ⟨hb, hbsys⟩ := List.mem_filter.mp hb
        obtain ⟨c, hc, hcid, hcsys⟩ := hs.owned sys' d hd a ha
        obtain rfl := hw.eq_of_id (mem_known hb) hc (hid.trans hcid.symm)
        exact absurd (hcsys.symm.trans (of_decide_eq_true hbsys)) hsys
      · cases hb

/-- **One step of the hub.** -/
theorem Inv.hubStep {e : StatusAlerts.Event} (hw : WellFormed s) (hs : Inv s)
    (hok : Undisturbed s (.hub e)) (hne : e ≠ .sweepNext)
    (h : StatusAlerts.step s.alerts s.hub e = some hub) :
    Inv (hubStep s e hub) := by
  have hknown : (Outage.hubStep s e hub).known = s.known := known_hubStep e
  cases e with
  | advance ns | commit sys status | removeSystem sys | addRecord sys =>
    obtain rfl := Option.some.inj h
    exact hs.idle hknown rfl rfl rfl rfl rfl
  | hook sys status ws added =>
    obtain ⟨-, rfl⟩ := StatusAlerts.mem_hooks_of_hook h
    obtain ⟨hjobs, hqueue, hpending, -⟩ := hook_fields s.alerts
      { s.hub with hooks := s.hub.hooks.erase (sys, status) } sys status ws added
    cases hcall : call s.hub (.hook sys status ws added) with
    | none =>
      have hcall' : call { s.hub with hooks := s.hub.hooks.erase (sys, status) }
        (.hook sys status ws added) = none := by cases status <;> exact hcall
      rw [hcall'] at hjobs
      refine hs.idle hknown ?_ rfl hjobs hqueue hpending
      simp only [Outage.hubStep, hcall]
    | some c =>
      obtain ⟨sys', action⟩ := c
      have hcall' : call { s.hub with hooks := s.hub.hooks.erase (sys, status) }
        (.hook sys status ws added) = some (sys', action) := by cases status <;> exact hcall
      rw [hcall'] at hjobs
      refine hs.handle hw hknown ?_ hjobs fun id => ?_
      · simp only [Outage.hubStep, hcall]
      · simp only [State.keeps, Outage.hubStep, hqueue, hpending]
  | load j =>
    obtain ⟨action, a, rest, rfl, hj, rfl⟩ := StatusAlerts.exists_alert_of_load h
    obtain ⟨hjobs, hqueue, hpending, -⟩ := load_fields action a rest
      { s.hub with jobs := s.hub.jobs.erase ⟨action, a :: rest, none⟩ }
    refine hs.frame hknown rfl fun sys d hd id => covered_load hj hd hok hjobs ?_
    simp only [State.keeps, Outage.hubStep, hqueue, hpending]
  | push j =>
    obtain ⟨action, todo, a, rfl, hj, rfl⟩ := StatusAlerts.exists_alert_of_push h
    refine hs.frame hknown rfl fun sys d hd id => covered_push hj rfl ?_
    exact settle_append s.hub.alertQueue (StatusAlerts.task action a) _
  | dequeue =>
    obtain ⟨t, rest, hsweep, hq, rfl⟩ := StatusAlerts.exists_task_of_dequeue h
    have hsent : s.sent = none := by_contra fun hsent => hw.busy hsent hsweep
    have hjobs : (StatusAlerts.handleTask { s.hub with alertQueue := rest } t).jobs
        = s.hub.jobs := by
      unfold StatusAlerts.handleTask
      cases t.action <;> rfl
    refine hs.frame hknown rfl fun sys d _ id h => h.congr hjobs ?_
    exact keeps_dequeue hq hsent
  | tick =>
    obtain rfl := StatusAlerts.eq_of_tick h
    exact hs.idle hknown rfl rfl rfl rfl rfl
  | sweepNext => exact absurd rfl hne

/-- The ticker's branch sends the alert of an expired entry. -/
theorem Inv.sendDown {a : StatusAlert} (hs : Inv s) (hsent : s.sent = none) :
    Inv (sendDown s a) := by
  have hknown : (Outage.sendDown s a).known = s.known := map_modify fun _ _ => rfl
  refine ⟨fun sys d hd b hb => ?_, fun sys d hd b hb => ?_⟩ <;>
    obtain ⟨d, hd', rfl⟩ := Option.map_eq_some_iff.mp hd
  · exact hknown ▸ hs.owned sys d hd' b hb
  · by_cases hid : b.id = a.id
    · exact .inl (hid ▸ List.mem_cons_self)
    · obtain h | h := hs.covered sys d hd' b hb
      · exact .inl (List.mem_cons_of_mem _ h)
      · refine Covered.congr (.inr h) rfl ?_
        simp only [State.keeps, Outage.sendDown, StatusAlerts.sendStatusAlert, hsent,
          Option.all_none, Option.all_some]
        rw [decide_eq_true (Ne.symm hid)]

/-- A record is edited: an alert that is moved is no longer asked for. -/
theorem Inv.edit {alert : StatusAlert} {triggered : Bool} (hs : Inv s)
    (h : step s (.edit alert triggered) = some s') : Inv s' := by
  obtain ⟨-, rfl⟩ := guard_eq_some h
  refine ⟨fun sys d hd a ha => ?_, fun sys d hd a ha => ?_⟩ <;>
    obtain ⟨d, hd', rfl⟩ := Option.map_eq_some_iff.mp hd <;>
    obtain ⟨ha, hmoved⟩ := List.mem_filter.mp ha
  · obtain ⟨b, hb, hid, hsys⟩ := hs.owned sys d hd' a ha
    obtain ⟨r, hr, rfl⟩ := List.mem_map.mp hb
    refine ⟨_, List.mem_map_of_mem (List.mem_map_of_mem hr), ?_⟩
    split_ifs with hc
    · refine ⟨hc.1.symm.trans hid, (of_decide_eq_true hmoved).resolve_left fun hne => hne ?_⟩
      exact hid.symm.trans hc.1
    · exact ⟨hid, hsys⟩
  · exact (hs.covered sys d hd' a ha).congr rfl rfl

/-- **One step.** -/
theorem Inv.step {e : Event} (hw : WellFormed s) (hs : Inv s) (hok : Undisturbed s e)
    (h : step s e = some s') : Inv s' := by
  cases e with
  | hub e =>
    obtain ⟨hne, hub, hhub, rfl⟩ := exists_hub_of_step h
    exact hs.hubStep hw hok hne hhub
  | sweepNext =>
    obtain ⟨hsent, ⟨began, p, rest, -, rfl⟩ | rfl⟩ := sweepNext_cases h
    · have hpop : Inv { s with hub := { s.hub with sweep := some (began, rest) } } :=
        hs.idle rfl rfl rfl rfl rfl rfl
      unfold sweepEntry
      split_ifs
      · exact hpop.sendDown hsent
      · exact hpop
    · exact hs.idle rfl rfl rfl rfl rfl rfl
  | sweepDelete =>
    obtain ⟨a, ha, rfl⟩ := Option.map_eq_some_iff.mp h
    refine hs.frame rfl rfl fun sys d _ id h => h.congr rfl ?_
    exact keeps_sweepDelete ha
  | create alert triggered =>
    simp only [Outage.step] at h
    split_ifs at h
    obtain rfl := Option.some.inj h
    refine ⟨fun sys d hd a ha => ?_, fun sys d hd a ha => (hs.covered sys d hd a ha).congr rfl rfl⟩
    exact (hs.owned sys d hd a ha).imp fun b hb => ⟨List.mem_cons_of_mem _ hb.1, hb.2⟩
  | edit alert triggered => exact hs.edit h
  | delete id =>
    obtain rfl := Option.some.inj h
    exact hs.idle (map_modify fun _ _ => rfl) rfl rfl rfl rfl rfl
  | resolveStatusAlerts =>
    obtain rfl := Option.some.inj h
    exact hs.idle rfl rfl rfl rfl rfl rfl
  | untrigger id =>
    obtain ⟨-, rfl⟩ := guard_eq_some h
    exact hs.idle (map_modify fun _ _ => rfl) rfl rfl rfl rfl rfl
  | restart store =>
    obtain rfl := Option.some.inj h
    exact ⟨nofun, nofun⟩

/-- Nothing is handled, so nothing is asked for. -/
theorem inv_init (db : SystemId → SystemStatus) (store : SystemId → Option SystemStatus) :
    Inv (State.init db store) :=
  ⟨nofun, nofun⟩

theorem Inv.noneMissed (hs : Inv s) : s.NoneMissed := by
  intro sys d hd hqueue hjobs a ha
  obtain h | ⟨j, hj, -, b, hb, -, hsys⟩ | ⟨-, ⟨j, hj, -, b, hb, -, hsys⟩ | h⟩ :=
    hs.covered sys d hd a ha
  · exact .inr h
  · exact absurd hsys (hjobs j hj b (.inl hb))
  · exact absurd hsys (hjobs j hj b (.inr hb))
  · rw [State.keeps, hqueue, settle, Bool.and_eq_true] at h
    exact .inl h.1

/-- **No `down` is missed** in any state of a run in which `handleSystemDown` is undisturbed —
whatever the statuses it starts from. -/
theorem noneMissed_of_along {db : SystemId → SystemStatus}
    {store : SystemId → Option SystemStatus} {es : List Event}
    (hok : Along step Undisturbed (State.init db store) es)
    (hr : run step (State.init db store) es = some s) : s.NoneMissed := by
  have hs : WellFormed s ∧ Inv s :=
    inv_of_along (I := fun s => WellFormed s ∧ Inv s)
      (fun hs hok h => ⟨hs.1.step h, hs.2.step hs.1 hok h⟩)
      ⟨wellFormed_init db store, inv_init db store⟩ hok hr
  exact hs.2.noneMissed

end Coverage

theorem noneMissed_of_along_pending :
    ∃ s, run step (State.init (fun _ => .up) fun _ => some .up)
        (.create StatusAlerts.exampleAlert false :: entered) = some s ∧ s.NoneMissed ∧
      s.handled "system" = some ⟨[StatusAlerts.exampleAlert], []⟩ ∧
      s.hub.pends StatusAlerts.exampleAlert = true := by
  suffices hok : Along step Undisturbed (State.init (fun _ => .up) fun _ => some .up)
      (.create StatusAlerts.exampleAlert false :: entered)
    from ⟨_, rfl, noneMissed_of_along hok rfl, rfl, rfl⟩
  refine .cons trivial rfl (.cons trivial rfl (.cons trivial rfl (.cons ?_ rfl ?_)))
  · refine fun d _ => ⟨?_, nofun⟩
    rintro ⟨j, hj, hc, -⟩
    obtain rfl := List.mem_singleton.mp hj
    cases hc
  · exact .cons trivial rfl (.cons trivial rfl (along_nil _))

/-- The system comes up and goes down again before the worker has taken the cancellation. -/
def flips : List Event :=
  comesUp ++ hubEvents (.push ⟨.cancel, [], some StatusAlerts.exampleAlert⟩ ::
    StatusAlerts.goesDown) ++ [.hub .dequeue]

/-- **The second `down` finds the entry and skips the alert, and then the entry is cancelled.** -/
theorem not_noneMissed_flips :
    ∃ s, run step (State.init (fun _ => .up) fun _ => some .up)
        (.create StatusAlerts.exampleAlert false :: (entered ++ flips)) = some s ∧
      ¬ s.NoneMissed := by
  refine ⟨_, rfl, fun h => ?_⟩
  have hmissed := h "system" ⟨[StatusAlerts.exampleAlert], []⟩ rfl rfl nofun
    StatusAlerts.exampleAlert List.mem_cons_self
  exact absurd hmissed (by decide)

end Outage

end Beszel
