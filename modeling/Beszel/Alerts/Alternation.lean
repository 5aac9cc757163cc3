import Beszel.Alerts.Outage

/-!
# Alerts/Alternation — the `up` and the `down` notifications of an alert

    toSchedule ──▸ scheduling ──▸ entry ──▸ 'down' ──▸ toCancel ──▸ 'up'
                                    └──▸ toCancel ──▸ cancelling ──▸ ·

`handleSystemUp` takes an alert without an entry in the map for one whose `down` was sent.  The
machine of `Alerts/Outage`, seen from one alert: what the calls, the queue, the map and the ticker's
branch hold of it, whether it is in an outage, and what it has been told.  A `down` that is handled
is one token, which the calls, the queue and the map hand on until the ticker turns it into a
notification.
-/

namespace Beszel

open Machinery

namespace Outage

open StatusAlerts (StatusAlert AlertTask Action Job)

/-- **`down` and `up` alternate**, and the first is a `down`; newest first. -/
def Alternates : List SystemStatus → Prop
  | [] => True
  | status :: older =>
    ((status = .down ∧ older.head? ≠ some .down) ∨ (status = .up ∧ older.head? = some .down)) ∧
      Alternates older

/-- The notifications sent for an alert, newest first. -/
def State.notifications (s : State) (id : String) : List SystemStatus :=
  (s.hub.log.filter (·.alert.id = id)).map (·.status)

/-- **Statuses are handled in turn**: a call reads only alerts of which no earlier call has left
anything to do and which the ticker is not about to delete, for an `up` those in an outage and for
a `down` those that are not; and the ticker comes to no entry that a call for an `up` has still to
deal with. -/
def InTurn (s : State) : Event → Prop
  | .hub e => ∀ c ∈ call s.hub e, ∀ a ∈ s.alertsOf c.1,
      (a.id ∈ s.inOutage ↔ c.2 = .cancel) ∧ (∀ p ∈ underWay s.hub, p.2 ≠ a.id) ∧
        ∀ b ∈ s.sent, b.id ≠ a.id
  | .sweepNext => ∀ a ∈ s.due, (.cancel, a.id) ∉ underWay s.hub
  | _ => True

/-! ## One alert -/

/-- What the hub holds of one alert: in calls that have still to look it up, in tasks that wait or
are queued, and in the map; `sent` says that the ticker's branch is about to delete the entry. -/
@[ext] structure View where
  notifications : List SystemStatus
  inOutage : Bool
  toSchedule : ℕ
  scheduling : ℕ
  toCancel : ℕ
  cancelling : ℕ
  entry : Bool
  sent : Bool

/-- The last that the alert was told is that the system is down. -/
def View.told (v : View) : Bool := v.notifications.head? = some .down

/-- The entry will be sent, unless it is cancelled. -/
def View.pending (v : View) : Bool := v.entry && !v.sent

/-- **What runs in turn keep.**  In an outage the alert has been told, or its `down` is in one place
on its way to the ticker; after the outage it has not, and an entry that is left will be
cancelled. -/
structure View.Sound (v : View) : Prop where
  alternates : Alternates v.notifications
  during : v.inOutage = true → v.cancelling = 0 ∧ v.toCancel ≤ 1 ∧
    v.toSchedule + v.scheduling + v.pending.toNat + v.told.toNat = 1
  after : v.inOutage = false → v.toSchedule = 0 ∧ v.scheduling = 0 ∧ v.toCancel = 0 ∧
    v.told = false ∧ (v.entry = true → v.cancelling ≠ 0)
  ending : v.toCancel ≠ 0 → v.toSchedule = 0 ∧ v.scheduling = 0
  sent : v.sent = true → v.inOutage = true ∧ v.told = true ∧ v.toCancel = 0

/-- A call for a `down` reads the alert. -/
def View.handleDown (v : View) : View :=
  { v with inOutage := true, toSchedule := v.toSchedule + 1 }

/-- It looks the alert up. -/
def View.lookUpDown (v : View) : View :=
  { v with
    toSchedule := v.toSchedule - 1
    scheduling := if v.entry then v.scheduling else v.scheduling + 1 }

/-- The worker takes its task. -/
def View.takeDown (v : View) : View := { v with scheduling := v.scheduling - 1, entry := true }

/-- The ticker's branch sends the entry. -/
def View.fire (v : View) : View :=
  { v with notifications := .down :: v.notifications, sent := true }

/-- It deletes what it has sent. -/
def View.delete (v : View) : View := { v with entry := false, sent := false }

/-- A call for an `up` reads the alert. -/
def View.handleUp (v : View) : View := { v with toCancel := v.toCancel + 1 }

/-- A call reads the alert. -/
def View.handle (v : View) : Action → View
  | .schedule => v.handleDown
  | .cancel => v.handleUp

/-- It looks the alert up, and sends an `up` if there is no entry. -/
def View.lookUpUp (v : View) : View :=
  { v with
    inOutage := false
    toCancel := v.toCancel - 1
    cancelling := if v.entry then v.cancelling + 1 else v.cancelling
    notifications := if v.entry then v.notifications else .up :: v.notifications }

/-- A call looks the alert up. -/
def View.lookUp (v : View) : Action → View
  | .schedule => v.lookUpDown
  | .cancel => v.lookUpUp

/-- The worker takes its task. -/
def View.takeUp (v : View) : View := { v with cancelling := v.cancelling - 1, entry := false }

/-- The worker takes a task. -/
def View.take (v : View) : Action → View
  | .schedule => v.takeDown
  | .cancel => v.takeUp

/-- The hub is restarted. -/
def View.restart (v : View) : View where
  notifications := v.notifications
  inOutage := v.inOutage && !(decide (v.toSchedule ≠ 0 ∨ v.scheduling ≠ 0) || v.pending)
  toSchedule := 0
  scheduling := 0
  toCancel := 0
  cancelling := 0
  entry := false
  sent := false

section View

variable {v : View}

/-- Where the `down` of an alert is that has not been told. -/
theorem View.Sound.inOutage_of_token (h : v.Sound) (htoken : v.toSchedule ≠ 0 ∨ v.scheduling ≠ 0) :
    v.inOutage = true ∧ v.told = false ∧ v.pending = false ∧ v.toSchedule + v.scheduling = 1 ∧
      v.toCancel = 0 := by
  cases hin : v.inOutage with
  | false =>
    obtain ⟨h₁, h₂, -⟩ := h.after hin
    exact absurd htoken (by simp [h₁, h₂])
  | true =>
    obtain ⟨-, -, htokens⟩ := h.during hin
    have hcancel : v.toCancel = 0 := by
      by_contra hc
      obtain ⟨h₁, h₂⟩ := h.ending hc
      exact absurd htoken (by simp [h₁, h₂])
    refine ⟨rfl, ?_, ?_, by omega, hcancel⟩
    · cases ht : v.told with
      | false => rfl
      | true =>
        rw [ht, Bool.toNat_true] at htokens
        omega
    · cases hp : v.pending with
      | false => rfl
      | true =>
        rw [hp, Bool.toNat_true] at htokens
        omega

/-- An entry that will be sent has not been sent before. -/
theorem View.Sound.told_of_pending (h : v.Sound) (hin : v.inOutage = true)
    (hpending : v.pending = true) : v.told = false := by
  obtain ⟨-, -, htokens⟩ := h.during hin
  cases ht : v.told with
  | false => rfl
  | true =>
    rw [ht, hpending, Bool.toNat_true] at htokens
    omega

/-- An alert whose `down` has not been told is not being deleted, and has an entry only if it
pends. -/
theorem View.Sound.entry_of_not_told (h : v.Sound) (htold : v.told = false) :
    v.sent = false ∧ v.pending = v.entry := by
  have hsent : v.sent = false :=
    Bool.eq_false_iff.mpr fun hs => Bool.false_ne_true (htold.symm.trans (h.sent hs).2.1)
  exact ⟨hsent, by rw [View.pending, hsent, Bool.not_false, Bool.and_true]⟩

theorem View.Sound.handleDown (h : v.Sound) (hout : v.inOutage = false)
    (hcancelling : v.cancelling = 0) : v.handleDown.Sound := by
  obtain ⟨h₁, h₂, h₃, htold, hentry⟩ := h.after hout
  obtain ⟨hsent, hpending⟩ := h.entry_of_not_told htold
  have he : v.entry = false := Bool.eq_false_iff.mpr fun he => hentry he hcancelling
  refine ⟨h.alternates, fun _ => ⟨hcancelling, h₃.le.trans (Nat.zero_le 1), ?_⟩,
    fun hf => absurd hf Bool.true_eq_false.mp, fun hc => absurd h₃ hc, fun hs => ?_⟩
  · change v.toSchedule + 1 + v.scheduling + v.pending.toNat + v.told.toNat = 1
    rw [hpending, he, htold, h₁, h₂, Bool.toNat_false]
  · exact absurd (hsent.symm.trans hs) Bool.false_ne_true

theorem View.Sound.lookUpDown (h : v.Sound) (hpos : v.toSchedule ≠ 0) : v.lookUpDown.Sound := by
  obtain ⟨hin, htold, hpending, htokens, hcancel⟩ := h.inOutage_of_token (.inl hpos)
  obtain ⟨hsent, he⟩ := h.entry_of_not_told htold
  rw [hpending] at he
  refine ⟨h.alternates, fun _ => ⟨(h.during hin).1, (h.during hin).2.1, ?_⟩,
    fun hf => absurd (hin.symm.trans hf) Bool.true_eq_false.mp, fun hc => absurd hcancel hc,
    fun hs => absurd (hsent.symm.trans hs) Bool.false_ne_true⟩
  change v.toSchedule - 1 + (if v.entry then v.scheduling else v.scheduling + 1) +
    v.pending.toNat + v.told.toNat = 1
  rw [hpending, htold, ← he, if_neg Bool.false_ne_true, Bool.toNat_false]
  omega

theorem View.Sound.takeDown (h : v.Sound) (hpos : v.scheduling ≠ 0) : v.takeDown.Sound := by
  obtain ⟨hin, htold, -, htokens, hcancel⟩ := h.inOutage_of_token (.inr hpos)
  obtain ⟨hsent, -⟩ := h.entry_of_not_told htold
  refine ⟨h.alternates, fun _ => ⟨(h.during hin).1, (h.during hin).2.1, ?_⟩,
    fun hf => absurd (hin.symm.trans hf) Bool.true_eq_false.mp, fun hc => absurd hcancel hc,
    fun hs => absurd (hsent.symm.trans hs) Bool.false_ne_true⟩
  change v.toSchedule + (v.scheduling - 1) + (true && !v.sent).toNat + v.told.toNat = 1
  rw [hsent, htold, Bool.not_false, Bool.and_true, Bool.toNat_true, Bool.toNat_false]
  omega

/-- **The ticker sends an entry** that no call for an `up` has to deal with: its alert has not been
told. -/
theorem View.Sound.fire (h : v.Sound) (hpending : v.pending = true) (hcancel : v.toCancel = 0)
    (hcancelling : v.cancelling = 0) : v.fire.Sound := by
  obtain ⟨hentry, hsent⟩ := Bool.and_eq_true_iff.mp hpending
  have hin : v.inOutage = true := by
    cases hin : v.inOutage with
    | true => rfl
    | false => exact absurd hcancelling ((h.after hin).2.2.2.2 hentry)
  have htold := h.told_of_pending hin hpending
  obtain ⟨-, -, htokens⟩ := h.during hin
  have htold' : v.fire.told = true := rfl
  have hpending' : v.fire.pending = false := by
    rw [View.pending, View.fire, Bool.not_true, Bool.and_false]
  rw [hpending, htold, Bool.toNat_true, Bool.toNat_false] at htokens
  refine ⟨⟨.inl ⟨rfl, of_decide_eq_false htold⟩, h.alternates⟩,
    fun _ => ⟨hcancelling, hcancel.le.trans (Nat.zero_le 1), ?_⟩,
    fun hf => absurd (hin.symm.trans hf) Bool.true_eq_false.mp, fun hc => absurd hcancel hc,
    fun _ => ⟨hin, htold', hcancel⟩⟩
  rw [hpending', htold', Bool.toNat_false, Bool.toNat_true]
  change v.toSchedule + v.scheduling + 0 + 1 = 1
  omega

theorem View.Sound.delete (h : v.Sound) (hsent : v.sent = true) : v.delete.Sound := by
  obtain ⟨hin, htold, hcancel⟩ := h.sent hsent
  obtain ⟨h₁, h₂, htokens⟩ := h.during hin
  refine ⟨h.alternates, fun _ => ⟨h₁, h₂, ?_⟩,
    fun hf => absurd (hin.symm.trans hf) Bool.true_eq_false.mp, h.ending,
    fun hs => absurd hs Bool.false_ne_true⟩
  change v.toSchedule + v.scheduling + 0 + v.told.toNat = 1
  have hpending : v.pending = false := by
    rw [View.pending, hsent, Bool.not_true, Bool.and_false]
  rwa [hpending] at htokens

theorem View.Sound.handleUp (h : v.Sound) (hin : v.inOutage = true) (hschedule : v.toSchedule = 0)
    (hscheduling : v.scheduling = 0) (hcancel : v.toCancel = 0) (hsent : v.sent = false) :
    v.handleUp.Sound := by
  obtain ⟨h₁, -, htokens⟩ := h.during hin
  refine ⟨h.alternates, fun _ => ⟨h₁, ?_, htokens⟩,
    fun hf => absurd (hin.symm.trans hf) Bool.true_eq_false.mp,
    fun _ => ⟨hschedule, hscheduling⟩, fun hs => ?_⟩
  · exact (congrArg (· + 1) hcancel).le
  · exact absurd (hsent.symm.trans hs) Bool.false_ne_true

/-- **An alert is looked up for an `up`**: if it has no entry, its `down` was sent. -/
theorem View.Sound.lookUpUp (h : v.Sound) (hpos : v.toCancel ≠ 0) : v.lookUpUp.Sound := by
  obtain ⟨h₁, h₂⟩ := h.ending hpos
  have hin : v.inOutage = true := by
    cases hin : v.inOutage with
    | true => rfl
    | false => exact absurd (h.after hin).2.2.1 hpos
  have hsent : v.sent = false := Bool.eq_false_iff.mpr fun hs => hpos (h.sent hs).2.2
  obtain ⟨-, hle, htokens⟩ := h.during hin
  have hcancel : v.toCancel - 1 = 0 := by omega
  have hpending : v.pending = v.entry := by
    rw [View.pending, hsent, Bool.not_false, Bool.and_true]
  rw [h₁, h₂, hpending] at htokens
  refine ⟨?_, fun hf => absurd hf Bool.false_ne_true, fun _ => ⟨h₁, h₂, hcancel, ?_, ?_⟩,
    fun _ => ⟨h₁, h₂⟩, fun hs => absurd (hsent.symm.trans hs) Bool.false_ne_true⟩
  · cases he : v.entry with
    | true => simpa [View.lookUpUp, he] using h.alternates
    | false =>
      have htold : v.told = true := by
        cases ht : v.told with
        | true => rfl
        | false =>
          rw [he, ht] at htokens
          exact absurd htokens (by decide)
      have hnotes : v.lookUpUp.notifications = .up :: v.notifications := by
        simp [View.lookUpUp, he]
      exact hnotes ▸ ⟨.inr ⟨rfl, of_decide_eq_true htold⟩, h.alternates⟩
  · cases he : v.entry with
    | false => simp [View.told, View.lookUpUp, he]
    | true =>
      have htold := h.told_of_pending hin (hpending.trans he)
      simpa [View.told, View.lookUpUp, he] using htold
  · intro he
    have he' : v.entry = true := he
    simp [View.lookUpUp, he']

theorem View.Sound.takeUp (h : v.Sound) (hpos : v.cancelling ≠ 0) : v.takeUp.Sound := by
  have hout : v.inOutage = false := Bool.eq_false_iff.mpr fun hin => hpos (h.during hin).1
  obtain ⟨h₁, h₂, h₃, htold, -⟩ := h.after hout
  refine ⟨h.alternates, fun hin => absurd (hout.symm.trans hin) Bool.false_ne_true,
    fun _ => ⟨h₁, h₂, h₃, htold, fun he => absurd he Bool.false_ne_true⟩, h.ending, fun hs => ?_⟩
  exact absurd (hout.symm.trans (h.sent hs).1) Bool.false_ne_true

theorem View.Sound.restart (h : v.Sound) : v.restart.Sound := by
  have htold' : v.restart.told = v.told := rfl
  refine ⟨h.alternates, fun hin => ?_, fun hout => ?_, fun hc => absurd rfl hc,
    fun hs => absurd hs Bool.false_ne_true⟩
  · obtain ⟨hin, hkept⟩ := Bool.and_eq_true_iff.mp hin
    simp only [Bool.not_eq_true', Bool.or_eq_false_iff, decide_eq_false_iff_not, not_or,
      not_not] at hkept
    obtain ⟨-, -, htokens⟩ := h.during hin
    rw [hkept.1.1, hkept.1.2, hkept.2] at htokens
    exact ⟨rfl, Nat.zero_le 1, htokens⟩
  · refine ⟨rfl, rfl, rfl, ?_, fun he => absurd he Bool.false_ne_true⟩
    cases hin : v.inOutage with
    | false => exact (h.after hin).2.2.2.1
    | true =>
      have hlost : (decide (v.toSchedule ≠ 0 ∨ v.scheduling ≠ 0) || v.pending) = true := by
        have hout' : (v.inOutage && !(decide (v.toSchedule ≠ 0 ∨ v.scheduling ≠ 0) || v.pending))
          = false := hout
        rwa [hin, Bool.true_and, Bool.not_eq_false'] at hout'
      rcases (Bool.or_eq_true _ _).mp hlost with htoken | hpending
      · exact (h.inOutage_of_token (of_decide_eq_true htoken)).2.1
      · exact h.told_of_pending hin hpending

end View

/-! ## The hub, seen from one alert -/

/-- **What the hub holds of an alert.** -/
def State.view (s : State) (id : String) : View where
  notifications := s.notifications id
  inOutage := id ∈ s.inOutage
  toSchedule := (toLookUp s.hub).count (.schedule, id)
  scheduling := (toTake s.hub).count (.schedule, id)
  toCancel := (toLookUp s.hub).count (.cancel, id)
  cancelling := (toTake s.hub).count (.cancel, id)
  entry := s.hub.pendingAlerts.any (·.1.id = id)
  sent := s.sent.any (·.id = id)

section Views

variable {s s' : State} {id : String} {hub : StatusAlerts.State} {j : Job} {x : Action × String}

/-! ### What is under way, counted -/

theorem count_toLookUp_putJob : (toLookUp (StatusAlerts.putJob hub j)).count x =
    (j.todo.map fun a => (j.action, a.id)).count x + (toLookUp hub).count x := by
  unfold toLookUp StatusAlerts.putJob
  split_ifs with h
  · simp [h.1]
  · rw [List.flatMap_cons, List.count_append]

theorem count_toTake_putJob : (toTake (StatusAlerts.putJob hub j)).count x =
    (j.sending.toList.map fun a => (j.action, a.id)).count x + (toTake hub).count x := by
  unfold toTake StatusAlerts.putJob
  split_ifs with h
  · simp [h.2]
  · rw [List.flatMap_cons, List.append_assoc, List.count_append]

/-- A call that is taken out of the list takes its share away. -/
theorem count_flatMap_erase {f : Job → List (Action × String)} (hj : j ∈ hub.jobs) :
    (hub.jobs.flatMap f).count x = (f j).count x + ((hub.jobs.erase j).flatMap f).count x := by
  rw [((List.perm_cons_erase hj).flatMap_right f).count_eq, List.flatMap_cons, List.count_append]

theorem count_toLookUp_erase (hj : j ∈ hub.jobs) : (toLookUp hub).count x =
    (j.todo.map fun a => (j.action, a.id)).count x +
      (toLookUp { hub with jobs := hub.jobs.erase j }).count x :=
  count_flatMap_erase hj

theorem count_toTake_erase (hj : j ∈ hub.jobs) : (toTake hub).count x =
    (j.sending.toList.map fun a => (j.action, a.id)).count x +
      (toTake { hub with jobs := hub.jobs.erase j }).count x := by
  unfold toTake
  rw [List.count_append, count_flatMap_erase hj, List.count_append, Nat.add_assoc]

/-- **A turn of the loop of a call**: what it looks up is no longer to be looked up, and may have to
be taken. -/
theorem count_load {action : Action} {a : StatusAlert} {rest : List StatusAlert}
    (hj : ⟨action, a :: rest, none⟩ ∈ hub.jobs) :
    (toLookUp (StatusAlerts.load { hub with jobs := hub.jobs.erase ⟨action, a :: rest, none⟩ }
        ⟨action, a :: rest, none⟩ a rest)).count x + (if (action, a.id) = x then 1 else 0) =
      (toLookUp hub).count x ∧
    (toTake (StatusAlerts.load { hub with jobs := hub.jobs.erase ⟨action, a :: rest, none⟩ }
        ⟨action, a :: rest, none⟩ a rest)).count x = (toTake hub).count x +
      (if hub.pends a = decide (action = .cancel) ∧ (action, a.id) = x then 1 else 0) := by
  obtain ⟨hjobs, hqueue, -, -⟩ := load_fields action a rest
    { hub with jobs := hub.jobs.erase ⟨action, a :: rest, none⟩ }
  have hpends : StatusAlerts.State.pends
      { hub with jobs := hub.jobs.erase ⟨action, a :: rest, none⟩ } a = hub.pends a := rfl
  rw [hpends] at hjobs
  constructor
  · have hlook := @count_toLookUp_putJob
      { hub with jobs := hub.jobs.erase ⟨action, a :: rest, none⟩ }
      ⟨action, rest, if hub.pends a = decide (action = .cancel) then some a else none⟩ x
    rw [toLookUp, hjobs]
    rw [toLookUp] at hlook
    rw [hlook, count_toLookUp_erase hj, List.map_cons, List.count_cons]
    simp only [beq_iff_eq]
    omega
  · have htake := @count_toTake_putJob
      { hub with jobs := hub.jobs.erase ⟨action, a :: rest, none⟩ }
      ⟨action, rest, if hub.pends a = decide (action = .cancel) then some a else none⟩ x
    have hqueue' : (StatusAlerts.putJob
        { hub with jobs := hub.jobs.erase ⟨action, a :: rest, none⟩ }
        ⟨action, rest, if hub.pends a = decide (action = .cancel) then some a else none⟩).alertQueue
          = hub.alertQueue := by
      unfold StatusAlerts.putJob
      split_ifs <;> rfl
    rw [toTake, hjobs, hqueue]
    rw [toTake, hqueue'] at htake
    rw [htake, count_toTake_erase hj]
    by_cases hp : hub.pends a = decide (action = .cancel)
    · simp only [hp, if_true, true_and, Option.toList_some, Option.toList_none, List.map_cons,
        List.map_nil, List.count_cons, List.count_nil, beq_iff_eq]
      omega
    · simp [hp]

/-- **A task is queued**, which changes nothing about what is to be taken. -/
theorem count_push {action : Action} {a : StatusAlert} {todo : List StatusAlert}
    (hj : ⟨action, todo, some a⟩ ∈ hub.jobs) :
    (toLookUp (StatusAlerts.putJob { hub with
        jobs := hub.jobs.erase ⟨action, todo, some a⟩
        alertQueue := hub.alertQueue ++ [StatusAlerts.task action a] }
        ⟨action, todo, none⟩)).count x = (toLookUp hub).count x ∧
      (toTake (StatusAlerts.putJob { hub with
        jobs := hub.jobs.erase ⟨action, todo, some a⟩
        alertQueue := hub.alertQueue ++ [StatusAlerts.task action a] }
        ⟨action, todo, none⟩)).count x = (toTake hub).count x := by
  constructor
  · rw [count_toLookUp_putJob, count_toLookUp_erase hj]
    rfl
  · rw [count_toTake_putJob, count_toTake_erase hj]
    simp only [toTake, StatusAlerts.task, List.map_append, List.count_append, List.map_cons,
      List.map_nil, Option.toList_none, Option.toList_some, List.count_nil]
    omega

/-- The worker takes the oldest task. -/
theorem count_dequeue {t : AlertTask} {rest : List AlertTask} (hq : hub.alertQueue = t :: rest) :
    toLookUp (StatusAlerts.handleTask { hub with alertQueue := rest } t) = toLookUp hub ∧
      (toTake (StatusAlerts.handleTask { hub with alertQueue := rest } t)).count x +
        (if (t.action, t.alert.id) = x then 1 else 0) = (toTake hub).count x := by
  have hfields : (StatusAlerts.handleTask { hub with alertQueue := rest } t).jobs = hub.jobs ∧
      (StatusAlerts.handleTask { hub with alertQueue := rest } t).alertQueue = rest := by
    unfold StatusAlerts.handleTask
    cases t.action <;> exact ⟨rfl, rfl⟩
  refine ⟨by rw [toLookUp, hfields.1, toLookUp], ?_⟩
  rw [toTake, hfields.1, hfields.2, toTake, hq, List.map_cons]
  simp only [List.count_append, List.count_cons, beq_iff_eq]
  omega

/-! ### The steps -/

/-- A step that shows in nothing of an alert. -/
theorem view_congr (hlog : s'.hub.log = s.hub.log) (hjobs : s'.hub.jobs = s.hub.jobs)
    (hqueue : s'.hub.alertQueue = s.hub.alertQueue)
    (hpending : s'.hub.pendingAlerts = s.hub.pendingAlerts) (hsent : s'.sent = s.sent)
    (hout : s'.inOutage = s.inOutage) : s'.view id = s.view id := by
  simp only [State.view, State.notifications, toLookUp, toTake, hlog, hjobs, hqueue, hpending,
    hsent, hout]

/-- The share of the alerts that a call has read. -/
theorem count_alertsOf (hw : WellFormed s) (sys : SystemId) (action action' : Action) :
    ((s.alertsOf sys).map fun a => (action, a.id)).count (action', id) =
      if action = action' ∧ id ∈ (s.alertsOf sys).map (·.id) then 1 else 0 := by
  have hids : ((s.alertsOf sys).map (·.id)).Nodup := by
    refine hw.ids.sublist (.map _ (List.filter_sublist.trans ?_))
    exact .map _ List.filter_sublist
  have hmap : (s.alertsOf sys).map (fun a => (action, a.id)) =
      ((s.alertsOf sys).map (·.id)).map (Prod.mk action) := by
    rw [List.map_map]
    rfl
  rw [hmap]
  split_ifs with h
  · obtain ⟨rfl, hmem⟩ := h
    refine List.count_eq_one_of_mem (hids.map (Prod.mk_right_injective action)) ?_
    exact List.mem_map_of_mem hmem
  · refine List.count_eq_zero_of_not_mem fun hmem => h ?_
    obtain ⟨b, hb, heq⟩ := List.mem_map.mp hmem
    obtain ⟨rfl, rfl⟩ := Prod.mk.inj heq
    exact ⟨rfl, hb⟩

/-- **A call reads the alerts of its system.** -/
theorem view_call (hw : WellFormed s) {sys : SystemId} {action : Action}
    (hlog : s'.hub.log = s.hub.log)
    (hjobs : s'.hub.jobs = (StatusAlerts.putJob s.hub ⟨action, s.alertsOf sys, none⟩).jobs)
    (hqueue : s'.hub.alertQueue = s.hub.alertQueue)
    (hpending : s'.hub.pendingAlerts = s.hub.pendingAlerts) (hsent : s'.sent = s.sent)
    (hout : s'.inOutage =
      if action = .schedule then (s.alertsOf sys).map (·.id) ++ s.inOutage else s.inOutage) :
    s'.view id =
      if id ∈ (s.alertsOf sys).map (·.id) then (s.view id).handle action else s.view id := by
  have hlook (x : Action × String) : (toLookUp s'.hub).count x =
      ((s.alertsOf sys).map fun a => (action, a.id)).count x + (toLookUp s.hub).count x := by
    rw [← count_toLookUp_putJob (j := ⟨action, s.alertsOf sys, none⟩), toLookUp, hjobs, toLookUp]
  have htake (x : Action × String) : (toTake s'.hub).count x = (toTake s.hub).count x := by
    have hput := @count_toTake_putJob s.hub ⟨action, s.alertsOf sys, none⟩ x
    have hqueue' : (StatusAlerts.putJob s.hub ⟨action, s.alertsOf sys, none⟩).alertQueue =
        s.hub.alertQueue := rfl
    rw [toTake, hqueue'] at hput
    rw [toTake, hjobs, hqueue, hput, Option.toList_none, List.map_nil, List.count_nil, Nat.zero_add]
  have hnotes : s'.notifications id = s.notifications id := by
    rw [State.notifications, State.notifications, hlog]
  split_ifs with hmem
  · cases action <;> ext1 <;>
      simp [State.view, View.handle, View.handleDown, View.handleUp, hlook, htake, hnotes, hpending,
        hsent, hout, count_alertsOf hw, hmem, Nat.add_comm]
  · cases action <;> ext1 <;>
      simp [State.view, hlook, htake, hnotes, hpending, hsent, hout, count_alertsOf hw, hmem]

/-- The log after a turn of the loop of a call. -/
theorem log_load (action : Action) (a : StatusAlert) (rest : List StatusAlert) :
    (StatusAlerts.load hub ⟨action, a :: rest, none⟩ a rest).log =
      if action = .cancel ∧ hub.pends a = false then ⟨.up, a, hub.db a.system, hub.now⟩ :: hub.log
      else hub.log := by
  unfold StatusAlerts.load
  cases action <;> cases hp : hub.pends a <;>
    simp [StatusAlerts.putJob, StatusAlerts.sendStatusAlert]

/-- **A call looks an alert up**: what it leaves to be looked up, to be taken and in the log, seen
from one alert. -/
theorem view_lookUp {action : Action} {a : StatusAlert}
    (hlook : ∀ x, (toLookUp s'.hub).count x + (if (action, a.id) = x then 1 else 0) =
      (toLookUp s.hub).count x)
    (htake : ∀ x, (toTake s'.hub).count x = (toTake s.hub).count x +
      (if s.hub.pends a = decide (action = .cancel) ∧ (action, a.id) = x then 1 else 0))
    (hpending : s'.hub.pendingAlerts = s.hub.pendingAlerts)
    (hlog : s'.hub.log = if action = .cancel ∧ s.hub.pends a = false then
      ⟨.up, a, s.hub.db a.system, s.hub.now⟩ :: s.hub.log else s.hub.log)
    (hsent : s'.sent = s.sent)
    (hout : s'.inOutage =
      if action = .cancel then s.inOutage.filter (· ≠ a.id) else s.inOutage) :
    s'.view id = if id = a.id then (s.view id).lookUp action else s.view id := by
  have hentry : s.hub.pendingAlerts.any (·.1.id = a.id) = s.hub.pends a := rfl
  have hlook₁ := hlook (.schedule, id)
  have hlook₂ := hlook (.cancel, id)
  have htake₁ := htake (.schedule, id)
  have htake₂ := htake (.cancel, id)
  split_ifs with hid
  · subst hid
    cases action <;> cases hp : s.hub.pends a <;>
      simp only [hp, reduceCtorEq, Prod.mk.injEq, and_true, true_and, and_false, false_and,
        decide_true, decide_false, if_true, if_false, Bool.true_eq_false, Bool.false_eq_true,
        Nat.add_zero] at * <;>
      ext1 <;>
      simp [State.view, State.notifications, View.lookUp, View.lookUpDown, View.lookUpUp, *] <;>
      omega
  · have hne : ¬ a.id = id := Ne.symm hid
    have hnotes : s'.notifications id = s.notifications id := by
      rw [State.notifications, State.notifications, hlog]
      split_ifs <;> simp [hne]
    have hin : id ∈ s'.inOutage ↔ id ∈ s.inOutage := by
      rw [hout]
      split_ifs <;> simp [hid]
    simp only [Prod.mk.injEq, hne, and_false, if_false, Nat.add_zero]
      at hlook₁ hlook₂ htake₁ htake₂
    ext1 <;> simp [State.view, hnotes, hin, hlook₁, hlook₂, htake₁, htake₂, hpending, hsent]

/-- A call of the hub looks an alert up. -/
theorem view_load {action : Action} {a : StatusAlert} {rest : List StatusAlert}
    (hj : ⟨action, a :: rest, none⟩ ∈ s.hub.jobs) :
    (hubStep s (.load ⟨action, a :: rest, none⟩)
      (StatusAlerts.load { s.hub with jobs := s.hub.jobs.erase ⟨action, a :: rest, none⟩ }
        ⟨action, a :: rest, none⟩ a rest)).view id =
      if id = a.id then (s.view id).lookUp action else s.view id := by
  obtain ⟨-, -, hpending, -⟩ := load_fields action a rest
    { s.hub with jobs := s.hub.jobs.erase ⟨action, a :: rest, none⟩ }
  refine view_lookUp (fun x => (count_load hj).1) (fun x => (count_load hj).2) hpending ?_ rfl ?_
  · exact @log_load { s.hub with jobs := s.hub.jobs.erase ⟨action, a :: rest, none⟩ } action a rest
  · cases action <;> rfl

/-- **The worker takes a task.** -/
theorem view_dequeue {t : AlertTask} {rest : List AlertTask} (hq : s.hub.alertQueue = t :: rest) :
    (hubStep s .dequeue (StatusAlerts.handleTask { s.hub with alertQueue := rest } t)).view id =
      if id = t.alert.id then (s.view id).take t.action else s.view id := by
  obtain ⟨hlook, -⟩ := count_dequeue (x := (.schedule, id)) hq
  have hschedule := (count_dequeue (x := (.schedule, id)) hq).2
  have hcancel := (count_dequeue (x := (.cancel, id)) hq).2
  have hentry := @any_handleTask id { s.hub with alertQueue := rest } t
  have hlog : (StatusAlerts.handleTask { s.hub with alertQueue := rest } t).log = s.hub.log := by
    unfold StatusAlerts.handleTask
    cases t.action <;> rfl
  have hout : outagesAfter s .dequeue = s.inOutage := rfl
  split_ifs with hid
  · subst hid
    cases ht : t.action <;>
      simp only [ht, reduceCtorEq, Prod.mk.injEq, and_true, if_true, if_false, decide_true,
        decide_false, Nat.add_zero] at hschedule hcancel hentry <;>
      ext1 <;>
      simp [State.view, State.notifications, View.take, View.takeDown, View.takeUp, hubStep,
        upSent, deactivates, call, *] <;>
      omega
  · have hne : ¬ t.alert.id = id := Ne.symm hid
    simp only [Prod.mk.injEq, hne, and_false, if_false, Nat.add_zero] at hschedule hcancel hentry
    ext1 <;> simp [State.view, State.notifications, hubStep, *]

/-- A call queues a task. -/
theorem view_push {action : Action} {a : StatusAlert} {todo : List StatusAlert}
    (hj : ⟨action, todo, some a⟩ ∈ s.hub.jobs) :
    (hubStep s (.push ⟨action, todo, some a⟩) (StatusAlerts.putJob { s.hub with
      jobs := s.hub.jobs.erase ⟨action, todo, some a⟩
      alertQueue := s.hub.alertQueue ++ [StatusAlerts.task action a] }
      ⟨action, todo, none⟩)).view id = s.view id := by
  have hcount (x : Action × String) := count_push (x := x) hj
  ext1
  case notifications | inOutage | entry | sent => rfl
  case toSchedule | toCancel => exact (hcount _).1
  case scheduling | cancelling => exact (hcount _).2

/-- **The ticker's branch sends an entry.** -/
theorem view_sendDown {a : StatusAlert} (hsent : s.sent = none) :
    (sendDown s a).view id = if id = a.id then (s.view id).fire else s.view id := by
  split_ifs with hid
  · subst hid
    ext1
    case notifications =>
      simp [State.view, State.notifications, View.fire, sendDown, StatusAlerts.sendStatusAlert]
    case sent => exact decide_eq_true rfl
    all_goals rfl
  · have hne : ¬ a.id = id := Ne.symm hid
    ext1
    case notifications =>
      simp [State.view, State.notifications, sendDown, StatusAlerts.sendStatusAlert, hne]
    case sent => simp [State.view, sendDown, hsent, hne]
    all_goals rfl

/-- **It deletes what it has sent.** -/
theorem view_sweepDelete {a : StatusAlert} (hsent : s.sent = some a) :
    State.view { s with hub := StatusAlerts.deletePending s.hub a, sent := none } id =
      if id = a.id then (s.view id).delete else s.view id := by
  have hentry := @any_deletePending id s.hub a
  split_ifs with hid
  · subst hid
    ext1
    case entry => simpa [State.view, View.delete] using hentry
    all_goals rfl
  · have hne : ¬ a.id = id := Ne.symm hid
    ext1
    case entry => simpa [State.view, hne] using hentry
    case sent => simp [State.view, hsent, hne]
    all_goals rfl

/-- What a restart loses. -/
theorem loses_view : s.loses id =
    (decide ((s.view id).toSchedule ≠ 0 ∨ (s.view id).scheduling ≠ 0) || (s.view id).pending) := by
  have hpending : s.pending id = (s.view id).pending := by
    rw [State.pending, View.pending, State.view]
    cases s.sent <;> simp
  rw [State.loses, hpending]
  congr 1
  refine decide_eq_decide.mpr ?_
  rw [underWay, List.mem_append, ← List.count_pos_iff, ← List.count_pos_iff]
  exact or_congr Nat.pos_iff_ne_zero Nat.pos_iff_ne_zero

/-- **The hub is restarted.** -/
theorem view_restart {store : SystemId → Option SystemStatus}
    (h : step s (.restart store) = some s') : s'.view id = (s.view id).restart := by
  obtain rfl := Option.some.inj h
  ext1
  case inOutage =>
    simp only [State.view, View.restart, List.mem_filter, Bool.decide_and, Bool.decide_eq_true]
    rw [loses_view]
    rfl
  all_goals rfl

end Views

/-! ## Runs -/

section Runs

variable {s s' : State} {id : String} {hub : StatusAlerts.State}

/-- **A call reads an alert whose turn it is.** -/
theorem View.Sound.handle {v : View} {action : Action} (h : v.Sound)
    (hturn : v.inOutage = true ↔ action = .cancel) (hschedule : v.toSchedule = 0)
    (hscheduling : v.scheduling = 0) (hcancel : v.toCancel = 0) (hcancelling : v.cancelling = 0)
    (hsent : v.sent = false) : (v.handle action).Sound := by
  cases action with
  | schedule =>
    refine h.handleDown (Bool.eq_false_iff.mpr fun hin => ?_) hcancelling
    cases hturn.mp hin
  | cancel => exact h.handleUp (hturn.mpr rfl) hschedule hscheduling hcancel hsent

theorem View.Sound.lookUp {v : View} {action : Action} (h : v.Sound)
    (hpos : (match action with | .schedule => v.toSchedule | .cancel => v.toCancel) ≠ 0) :
    (v.lookUp action).Sound := by
  cases action with
  | schedule => exact h.lookUpDown hpos
  | cancel => exact h.lookUpUp hpos

theorem View.Sound.take {v : View} {action : Action} (h : v.Sound)
    (hpos : (match action with | .schedule => v.scheduling | .cancel => v.cancelling) ≠ 0) :
    (v.take action).Sound := by
  cases action with
  | schedule => exact h.takeDown hpos
  | cancel => exact h.takeUp hpos

/-- **A hook that calls `HandleStatusAlerts` in turn.** -/
theorem sound_hook {sys : SystemId} {status : SystemStatus} {ws added : Bool}
    (hw : WellFormed s) (hs : ∀ id, (s.view id).Sound)
    (hok : InTurn s (.hub (.hook sys status ws added)))
    (h : StatusAlerts.step s.alerts s.hub (.hook sys status ws added) = some hub) (id : String) :
    ((hubStep s (.hook sys status ws added) hub).view id).Sound := by
  have hlog : hub.log = s.hub.log := log_of_step (by simp) h
  obtain ⟨-, hhub⟩ := StatusAlerts.mem_hooks_of_hook h
  obtain ⟨hjobs, hqueue, hpending, -⟩ := hook_fields s.alerts
    { s.hub with hooks := s.hub.hooks.erase (sys, status) } sys status ws added
  rw [hhub] at hjobs hqueue hpending
  cases hcall : call s.hub (.hook sys status ws added) with
  | none =>
    have hcall' : call { s.hub with hooks := s.hub.hooks.erase (sys, status) }
      (.hook sys status ws added) = none := by cases status <;> exact hcall
    rw [hcall'] at hjobs
    have hout : outagesAfter s (.hook sys status ws added) = s.inOutage := by
      simp [outagesAfter, hcall]
    have hview : (hubStep s (.hook sys status ws added) hub).view id = s.view id :=
      view_congr hlog hjobs hqueue hpending rfl hout
    exact hview ▸ hs id
  | some c =>
    obtain ⟨sys', action⟩ := c
    have hcall' : call { s.hub with hooks := s.hub.hooks.erase (sys, status) }
      (.hook sys status ws added) = some (sys', action) := by cases status <;> exact hcall
    rw [hcall'] at hjobs
    have hout : outagesAfter s (.hook sys status ws added) =
        if action = .schedule then (s.alertsOf sys').map (·.id) ++ s.inOutage
        else s.inOutage := by
      cases action <;> simp [outagesAfter, hcall]
    have hview : (hubStep s (.hook sys status ws added) hub).view id =
        if id ∈ (s.alertsOf sys').map (·.id) then (s.view id).handle action else s.view id :=
      view_call hw hlog hjobs hqueue hpending rfl hout
    rw [hview]
    split_ifs with hmem
    · obtain ⟨a, ha, rfl⟩ := List.mem_map.mp hmem
      obtain ⟨hturn, hfree, hsent⟩ := hok (sys', action) hcall a ha
      have hzero (action' : Action) : (toLookUp s.hub).count (action', a.id) = 0 ∧
          (toTake s.hub).count (action', a.id) = 0 := by
        refine ⟨List.count_eq_zero_of_not_mem fun h => ?_,
          List.count_eq_zero_of_not_mem fun h => ?_⟩
        · exact hfree _ (List.mem_append_left _ h) rfl
        · exact hfree _ (List.mem_append_right _ h) rfl
      refine (hs a.id).handle ?_ (hzero _).1 (hzero _).2 (hzero _).1 (hzero _).2 ?_
      · rw [← hturn]
        exact decide_eq_true_iff
      · rw [State.view, Option.any_eq_false]
        exact fun b hb => decide_eq_false (hsent b hb)
    · exact hs id

/-- **One step of the hub.** -/
theorem sound_hubStep {e : StatusAlerts.Event} (hw : WellFormed s) (hs : ∀ id, (s.view id).Sound)
    (hok : InTurn s (.hub e)) (hne : e ≠ .sweepNext)
    (h : StatusAlerts.step s.alerts s.hub e = some hub) (id : String) :
    ((hubStep s e hub).view id).Sound := by
  cases e with
  | advance ns | commit sys status | removeSystem sys | addRecord sys =>
    obtain rfl := Option.some.inj h
    exact hs id
  | hook sys status ws added => exact sound_hook hw hs hok h id
  | load j =>
    obtain ⟨action, a, rest, rfl, hj, rfl⟩ := StatusAlerts.exists_alert_of_load h
    rw [view_load hj]
    split_ifs with hid
    · refine (hs id).lookUp ?_
      have hpos : 0 < (toLookUp s.hub).count (action, id) := by
        refine List.count_pos_iff.mpr (List.mem_flatMap.mpr ⟨_, hj, ?_⟩)
        exact hid ▸ List.mem_cons_self
      cases action <;> exact hpos.ne'
    · exact hs id
  | push j =>
    obtain ⟨action, todo, a, rfl, hj, rfl⟩ := StatusAlerts.exists_alert_of_push h
    rw [view_push hj]
    exact hs id
  | dequeue =>
    obtain ⟨t, rest, -, hq, rfl⟩ := StatusAlerts.exists_task_of_dequeue h
    rw [view_dequeue hq]
    split_ifs with hid
    · refine (hs id).take ?_
      have hpos : 0 < (toTake s.hub).count (t.action, id) := by
        refine List.count_pos_iff.mpr (List.mem_append_right _ (List.mem_map.mpr ⟨t, ?_, ?_⟩))
        · exact hq ▸ List.mem_cons_self
        · rw [hid]
      cases ht : t.action <;> exact (ht ▸ hpos).ne'
    · exact hs id
  | tick =>
    obtain rfl := StatusAlerts.eq_of_tick h
    exact hs id
  | sweepNext => exact absurd rfl hne

/-- **The ticker's branch sends an entry** whose alert no call for an `up` has to deal with. -/
theorem sound_sweepNext (hs : ∀ id, (s.view id).Sound) (hok : InTurn s .sweepNext)
    (h : step s .sweepNext = some s') (id : String) : (s'.view id).Sound := by
  obtain ⟨hsent, ⟨began, p, rest, hsweep, rfl⟩ | rfl⟩ := sweepNext_cases h
  · unfold sweepEntry
    split_ifs with hc
    · rw [view_sendDown (s := { s with hub := { s.hub with sweep := some (began, rest) } }) hsent]
      split_ifs with hid
      · have hdue : s.due = some p.1 := by
          rw [State.due, hsweep]
          exact if_pos hc
        have hfree := hok p.1 hdue
        rw [underWay, List.mem_append, not_or, ← hid] at hfree
        obtain ⟨hmem, -⟩ := Bool.and_eq_true_iff.mp hc
        obtain ⟨q, hq, heq⟩ := List.any_eq_true.mp hmem
        refine (hs id).fire ?_ (List.count_eq_zero_of_not_mem hfree.1)
          (List.count_eq_zero_of_not_mem hfree.2)
        refine Bool.and_eq_true_iff.mpr ⟨List.any_eq_true.mpr ⟨q, hq, ?_⟩, ?_⟩
        · rw [of_decide_eq_true heq, hid]
          exact decide_eq_true rfl
        · rw [State.view, hsent]
          rfl
      · exact hs id
    · exact hs id
  · exact hs id

/-- **Every step in turn** keeps what the hub holds of each alert sound. -/
theorem sound_step {e : Event} (hw : WellFormed s) (hs : ∀ id, (s.view id).Sound)
    (hok : InTurn s e) (h : step s e = some s') (id : String) : (s'.view id).Sound := by
  cases e with
  | hub e =>
    obtain ⟨hne, hub, hhub, rfl⟩ := exists_hub_of_step h
    exact sound_hubStep hw hs hok hne hhub id
  | sweepNext => exact sound_sweepNext hs hok h id
  | sweepDelete =>
    obtain ⟨a, ha, rfl⟩ := Option.map_eq_some_iff.mp h
    rw [view_sweepDelete ha]
    split_ifs with hid
    · refine (hs id).delete ?_
      rw [State.view, ha, hid]
      exact decide_eq_true rfl
    · exact hs id
  | restart store =>
    rw [view_restart h]
    exact (hs id).restart
  | create alert triggered =>
    simp only [step] at h
    split_ifs at h
    obtain rfl := Option.some.inj h
    exact hs id
  | edit alert triggered =>
    obtain ⟨-, rfl⟩ := guard_eq_some h
    exact hs id
  | delete id' | resolveStatusAlerts =>
    obtain rfl := Option.some.inj h
    exact hs id
  | untrigger id' =>
    obtain ⟨-, rfl⟩ := guard_eq_some h
    exact hs id

/-- Nothing is held and nothing was told. -/
theorem sound_init (db : SystemId → SystemStatus) (store : SystemId → Option SystemStatus)
    (id : String) : ((State.init db store).view id).Sound := by
  refine ⟨trivial, fun h => absurd h Bool.false_ne_true, fun _ => ⟨rfl, rfl, rfl, rfl, fun h => ?_⟩,
    fun h => absurd rfl h, fun h => absurd h Bool.false_ne_true⟩
  exact absurd h Bool.false_ne_true

/-- **The notifications of every alert alternate and start with a `down`**, in every run in which
statuses are handled in turn — whatever the statuses it starts from. -/
theorem alternates_of_along {db : SystemId → SystemStatus}
    {store : SystemId → Option SystemStatus} {es : List Event}
    (hok : Along step InTurn (State.init db store) es)
    (hr : run step (State.init db store) es = some s) (id : String) :
    Alternates (s.notifications id) := by
  have hs : WellFormed s ∧ ∀ id, (s.view id).Sound :=
    inv_of_along (I := fun s => WellFormed s ∧ ∀ id, (s.view id).Sound)
      (fun hs hok h => ⟨hs.1.step h, sound_step hs.1 hs.2 hok h⟩)
      ⟨wellFormed_init db store, sound_init db store⟩ hok hr
  exact (hs.2 id).alternates

end Runs

/-! ### Two outages, and alerts that were never told -/

/-- Two minutes later the ticker sends the entry and deletes it. -/
def fires : List Event :=
  [.hub (.advance (120 * 10 ^ 9)), .hub .tick, .sweepNext, .sweepDelete, .sweepNext]

/-- A second alert of the system, which waits for an hour. -/
def slowAlert : StatusAlert := ⟨"slow", "system", 60⟩

/-- The system goes down, and the calls for both alerts reach the map. -/
def bothEntered : List Event := hubEvents
  [.commit "system" .down, .hook "system" .down false false,
    .load ⟨.schedule, [slowAlert, StatusAlerts.exampleAlert], none⟩,
    .push ⟨.schedule, [StatusAlerts.exampleAlert], some slowAlert⟩, .dequeue,
    .load ⟨.schedule, [StatusAlerts.exampleAlert], none⟩,
    .push ⟨.schedule, [], some StatusAlerts.exampleAlert⟩, .dequeue]

/-- The system comes up: the one alert is told, the entry of the other is cancelled. -/
def bothEnded : List Event := hubEvents
  [.commit "system" .up, .hook "system" .up false false,
    .load ⟨.cancel, [slowAlert, StatusAlerts.exampleAlert], none⟩,
    .push ⟨.cancel, [StatusAlerts.exampleAlert], some slowAlert⟩,
    .load ⟨.cancel, [StatusAlerts.exampleAlert], none⟩, .dequeue]

/-- Two alerts, and two outages of two minutes. -/
def twoOutages : List Event :=
  [.create StatusAlerts.exampleAlert false, .create slowAlert false] ++
    bothEntered ++ fires ++ [.sweepNext] ++ bothEnded ++
    bothEntered ++ fires ++ [.sweepNext] ++ bothEnded

instance (s : State) : ∀ e : Event, Decidable (InTurn s e)
  | .hub _ | .sweepNext => inferInstanceAs (Decidable (∀ c ∈ _, _))
  | .sweepDelete | .create _ _ | .edit _ _ | .delete _ | .resolveStatusAlerts | .untrigger _
  | .restart _ => .isTrue trivial

theorem alternates_of_along_twoOutages :
    ∃ s, run step (State.init (fun _ => .up) fun _ => some .up) twoOutages = some s ∧
      s.notifications "alert" = [.up, .down, .up, .down] ∧
      Alternates (s.notifications "alert") := by
  have hok : Along step InTurn (State.init (fun _ => .up) fun _ => some .up) twoOutages := by
    decide +kernel
  exact ⟨_, rfl, by decide +kernel, alternates_of_along hok rfl "alert"⟩

/-- **An alert that is created while its system is down** gets an `up` and never got a `down`. -/
theorem not_alternates_createdWhileDown :
    ∃ s, run step (State.init (fun _ => .down) fun _ => some .down)
        (.create StatusAlerts.exampleAlert false :: comesUp) = some s ∧
      s.alerts = [StatusAlerts.exampleAlert] ∧ ¬ Alternates (s.notifications "alert") := by
  refine ⟨_, rfl, rfl, fun h => ?_⟩
  obtain ⟨⟨h, -⟩ | ⟨-, h⟩, -⟩ : Alternates [.up] := h
  · cases h
  · cases h

end Outage

end Beszel
