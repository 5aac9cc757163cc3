import Beszel.Hub.Record
import Beszel.Machinery.Writes
import Mathlib.Data.Rat.Defs

/-!
# Site/AlertStore — the alerts a page shows

    subscription ──data──▸ batch ──50 ms without data──▸ groups ──add, add, remove──▸ $alerts

`alertManager` of `internal/site/src/lib/alerts.ts`.  An event of the subscription is put into the
batch under its system and its name, and starts the timeout again; when the timeout fires, the
creates, the updates and the deletes of the batch reach the store, in this order.  The theorem is
that the page ends with the alerts it would have if each event had reached the store by itself.
-/

namespace Beszel

open Machinery

namespace AlertStore

/-! ## The store -/

/-- An `AlertRecord`, with the `fields` that the page asks for. -/
structure AlertRecord where
  id : String
  name : String
  system : SystemId
  value : ℚ
  min : ℕ
  triggered : Bool
  deriving DecidableEq, Repr

/-- The keys of `actionFns`. -/
inductive Action
  | create
  | update
  | delete
  deriving DecidableEq, Repr

/-- An event of the subscription. -/
structure RecordSubscription where
  action : Action
  record : AlertRecord
  deriving DecidableEq, Repr

/-- `$alerts`: under the id of a system the `Map` of its alerts. -/
abbrev Alerts := SystemId → Option (String → Option AlertRecord)

/-- The alert of a system under a name. -/
def Alerts.find (alerts : Alerts) (cell : SystemId × String) : Option AlertRecord :=
  (alerts cell.1).bind (· cell.2)

/-- The loop bodies of `add` and `remove`: a copy of the system map with an entry set or deleted. -/
def Alerts.set (alerts : Alerts) (system : SystemId) (name : String) (entry : Option AlertRecord) :
    Alerts :=
  let systemAlerts := (alerts system).getD fun _ => none
  Function.update alerts system (some (Function.update systemAlerts name entry))

/-- `add`. -/
def add (alerts : Alerts) (records : List AlertRecord) : Alerts :=
  records.foldl (fun alerts alert => alerts.set alert.system alert.name (some alert)) alerts

/-- `remove`. -/
def remove (alerts : Alerts) (records : List AlertRecord) : Alerts :=
  records.foldl (fun alerts alert => alerts.set alert.system alert.name none) alerts

/-- `actionFns`. -/
def actionFns : Action → Alerts → List AlertRecord → Alerts
  | .create => add
  | .update => add
  | .delete => remove

/-! ## The batch -/

/-- The key of an event in the batch: `${record.system}${record.name}`. -/
def batchKey (data : RecordSubscription) : String := data.record.system ++ data.record.name

/-- `groups[action]`, for the events of a batch in the order of the `Map`. -/
def groups (batch : List RecordSubscription) (action : Action) : List AlertRecord :=
  (batch.filter (·.action = action)).map (·.record)

/-- What the timeout does with one group. -/
def applyGroup (batch : List RecordSubscription) (alerts : Alerts) (action : Action) : Alerts :=
  if (groups batch action).length ≠ 0 then actionFns action alerts (groups batch action) else alerts

/-- The store and the batch. -/
structure State where
  alerts : Alerts
  batch : List RecordSubscription

/-- An event arrives, or the timeout fires. -/
inductive Tick
  | data (data : RecordSubscription)
  | timeout
  deriving DecidableEq, Repr

/-- `batchUpdate`, and the function it hands to `setTimeout`. -/
def batchUpdate (st : State) : Tick → State
  | .data data => { st with batch := Table.put batchKey st.batch data }
  | .timeout =>
    { alerts := [Action.create, .update, .delete].foldl (applyGroup st.batch) st.alerts
      batch := [] }

/-- The events that arrive. -/
def received (ticks : List Tick) : List RecordSubscription :=
  ticks.filterMap fun
    | .data data => some data
    | .timeout => none

/-- One event by itself. -/
def applyOne (alerts : Alerts) (data : RecordSubscription) : Alerts :=
  actionFns data.action alerts [data.record]

/-! ## The store as a map from system and name -/

/-- The place of an event's alert in the store. -/
def cell (data : RecordSubscription) : SystemId × String := (data.record.system, data.record.name)

/-- What an event leaves there. -/
def entry (data : RecordSubscription) : Option AlertRecord :=
  match data.action with
  | .create => some data.record
  | .update => some data.record
  | .delete => none

theorem find_set (alerts : Alerts) (system : SystemId) (name : String)
    (entry : Option AlertRecord) :
    (alerts.set system name entry).find = Function.update alerts.find (system, name) entry := by
  funext ⟨system', name'⟩
  unfold Alerts.find Alerts.set
  by_cases hsystem : system' = system
  · subst hsystem
    rw [Function.update_self, Option.bind_some]
    by_cases hname : name' = name
    · rw [hname, Function.update_self, Function.update_self]
    · rw [Function.update_of_ne hname, Function.update_of_ne fun h => hname (congrArg Prod.snd h)]
      cases alerts system' <;> rfl
  · rw [Function.update_of_ne hsystem, Function.update_of_ne fun h => hsystem (congrArg Prod.fst h)]

/-- **An event writes its entry at its place.** -/
theorem find_applyOne (alerts : Alerts) (data : RecordSubscription) :
    (applyOne alerts data).find = Writes.write cell entry alerts.find data := by
  obtain ⟨action, record⟩ := data
  cases action <;> exact find_set alerts record.system record.name _

theorem find_foldl_applyOne (alerts : Alerts) (events : List RecordSubscription) :
    (events.foldl applyOne alerts).find = Writes.writes cell entry alerts.find events := by
  induction events generalizing alerts with
  | nil => rfl
  | cons data events ih =>
    rw [List.foldl_cons, ih, find_applyOne]
    rfl

/-- A group applies its events one after the other. -/
theorem actionFns_map (action : Action) (alerts : Alerts) (events : List RecordSubscription)
    (haction : ∀ data ∈ events, data.action = action) :
    actionFns action alerts (events.map (·.record)) = events.foldl applyOne alerts := by
  induction events generalizing alerts with
  | nil => cases action <;> rfl
  | cons data events ih =>
    obtain ⟨hdata, hevents⟩ := List.forall_mem_cons.mp haction
    rw [List.foldl_cons, ← ih (applyOne alerts data) hevents]
    unfold applyOne
    rw [hdata]
    cases action <;> rfl

theorem applyGroup_eq (batch : List RecordSubscription) (alerts : Alerts) (action : Action) :
    applyGroup batch alerts action = (batch.filter (·.action = action)).foldl applyOne alerts := by
  have hgroup := actionFns_map action alerts (batch.filter (·.action = action))
    fun data hdata => of_decide_eq_true (List.mem_filter.mp hdata).2
  unfold applyGroup
  split_ifs with hlength
  · exact hgroup
  · have hnil : batch.filter (·.action = action) = [] := by
      simpa [groups] using hlength
    rw [hnil]
    rfl

/-- The events of a batch, group by group. -/
def grouped (batch : List RecordSubscription) : List RecordSubscription :=
  batch.filter (·.action = .create) ++
    (batch.filter (·.action = .update) ++ batch.filter (·.action = .delete))

theorem grouped_perm (batch : List RecordSubscription) : (grouped batch).Perm batch := by
  induction batch with
  | nil => exact .refl _
  | cons data batch ih =>
    have hcons := ih.cons data
    unfold grouped at *
    obtain ⟨action, record⟩ := data
    cases action with
    | create => simpa using hcons
    | update => simpa using List.perm_middle.trans hcons
    | delete =>
      rw [← List.append_assoc] at *
      simpa using List.perm_middle.trans hcons

/-- When the timeout fires, the events of the batch reach the store group by group. -/
theorem batchUpdate_timeout (st : State) :
    (batchUpdate st .timeout).alerts = (grouped st.batch).foldl applyOne st.alerts := by
  rw [grouped, List.foldl_append, List.foldl_append]
  simp only [batchUpdate, List.foldl_cons, List.foldl_nil, applyGroup_eq]

/-! ## The batches are the events one by one -/

/-- The events since the last timeout are in the batch; those before it are in the store. -/
def Batched (alerts : Alerts) (events : List RecordSubscription) (st : State) : Prop :=
  ∃ stored pending, events = stored ++ pending ∧
    st.alerts.find = (stored.foldl applyOne alerts).find ∧
    st.batch = pending.foldl (Table.put batchKey) []

/-- Ids of one length end at the same place in a key. -/
theorem batchKey_eq_iff {L : ℕ} {data data' : RecordSubscription}
    (h : data.record.system.length = L) (h' : data'.record.system.length = L) :
    batchKey data = batchKey data' ↔ cell data = cell data' := by
  unfold batchKey cell
  rw [← String.toList_inj, String.toList_append, String.toList_append, Prod.mk.injEq]
  constructor
  · intro happend
    have hlength : data.record.system.toList.length = data'.record.system.toList.length := by
      rw [String.length_toList, String.length_toList, h, h']
    obtain ⟨hsystem, hname⟩ := List.append_inj happend hlength
    exact ⟨String.toList_inj.mp hsystem, String.toList_inj.mp hname⟩
  · rintro ⟨hsystem, hname⟩
    rw [hsystem, hname]

/-- **A timeout leaves the alerts of the events one by one.** -/
theorem Batched.timeout {L : ℕ} {alerts : Alerts} {events : List RecordSubscription} {st : State}
    (hst : Batched alerts events st) (hlen : ∀ data ∈ events, data.record.system.length = L) :
    (batchUpdate st .timeout).alerts.find = (events.foldl applyOne alerts).find := by
  obtain ⟨stored, pending, rfl, hstored, hpending⟩ := hst
  have hkey : ∀ data ∈ pending, ∀ data' ∈ pending,
      batchKey data = batchKey data' ↔ cell data = cell data' := by
    intro data hdata data' hdata'
    exact batchKey_eq_iff (hlen data (List.mem_append_right _ hdata))
      (hlen data' (List.mem_append_right _ hdata'))
  have hbatch : (st.batch.map cell).Nodup ∧
      Writes.writes cell entry st.alerts.find st.batch
        = Writes.writes cell entry st.alerts.find pending := by
    rw [hpending]
    exact Writes.writes_coalesce hkey
  obtain ⟨hcells, hcoalesce⟩ := hbatch
  have hcells' : ((grouped st.batch).map cell).Nodup :=
    ((grouped_perm st.batch).map cell).nodup_iff.mpr hcells
  calc (batchUpdate st .timeout).alerts.find
      = Writes.writes cell entry st.alerts.find (grouped st.batch) := by
        rw [batchUpdate_timeout, find_foldl_applyOne]
    _ = Writes.writes cell entry st.alerts.find st.batch :=
        Writes.writes_perm hcells' (grouped_perm st.batch)
    _ = Writes.writes cell entry st.alerts.find pending := hcoalesce
    _ = ((stored ++ pending).foldl applyOne alerts).find := by
        rw [List.foldl_append, find_foldl_applyOne, hstored]

/-- An event or a timeout keeps the batch to the events since the last timeout. -/
theorem Batched.batchUpdate {L : ℕ} {alerts : Alerts} {events : List RecordSubscription}
    {st : State} (hst : Batched alerts events st)
    (hlen : ∀ data ∈ events, data.record.system.length = L) (tick : Tick) :
    Batched alerts (events ++ received [tick]) (batchUpdate st tick) := by
  cases tick with
  | data data =>
    obtain ⟨stored, pending, rfl, hstored, hpending⟩ := hst
    refine ⟨stored, pending ++ [data], ?_, hstored, ?_⟩
    · exact List.append_assoc stored pending [data]
    · rw [List.foldl_append, ← hpending]
      rfl
  | timeout =>
    refine ⟨events, [], ?_, hst.timeout hlen, rfl⟩
    rfl

theorem received_append (ticks ticks' : List Tick) :
    received (ticks ++ ticks') = received ticks ++ received ticks' := List.filterMap_append

theorem batched_foldl {L : ℕ} (alerts : Alerts) (ticks : List Tick)
    (hlen : ∀ data ∈ received ticks, data.record.system.length = L) :
    Batched alerts (received ticks) (ticks.foldl batchUpdate ⟨alerts, []⟩) := by
  induction ticks using List.reverseRecOn with
  | nil => exact ⟨[], [], rfl, rfl, rfl⟩
  | append_singleton ticks tick ih =>
    rw [received_append] at *
    have hticks : ∀ data ∈ received ticks, data.record.system.length = L := by
      exact fun data hdata => hlen data (List.mem_append_left _ hdata)
    rw [List.foldl_append]
    exact (ih hticks).batchUpdate hticks tick

/-- **Batched updates equal sequential ones**: however the timeouts fall between the events, after
the last one the store has, for each system and name, the alert it would have if the events had
reached it one by one. -/
theorem batchUpdate_eq_sequential (alerts : Alerts) (L : ℕ) (ticks : List Tick)
    (hlen : ∀ data ∈ received ticks, data.record.system.length = L) :
    ((ticks ++ [Tick.timeout]).foldl batchUpdate ⟨alerts, []⟩).alerts.find
      = ((received ticks).foldl applyOne alerts).find := by
  rw [List.foldl_append]
  exact (batched_foldl alerts ticks hlen).timeout hlen

/-- An alert that is deleted and created again, and one that is changed, in two batches. -/
theorem batchUpdate_eq_sequential_two_batches :
    let cpu : AlertRecord := ⟨"a1", "CPU", "sys1", 80, 10, false⟩
    let disk : AlertRecord := ⟨"a2", "Disk", "sys2", 90, 5, false⟩
    let ticks : List Tick := [.data ⟨.create, cpu⟩, .data ⟨.create, disk⟩, .timeout,
      .data ⟨.delete, cpu⟩, .data ⟨.update, { disk with triggered := true }⟩,
      .data ⟨.create, { cpu with id := "a3" }⟩]
    ((ticks ++ [Tick.timeout]).foldl batchUpdate ⟨fun _ => none, []⟩).alerts.find
        = ((received ticks).foldl applyOne fun _ => none).find ∧
      ((received ticks).foldl applyOne fun _ => none).find ("sys1", "CPU")
        = some { cpu with id := "a3" } :=
  ⟨batchUpdate_eq_sequential _ 4 _ (by decide), by decide⟩

end AlertStore

end Beszel
