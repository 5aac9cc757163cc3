import Beszel.Hub.Record
import Beszel.Machinery.Run
import Mathlib.Logic.Function.Basic

/-!
# Site/SystemStores — the systems a page shows, by id and by status

    create, update, delete, refresh ──▸ $allSystemsById ──listener──▸ $upSystems
                                    └─▸ $allSystemsByName         ├─▸ $downSystems
                                                                  └─▸ $pausedSystems

`internal/site/src/lib/systemsManager.ts`.  A change of the store by id runs the listener that
`init` has set, which writes to the status stores and may delete from the store by id again; what it
changes there waits in the queue of the store library until it has returned.  The status stores
turn out to be functions of the store by id (`Synced`), whatever the page receives.
-/

namespace Beszel

open Machinery

namespace SystemStores

/-! ## The stores -/

/-- A `SystemRecord`, with the fields `id,name,host,port,info,status`. -/
structure SystemRecord where
  id : SystemId
  name : String
  host : String
  port : String
  info : List (String × String)
  status : SystemStatus
  deriving DecidableEq, Repr

/-- A map store. -/
abbrev Store := String → Option SystemRecord

structure Stores where
  allSystemsById : Store
  allSystemsByName : Store
  upSystems : Store
  downSystems : Store
  pausedSystems : Store

/-- The stores of a page that has received nothing. -/
def Stores.init : Stores where
  allSystemsById := fun _ => none
  allSystemsByName := fun _ => none
  upSystems := fun _ => none
  downSystems := fun _ => none
  pausedSystems := fun _ => none

/-- A change of `$allSystemsById` at one key: what the listener reads as `oldSystems[changedKey]`
and `newSystems[changedKey]`. -/
structure Change where
  oldSystem : Option SystemRecord
  newSystem : Option SystemRecord

/-- `$allSystemsById.setKey`, with the notification it leaves in the queue: a key that is not there
cannot be deleted. -/
def setById (s : Stores) (key : String) (value : Option SystemRecord) : Stores × List Change :=
  let old := s.allSystemsById key
  ({ s with allSystemsById := Function.update s.allSystemsById key value },
    if old.isNone ∧ value.isNone then [] else [⟨old, value⟩])

/-- `removeFromStore`, for a store with ids as keys. -/
def removeFromStore (system : SystemRecord) (store : Store) : Store :=
  Function.update store system.id none

/-- The three calls `removeFromStore(system, …)` with the status stores. -/
def removeFromStatus (s : Stores) (system : SystemRecord) : Stores :=
  { s with
    upSystems := removeFromStore system s.upSystems
    downSystems := removeFromStore system s.downSystems
    pausedSystems := removeFromStore system s.pausedSystems }

/-- The four branches of the listener on `newSystem.status`. -/
def setStatus (s : Stores) (newSystem : SystemRecord) : Stores :=
  match newSystem.status with
  | .up =>
    { s with
      upSystems := Function.update s.upSystems newSystem.id (some newSystem)
      downSystems := removeFromStore newSystem s.downSystems
      pausedSystems := removeFromStore newSystem s.pausedSystems }
  | .down =>
    { s with
      downSystems := Function.update s.downSystems newSystem.id (some newSystem)
      upSystems := removeFromStore newSystem s.upSystems
      pausedSystems := removeFromStore newSystem s.pausedSystems }
  | .paused =>
    { s with
      pausedSystems := Function.update s.pausedSystems newSystem.id (some newSystem)
      upSystems := removeFromStore newSystem s.upSystems
      downSystems := removeFromStore newSystem s.downSystems }
  | .pending => removeFromStatus s newSystem

/-- `!newSystem?.id`: there is no new record, or its id is empty. -/
def Change.hasNoId (c : Change) : Prop := ∀ r ∈ c.newSystem, r.id = ""

instance (c : Change) : Decidable c.hasNoId := by
  unfold Change.hasNoId
  infer_instance

/-- The listener, with the notifications it leaves in the queue. -/
def listener (s : Stores) (c : Change) : Stores × List Change :=
  let (s, queue) :=
    match c.oldSystem with
    | some oldSystem =>
      if c.hasNoId then setById (removeFromStatus s oldSystem) oldSystem.id none else (s, [])
    | none => (s, [])
  match c.newSystem with
  | none => (s, queue)
  | some newSystem => (setStatus s newSystem, queue)

/-- The notifications of a queue one after the other, `none` if more than `fuel` of them come. -/
def notify : ℕ → Stores → List Change → Option Stores
  | _, s, [] => some s
  | 0, _, _ :: _ => none
  | fuel + 1, s, c :: queue =>
    let (s, more) := listener s c
    notify fuel s (queue ++ more)

/-- `$allSystemsById.setKey`, with all that it notifies. -/
def setKey (s : Stores) (key : String) (value : Option SystemRecord) : Option Stores :=
  let (s, queue) := setById s key value
  notify 2 s queue

/-! ## Events -/

/-- `validateSystemInfo` does not throw. -/
def validateSystemInfo (system : SystemRecord) : Prop := "cpu" ∈ system.info.map Prod.fst

instance (system : SystemRecord) : Decidable (validateSystemInfo system) := by
  unfold validateSystemInfo
  infer_instance

/-- `$allSystemsByName.setKey(name, undefined)`. -/
def Stores.clearName (s : Stores) (name : String) : Stores :=
  { s with allSystemsByName := Function.update s.allSystemsByName name none }

/-- `add`. -/
def add (s : Stores) (system : SystemRecord) : Option Stores :=
  if validateSystemInfo system then
    setKey
      { s with
        allSystemsByName := Function.update s.allSystemsByName system.name (some system) }
      system.id (some system)
  else some s

/-- `update`.  The key of a missing old name is the text that `undefined` is converted to. -/
def update (s : Stores) (system : SystemRecord) : Option Stores :=
  if validateSystemInfo system then
    let oldName := (s.allSystemsById system.id).map (·.name)
    if oldName ≠ some system.name then add (s.clearName (oldName.getD "undefined")) system
    else add s system
  else some s

/-- `remove`. -/
def remove (s : Stores) (system : SystemRecord) : Option Stores :=
  (setKey (s.clearName system.name) system.id none).map (removeFromStatus · system)

/-- What the server returns: the records of the collection, with their ids unique. -/
structure Listing where
  records : List SystemRecord
  nodup : (records.map (·.id)).Nodup

/-- `refresh`, once `fetchSystems` has returned: nothing is done with an empty answer. -/
def refresh (s : Stores) (records : List SystemRecord) : Option Stores :=
  if records.length = 0 then some s else records.foldlM add s

/-- An event of the subscription, or a refresh with the answer of the server, `none` where the
request has failed. -/
inductive Event
  | create (system : SystemRecord)
  | update (system : SystemRecord)
  | delete (system : SystemRecord)
  | refresh (answer : Option Listing)

/-- The stores, and the answer of the server if the last event was a refresh that got one. -/
structure Page where
  stores : Stores
  answer : Option Listing

def Page.init : Page := ⟨.init, none⟩

/-- One event: `actionFns`, or `refresh`, where a failed request is an empty answer. -/
def step (p : Page) : Event → Option Page
  | .create system => (add p.stores system).map (⟨·, none⟩)
  | .update system => (update p.stores system).map (⟨·, none⟩)
  | .delete system => (remove p.stores system).map (⟨·, none⟩)
  | .refresh answer =>
    (refresh p.stores (answer.elim [] (·.records))).map (⟨·, answer⟩)

/-! ## Status stores that follow the store by id -/

/-- The systems with one status. -/
def withStatus (status : SystemStatus) (store : Store) : Store :=
  fun id => (store id).filter (·.status = status)

theorem withStatus_eq_some {status : SystemStatus} {store : Store} {id : String}
    {r : SystemRecord} :
    withStatus status store id = some r ↔ store id = some r ∧ r.status = status := by
  simp [withStatus, Option.filter_eq_some_iff]

theorem withStatus_update (status : SystemStatus) (store : Store) (id : String)
    (value : Option SystemRecord) :
    withStatus status (Function.update store id value)
      = Function.update (withStatus status store) id (value.filter (·.status = status)) := by
  funext id'
  unfold withStatus
  by_cases h : id' = id
  · rw [h, Function.update_self, Function.update_self]
  · rw [Function.update_of_ne h, Function.update_of_ne h]

/-- The stores with another store by id, the status stores following it. -/
def Stores.sync (s : Stores) (byId : Store) : Stores :=
  { s with
    allSystemsById := byId
    upSystems := withStatus .up byId
    downSystems := withStatus .down byId
    pausedSystems := withStatus .paused byId }

/-- **The invariant**: the status stores follow the store by id, which has each record under its
id. -/
structure Synced (s : Stores) : Prop where
  eq_sync : s = s.sync s.allSystemsById
  id_of_byId : ∀ {id r}, s.allSystemsById id = some r → r.id = id

theorem synced_init : Synced Stores.init where
  eq_sync := rfl
  id_of_byId h := by cases h

/-- The four branches together write to each status store the record if it has the status, and
delete it otherwise. -/
theorem setStatus_eq (s : Stores) (r : SystemRecord) :
    setStatus s r =
      { s with
        upSystems := Function.update s.upSystems r.id ((some r).filter (·.status = .up))
        downSystems := Function.update s.downSystems r.id ((some r).filter (·.status = .down))
        pausedSystems :=
          Function.update s.pausedSystems r.id ((some r).filter (·.status = .paused)) } := by
  unfold setStatus
  cases hstatus : r.status <;>
    simp [Option.filter, hstatus, removeFromStore, removeFromStatus]

/-- The writes of the listener to the status stores follow a write to the store by id. -/
theorem setStatus_sync (s : Stores) (byId : Store) (r : SystemRecord) :
    setStatus { s.sync byId with allSystemsById := Function.update byId r.id (some r) } r
      = s.sync (Function.update byId r.id (some r)) := by
  rw [setStatus_eq]
  simp only [Stores.sync, withStatus_update]

/-- …and its removals a deletion. -/
theorem removeFromStatus_sync (s : Stores) (byId : Store) (r : SystemRecord) :
    removeFromStatus { s.sync byId with allSystemsById := Function.update byId r.id none } r
      = s.sync (Function.update byId r.id none) := by
  simp only [removeFromStatus, removeFromStore, Stores.sync, withStatus_update]
  rfl

/-- The store by id after a record is set.  A record with an empty id that replaces another one is
taken for a deletion by the listener. -/
def setRecord (byId : Store) (r : SystemRecord) : Store :=
  if r.id = "" ∧ (byId r.id).isSome then Function.update byId r.id none
  else Function.update byId r.id (some r)

/-- A key that is not there is deleted in vain. -/
theorem setById_of_absent {s : Stores} {key : String} (h : s.allSystemsById key = none) :
    setById s key none = (s, []) := by
  unfold setById
  rw [h, Function.update_eq_self_iff.mpr h.symm]
  rfl

/-- What the listener does with a deleted record: its own deletion is in vain. -/
theorem listener_deleted {s : Stores} {o : SystemRecord} (h : s.allSystemsById o.id = none) :
    listener s ⟨some o, none⟩ = (removeFromStatus s o, []) := by
  have hdelete : setById (removeFromStatus s o) o.id none = (removeFromStatus s o, []) :=
    setById_of_absent h
  have hnoId : Change.hasNoId ⟨some o, none⟩ := fun r hr => by cases hr
  simp only [listener, if_pos hnoId, hdelete]

/-- What the listener does with a record that has an id, or that replaces none. -/
theorem listener_set {s : Stores} {old : Option SystemRecord} {r : SystemRecord}
    (h : ¬ (r.id = "" ∧ old.isSome)) : listener s ⟨old, some r⟩ = (setStatus s r, []) := by
  cases old with
  | none => rfl
  | some o =>
    have hid : ¬ Change.hasNoId ⟨some o, some r⟩ := fun hnoId => h ⟨hnoId r rfl, rfl⟩
    simp only [listener, if_neg hid]

/-- **Deleting a record**: that the listener deletes it again changes nothing, so that it runs
once. -/
theorem setKey_none {s : Stores} (hs : Synced s) (id : String) :
    setKey s id none = some (s.sync (Function.update s.allSystemsById id none)) := by
  cases hold : s.allSystemsById id with
  | none =>
    have hsame : Function.update s.allSystemsById id none = s.allSystemsById :=
      Function.update_eq_self_iff.mpr hold.symm
    rw [setKey, setById_of_absent hold, hsame, ← hs.eq_sync]
    rfl
  | some o =>
    obtain rfl : o.id = id := hs.id_of_byId hold
    have hqueue : setById s o.id none
        = ({ s with allSystemsById := Function.update s.allSystemsById o.id none },
          [⟨some o, none⟩]) := by
      rw [setById, hold]
      rfl
    have hgone : Function.update s.allSystemsById o.id none o.id = none := Function.update_self ..
    rw [setKey, hqueue]
    change notify 2 _ [⟨some o, none⟩] = _
    rw [notify, listener_deleted hgone]
    change some (removeFromStatus _ o) = _
    rw [← removeFromStatus_sync, ← hs.eq_sync]

/-- The status stores without a record, whether or not it was set before. -/
theorem removeFromStatus_setStatus (s : Stores) (r : SystemRecord) :
    removeFromStatus (setStatus s r) r = removeFromStatus s r := by
  rw [setStatus_eq]
  simp only [removeFromStatus, removeFromStore, Function.update_idem]

theorem removeFromStatus_idem (s : Stores) (r : SystemRecord) :
    removeFromStatus (removeFromStatus s r) r = removeFromStatus s r := by
  simp only [removeFromStatus, removeFromStore, Function.update_idem]

/-- What the listener does with a record without an id that replaces another one. -/
theorem listener_replaced {s : Stores} {o r : SystemRecord} (hr : r.id = "") (ho : o.id = r.id)
    (hset : s.allSystemsById r.id = some r) :
    listener s ⟨some o, some r⟩ =
      (setStatus (removeFromStatus
        { s with allSystemsById := Function.update s.allSystemsById r.id none } r) r,
        [⟨some r, none⟩]) := by
  have hnoId : Change.hasNoId ⟨some o, some r⟩ := by
    rintro _ ⟨⟩
    exact hr
  have hdelete : setById (removeFromStatus s o) o.id none
      = (removeFromStatus { s with allSystemsById := Function.update s.allSystemsById r.id none } r,
        [⟨some r, none⟩]) := by
    have hread : (removeFromStatus s o).allSystemsById o.id = some r := ho ▸ hset
    rw [setById, hread]
    simp [removeFromStatus, removeFromStore, ho]
  simp only [listener, if_pos hnoId, hdelete]

/-- **Setting a record**: the listener runs once, or twice where it takes the record for a deletion,
and leaves the status stores in step. -/
theorem setKey_some {s : Stores} (hs : Synced s) (r : SystemRecord) :
    setKey s r.id (some r) = some (s.sync (setRecord s.allSystemsById r)) := by
  have hqueue : setById s r.id (some r)
      = ({ s with allSystemsById := Function.update s.allSystemsById r.id (some r) },
        [⟨s.allSystemsById r.id, some r⟩]) := by
    rw [setById, if_neg (by simp)]
  rw [setKey, hqueue]
  change notify 2 _ [⟨s.allSystemsById r.id, some r⟩] = _
  unfold setRecord
  split_ifs with hdeletes
  · obtain ⟨hid, hold⟩ := hdeletes
    obtain ⟨o, ho⟩ := Option.isSome_iff_exists.mp hold
    have hgone : Function.update s.allSystemsById r.id none r.id = none := Function.update_self ..
    rw [ho, notify, listener_replaced hid (hs.id_of_byId ho) (Function.update_self ..)]
    change notify 1 _ [⟨some r, none⟩] = _
    rw [Function.update_idem, notify, listener_deleted (by rw [setStatus_eq]; exact hgone)]
    change some (removeFromStatus (setStatus (removeFromStatus _ r) r) r) = _
    rw [removeFromStatus_setStatus, removeFromStatus_idem, ← removeFromStatus_sync, ← hs.eq_sync]
  · rw [notify, listener_set hdeletes]
    change some (setStatus _ r) = _
    rw [← setStatus_sync, ← hs.eq_sync]

/-! ## What the events do -/

/-- The name store does not matter to the invariant. -/
theorem Synced.setName {s : Stores} (hs : Synced s) (byName : Store) :
    Synced { s with allSystemsByName := byName } where
  eq_sync := congrArg (fun s : Stores => { s with allSystemsByName := byName }) hs.eq_sync
  id_of_byId := hs.id_of_byId

theorem Synced.sync {s : Stores} {byId : Store}
    (hid : ∀ {id r}, byId id = some r → r.id = id) : Synced (s.sync byId) where
  eq_sync := rfl
  id_of_byId := hid

/-- What is found after a record is set is the record, or was there before. -/
theorem setRecord_eq_some {byId : Store} {system r : SystemRecord} {id : String}
    (h : setRecord byId system id = some r) : id = system.id ∧ r = system ∨ byId id = some r := by
  by_cases hkey : id = system.id
  · subst hkey
    unfold setRecord at h
    split_ifs at h
    · rw [Function.update_self] at h
      cases h
    · rw [Function.update_self] at h
      exact .inl ⟨rfl, (Option.some.inj h).symm⟩
  · unfold setRecord at h
    rw [← apply_ite, Function.update_of_ne hkey] at h
    exact .inr h

/-- The store by id after a record is set has each record under its id. -/
theorem id_of_setRecord {byId : Store} (hid : ∀ {id r}, byId id = some r → r.id = id)
    {system r : SystemRecord} {id : String} (h : setRecord byId system id = some r) :
    r.id = id := by
  rcases setRecord_eq_some h with ⟨rfl, rfl⟩ | h
  · rfl
  · exact hid h

/-- The stores with a record added under its name and its id. -/
def Stores.put (s : Stores) (system : SystemRecord) : Stores :=
  { s with
    allSystemsByName := Function.update s.allSystemsByName system.name (some system) }.sync
    (setRecord s.allSystemsById system)

/-- …unless it is not valid. -/
def Stores.putValid (s : Stores) (system : SystemRecord) : Stores :=
  if validateSystemInfo system then s.put system else s

theorem Synced.put {s : Stores} (hs : Synced s) (system : SystemRecord) : Synced (s.put system) :=
  .sync fun h => id_of_setRecord hs.id_of_byId h

theorem Synced.putValid {s : Stores} (hs : Synced s) (system : SystemRecord) :
    Synced (s.putValid system) := by
  unfold Stores.putValid
  split_ifs
  · exact hs.put system
  · exact hs

theorem Synced.clearName {s : Stores} (hs : Synced s) (name : String) : Synced (s.clearName name) :=
  hs.setName _

theorem add_eq {s : Stores} (hs : Synced s) (system : SystemRecord) :
    add s system = some (s.putValid system) := by
  unfold add Stores.putValid
  split_ifs
  · exact setKey_some (hs.setName _) system
  · rfl

/-- The stores after an update: those after an add, the entry of the old name deleted first if the
name is another one. -/
def Stores.rename (s : Stores) (system : SystemRecord) : Stores :=
  let oldName := (s.allSystemsById system.id).map (·.name)
  if oldName ≠ some system.name then s.clearName (oldName.getD "undefined") else s

theorem Synced.rename {s : Stores} (hs : Synced s) (system : SystemRecord) :
    Synced (s.rename system) := by
  unfold Stores.rename
  dsimp only
  split_ifs
  · exact hs.clearName _
  · exact hs

theorem update_eq {s : Stores} (hs : Synced s) (system : SystemRecord) :
    update s system
      = some (if validateSystemInfo system then (s.rename system).put system else s) := by
  unfold update
  split_ifs with hvalid
  · have hadd := add_eq (hs.rename system) system
    rw [Stores.putValid, if_pos hvalid] at hadd
    rw [← hadd, ← apply_ite (add · system)]
    rfl
  · rfl

theorem remove_eq {s : Stores} (hs : Synced s) (system : SystemRecord) :
    remove s system
      = some ((s.clearName system.name).sync
          (Function.update s.allSystemsById system.id none)) := by
  unfold remove
  rw [setKey_none (hs.clearName system.name) system.id, Option.map_some]
  simp only [removeFromStatus, Stores.sync, removeFromStore, withStatus_update]
  simp only [Option.filter_none, Function.update_idem]
  rfl

theorem refresh_eq {s : Stores} (hs : Synced s) (records : List SystemRecord) :
    refresh s records = some (records.foldl Stores.putValid s) := by
  have hfold : ∀ {s : Stores}, Synced s →
      records.foldlM add s = some (records.foldl Stores.putValid s) := by
    induction records with
    | nil => exact fun _ => rfl
    | cons system records ih =>
      intro s hs
      rw [List.foldlM_cons, add_eq hs, List.foldl_cons, ← ih (hs.putValid system)]
      rfl
  unfold refresh
  split_ifs with hlength
  · rw [List.length_eq_zero_iff.mp hlength]
    rfl
  · exact hfold hs

theorem Synced.foldl_putValid {s : Stores} (hs : Synced s) (records : List SystemRecord) :
    Synced (records.foldl Stores.putValid s) := by
  induction records generalizing s with
  | nil => exact hs
  | cons system records ih => exact ih (hs.putValid system)

/-- The stores after an event. -/
def Stores.after (s : Stores) : Event → Stores
  | .create system => s.putValid system
  | .update system => if validateSystemInfo system then (s.rename system).put system else s
  | .delete system =>
    (s.clearName system.name).sync (Function.update s.allSystemsById system.id none)
  | .refresh answer => (answer.elim [] (·.records)).foldl Stores.putValid s

/-- The answer that an event gets. -/
def Event.answer : Event → Option Listing
  | .refresh answer => answer
  | _ => none

/-- **Every event is handled**: the listener never waits for more than the notifications that there
is room for. -/
theorem step_eq {p : Page} (hp : Synced p.stores) (e : Event) :
    step p e = some ⟨p.stores.after e, e.answer⟩ := by
  cases e with
  | create system =>
    rw [step, add_eq hp]
    rfl
  | update system =>
    rw [step, update_eq hp]
    rfl
  | delete system =>
    rw [step, remove_eq hp]
    rfl
  | refresh answer =>
    rw [step, refresh_eq hp]
    rfl

/-- **Every event keeps the status stores in step.** -/
theorem Synced.after {s : Stores} (hs : Synced s) (e : Event) : Synced (s.after e) := by
  cases e with
  | create system => exact hs.putValid system
  | update system =>
    simp only [Stores.after]
    split_ifs
    · exact (hs.rename system).put system
    · exact hs
  | delete system =>
    refine .sync fun {id r} h => ?_
    by_cases hkey : id = system.id
    · rw [hkey, Function.update_self] at h
      cases h
    · rw [Function.update_of_ne hkey] at h
      exact hs.id_of_byId h
  | refresh answer => exact hs.foldl_putValid _

theorem run_isSome {p : Page} (hp : Synced p.stores) (es : List Event) :
    ∃ p', run step p es = some p' ∧ Synced p'.stores := by
  induction es generalizing p with
  | nil => exact ⟨p, rfl, hp⟩
  | cons e es ih =>
    obtain ⟨p', hrun, hp'⟩ := ih (p := ⟨p.stores.after e, e.answer⟩) (hp.after e)
    exact ⟨p', run_cons_eq_some.mpr ⟨_, step_eq hp e, hrun⟩, hp'⟩

/-- **The status stores partition the systems**: whatever the page receives, in whatever order, each
status store has exactly the records of the store by id that have its status. -/
theorem statusStores_partition (es : List Event) :
    ∃ p, run step Page.init es = some p ∧ ∀ id r,
      (p.stores.upSystems id = some r ↔
        p.stores.allSystemsById id = some r ∧ r.status = .up) ∧
      (p.stores.downSystems id = some r ↔
        p.stores.allSystemsById id = some r ∧ r.status = .down) ∧
      (p.stores.pausedSystems id = some r ↔
        p.stores.allSystemsById id = some r ∧ r.status = .paused) := by
  obtain ⟨p, hrun, hp⟩ := run_isSome (p := Page.init) synced_init es
  refine ⟨p, hrun, fun id r => ?_⟩
  rw [hp.eq_sync]
  exact ⟨withStatus_eq_some, withStatus_eq_some, withStatus_eq_some⟩

end SystemStores

end Beszel
