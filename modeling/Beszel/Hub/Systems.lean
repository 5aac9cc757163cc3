import Beszel.Machinery.Run
import Beszel.Hub.Record
import Mathlib.Logic.Function.Basic
import Mathlib.Order.Basic

/-!
# Hub/Systems — the instances of one system and their updaters

    updater: select ──▸ update ──▸ fetch ──▸ load ──▸ save ──▸ hook ──▸ select ──▸ …
                  ╰──▸ downCheck ──▸ downLoad ──▸ downSave ──▸ hook
    store:   hasRecord ──▸ getOk ──▸ cancel ──▸ remove ──▸ has ──▸ set ──▸ start

`internal/hub/systems/system.go` and `system_manager.go`, for one system id.  The manager's store
holds at most one instance of it; every instance ever added has its updater goroutine, and a resume
may start further `update()` calls of it.  All of them act on the same database record and, through
`RemoveSystem(sys.Id)` and the record hook, on the store — by id, not by instance.

A step is one operation of a goroutine.  Nothing holds the look at the store and the change of it
together, nor the check of a status, the load of the record and its save.  A goroutine is the list
of the operations it has still to do; an operation that looks something up decides what is next.
-/

namespace Beszel

open Machinery

namespace SystemManager

/-! ## Instances, goroutines and the store -/

/-- What the updaters read of a `System`: its `Status`, whether its context is cancelled, whether it
has a `WsConn`, and whether its updater still listens to that connection's `DownChan`. -/
structure System where
  status : SystemStatus
  cancelled : Bool
  wsConn : Bool
  downChan : Bool
  deriving DecidableEq, Repr

/-- The branch a `select` takes. -/
inductive Branch
  | done
  | tick
  | down
  deriving DecidableEq, Repr

/-- What a run shows of the updaters: a status written to the record, with whether the writer was
the instance in the store, and an instance taken out of the store by an updater. -/
inductive Obs
  | wrote (sys : ℕ) (status : SystemStatus) (current : Bool)
  | removed (sys victim : ℕ)
  deriving DecidableEq, Repr

/-- What a goroutine does next.

* `AddRecord`, `AddSystem` and `RemoveSystem`: the lookups and the changes of the store, the start
  of an updater, the cancellation of an instance.  `owner` is the instance whose `handlePaused` or
  `getRecord` removes, `caller` the one whose `update` returns the error of `AddSystem`.
* The record hook: the lookup, the status of the instance found, what follows from the status.
* `onTokenRotated`: the lookup, and the look at the `WsConn`.
* An updater: before its first update, and its `select`.
* `update`, with `loop` if the updater's loop has called it: the look at the status, `handlePaused`,
  the fetch, the load and the save of the record.
* `setDown`: the look at the status, the load and the save. -/
inductive Op
  | hasRecord
  | has (status : SystemStatus) (wsConn : Bool) (caller : Option ℕ)
  | set (status : SystemStatus) (wsConn : Bool)
  | start (i : ℕ)
  | getOk (owner : Option ℕ)
  | cancel (owner : Option ℕ) (victim : ℕ)
  | remove (owner : Option ℕ)
  | hookGet (status : SystemStatus) (caller : Option ℕ)
  | hookStatus (i : ℕ) (status : SystemStatus)
  | hookDispatch (i : ℕ) (status : SystemStatus)
  | rotate
  | rotateCheck (i : ℕ)
  | starting (i : ℕ)
  | select (i : ℕ)
  | update (i : ℕ) (loop : Bool)
  | pausing (i : ℕ)
  | fetch (i : ℕ) (loop : Bool)
  | load (i : ℕ) (loop : Bool)
  | save (i : ℕ) (loop : Bool)
  | downCheck (i : ℕ)
  | downLoad (i : ℕ)
  | downSave (i : ℕ)
  deriving DecidableEq, Repr

/-- `db` is the status of the system record, `none` without a record; `store` the instance in the
manager's store; instances are numbered as they are added, `next` being the next one. -/
structure State where
  db : Option SystemStatus
  store : Option ℕ
  systems : ℕ → System
  next : ℕ
  goroutines : List (List Op)
  log : List Obs

/-- A hub that has just started, with the record in any state. -/
def State.init (db : Option SystemStatus) : State where
  db := db
  store := none
  systems _ := ⟨.pending, true, false, false⟩
  next := 0
  goroutines := []
  log := []

/-- A field of an instance changes. -/
def State.modify (s : State) (i : ℕ) (f : System → System) : State :=
  { s with systems := Function.update s.systems i (f (s.systems i)) }

/-- `AddRecord` of a new instance. -/
def addRecord (status : SystemStatus) (wsConn : Bool) (caller : Option ℕ) : List Op :=
  [.hasRecord, .has status wsConn caller]

/-- After an error of `update`: only the updater's loop calls `setDown`. -/
def failed (i : ℕ) (loop : Bool) : List Op := if loop then [.downCheck i] else []

/-- An instance saves the record with a status; a record that is gone is not written. -/
def writeBy (s : State) (i : ℕ) (status : SystemStatus) : State :=
  match s.db with
  | none => s
  | some _ => { s with db := some status, log := .wrote i status (s.store = some i) :: s.log }

/-- What `Remove` shows of the instance that removes, if it is one. -/
def removal (s : State) (owner : Option ℕ) : List Obs :=
  (owner.bind fun i => s.store.map fun victim => .removed i victim).toList

/-- **What an operation changes.**  `branch` is read in a `select` only, `ok` is the outcome of a
fetch, a ping, a load or a save, or of the check of the host. -/
def perform (s : State) (branch : Branch) (ok : Bool) : Op → State
  | .set status wsConn =>
    { s with
      store := some s.next
      systems := Function.update s.systems s.next ⟨status, false, wsConn, wsConn⟩
      next := s.next + 1 }
  | .start i => { s with goroutines := [.starting i, .select i] :: s.goroutines }
  | .cancel _ victim => s.modify victim fun sys => { sys with cancelled := true }
  | .remove owner => { s with store := none, log := removal s owner ++ s.log }
  | .hookStatus i status => s.modify i fun sys => { sys with status := status }
  | .hookDispatch i status =>
    if status = .pending ∧ (s.systems i).wsConn then
      { s with goroutines := [.update i false] :: s.goroutines }
    else s
  | .select i =>
    if branch = .down then s.modify i fun sys => { sys with wsConn := false, downChan := false }
    else s
  | .save i _ => if ok then writeBy s i .up else s
  | .downSave i => if ok then writeBy s i .down else s
  | _ => s

/-- **What comes after an operation** and what it has found; `none` for a branch that a `select`
cannot take.  `getRecord` fails on any error, and then removes the instance in the store. -/
def followUp (s : State) (branch : Branch) (ok : Bool) : Op → Option (List Op)
  | .hasRecord => some (if s.store.isSome then [.getOk none] else [])
  | .has status wsConn caller =>
    some (if s.store.isSome ∨ ok = false then (caller.map .downCheck).toList
      else [.set status wsConn])
  | .set _ _ => some [.start s.next]
  | .getOk owner => some (s.store.map (.cancel owner)).toList
  | .cancel owner _ => some [.remove owner]
  | .hookGet status caller =>
    some <|
      match s.store with
      | some i => [.hookStatus i status]
      | none => if status = .paused then [] else addRecord status false caller
  | .hookStatus i status => some [.hookDispatch i status]
  | .hookDispatch i status =>
    some (if status = .pending ∧ (s.systems i).wsConn = false then
      addRecord .pending false none else [])
  | .rotate => some (s.store.map .rotateCheck).toList
  | .rotateCheck i => some (if (s.systems i).wsConn then [.downCheck i, .getOk none] else [])
  | .starting i =>
    some (if (s.systems i).status ≠ .paused ∧ (s.systems i).cancelled = false then [.update i true]
      else [])
  | .select i =>
    match branch with
    | .done => if (s.systems i).cancelled then some [] else none
    | .tick => some [.update i true, .select i]
    | .down => if (s.systems i).downChan then some [.downCheck i, .select i] else none
  | .update i loop =>
    some (if (s.systems i).status = .paused then [.pausing i] else [.fetch i loop])
  | .pausing i => some (if (s.systems i).wsConn && ok then [] else [.getOk (some i)])
  | .fetch i loop => some (if ok then [.load i loop] else failed i loop)
  | .load i loop =>
    some (if ok = true ∧ s.db.isSome then [.save i loop] else .getOk (some i) :: failed i loop)
  | .save i loop =>
    some (if ok then [.hookGet .up (if loop then some i else none)] else failed i loop)
  | .downCheck i =>
    some (if (s.systems i).status = .down ∨ (s.systems i).status = .paused then []
      else [.downLoad i])
  | .downLoad i => some (if ok = true ∧ s.db.isSome then [.downSave i] else [.getOk (some i)])
  | .downSave _ => some (if ok then [.hookGet .down none] else [])
  | .start _ | .remove _ => some []

/-- What can happen: the record is created or deleted, or saved by a user; the start-up loop adds an
instance, an agent connects, somebody removes the system, a token is rotated — each begins in a
goroutine of its own — and a goroutine does its next operation. -/
inductive Event
  | create
  | delete
  | commit (status : SystemStatus)
  | addSystem (status : SystemStatus)
  | addWebSocketSystem
  | removeSystem
  | tokenRotated
  | op (g : List Op) (branch : Branch) (ok : Bool)
  deriving DecidableEq, Repr

/-- A goroutine is started. -/
def State.spawn (s : State) (g : List Op) : State := { s with goroutines := g :: s.goroutines }

/-- **One event.**  A record is created with the status `pending`. -/
def step (s : State) : Event → Option State
  | .create =>
    if s.db = none then some ({ s with db := some .pending }.spawn (addRecord .pending false none))
    else none
  | .delete => some ({ s with db := none }.spawn [.getOk none])
  | .commit status =>
    if s.db = none then none else some ({ s with db := some status }.spawn [.hookGet status none])
  | .addSystem status => some (s.spawn [.has status false none])
  | .addWebSocketSystem => s.db.map fun status => s.spawn (addRecord status true none)
  | .removeSystem => some (s.spawn [.getOk none])
  | .tokenRotated => some (s.spawn [.rotate])
  | .op g branch ok =>
    match g with
    | [] => none
    | op :: rest =>
      if g ∈ s.goroutines then
        (followUp s branch ok op).map fun next =>
          let s' := perform s branch ok op
          { s' with goroutines := (next ++ rest) :: s'.goroutines.erase g }
      else none

/-! ## What an instance may do once it is out of the store

An instance is harmless after its removal if its context was cancelled before, no round of it was
open, and nobody who has looked it up goes on with it.  A round that has found the record gone, or
cannot load it, takes its own instance out of the store and then looks for the record once more, in
`setDown`. -/

/-- **No updater acts for an instance that is no longer in the store**: what it writes is written
while it is there, and the instance it removes is itself. -/
def Obs.Own : Obs → Prop
  | .wrote _ _ current => current = true
  | .removed sys victim => sys = victim

/-- The instance whose round the operation belongs to. -/
def Op.round : Op → Option ℕ
  | .update i _ | .pausing i | .fetch i _ | .load i _ | .save i _ | .downCheck i | .downLoad i
  | .downSave i => some i
  | .getOk owner | .cancel owner _ | .remove owner => owner
  | _ => none

/-- The operations a round may still have after it has taken its own instance out of the store. -/
def Op.late : Op → Bool
  | .downCheck _ | .downLoad _ | .getOk _ => true
  | _ => false

/-- No round is open in these goroutines. -/
def Quiet (gs : List (List Op)) : Prop := ∀ g ∈ gs, ∀ op ∈ g, op.round = none

/-- What is displaced from the store has been cancelled. -/
def State.Displaceable (s : State) : Prop := ∀ i ∈ s.store, (s.systems i).cancelled = true

/-- **The steps that keep the rounds and the store together.**  The store changes only while no
other goroutine is in a round, and what it held has been cancelled; the `select` of a cancelled
instance ends its updater; who has looked an instance up begins a round of it only if it has not
been cancelled since; an updater whose hook found the store empty finds it empty in `AddSystem`
too; and once the store is empty no `setDown` loads the record. -/
def Settled (s : State) : Event → Prop
  | .op (.set _ _ :: _) _ _ => Quiet s.goroutines ∧ s.Displaceable
  | .op (.remove owner :: rest) _ _ =>
    Quiet (s.goroutines.erase (.remove owner :: rest)) ∧ s.Displaceable
  | .op (.has _ _ caller :: _) _ _ => caller ≠ none → s.store = none
  | .op (.select i :: _) branch _ => branch ≠ .done → (s.systems i).cancelled = false
  | .op (.hookDispatch i status :: _) _ _ =>
    status = .pending → (s.systems i).wsConn = true → (s.systems i).cancelled = false
  | .op (.rotateCheck i :: _) _ _ =>
    (s.systems i).wsConn = true → (s.systems i).cancelled = false
  | .op (.downLoad _ :: _) _ ok => s.store = none → ok = true → s.db = none
  | _ => True

/-- An open round is one of the instance in the store, or of one that it has taken out itself. -/
def Covered (store : Option ℕ) (op : Op) : Prop :=
  ∀ i ∈ op.round, store = some i ∨ store = none ∧ op.late = true

/-- **What settled runs keep.**  An instance that is not cancelled is the one in the store. -/
structure Inv (s : State) : Prop where
  live : ∀ i, (s.systems i).cancelled = false → s.store = some i
  covered : ∀ g ∈ s.goroutines, ∀ op ∈ g, Covered s.store op
  waiting : ∀ g ∈ s.goroutines, ∀ op ∈ g.tail, op.round ≠ none → op.late = true
  own : ∀ o ∈ s.log, o.Own

section Proofs

variable {s s' : State} {op : Op} {rest next : List Op} {branch : Branch} {ok : Bool}

theorem inv_init (db : Option SystemStatus) : Inv (State.init db) := by
  refine ⟨fun i h => ?_, fun _ h => ?_, fun _ h => ?_, fun _ h => ?_⟩
  · exact absurd h Bool.true_eq_false.mp
  all_goals exact absurd h List.not_mem_nil

theorem covered_of_round {store : Option ℕ} (h : op.round = none) : Covered store op := by
  intro i hi
  rw [h] at hi
  exact absurd hi.symm (Option.some_ne_none i)

/-! ### Goroutines that are started -/

/-- A goroutine that opens no round. -/
theorem Inv.spawn (hs : Inv s) {g : List Op} (hg : ∀ op ∈ g, op.round = none) :
    Inv (s.spawn g) := by
  refine ⟨hs.live, fun g' hg' => ?_, fun g' hg' => ?_, hs.own⟩
  · rcases List.mem_cons.mp hg' with rfl | hg'
    · exact fun op hop => covered_of_round (hg op hop)
    · exact hs.covered g' hg'
  · rcases List.mem_cons.mp hg' with rfl | hg'
    · exact fun op hop hround => absurd (hg op (List.mem_of_mem_tail hop)) hround
    · exact hs.waiting g' hg'

/-- The record changes. -/
theorem Inv.setDb (hs : Inv s) (db : Option SystemStatus) : Inv { s with db := db } :=
  ⟨hs.live, hs.covered, hs.waiting, hs.own⟩

/-! ### What an operation changes -/

/-- A field of an instance changes, but it is not revived. -/
theorem Inv.modify (hs : Inv s) (i : ℕ) {f : System → System}
    (hf : ∀ sys, (f sys).cancelled = false → sys.cancelled = false) : Inv (s.modify i f) := by
  refine ⟨fun k hk => hs.live k ?_, hs.covered, hs.waiting, hs.own⟩
  by_cases h : k = i
  · subst h
    exact hf _ (by simpa [State.modify] using hk)
  · simpa [State.modify, h] using hk

/-- An instance that is in the store saves the record. -/
theorem Inv.writeBy (hs : Inv s) {i : ℕ} (hst : s.store = some i) (status : SystemStatus) :
    Inv (writeBy s i status) := by
  unfold SystemManager.writeBy
  split
  · exact hs
  · refine ⟨hs.live, hs.covered, hs.waiting, fun o ho => ?_⟩
    rcases List.mem_cons.mp ho with rfl | ho
    · exact decide_eq_true hst
    · exact hs.own o ho

/-- A save leaves the store, the instances and the goroutines alone. -/
theorem writeBy_spec (s : State) (i : ℕ) (status : SystemStatus) :
    (writeBy s i status).store = s.store ∧ (writeBy s i status).systems = s.systems ∧
      (writeBy s i status).goroutines = s.goroutines := by
  unfold writeBy
  split <;> exact ⟨rfl, rfl, rfl⟩

/-- **A new instance**, while no round is open, in the place of one that was cancelled. -/
theorem Inv.set (hs : Inv s) (hquiet : Quiet s.goroutines) (hdisplaced : s.Displaceable)
    (status : SystemStatus) (wsConn : Bool) : Inv (perform s branch ok (.set status wsConn)) := by
  refine ⟨fun k hk => ?_, fun g hg op hop => covered_of_round (hquiet g hg op hop), hs.waiting,
    hs.own⟩
  by_cases h : k = s.next
  · exact congrArg some h.symm
  · have hk' : (s.systems k).cancelled = false := by simpa [perform, h] using hk
    exact absurd (hdisplaced k (hs.live k hk')) (by simp [hk'])

/-- What an instance removes from the store is itself. -/
theorem own_removal (hs : Inv s) {owner : Option ℕ}
    (hcov : Covered s.store (.remove owner)) : ∀ o ∈ removal s owner ++ s.log, o.Own := by
  intro o ho
  rcases List.mem_append.mp ho with ho | ho
  · obtain ⟨i, rfl, hi⟩ := Option.bind_eq_some_iff.mp (Option.mem_toList.mp ho)
    obtain ⟨victim, hvictim, rfl⟩ := Option.map_eq_some_iff.mp hi
    obtain h | ⟨-, h⟩ := hcov i rfl
    · exact Option.some.inj (h.symm.trans hvictim)
    · cases h
  · exact hs.own o ho

/-- Operations that leave the store alone. -/
theorem perform_store (hset : ∀ status wsConn, op ≠ .set status wsConn)
    (hremove : ∀ owner, op ≠ .remove owner) : (perform s branch ok op).store = s.store := by
  cases op with
  | set status wsConn => exact absurd rfl (hset status wsConn)
  | remove owner => exact absurd rfl (hremove owner)
  | hookDispatch i status | select i =>
    simp only [perform]
    split_ifs <;> rfl
  | save i loop =>
    simp only [perform]
    split_ifs
    · exact (writeBy_spec s i .up).1
    · rfl
  | downSave i =>
    simp only [perform]
    split_ifs
    · exact (writeBy_spec s i .down).1
    · rfl
  | _ => rfl

/-- A round that is not late is one of the instance in the store. -/
theorem store_of_covered {i : ℕ} (hcov : Covered s.store op) (hround : op.round = some i)
    (hlate : op.late = false) : s.store = some i :=
  (hcov i hround).resolve_right fun h => absurd (hlate.symm.trans h.2) Bool.false_ne_true

/-- The invariant, but for the goroutine that does an operation: of that one, what waits behind the
operation is covered. -/
structure During (s : State) (op : Op) (rest : List Op) : Prop where
  live : ∀ i, (s.systems i).cancelled = false → s.store = some i
  own : ∀ o ∈ s.log, o.Own
  others : ∀ g ∈ s.goroutines.erase (op :: rest), (∀ op' ∈ g, Covered s.store op') ∧
    ∀ op' ∈ g.tail, op'.round ≠ none → op'.late = true
  rest : ∀ op' ∈ rest, Covered s.store op'

theorem Inv.during (hs : Inv s) (hg : op :: rest ∈ s.goroutines) : During s op rest where
  live := hs.live
  own := hs.own
  others g hg' := ⟨hs.covered g (List.mem_of_mem_erase hg'),
    hs.waiting g (List.mem_of_mem_erase hg')⟩
  rest op' hop := hs.covered _ hg op' (List.mem_cons_of_mem _ hop)

/-- **The store is emptied** of an instance that was cancelled, while no other round is open. -/
theorem Inv.remove (hs : Inv s) {owner : Option ℕ} (hg : .remove owner :: rest ∈ s.goroutines)
    (hquiet : Quiet (s.goroutines.erase (.remove owner :: rest)))
    (hdisplaced : s.Displaceable) :
    During (perform s branch ok (.remove owner)) (.remove owner) rest where
  live i hi := absurd (hdisplaced i (hs.live i hi)) (ne_true_of_eq_false hi)
  own := own_removal hs (hs.covered _ hg _ List.mem_cons_self)
  others g hg' := ⟨fun op' hop => covered_of_round (hquiet g hg' op' hop),
    hs.waiting g (List.mem_of_mem_erase hg')⟩
  rest op' hop i hi :=
    .inr ⟨rfl, hs.waiting _ hg op' hop (by rw [hi]; exact Option.some_ne_none i)⟩

/-- **A resume calls `update`** of the instance in the store. -/
theorem Inv.resume (hs : Inv s) {i : ℕ} (hst : s.store = some i) :
    Inv (s.spawn [.update i false]) := by
  refine ⟨hs.live, fun g hg => ?_, fun g hg => ?_, hs.own⟩
  · rcases List.mem_cons.mp hg with rfl | hg
    · intro op hop k hk
      obtain rfl := List.mem_singleton.mp hop
      obtain rfl := Option.some.inj hk
      exact .inl hst
    · exact hs.covered g hg
  · rcases List.mem_cons.mp hg with rfl | hg
    · exact fun op hop => absurd hop List.not_mem_nil
    · exact hs.waiting g hg

/-- **An operation in a settled run**, before what comes next. -/
theorem Inv.perform (hs : Inv s) (hg : op :: rest ∈ s.goroutines)
    (hok : Settled s (.op (op :: rest) branch ok)) :
    During (perform s branch ok op) op rest := by
  have hcov := hs.covered _ hg op List.mem_cons_self
  cases op with
  | set status wsConn => exact (hs.set hok.1 hok.2 status wsConn).during hg
  | remove owner => exact hs.remove hg hok.1 hok.2
  | start i =>
    have hnew : ∀ op ∈ [Op.starting i, Op.select i], op.round = none := by simp [Op.round]
    exact (hs.spawn hnew).during (List.mem_cons_of_mem _ hg)
  | hookDispatch i status =>
    simp only [SystemManager.perform]
    split_ifs with hspawn
    · -- the resumed instance has not been cancelled
      have hst := hs.live i (hok hspawn.1 hspawn.2)
      exact (hs.resume hst).during (List.mem_cons_of_mem _ hg)
    · exact hs.during hg
  | cancel owner victim =>
    exact (hs.modify (f := fun sys => { sys with cancelled := true }) victim (by simp)).during hg
  | hookStatus i status =>
    exact (hs.modify (f := fun sys => { sys with status := status }) i fun _ h => h).during hg
  | select i =>
    simp only [SystemManager.perform]
    split_ifs
    · have htaken := hs.modify (f := fun sys => { sys with wsConn := false, downChan := false }) i
        fun _ h => h
      exact htaken.during hg
    · exact hs.during hg
  | save i loop =>
    have hst := store_of_covered hcov rfl rfl
    simp only [SystemManager.perform]
    split_ifs
    · exact (hs.writeBy hst .up).during ((writeBy_spec s i .up).2.2 ▸ hg)
    · exact hs.during hg
  | downSave i =>
    have hst := store_of_covered hcov rfl rfl
    simp only [SystemManager.perform]
    split_ifs
    · exact (hs.writeBy hst .down).during ((writeBy_spec s i .down).2.2 ▸ hg)
    · exact hs.during hg
  | _ => exact hs.during hg

/-! ### What comes next -/

/-- An operation of the same round that may come where this one may. -/
theorem Covered.continues {store : Option ℕ} {op' : Op} (h : Covered store op)
    (hround : op'.round = op.round) (hlate : op.late = true → op'.late = true) :
    Covered store op' :=
  fun i hi => (h i (hround ▸ hi)).imp_right fun h => ⟨h.1, hlate h.2⟩

theorem covered_of_store {store : Option ℕ} {i : ℕ} (hst : store = some i)
    (hround : op.round = some i) : Covered store op := by
  intro k hk
  obtain rfl := Option.some.inj (hround.symm.trans hk)
  exact .inl hst

/-- The operations that come next: they are covered, and what waits behind the first is late. -/
def Follows (store : Option ℕ) (next : List Op) : Prop :=
  (∀ op ∈ next, Covered store op) ∧ ∀ op ∈ next.tail, op.round ≠ none → op.late = true

theorem follows_nil (store : Option ℕ) : Follows store [] :=
  ⟨fun _ h => absurd h List.not_mem_nil, fun _ h => absurd h List.not_mem_nil⟩

theorem follows_singleton {store : Option ℕ} (h : Covered store op) : Follows store [op] :=
  ⟨fun _ hop => List.mem_singleton.mp hop ▸ h, fun _ h => absurd h List.not_mem_nil⟩

theorem follows_pair {store : Option ℕ} {op' : Op} (h : Covered store op)
    (h' : Covered store op') (hlate : op'.round ≠ none → op'.late = true) :
    Follows store [op, op'] := by
  refine ⟨fun o ho => ?_, fun o ho => List.mem_singleton.mp ho ▸ hlate⟩
  rcases List.mem_cons.mp ho with rfl | ho
  · exact h
  · exact List.mem_singleton.mp ho ▸ h'

/-- Operations that belong to no round. -/
theorem follows_of_round {store : Option ℕ} (h : ∀ op ∈ next, op.round = none) :
    Follows store next :=
  ⟨fun op hop => covered_of_round (h op hop),
    fun op hop hround => absurd (h op (List.mem_of_mem_tail hop)) hround⟩

theorem follows_failed {store : Option ℕ} {i : ℕ} (hst : store = some i) (loop : Bool) :
    Follows store (failed i loop) := by
  unfold failed
  split_ifs
  · exact follows_singleton (covered_of_store hst rfl)
  · exact follows_nil store

/-- **What comes after an operation in a settled run.** -/
theorem follows_followUp (hs : Inv s) (hcov : Covered s.store op)
    (hok : Settled s (.op (op :: rest) branch ok)) (h : followUp s branch ok op = some next) :
    Follows (perform s branch ok op).store next := by
  have hadd (status : SystemStatus) (wsConn : Bool) (caller store : Option ℕ) :
      Follows store (addRecord status wsConn caller) :=
    follows_of_round (by simp [addRecord, Op.round])
  cases op with
  | set | start | remove | rotate =>
    obtain rfl := Option.some.inj h
    exact follows_of_round (by simp [Op.round])
  | hasRecord =>
    obtain rfl := Option.some.inj h
    refine follows_of_round ?_
    split_ifs <;> simp [Op.round]
  | has status wsConn caller =>
    obtain rfl := Option.some.inj h
    rw [perform_store (by simp) (by simp)]
    split_ifs
    · cases caller with
      | none => exact follows_nil _
      | some i => exact follows_singleton fun _ _ => .inr ⟨hok (Option.some_ne_none i), rfl⟩
    · exact follows_of_round (by simp [Op.round])
  | getOk owner =>
    obtain rfl := Option.some.inj h
    rw [perform_store (by simp) (by simp)]
    cases hst : s.store with
    | none => exact follows_nil _
    | some victim =>
      refine follows_singleton fun i hi => .inl (hst ▸ (hcov i hi).resolve_right ?_)
      exact fun h => absurd (hst.symm.trans h.1) (Option.some_ne_none victim)
  | cancel owner victim =>
    obtain rfl := Option.some.inj h
    exact follows_singleton (hcov.continues rfl id)
  | hookGet status caller =>
    obtain rfl := Option.some.inj h
    split
    · exact follows_of_round (by simp [Op.round])
    · split_ifs
      · exact follows_nil _
      · exact hadd status false caller _
  | hookStatus i status =>
    obtain rfl := Option.some.inj h
    exact follows_of_round (by simp [Op.round])
  | hookDispatch i status =>
    obtain rfl := Option.some.inj h
    split_ifs
    · exact hadd .pending false none _
    · exact follows_nil _
  | rotateCheck i =>
    obtain rfl := Option.some.inj h
    split_ifs with hws
    · exact follows_pair (covered_of_store (hs.live i (hok hws)) rfl) (covered_of_round rfl)
        (fun h => absurd rfl h)
    · exact follows_nil _
  | starting i =>
    obtain rfl := Option.some.inj h
    split_ifs with hlive
    · exact follows_singleton (covered_of_store (hs.live i hlive.2) rfl)
    · exact follows_nil _
  | select i =>
    rw [perform_store (by simp) (by simp)]
    have hselect : Covered s.store (.select i) := covered_of_round rfl
    cases branch with
    | done =>
      obtain ⟨-, h⟩ := Option.ite_none_right_eq_some.mp h
      exact Option.some.inj h ▸ follows_nil _
    | tick =>
      obtain rfl := Option.some.inj h
      have hst := hs.live i (hok (by decide))
      exact follows_pair (covered_of_store hst rfl) hselect fun h => absurd rfl h
    | down =>
      obtain ⟨-, rfl⟩ := guard_eq_some h
      have hst := hs.live i (hok (by decide))
      exact follows_pair (covered_of_store hst rfl) hselect fun h => absurd rfl h
  | update i loop | pausing i =>
    obtain rfl := Option.some.inj h
    have hst := store_of_covered hcov rfl rfl
    split_ifs <;> first
      | exact follows_nil _
      | exact follows_singleton (covered_of_store hst rfl)
  | fetch i loop =>
    obtain rfl := Option.some.inj h
    have hst := store_of_covered hcov rfl rfl
    split_ifs
    · exact follows_singleton (covered_of_store hst rfl)
    · exact follows_failed hst loop
  | load i loop =>
    obtain rfl := Option.some.inj h
    have hst := store_of_covered hcov rfl rfl
    split_ifs
    · exact follows_singleton (covered_of_store hst rfl)
    · cases loop with
      | false => exact follows_singleton (covered_of_store hst rfl)
      | true =>
        exact follows_pair (covered_of_store hst rfl) (covered_of_store hst rfl) fun _ => rfl
  | save i loop =>
    obtain rfl := Option.some.inj h
    have hst := store_of_covered hcov rfl rfl
    rw [perform_store (by simp) (by simp)]
    cases ok with
    | true => exact follows_of_round (by simp [Op.round])
    | false => exact follows_failed hst loop
  | downCheck i =>
    obtain rfl := Option.some.inj h
    split_ifs
    · exact follows_nil _
    · exact follows_singleton (hcov.continues rfl fun _ => rfl)
  | downLoad i =>
    obtain rfl := Option.some.inj h
    split_ifs with hloaded
    · refine follows_singleton (covered_of_store ((hcov i rfl).resolve_right fun hgone => ?_) rfl)
      -- the record cannot be loaded for an instance that is not in the store
      have hnone := hok hgone.1 hloaded.1
      rw [hnone] at hloaded
      exact absurd hloaded.2 Bool.false_ne_true
    · exact follows_singleton (hcov.continues rfl fun _ => rfl)
  | downSave i =>
    obtain rfl := Option.some.inj h
    split_ifs
    · exact follows_of_round (by simp [Op.round])
    · exact follows_nil _

/-! ### Runs -/

/-- **A goroutine does its next operation**, in a settled run. -/
theorem Inv.goroutine {g : List Op} (hs : Inv s) (hok : Settled s (.op g branch ok))
    (h : step s (.op g branch ok) = some s') : Inv s' := by
  cases g with
  | nil => cases h
  | cons op rest =>
    obtain ⟨hg, h⟩ := Option.ite_none_right_eq_some.mp h
    obtain ⟨next, hnext, rfl⟩ := Option.map_eq_some_iff.mp h
    have hperform := hs.perform hg hok
    obtain ⟨hcov, hlate⟩ :=
      follows_followUp hs (hs.covered _ hg op List.mem_cons_self) hok hnext
    refine ⟨hperform.live, fun g' hg' => ?_, fun g' hg' => ?_, hperform.own⟩
    · rcases List.mem_cons.mp hg' with rfl | hg'
      · intro op' hop
        rcases List.mem_append.mp hop with hop | hop
        · exact hcov op' hop
        · exact hperform.rest op' hop
      · exact (hperform.others g' hg').1
    · rcases List.mem_cons.mp hg' with rfl | hg'
      · intro op' hop
        cases next with
        | nil => exact hs.waiting _ hg op' (List.mem_of_mem_tail hop)
        | cons op₁ next =>
          rcases List.mem_append.mp hop with hop | hop
          · exact hlate op' hop
          · exact hs.waiting _ hg op' hop
      · exact (hperform.others g' hg').2

/-- **Every settled step keeps the invariant.** -/
theorem Inv.step {e : Event} (hs : Inv s) (hok : Settled s e) (h : step s e = some s') :
    Inv s' := by
  have hadd (status : SystemStatus) (wsConn : Bool) :
      ∀ op ∈ addRecord status wsConn none, op.round = none := by simp [addRecord, Op.round]
  cases e with
  | create =>
    obtain ⟨-, rfl⟩ := guard_eq_some h
    exact (hs.setDb _).spawn (hadd _ _)
  | delete =>
    obtain rfl := Option.some.inj h
    exact (hs.setDb _).spawn (by simp [Op.round])
  | commit status =>
    simp only [SystemManager.step, Option.ite_none_left_eq_some, Option.some.injEq] at h
    obtain ⟨-, rfl⟩ := h
    exact (hs.setDb _).spawn (by simp [Op.round])
  | addSystem status =>
    obtain rfl := Option.some.inj h
    exact hs.spawn (by simp [Op.round])
  | addWebSocketSystem =>
    obtain ⟨status, -, rfl⟩ := Option.map_eq_some_iff.mp h
    exact hs.spawn (hadd _ _)
  | removeSystem | tokenRotated =>
    obtain rfl := Option.some.inj h
    exact hs.spawn (by simp [Op.round])
  | op g branch ok => exact hs.goroutine hok h

/-- **In every settled run no instance writes the status of the record once it is out of the store,
and none removes an instance but its own.** -/
theorem own_of_settled (db : Option SystemStatus) {es : List Event}
    (hok : Along SystemManager.step Settled (State.init db) es)
    (hrun : run SystemManager.step (State.init db) es = some s) : ∀ o ∈ s.log, o.Own := by
  have hs : Inv s := inv_of_along (fun hs hok h => hs.step hok h) (inv_init db) hok hrun
  exact hs.own

end Proofs

/-! ### One instance after another -/

/-- The turn of a goroutine, in which what it tries succeeds. -/
def turn (g : List Op) : Event := .op g .tick true

/-- The start-up loop adds the first instance. -/
def added (status : SystemStatus) : List Event :=
  [.addSystem status, turn [.has status false none], turn [.set status false], turn [.start 0]]

/-- `AddRecord` puts an instance in the place of `victim`. -/
def replaced (victim : ℕ) (status : SystemStatus) (wsConn : Bool) : List Event :=
  [turn (addRecord status wsConn none), turn [.getOk none, .has status wsConn none],
    turn [.cancel none victim, .has status wsConn none],
    turn [.remove none, .has status wsConn none], turn [.has status wsConn none],
    turn [.set status wsConn]]

/-- The first round of an updater, up to the save. -/
def round (i : ℕ) : List Event :=
  [turn [.starting i, .select i], turn [.update i true, .select i], turn [.fetch i true, .select i],
    turn [.load i true, .select i], turn [.save i true, .select i]]

/-- The first instance writes `up`.  Then the agent connects by WebSocket: a second instance takes
the place of the first, whose updater sees the cancelled context, and writes `up`. -/
def oneAfterAnother : List Event :=
  added .pending ++ round 0 ++
  [turn [.hookGet .up (some 0), .select 0], turn [.hookStatus 0 .up, .select 0],
    turn [.hookDispatch 0 .up, .select 0], .addWebSocketSystem] ++
  replaced 0 .up true ++ [turn [.start 1], .op [.select 0] .done true] ++ round 1

instance (gs : List (List Op)) : Decidable (Quiet gs) :=
  inferInstanceAs (Decidable (∀ g ∈ gs, ∀ op ∈ g, _))

instance (s : State) : Decidable s.Displaceable :=
  inferInstanceAs (Decidable (∀ i ∈ s.store, _))

instance (s : State) : ∀ e : Event, Decidable (Settled s e)
  | .op (op :: _) _ _ =>
    match op with
    | .set _ _ | .remove _ => inferInstanceAs (Decidable (_ ∧ _))
    | .has _ _ _ | .select _ | .rotateCheck _ => inferInstanceAs (Decidable (_ → _))
    | .hookDispatch _ _ | .downLoad _ => inferInstanceAs (Decidable (_ → _ → _))
    | .hasRecord | .start _ | .getOk _ | .cancel _ _ | .hookGet _ _ | .hookStatus _ _ | .rotate
    | .starting _ | .update _ _ | .pausing _ | .fetch _ _ | .load _ _ | .save _ _ | .downCheck _
    | .downSave _ => .isTrue trivial
  | .op [] _ _ | .create | .delete | .commit _ | .addSystem _ | .addWebSocketSystem
  | .removeSystem | .tokenRotated => .isTrue trivial

/-- Replaced between two rounds, the first instance does no harm to the second. -/
theorem own_oneAfterAnother : ∃ s, run step (State.init (some .pending)) oneAfterAnother = some s ∧
    s.log = [.wrote 1 .up true, .wrote 0 .up true] ∧ ∀ o ∈ s.log, o.Own := by
  have hok : Along step Settled (State.init (some .pending)) oneAfterAnother := by decide +kernel
  exact ⟨_, rfl, rfl, own_of_settled (some .pending) hok rfl⟩

/-- A fetch that fails after the agent has connected by WebSocket. -/
def failingFetch : List Event :=
  added .pending ++ [turn [.starting 0, .select 0], turn [.update 0 true, .select 0],
    .addWebSocketSystem] ++
  replaced 0 .pending true ++ [.op [.fetch 0 true, .select 0] .tick false,
    turn [.downCheck 0, .select 0], turn [.downLoad 0, .select 0], turn [.downSave 0, .select 0]]

/-- An updater that finds its instance paused while the system is resumed. -/
def resumedWhilePausing : List Event :=
  added .up ++ [.commit .paused, turn [.hookGet .paused none], turn [.hookStatus 0 .paused],
    turn [.starting 0, .select 0], turn [.select 0], turn [.update 0 true, .select 0],
    .commit .pending, turn [.hookGet .pending none], turn [.hookStatus 0 .pending],
    turn [.hookDispatch 0 .pending]] ++
  replaced 0 .pending false ++ [turn [.pausing 0, .select 0], turn [.getOk (some 0), .select 0],
    turn [.cancel (some 0) 1, .select 0], turn [.remove (some 0), .select 0]]

/-- Two calls of `AddSystem` that both find the store empty. -/
def addedTwice : List Event :=
  [.addSystem .pending, turn [.has .pending false none], .addSystem .pending,
    turn [.has .pending false none], turn [.set .pending false], turn [.set .pending false],
    turn [.start 0]] ++ round 0

/-- **Otherwise it may**: the instance that was replaced inside a round sets the new instance's
system down, or takes the new instance out of the store, and one that was overwritten in the store
goes on writing. -/
theorem own_fails_inside_round :
    (∃ s, run step (State.init (some .pending)) failingFetch = some s ∧ ¬ ∀ o ∈ s.log, o.Own) ∧
      (∃ s, run step (State.init (some .up)) resumedWhilePausing = some s ∧
        ¬ ∀ o ∈ s.log, o.Own) ∧
      ∃ s, run step (State.init (some .pending)) addedTwice = some s ∧ ¬ ∀ o ∈ s.log, o.Own := by
  have hwrote {i : ℕ} {status : SystemStatus} {log : List Obs} :
      ¬ ∀ o ∈ Obs.wrote i status false :: log, o.Own :=
    fun h => absurd (h _ List.mem_cons_self : Obs.Own (.wrote i status false)) Bool.false_ne_true
  have hremoved : ¬ ∀ o ∈ [Obs.removed 0 1], o.Own :=
    fun h => absurd (h _ List.mem_cons_self : Obs.Own (.removed 0 1)) Nat.zero_ne_one
  exact ⟨⟨_, rfl, hwrote⟩, ⟨_, rfl, hremoved⟩, _, rfl, hwrote⟩

end SystemManager

end Beszel
