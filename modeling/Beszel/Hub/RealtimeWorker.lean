import Beszel.Hub.Subscriptions

/-!
# Hub/RealtimeWorker — the goroutine that fetches for the realtime subscriptions

    hooks ──▸ activeSubscriptions ──▸ worker: fetch ──▸ select ──tick──▸ check ──▸ fetch …
          ──lock──▸ workerRunning, realtimeTicker, tickerStopChan

The lifecycle of the worker of `internal/hub/systems/system_realtime.go`.  Hooks of several clients
may run at once; the map and the reads at the head of `checkSubscriptions` are not under the lock,
and the worker takes no lock at all.  A step is one access to what they share.
-/

namespace Beszel

open Machinery

namespace RealtimeWorker

open Subscriptions (SubscriptionInfo isMetrics only)

/-! ## Hooks -/

/-- What a hook does for one subscription, with the system it names. -/
inductive Op
  | add (k id : String)
  | remove (id : String)
  deriving DecidableEq, Repr

section Ops

variable (system : String → String)

/-- The subscriptions that are removed, in this order. -/
def removeOps (subs : List String) : List Op :=
  (subs.filter isMetrics).map fun k => .remove (system k)

/-- `onRealtimeSubscribeRequest`, after the request has been carried out. -/
def subscribeOps (oldSubs newSubs : List String) : List Op :=
  ((only newSubs oldSubs).filter isMetrics).map (fun k => .add k (system k)) ++
    removeOps system (only oldSubs newSubs)

end Ops

/-- Where a hook is, outside the lock. -/
inductive Pc
  | addLookup (k id : String)
  | addInsert (k id : String)
  | addCount (id : String)
  | addLock (id : String)
  | removeLookup (id : String)
  | removeCount (id : String) (info : ℕ)
  | removeDelete (id : String)
  | checkRunning
  | checkLen
  | stopLock
  deriving DecidableEq, Repr

/-- Where a hook is under the lock: in `onRealtimeSubscriptionAdded`, or in `checkSubscriptions`. -/
inductive LockedPc
  | addStart (id : String)
  | addTicker
  | stopSignal
  | stopTicker
  | stopRunning
  deriving DecidableEq, Repr

/-- A hook in progress, with what it has still to do. -/
structure Hook where
  pc : Pc
  rest : List Op
  deriving DecidableEq, Repr

/-- The hook that holds the lock. -/
structure Holder where
  pc : LockedPc
  rest : List Op
  deriving DecidableEq, Repr

def Op.first : Op → Pc
  | .add k id => .addLookup k id
  | .remove id => .removeLookup id

/-- The hook goes on to its next subscription, or ends. -/
def resume : List Op → List Hook
  | [] => []
  | op :: rest => [⟨op.first, rest⟩]

/-- **Where a worker is**: a channel and a ticker that it has read are its own from then on. -/
inductive Worker
  | fetching
  | readStop
  | readTicker (stop : Option ℕ)
  | waiting (stop : Option ℕ) (ticker : ℕ)
  | checkTicker
  | checkLen
  deriving DecidableEq, Repr

/-! ## The machine -/

/-- The variables of the file, with the hooks and workers in progress.  An entry of the map points
to its `subscriptionInfo`; channels and tickers are numbered as they are made.  A ticker that is not
the current one has been stopped. -/
structure State where
  active : AList fun _ : String => ℕ
  infos : List SubscriptionInfo
  workerRunning : Bool
  realtimeTicker : Option ℕ
  tickerStopChan : Option ℕ
  made : ℕ
  hooks : List Hook
  holder : Option Holder
  workers : List Worker
  nilRead : Bool

def State.init : State where
  active := ∅
  infos := []
  workerRunning := false
  realtimeTicker := none
  tickerStopChan := none
  made := 0
  hooks := []
  holder := none
  workers := []
  nilRead := false

/-- `len(activeSubscriptions) == 0`. -/
def State.idle (s : State) : Prop := s.active.entries = []

instance (s : State) : Decidable s.idle := inferInstanceAs (Decidable (_ = _))

/-- A hook begins, goes on, or goes on under the lock, where a stop signal may have a receiver; a
worker goes on, from its `select` with a tick. -/
inductive Event
  | subscribe (oldSubs newSubs : List String)
  | disconnect (subs : List String)
  | hook (h : Hook)
  | holder (receiver : Option Worker)
  | worker (w : Worker)
  deriving DecidableEq, Repr

/-- The hook moves on to these. -/
def State.move (s : State) (h : Hook) (next : List Hook) : State :=
  { s with hooks := next ++ s.hooks.erase h }

/-- A hook outside the lock. -/
def hookStep (s : State) (h : Hook) : Option State :=
  match h.pc with
  | .addLookup k id =>
    some (s.move h [⟨if id ∈ s.active then .addCount id else .addInsert k id, h.rest⟩])
  | .addInsert k id =>
    some { s.move h [⟨.addCount id, h.rest⟩] with
      active := s.active.insert id s.infos.length
      infos := s.infos ++ [⟨k, 0⟩] }
  | .addCount id =>
    match s.active.lookup id with
    -- the entry is gone: the hook dereferences nil and ends
    | none => some (s.move h [])
    | some i =>
      some { s.move h [⟨.addLock id, h.rest⟩] with
        infos := s.infos.modify i fun info =>
          { info with connectedClients := info.connectedClients + 1 } }
  | .addLock id =>
    if s.holder = none then some { s.move h [] with holder := some ⟨.addStart id, h.rest⟩ }
    else none
  | .removeLookup id =>
    match s.active.lookup id with
    | none => some (s.move h [⟨.checkRunning, h.rest⟩])
    | some i => some (s.move h [⟨.removeCount id i, h.rest⟩])
  | .removeCount id i =>
    let infos := s.infos.modify i fun info =>
      { info with connectedClients := info.connectedClients - 1 }
    let zero := infos[i]?.any fun info => info.connectedClients ≤ 0
    some { s.move h [⟨if zero then .removeDelete id else .checkRunning, h.rest⟩] with infos }
  | .removeDelete id =>
    some { s.move h [⟨.checkRunning, h.rest⟩] with active := s.active.erase id }
  | .checkRunning =>
    some (s.move h (if s.workerRunning then [⟨.checkLen, h.rest⟩] else resume h.rest))
  | .checkLen => some (s.move h (if s.idle then [⟨.stopLock, h.rest⟩] else resume h.rest))
  | .stopLock =>
    if s.holder = none then some { s.move h [] with holder := some ⟨.stopSignal, h.rest⟩ } else none

/-- The worker waits for the signal that is sent now. -/
def Worker.receives (tickerStopChan : Option ℕ) : Worker → Bool
  | .waiting stop _ => stop.isSome && stop = tickerStopChan
  | _ => false

/-- The lock is given back. -/
def State.unlock (s : State) (rest : List Op) : State :=
  { s with holder := none, hooks := resume rest ++ s.hooks }

/-- The non-blocking send: a worker in its `select` receives it and returns, or nobody does. -/
def signal (s : State) : Option Worker → Option State
  | some w =>
    if w ∈ s.workers ∧ w.receives s.tickerStopChan then some { s with workers := s.workers.erase w }
    else none
  | none => if ∀ w ∈ s.workers, w.receives s.tickerStopChan = false then some s else none

/-- The hook under the lock. -/
def holderStep (s : State) (h : Holder) (receiver : Option Worker) : Option State :=
  match h.pc with
  | .addStart _ =>
    let s := { s with holder := some ⟨.addTicker, h.rest⟩ }
    some
      (if s.workerRunning then s
      else
        { s with
          workerRunning := true
          tickerStopChan := some s.made
          made := s.made + 1
          workers := .fetching :: s.workers })
  | .addTicker =>
    some
      (if s.realtimeTicker = none then
        { s.unlock h.rest with realtimeTicker := some s.made, made := s.made + 1 }
      else s.unlock h.rest)
  | .stopSignal => signal { s with holder := some ⟨.stopTicker, h.rest⟩ } receiver
  | .stopTicker => some { s with realtimeTicker := none, holder := some ⟨.stopRunning, h.rest⟩ }
  | .stopRunning => some { s.unlock h.rest with workerRunning := false }

/-- The worker goes on to this, or returns. -/
def State.moveWorker (s : State) (w : Worker) (next : Option Worker) : State :=
  { s with workers := next.toList ++ s.workers.erase w }

/-- A worker. -/
def workerStep (s : State) (w : Worker) : Option State :=
  match w with
  | .fetching => some (s.moveWorker w (some .readStop))
  | .readStop => some (s.moveWorker w (some (.readTicker s.tickerStopChan)))
  | .readTicker stop =>
    match s.realtimeTicker with
    -- `realtimeTicker.C` of a nil ticker ends the process
    | none => some { s.moveWorker w none with nilRead := true }
    | some ticker => some (s.moveWorker w (some (.waiting stop ticker)))
  | .waiting _ ticker =>
    if s.realtimeTicker = some ticker then some (s.moveWorker w (some .checkTicker)) else none
  | .checkTicker =>
    some (s.moveWorker w (if s.realtimeTicker = none then none else some .checkLen))
  | .checkLen => some (s.moveWorker w (if s.idle then none else some .fetching))

/-- **One event.** -/
def step (system : String → String) (s : State) (e : Event) : Option State :=
  if s.nilRead then none
  else
    match e with
    | .subscribe oldSubs newSubs =>
      some { s with hooks := resume (subscribeOps system oldSubs newSubs) ++ s.hooks }
    | .disconnect subs => some { s with hooks := resume (removeOps system subs) ++ s.hooks }
    | .hook h => if h ∈ s.hooks then hookStep s h else none
    | .holder receiver => s.holder.bind fun h => holderStep s h receiver
    | .worker w => if w ∈ s.workers then workerStep s w else none

/-! ## One worker, while there are subscriptions -/

/-- **The worker's life follows the subscriptions**: it never reads a nil ticker, there is at most
one, and while no hook is in progress there is one exactly if there are subscriptions. -/
structure Safe (s : State) : Prop where
  nilRead : s.nilRead = false
  one : s.workers.length ≤ 1
  live : s.hooks = [] → s.holder = none → (s.workers ≠ [] ↔ ¬ s.idle)

/-- The hook has entered a subscription and not yet asked whether a worker runs. -/
def Hook.Announces (id : String) (h : Hook) : Prop := h.pc = .addCount id ∨ h.pc = .addLock id

/-- The hook has removed a subscription and not yet found a reason to leave the worker alone. -/
def Hook.Watches (h : Hook) : Prop := h.pc = .checkRunning ∨ h.pc = .checkLen ∨ h.pc = .stopLock

/-- The lock is held at this place. -/
def State.at (s : State) (pc : LockedPc) : Prop := ∃ rest, s.holder = some ⟨pc, rest⟩

/-- Some hook will still ask for a worker for the system. -/
def Announced (s : State) (id : String) : Prop :=
  (∃ h ∈ s.hooks, h.Announces id) ∨ s.at (.addStart id)

/-- Some hook will still stop the worker, if there are no subscriptions then. -/
def Watched (s : State) : Prop := (∃ h ∈ s.hooks, h.Watches) ∨ s.at .stopSignal

/-- The worker is in its `select`. -/
def Worker.isWaiting : Worker → Bool
  | .waiting _ _ => true
  | _ => false

/-- **The stop signal is sent only to a worker in its `select`, and while every subscription there
is will still be asked for; a worker is believed to run only where there is one, and one is started
only for a subscription that is still there or whose removal will still be seen.** -/
def OrderlyAt (s : State) : LockedPc → Prop
  | .stopSignal =>
    (∀ w ∈ s.workers, w.isWaiting = true) ∧ ∀ id ∈ s.active.keys, Announced s id
  | .addStart _ => if s.workerRunning then s.workers ≠ [] else s.idle → Watched s
  | _ => True

/-- **A hook under the lock is orderly, and a new worker reaches its `select` only after its ticker
has been made.** -/
def Orderly (s : State) : Event → Prop
  | .holder _ => ∀ h ∈ s.holder, OrderlyAt s h.pc
  | .worker (.readTicker _) => s.at .addTicker → s.realtimeTicker ≠ none
  | _ => True

/-! ## What orderly runs keep -/

/-- The stop channel a worker has read. -/
def Worker.stop : Worker → Option (Option ℕ)
  | .readTicker stop | .waiting stop _ => some stop
  | _ => none

/-- The worker has not yet read a ticker in this round of its loop. -/
def Worker.early : Worker → Bool
  | .fetching | .readStop | .readTicker _ => true
  | _ => false

/-- **What orderly runs keep.**  A worker is believed to run and has the current channel and a
ticker, which may still be about to be made; without one, every subscription will still be asked
for, and with one and no subscriptions, it will still be stopped. -/
structure Inv (s : State) : Prop where
  nilRead : s.nilRead = false
  one : s.workers.length ≤ 1
  running : s.workers ≠ [] → s.workerRunning = true ∧ s.tickerStopChan.isSome = true
  stop : ∀ w ∈ s.workers, ∀ c ∈ w.stop, c = s.tickerStopChan
  ticker : ∀ w ∈ s.workers, s.realtimeTicker = none → w.early = true ∧ s.at .addTicker
  cleared : s.at .stopTicker ∨ s.at .stopRunning → s.workers = []
  announced : s.workers = [] → ∀ id ∈ s.active, Announced s id
  watched : s.workers ≠ [] → s.idle → Watched s

/-- Without a worker, every id has to be announced. -/
theorem Inv.of_dead {s : State} (hread : s.nilRead = false) (hdead : s.workers = [])
    (hannounced : ∀ id ∈ s.active, Announced s id) : Inv s where
  nilRead := hread
  one := by simp [hdead]
  running hlive := absurd hdead hlive
  stop _ hw := absurd hdead (List.ne_nil_of_mem hw)
  ticker _ hw := absurd hdead (List.ne_nil_of_mem hw)
  cleared _ := hdead
  announced _ := hannounced
  watched hlive := absurd hdead hlive

theorem Inv.init : Inv State.init :=
  .of_dead rfl rfl fun id hid => absurd hid (AList.notMem_empty id)

section Proofs

variable {s s' : State} {h : Hook} {next : List Hook} {w : Worker}

theorem idle_iff : s.idle ↔ ∀ id, id ∉ s.active := by
  rw [State.idle]
  constructor
  · intro hnil id hid
    rw [AList.mem_keys, AList.keys, hnil] at hid
    cases hid
  · intro hnone
    rw [List.eq_nil_iff_forall_not_mem]
    exact fun e he => hnone e.1 (List.mem_map_of_mem he)

/-- The lock is held at one place. -/
theorem State.at.eq {pc pc' : LockedPc} {rest : List Op} (h : s.at pc')
    (hholder : s.holder = some ⟨pc, rest⟩) : pc' = pc := by
  obtain ⟨_, h⟩ := h
  exact (Holder.mk.inj (Option.some.inj (hholder.symm.trans h))).1.symm

theorem not_at_of_none (hholder : s.holder = none) (pc : LockedPc) : ¬ s.at pc :=
  fun ⟨_, h⟩ => nomatch hholder.symm.trans h

/-- **Orderly runs are safe.** -/
theorem Inv.safe (hs : Inv s) : Safe s where
  nilRead := hs.nilRead
  one := hs.one
  live hhooks hholder := by
    have hat := not_at_of_none hholder
    constructor
    · intro hlive hidle
      obtain ⟨h, hh, -⟩ | hat' := hs.watched hlive hidle
      · rw [hhooks] at hh
        cases hh
      · exact hat _ hat'
    · intro hidle hdead
      refine hidle (idle_iff.mpr fun id hid => ?_)
      obtain ⟨h, hh, -⟩ | hat' := hs.announced hdead id hid
      · rw [hhooks] at hh
        cases hh
      · exact hat _ hat'

/-- A hook of some kind is still there after another has moved on, or this one into one of its
kind. -/
theorem exists_move {P : Hook → Prop} {hooks : List Hook} (hP : ∃ h' ∈ hooks, P h')
    (hh : P h → ∃ h' ∈ next, P h') : ∃ h' ∈ next ++ hooks.erase h, P h' := by
  obtain ⟨h', hmem, hP⟩ := hP
  by_cases heq : h' = h
  · obtain ⟨h'', hmem', hP'⟩ := hh (heq ▸ hP)
    exact ⟨h'', List.mem_append_left _ hmem', hP'⟩
  · exact ⟨h', List.mem_append_right _ ((List.mem_erase_of_ne heq).mpr hmem), hP⟩

/-- **A hook moves on outside the lock**: what it leaves unannounced is not in the map, and it stops
watching only where there is no worker or a subscription. -/
theorem Inv.hookMoved (hs : Inv s) {active : AList fun _ : String => ℕ}
    {infos : List SubscriptionInfo}
    (hann : ∀ id ∈ active, id ∈ s.active ∧ (h.Announces id → ∃ h' ∈ next, h'.Announces id) ∨
      ∃ h' ∈ next, h'.Announces id)
    (hwatch : s.workers ≠ [] → active.entries = [] →
      s.idle ∧ (h.Watches → ∃ h' ∈ next, h'.Watches) ∨ ∃ h' ∈ next, h'.Watches) :
    Inv { s.move h next with active, infos } where
  nilRead := hs.nilRead
  one := hs.one
  running := hs.running
  stop := hs.stop
  ticker := hs.ticker
  cleared := hs.cleared
  announced hdead id hid := by
    rcases hann id hid with ⟨hmem, hh⟩ | ⟨h', hmem, hh⟩
    · exact (hs.announced hdead id hmem).imp_left (exists_move · hh)
    · exact .inl ⟨h', List.mem_append_left _ hmem, hh⟩
  watched hlive hidle := by
    rcases hwatch hlive hidle with ⟨hidle, hh⟩ | ⟨h', hmem, hh⟩
    · exact (hs.watched hlive hidle).imp_left (exists_move · hh)
    · exact .inl ⟨h', List.mem_append_left _ hmem, hh⟩

/-- A move that neither announces nor watches, and leaves the map alone. -/
theorem Inv.quietMoved (hs : Inv s) {infos : List SubscriptionInfo}
    (hann : ∀ id ∈ s.active, h.Announces id → ∃ h' ∈ next, h'.Announces id)
    (hwatch : s.workers ≠ [] → s.idle → h.Watches → ∃ h' ∈ next, h'.Watches) :
    Inv { s.move h next with infos } :=
  hs.hookMoved (fun id hid => .inl ⟨hid, hann id hid⟩)
    fun hlive hidle => .inl ⟨hidle, hwatch hlive hidle⟩

/-- **A hook takes the lock**, which shows what it was about to do. -/
theorem Inv.locked (hs : Inv s) {pc : LockedPc} {rest : List Op} (hholder : s.holder = none)
    (hann : ∀ id, h.Announces id → pc = .addStart id) (hwatch : h.Watches → pc = .stopSignal)
    (hpc : pc ≠ .stopTicker ∧ pc ≠ .stopRunning) :
    Inv { s.move h [] with holder := some ⟨pc, rest⟩ } where
  nilRead := hs.nilRead
  one := hs.one
  running := hs.running
  stop := hs.stop
  ticker w hw hnone := by
    obtain ⟨-, _, h⟩ := hs.ticker w hw hnone
    exact nomatch hholder.symm.trans h
  cleared hat := by
    rcases hat with ⟨_, hat⟩ | ⟨_, hat⟩
    · exact absurd (Holder.mk.inj (Option.some.inj hat)).1 hpc.1
    · exact absurd (Holder.mk.inj (Option.some.inj hat)).1 hpc.2
  announced hdead id hid := by
    obtain ⟨h', hmem, hh⟩ | ⟨_, h'⟩ := hs.announced hdead id hid
    · by_cases heq : h' = h
      · exact .inr ⟨rest, by rw [hann id (heq ▸ hh)]⟩
      · exact .inl ⟨h', (List.mem_erase_of_ne heq).mpr hmem, hh⟩
    · exact nomatch hholder.symm.trans h'
  watched hlive hidle := by
    obtain ⟨h', hmem, hh⟩ | ⟨_, h'⟩ := hs.watched hlive hidle
    · by_cases heq : h' = h
      · exact .inr ⟨rest, by rw [hwatch (heq ▸ hh)]⟩
      · exact .inl ⟨h', (List.mem_erase_of_ne heq).mpr hmem, hh⟩
    · exact nomatch hholder.symm.trans h'

theorem Inv.hookStep (hs : Inv s) (h' : RealtimeWorker.hookStep s h = some s') : Inv s' := by
  obtain ⟨pc, rest⟩ := h
  cases pc with
  | addLookup k id =>
    obtain rfl := Option.some.inj h'
    exact hs.quietMoved (fun id' _ hh => by simp [Hook.Announces] at hh)
      fun _ _ hh => by simp [Hook.Watches] at hh
  | addInsert k id =>
    obtain rfl := Option.some.inj h'
    refine hs.hookMoved (fun id' hid' => ?_) fun _ hidle => ?_
    · rcases (AList.mem_insert _).mp hid' with rfl | hid'
      · exact .inr ⟨_, List.mem_singleton_self _, .inl rfl⟩
      · exact .inl ⟨hid', fun hh => by simp [Hook.Announces] at hh⟩
    · simp [AList.insert, List.kinsert] at hidle
  | addCount id =>
    cases hlookup : s.active.lookup id with
    | none =>
      simp only [RealtimeWorker.hookStep, hlookup, Option.some.injEq] at h'
      obtain rfl := h'
      refine hs.quietMoved (fun id' hid' hh => ?_) fun _ _ hh => by simp [Hook.Watches] at hh
      obtain rfl : id = id' := by simpa [Hook.Announces] using hh
      exact absurd hid' (AList.lookup_eq_none.mp hlookup)
    | some i =>
      simp only [RealtimeWorker.hookStep, hlookup, Option.some.injEq] at h'
      obtain rfl := h'
      refine hs.quietMoved (fun id' _ hh => ?_) fun _ _ hh => by simp [Hook.Watches] at hh
      obtain rfl : id = id' := by simpa [Hook.Announces] using hh
      exact ⟨_, List.mem_singleton_self _, .inr rfl⟩
  | addLock id =>
    obtain ⟨hholder, rfl⟩ := guard_eq_some h'
    refine hs.locked hholder (fun id' hh => ?_) (fun hh => by simp [Hook.Watches] at hh)
      ⟨nofun, nofun⟩
    obtain rfl : id = id' := by simpa [Hook.Announces] using hh
    rfl
  | removeLookup id =>
    have hmoved (pc : Pc) : Inv (s.move ⟨.removeLookup id, rest⟩ [⟨pc, rest⟩]) :=
      hs.quietMoved (fun id' _ hh => by simp [Hook.Announces] at hh)
        fun _ _ hh => by simp [Hook.Watches] at hh
    dsimp only [RealtimeWorker.hookStep] at h'
    split at h' <;> obtain rfl := Option.some.inj h' <;> exact hmoved _
  | removeCount id i =>
    obtain rfl := Option.some.inj h'
    exact hs.quietMoved (fun id' _ hh => by simp [Hook.Announces] at hh)
      fun _ _ hh => by simp [Hook.Watches] at hh
  | removeDelete id =>
    obtain rfl := Option.some.inj h'
    refine hs.hookMoved (fun id' hid' => ?_) fun _ _ => ?_
    · exact .inl ⟨(AList.mem_erase.mp hid').2, fun hh => by simp [Hook.Announces] at hh⟩
    · exact .inr ⟨_, List.mem_singleton_self _, .inl rfl⟩
  | checkRunning =>
    obtain rfl := Option.some.inj h'
    refine hs.quietMoved (fun id' _ hh => by simp [Hook.Announces] at hh) fun hlive _ _ => ?_
    rw [if_pos (hs.running hlive).1]
    exact ⟨_, List.mem_singleton_self _, .inr (.inl rfl)⟩
  | checkLen =>
    obtain rfl := Option.some.inj h'
    refine hs.quietMoved (fun id' _ hh => by simp [Hook.Announces] at hh) fun _ hidle _ => ?_
    rw [if_pos hidle]
    exact ⟨_, List.mem_singleton_self _, .inr (.inr rfl)⟩
  | stopLock =>
    obtain ⟨hholder, rfl⟩ := guard_eq_some h'
    exact hs.locked hholder (fun id' hh => by simp [Hook.Announces] at hh) (fun _ => rfl)
      ⟨nofun, nofun⟩

/-- A hook that begins or goes on leaves the others in progress. -/
theorem Inv.resumed (hs : Inv s) (rest : List Op) :
    Inv { s with hooks := resume rest ++ s.hooks } where
  nilRead := hs.nilRead
  one := hs.one
  running := hs.running
  stop := hs.stop
  ticker := hs.ticker
  cleared := hs.cleared
  announced hdead id hid := (hs.announced hdead id hid).imp_left fun ⟨h, hmem, hh⟩ =>
    ⟨h, List.mem_append_right _ hmem, hh⟩
  watched hlive hidle := (hs.watched hlive hidle).imp_left fun ⟨h, hmem, hh⟩ =>
    ⟨h, List.mem_append_right _ hmem, hh⟩

/-- **The lock is given back** at a place that shows nothing. -/
theorem Inv.unlock (hs : Inv s) {pc : LockedPc} {rest : List Op}
    (hholder : s.holder = some ⟨pc, rest⟩) (hstart : ∀ id, pc ≠ .addStart id)
    (hsignal : pc ≠ .stopSignal) (hticker : s.workers ≠ [] → s.realtimeTicker ≠ none) :
    Inv (s.unlock rest) := by
  refine Inv.resumed (s := { s with holder := none }) ?_ rest
  exact {
    nilRead := hs.nilRead
    one := hs.one
    running := hs.running
    stop := hs.stop
    ticker := fun w hw h => absurd h (hticker (List.ne_nil_of_mem hw))
    cleared := fun h => h.elim (absurd · (not_at_of_none rfl _)) (absurd · (not_at_of_none rfl _))
    announced := fun hdead id hid => (hs.announced hdead id hid).elim .inl
      fun h => absurd (h.eq hholder).symm (hstart id)
    watched := fun hlive hidle => (hs.watched hlive hidle).elim .inl
      fun h => absurd (h.eq hholder).symm hsignal }

theorem Inv.erase_worker (hs : Inv s) (hw : w ∈ s.workers) : s.workers.erase w = [] := by
  rw [← List.length_eq_zero_iff, List.length_erase_of_mem hw, Nat.sub_eq_zero_iff_le]
  exact hs.one

/-- **No worker is left when the signal has been sent**: the one there was is in its `select`. -/
theorem Inv.signalled (hs : Inv s) {holder : Option Holder} {receiver : Option Worker}
    (hwaiting : ∀ w ∈ s.workers, w.isWaiting = true)
    (h : signal { s with holder } receiver = some s') : s' = { s with holder, workers := [] } := by
  have hreceives : ∀ w ∈ s.workers, w.receives s.tickerStopChan = true := by
    intro w hw
    have hstop := hs.stop w hw
    match w, hwaiting w hw with
    | .waiting stop ticker, _ =>
      obtain rfl := hstop stop rfl
      simp [Worker.receives, (hs.running (List.ne_nil_of_mem hw)).2]
  cases receiver with
  | none =>
    obtain ⟨hnone, rfl⟩ := guard_eq_some h
    have hnil : s.workers = [] := by
      rw [List.eq_nil_iff_forall_not_mem]
      exact fun w hw => nomatch (hreceives w hw).symm.trans (hnone w hw)
    rw [← hnil]
  | some w =>
    obtain ⟨⟨hw, -⟩, rfl⟩ := guard_eq_some h
    rw [hs.erase_worker hw]

theorem Inv.holderStep (hs : Inv s) {h : Holder} {receiver : Option Worker}
    (hholder : s.holder = some h) (hok : Orderly s (.holder receiver))
    (h' : RealtimeWorker.holderStep s h receiver = some s') : Inv s' := by
  have hok := hok h hholder
  obtain ⟨pc, rest⟩ := h
  cases pc with
  | addStart id =>
    obtain rfl := Option.some.inj h'
    have hstart : if s.workerRunning then s.workers ≠ [] else s.idle → Watched s := hok
    have hwatched (s' : State) (hhooks : s'.hooks = s.hooks) (h : Watched s) : Watched s' := by
      obtain h | h := h
      · exact .inl (hhooks ▸ h)
      · exact nomatch h.eq hholder
    dsimp only
    split_ifs with hrunning
    · rw [if_pos hrunning] at hstart
      exact {
        nilRead := hs.nilRead
        one := hs.one
        running := hs.running
        stop := hs.stop
        ticker := fun w hw h => nomatch (hs.ticker w hw h).2.eq hholder
        cleared := fun h => h.elim (fun h => nomatch h.eq rfl) (fun h => nomatch h.eq rfl)
        announced := fun hdead => absurd hdead hstart
        watched := fun hlive hidle => hwatched _ rfl (hs.watched hlive hidle) }
    · rw [if_neg hrunning] at hstart
      have hdead : s.workers = [] := by
        by_contra hlive
        exact hrunning (hs.running hlive).1
      exact {
        nilRead := hs.nilRead
        one := by simp [hdead]
        running := fun _ => ⟨rfl, rfl⟩
        stop := by simp [hdead, Worker.stop]
        ticker := fun w hw _ => ⟨by simp_all [Worker.early], rest, rfl⟩
        cleared := fun h => h.elim (fun h => nomatch h.eq rfl) (fun h => nomatch h.eq rfl)
        announced := nofun
        watched := fun _ hidle => hwatched _ rfl (hstart hidle) }
  | addTicker =>
    obtain rfl := Option.some.inj h'
    split_ifs with hticker
    · have hmade : Inv { s with realtimeTicker := some s.made, made := s.made + 1 } :=
        { hs with ticker := fun _ _ h => nomatch h }
      exact hmade.unlock hholder nofun nofun fun _ => nofun
    · exact hs.unlock hholder nofun nofun fun _ => hticker
  | stopSignal =>
    obtain ⟨hwaiting, hannounced⟩ := hok
    obtain rfl := hs.signalled hwaiting h'
    exact .of_dead hs.nilRead rfl fun id hid =>
      (hannounced id hid).imp_right fun h => nomatch h.eq hholder
  | stopTicker =>
    obtain rfl := Option.some.inj h'
    have hdead := hs.cleared (.inl ⟨rest, hholder⟩)
    exact .of_dead hs.nilRead hdead fun id hid =>
      (hs.announced hdead id hid).imp_right fun h => nomatch h.eq hholder
  | stopRunning =>
    obtain rfl := Option.some.inj h'
    have hdead := hs.cleared (.inr ⟨rest, hholder⟩)
    have hstopped : Inv { s with workerRunning := false } :=
      { hs with running := fun hlive => absurd hdead hlive }
    exact hstopped.unlock hholder nofun nofun fun hlive => absurd hdead hlive

/-- **The one worker moves on**, with the channel it had or the current one. -/
theorem Inv.workerMoved (hs : Inv s) (hw : w ∈ s.workers) {w' : Worker}
    (hstop : ∀ c ∈ w'.stop, c = s.tickerStopChan)
    (hticker : s.realtimeTicker = none → w'.early = true ∧ s.at .addTicker) :
    Inv (s.moveWorker w (some w')) := by
  have hlive := List.ne_nil_of_mem hw
  have hmoved : s.moveWorker w (some w') = { s with workers := [w'] } := by
    rw [State.moveWorker, hs.erase_worker hw]
    rfl
  rw [hmoved]
  exact {
    nilRead := hs.nilRead
    one := le_rfl
    running := fun _ => hs.running hlive
    stop := by simpa using hstop
    ticker := fun w hw h => by
      obtain rfl := List.mem_singleton.mp hw
      exact hticker h
    cleared := fun h => absurd (hs.cleared h) hlive
    announced := nofun
    watched := fun _ hidle => hs.watched hlive hidle }

theorem Inv.workerStep (hs : Inv s) (hw : w ∈ s.workers) (hok : Orderly s (.worker w))
    (h : RealtimeWorker.workerStep s w = some s') : Inv s' := by
  cases w with
  | fetching =>
    obtain rfl := Option.some.inj h
    exact hs.workerMoved hw nofun fun h => ⟨rfl, (hs.ticker _ hw h).2⟩
  | readStop =>
    obtain rfl := Option.some.inj h
    refine hs.workerMoved hw (fun c hc => ?_) fun h => ⟨rfl, (hs.ticker _ hw h).2⟩
    exact (Option.some.inj hc).symm
  | readTicker stop =>
    have hsome : s.realtimeTicker ≠ none := fun h => hok (hs.ticker _ hw h).2 h
    obtain ⟨ticker, hticker⟩ := Option.ne_none_iff_exists'.mp hsome
    simp only [RealtimeWorker.workerStep, hticker, Option.some.injEq] at h
    obtain rfl := h
    exact hs.workerMoved hw (hs.stop (.readTicker stop) hw) fun h => absurd h hsome
  | waiting stop ticker =>
    obtain ⟨hticker, rfl⟩ := guard_eq_some h
    exact hs.workerMoved hw nofun fun h => nomatch hticker.symm.trans h
  | checkTicker =>
    obtain rfl := Option.some.inj h
    have hsome : s.realtimeTicker ≠ none := fun h => nomatch (hs.ticker _ hw h).1
    rw [if_neg hsome]
    exact hs.workerMoved hw nofun fun h => absurd h hsome
  | checkLen =>
    obtain rfl := Option.some.inj h
    have hsome : s.realtimeTicker ≠ none := fun h => nomatch (hs.ticker _ hw h).1
    split_ifs with hidle
    · have hgone : s.moveWorker .checkLen none = { s with workers := [] } := by
        rw [State.moveWorker, hs.erase_worker hw]
        rfl
      rw [hgone]
      exact .of_dead hs.nilRead rfl fun id hid => absurd hid (idle_iff.mp hidle id)
    · exact hs.workerMoved hw nofun fun h => absurd h hsome

/-- **One step.** -/
theorem Inv.step {system : String → String} {e : Event} (hs : Inv s) (hok : Orderly s e)
    (h : RealtimeWorker.step system s e = some s') : Inv s' := by
  unfold RealtimeWorker.step at h
  rw [if_neg (by rw [hs.nilRead]; exact Bool.false_ne_true)] at h
  cases e with
  | subscribe oldSubs newSubs =>
    obtain rfl := Option.some.inj h
    exact hs.resumed _
  | disconnect subs =>
    obtain rfl := Option.some.inj h
    exact hs.resumed _
  | hook h' => exact hs.hookStep (Option.ite_none_right_eq_some.mp h).2
  | holder receiver =>
    obtain ⟨h', hholder, h⟩ := Option.bind_eq_some_iff.mp h
    exact hs.holderStep hholder hok h
  | worker w =>
    obtain ⟨hw, h⟩ := Option.ite_none_right_eq_some.mp h
    exact hs.workerStep hw hok h

/-- **One worker while there are subscriptions**, in every orderly run. -/
theorem oneWorker_of_along {system : String → String} {es : List Event}
    (hok : Along (RealtimeWorker.step system) Orderly State.init es)
    (hr : run (RealtimeWorker.step system) State.init es = some s) : Safe s :=
  (inv_of_along (I := Inv) (fun hs hok h => hs.step hok h) Inv.init hok hr).safe

end Proofs

/-! ### Two runs -/

section Runs

instance (s : State) (pc : LockedPc) : Decidable (s.at pc) :=
  decidable_of_iff (s.holder.map (·.pc) = some pc) <| by
    unfold State.at
    cases s.holder with
    | none => simp
    | some h =>
      obtain ⟨pc', rest⟩ := h
      simp

instance (s : State) (id : String) : Decidable (Announced s id) :=
  have (h : Hook) : Decidable (h.Announces id) := inferInstanceAs (Decidable (_ ∨ _))
  inferInstanceAs (Decidable (_ ∨ _))

instance (s : State) : Decidable (Watched s) :=
  have (h : Hook) : Decidable h.Watches := inferInstanceAs (Decidable (_ ∨ _ ∨ _))
  inferInstanceAs (Decidable (_ ∨ _))

instance (s : State) : ∀ pc : LockedPc, Decidable (OrderlyAt s pc)
  | .stopSignal => inferInstanceAs (Decidable (_ ∧ _))
  | .addStart _ => inferInstanceAs (Decidable (if s.workerRunning then _ else _))
  | .addTicker | .stopTicker | .stopRunning => .isTrue trivial

instance (s : State) : ∀ e : Event, Decidable (Orderly s e)
  | .holder _ => inferInstanceAs (Decidable (∀ h ∈ s.holder, OrderlyAt s h.pc))
  | .worker (.readTicker _) => inferInstanceAs (Decidable (_ → _))
  | .worker .fetching | .worker .readStop | .worker (.waiting _ _) | .worker .checkTicker
  | .worker .checkLen | .subscribe _ _ | .disconnect _ | .hook _ => .isTrue trivial

/-- A client subscribes to the metrics of a system, and the first worker is started. -/
def subscribed : List Event :=
  [.subscribe [] ["rt_metrics"], .hook ⟨.addLookup "rt_metrics" "abc", []⟩,
    .hook ⟨.addInsert "rt_metrics" "abc", []⟩, .hook ⟨.addCount "abc", []⟩,
    .hook ⟨.addLock "abc", []⟩, .holder none, .holder none]

/-- The client disconnects; the lock is taken for the stop signal. -/
def disconnected : List Event :=
  [.disconnect ["rt_metrics"], .hook ⟨.removeLookup "abc", []⟩, .hook ⟨.removeCount "abc" 0, []⟩,
    .hook ⟨.removeDelete "abc", []⟩, .hook ⟨.checkRunning, []⟩, .hook ⟨.checkLen, []⟩,
    .hook ⟨.stopLock, []⟩]

/-- The worker is stopped in its `select`. -/
theorem oneWorker_of_along_stopped :
    ∃ s, run (step fun _ => "abc") State.init
        (subscribed ++ [.worker .fetching, .worker .readStop, .worker (.readTicker (some 0))] ++
          disconnected ++ [.holder (some (.waiting (some 0) 1)), .holder none, .holder none]) =
        some s ∧
      Safe s ∧ s.workers = [] := by
  have hok : Along (step fun _ => "abc") Orderly State.init
      (subscribed ++ [.worker .fetching, .worker .readStop, .worker (.readTicker (some 0))] ++
        disconnected ++ [.holder (some (.waiting (some 0) 1)), .holder none, .holder none]) := by
    decide +kernel
  exact ⟨_, rfl, oneWorker_of_along hok rfl, rfl⟩

/-- **The client disconnects while the worker fetches**: nobody receives the signal, and the worker
then reads the ticker that is no longer there. -/
theorem not_safe_fetching :
    ∃ s, run (step fun _ => "abc") State.init
        (subscribed ++ disconnected ++ [.holder none, .holder none, .holder none,
          .worker .fetching, .worker .readStop, .worker (.readTicker (some 0))]) = some s ∧
      s.nilRead = true ∧ ¬ Safe s :=
  ⟨_, rfl, rfl, fun h => nomatch h.nilRead⟩

end Runs

end RealtimeWorker

end Beszel
