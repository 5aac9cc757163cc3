import Beszel.Hub.Record
import Beszel.Machinery.Run
import Mathlib.Logic.Function.Basic

/-!
# Hub/SystemStore — adding and removing systems from several goroutines

    AddSystem:     Has ──▸ Set ──▸ go StartUpdater
    RemoveSystem:  GetOk ──▸ cancel ──▸ Remove
    AddRecord:     Has ──▸ RemoveSystem ──▸ AddSystem

The store operations of `internal/hub/systems/system_manager.go`.  A goroutine is the list of the
store operations, cancellations and starts it has still to do; an operation that looks something up
decides what is done next.  A step is one operation of one goroutine.
-/

namespace Beszel

open Machinery

namespace SystemStore

/-! ## The manager -/

/-- A `System` instance: its address, and the fields that `AddSystem` checks. -/
structure System where
  serial : ℕ
  id : SystemId
  host : String
  deriving DecidableEq, Repr

/-- What a goroutine does next: `Has`, `Set` and `go` in `AddSystem`, `Has` in `AddRecord`, and
`GetOk`, `cancel` and `Remove` in `RemoveSystem`. -/
inductive Op
  | has (sys : System)
  | set (sys : System)
  | start (sys : System)
  | hasRecord (id : SystemId)
  | getOk (id : SystemId)
  | cancel (id : SystemId) (sys : System)
  | remove (id : SystemId)
  deriving DecidableEq, Repr

/-- `started` has the instances whose updater goroutine was started, `cancelled` those whose context
was cancelled. -/
structure State where
  store : SystemId → Option System
  started : List System
  cancelled : List System
  goroutines : List (List Op)
  next : ℕ

/-- `NewSystemManager`. -/
def State.init : State where
  store := fun _ => none
  started := []
  cancelled := []
  goroutines := []
  next := 0

/-- The calls, and the loop that `Initialize` starts, with what they take from the record or from
the query: the id and the host of a system. -/
inductive Call
  | addSystem (id : SystemId) (host : String)
  | addRecord (id : SystemId) (host : String)
  | addWebSocketSystem (id : SystemId) (host : String)
  | startUpLoop (systems : List (SystemId × String))
  | removeSystem (id : SystemId)
  deriving DecidableEq, Repr

/-- `RemoveSystem`. -/
def removeSystem (id : SystemId) : List Op := [.getOk id]

/-- `AddSystem`. -/
def addSystem (sys : System) : List Op := [.has sys]

/-- `AddRecord`, with the instance it adds. -/
def addRecord (sys : System) : List Op := .hasRecord sys.id :: addSystem sys

/-- The instances of the start-up loop, from the address `next`. -/
def newSystems : ℕ → List (SystemId × String) → List System
  | _, [] => []
  | next, (id, host) :: systems => ⟨next, id, host⟩ :: newSystems (next + 1) systems

/-- What a call has to do, and how many instances it creates. -/
def opsOf (next : ℕ) : Call → List Op × ℕ
  | .addSystem id host => (addSystem ⟨next, id, host⟩, 1)
  | .addRecord id host | .addWebSocketSystem id host => (addRecord ⟨next, id, host⟩, 1)
  | .startUpLoop systems => ((newSystems next systems).flatMap addSystem, systems.length)
  | .removeSystem id => (removeSystem id, 0)

/-- What an operation changes. -/
def perform (s : State) : Op → State
  | .set sys => { s with store := Function.update s.store sys.id (some sys) }
  | .start sys => { s with started := sys :: s.started }
  | .cancel _ sys => { s with cancelled := sys :: s.cancelled }
  | .remove id => { s with store := Function.update s.store id none }
  | .has _ | .hasRecord _ | .getOk _ => s

/-- What comes after an operation and what it has found.  `AddSystem` returns an error if the id is
taken, or if the id or the host is empty. -/
def followUp (s : State) : Op → List Op
  | .has sys =>
    if (s.store sys.id).isSome ∨ sys.id = "" ∨ sys.host = "" then [] else [.set sys]
  | .set sys => [.start sys]
  | .hasRecord id => if (s.store id).isSome then removeSystem id else []
  | .getOk id => ((s.store id).map (.cancel id)).toList
  | .cancel id _ => [.remove id]
  | .start _ | .remove _ => []

/-- A call begins in some goroutine; a goroutine does its next operation. -/
inductive Event
  | call (c : Call)
  | op (g : List Op)
  deriving DecidableEq, Repr

/-- **One event.** -/
def step (s : State) : Event → Option State
  | .call c =>
    some
      { s with
        goroutines := (opsOf s.next c).1 :: s.goroutines
        next := s.next + (opsOf s.next c).2 }
  | .op g =>
    match g with
    | [] => none
    | op :: rest =>
      if g ∈ s.goroutines then
        some { perform s op with goroutines := (followUp s op ++ rest) :: s.goroutines.erase g }
      else none

/-! ## One live updater -/

/-- The updater goroutine of the instance was started and its context is not cancelled. -/
def State.Live (s : State) (sys : System) : Prop := sys ∈ s.started ∧ sys ∉ s.cancelled

/-- **Every live instance is the one in the store**, and there is at most one for an id. -/
def State.Sole (s : State) : Prop :=
  (∀ sys, s.Live sys → s.store sys.id = some sys) ∧
    ∀ sys sys', s.Live sys → s.Live sys' → sys.id = sys'.id → sys = sys'

/-- An operation takes the place of another instance in the store, or removes it. -/
def displaces (s : State) : Op → Option System
  | .set sys => (s.store sys.id).filter (· ≠ sys)
  | .remove id => s.store id
  | _ => none

/-- What `AddSystem` and `RemoveSystem` displace has been cancelled. -/
def Undisturbed (s : State) : Event → Prop
  | .op (op :: _) => ∀ sys ∈ displaces s op, sys ∈ s.cancelled
  | _ => True

instance (s : State) (sys : System) : Decidable (s.Live sys) := inferInstanceAs (Decidable (_ ∧ _))

instance (s : State) : ∀ e : Event, Decidable (Undisturbed s e)
  | .op (op :: _) =>
    inferInstanceAs (Decidable (∀ sys ∈ displaces s op, sys ∈ s.cancelled))
  | .op [] | .call _ => .isTrue trivial

/-- What undisturbed runs keep.  A goroutine that has put its instance into the store starts it
next; what it has left to do after its current call is to add systems. -/
structure Inv (s : State) : Prop where
  live : ∀ sys, s.Live sys → s.store sys.id = some sys
  starting : ∀ sys rest, .start sys :: rest ∈ s.goroutines → sys ∉ s.cancelled →
    s.store sys.id = some sys
  stored : ∀ id sys, s.store id = some sys →
    sys.id = id ∧ (sys ∈ s.started ∨ ∃ rest, .start sys :: rest ∈ s.goroutines)
  tails : ∀ g ∈ s.goroutines, ∀ op ∈ g.tail, ∃ sys, op = .has sys

section Proofs

variable {s s' : State} {sys : System} {op : Op} {g rest : List Op}

theorem inv_init : Inv State.init :=
  ⟨fun _ h => absurd h.1 List.not_mem_nil, fun _ _ h => absurd h List.not_mem_nil,
    fun _ _ h => absurd h.symm (Option.some_ne_none _), fun _ h => absurd h List.not_mem_nil⟩

theorem Inv.sole (hs : Inv s) : s.Sole := by
  refine ⟨hs.live, fun sys sys' h h' hid => Option.some.inj ?_⟩
  rw [← hs.live sys h, ← hs.live sys' h', hid]

/-! ### Calls -/

/-- A call starts with a lookup, and goes on to add systems. -/
theorem opsOf_cases (next : ℕ) (c : Call) :
    (∀ op ∈ (opsOf next c).1.tail, ∃ sys, op = .has sys) ∧
      ∀ sys rest, (opsOf next c).1 ≠ .start sys :: rest := by
  cases c with
  | addSystem id host => simp [opsOf, addSystem]
  | addRecord id host | addWebSocketSystem id host => simp [opsOf, addRecord, addSystem]
  | removeSystem id => simp [opsOf, removeSystem]
  | startUpLoop systems =>
    have hops : ∀ op ∈ (opsOf next (.startUpLoop systems)).1, ∃ sys, op = .has sys := by
      intro op hop
      obtain ⟨sys, -, hop⟩ := List.mem_flatMap.mp hop
      exact ⟨sys, List.mem_singleton.mp hop⟩
    refine ⟨fun op hop => hops op (List.mem_of_mem_tail hop), fun sys rest h => ?_⟩
    obtain ⟨sys', h'⟩ := hops (.start sys) (h ▸ List.mem_cons_self)
    cases h'

theorem Inv.call (hs : Inv s) (c : Call) (next : ℕ) :
    Inv { s with goroutines := (opsOf s.next c).1 :: s.goroutines, next := next } := by
  obtain ⟨htail, hstart⟩ := opsOf_cases s.next c
  refine ⟨hs.live, fun sys rest hg => ?_, fun id sys hid => ?_, fun g hg => ?_⟩
  · obtain hg | hg := List.mem_cons.mp hg
    · exact absurd hg.symm (hstart sys rest)
    · exact hs.starting sys rest hg
  · obtain ⟨hid, h⟩ := hs.stored id sys hid
    exact ⟨hid, h.imp_right fun ⟨rest, hg⟩ => ⟨rest, List.mem_cons_of_mem _ hg⟩⟩
  · obtain rfl | hg := List.mem_cons.mp hg
    · exact htail
    · exact hs.tails g hg

/-! ### Operations -/

theorem store_set (new : System) :
    (perform s (.set new)).store = Function.update s.store new.id (some new) := rfl

theorem store_remove (id : SystemId) :
    (perform s (.remove id)).store = Function.update s.store id none := rfl

/-- **An instance that is not cancelled keeps its place** in an undisturbed step. -/
theorem store_perform (hok : Undisturbed s (.op (op :: rest))) (hstore : s.store sys.id = some sys)
    (hlive : sys ∉ s.cancelled) : (perform s op).store sys.id = some sys := by
  cases op with
  | has _ | start _ | hasRecord _ | getOk _ | cancel _ _ => exact hstore
  | set new =>
    by_cases hid : sys.id = new.id
    · obtain rfl : sys = new := by
        by_contra hne
        refine hlive (hok sys ?_)
        rw [displaces, ← hid, hstore]
        exact Option.filter_some_pos (decide_eq_true hne)
      exact Function.update_self _ _ _
    · exact (Function.update_of_ne hid _ _).trans hstore
  | remove id =>
    by_cases hid : sys.id = id
    · exact absurd (hok sys (hid ▸ hstore)) hlive
    · exact (Function.update_of_ne hid _ _).trans hstore

/-- A goroutine is about to start an instance only if it has just set it. -/
theorem start_of_followUp (hs : Inv s) (hg : op :: rest ∈ s.goroutines) {rest' : List Op}
    (h : followUp s op ++ rest = .start sys :: rest') : op = .set sys := by
  have hrest : rest ≠ .start sys :: rest' := by
    rintro rfl
    obtain ⟨sys', h⟩ := hs.tails _ hg (.start sys) List.mem_cons_self
    cases h
  cases op with
  | set new =>
    obtain ⟨h, -⟩ := List.cons.inj h
    cases h
    rfl
  | start _ | remove _ => exact absurd h hrest
  | cancel id old => cases (List.cons.inj h).1
  | has new =>
    simp only [followUp] at h
    split_ifs at h
    · exact absurd h hrest
    · cases (List.cons.inj h).1
  | hasRecord id =>
    simp only [followUp] at h
    split_ifs at h
    · cases (List.cons.inj h).1
    · exact absurd h hrest
  | getOk id =>
    simp only [followUp] at h
    cases hst : s.store id with
    | none =>
      rw [hst] at h
      exact absurd h hrest
    | some old =>
      rw [hst] at h
      cases (List.cons.inj h).1

theorem mem_tail_followUp {op' : Op} (h : op' ∈ (followUp s op ++ rest).tail) : op' ∈ rest := by
  have hlength : (followUp s op).length ≤ 1 := by
    unfold followUp removeSystem
    split
    case h_4 id => cases s.store id <;> simp
    all_goals (try split_ifs) <;> simp
  match hf : followUp s op, hlength with
  | [], _ =>
    rw [hf] at h
    exact List.mem_of_mem_tail h
  | [_], _ =>
    rw [hf] at h
    exact h

/-- The next operation of a goroutine. -/
theorem exists_op (h : step s (.op g) = some s') :
    ∃ op rest, g = op :: rest ∧ g ∈ s.goroutines ∧
      s' = { perform s op with goroutines := (followUp s op ++ rest) :: s.goroutines.erase g } := by
  cases g with
  | nil => cases h
  | cons op rest =>
    simp only [step, Option.ite_none_right_eq_some, Option.some.injEq] at h
    exact ⟨op, rest, rfl, h.1, h.2.symm⟩

theorem mem_started_perform (h : sys ∈ s.started) : sys ∈ (perform s op).started := by
  cases op with
  | start _ => exact List.mem_cons_of_mem _ h
  | _ => exact h

theorem mem_cancelled_perform (h : sys ∈ s.cancelled) : sys ∈ (perform s op).cancelled := by
  cases op with
  | cancel _ _ => exact List.mem_cons_of_mem _ h
  | _ => exact h

/-- What is in the store was there before, or this operation has set it. -/
theorem eq_set_or_store {id : SystemId} (h : (perform s op).store id = some sys) :
    op = .set sys ∧ id = sys.id ∨ s.store id = some sys := by
  cases op with
  | set new =>
    by_cases hid : id = new.id
    · rw [store_set, hid, Function.update_self] at h
      obtain rfl := Option.some.inj h
      exact .inl ⟨rfl, hid⟩
    · rw [store_set, Function.update_of_ne hid] at h
      exact .inr h
  | remove id' =>
    by_cases hid : id = id'
    · rw [store_remove, hid, Function.update_self] at h
      cases h
    · rw [store_remove, Function.update_of_ne hid] at h
      exact .inr h
  | has _ | start _ | hasRecord _ | getOk _ | cancel _ _ => exact .inr h

/-- **One operation**, undisturbed. -/
theorem Inv.perform (hs : Inv s) (hg : op :: rest ∈ s.goroutines)
    (hok : Undisturbed s (.op (op :: rest))) :
    Inv { SystemStore.perform s op with
      goroutines := (followUp s op ++ rest) :: s.goroutines.erase (op :: rest) } := by
  have hkept : ∀ sys, s.store sys.id = some sys → sys ∉ (SystemStore.perform s op).cancelled →
      (SystemStore.perform s op).store sys.id = some sys := fun sys hstore hc =>
    store_perform hok hstore fun h => hc (mem_cancelled_perform h)
  refine ⟨fun sys hlive => hkept sys ?_ hlive.2, fun sys rest' hg' hc => ?_, fun id sys hid => ?_,
    fun g hg' => ?_⟩
  · -- the instance was live before, or its goroutine has just started it
    have hc : sys ∉ s.cancelled := fun h => hlive.2 (mem_cancelled_perform h)
    cases op with
    | start new =>
      obtain rfl | hmem := List.mem_cons.mp hlive.1
      · exact hs.starting sys rest hg hc
      · exact hs.live sys ⟨hmem, hc⟩
    | _ => exact hs.live sys ⟨hlive.1, hc⟩
  · obtain heq | hg' := List.mem_cons.mp hg'
    · obtain rfl := start_of_followUp hs hg heq.symm
      exact Function.update_self _ _ _
    · refine hkept sys (hs.starting sys rest' (List.mem_of_mem_erase hg') fun h => hc ?_) hc
      exact mem_cancelled_perform h
  · obtain ⟨rfl, rfl⟩ | hold := eq_set_or_store hid
    · exact ⟨rfl, .inr ⟨rest, List.mem_cons_self⟩⟩
    · obtain ⟨hkey, hmem | ⟨rest', hmem⟩⟩ := hs.stored id sys hold
      · exact ⟨hkey, .inl (mem_started_perform hmem)⟩
      · by_cases heq : Op.start sys :: rest' = op :: rest
        · obtain ⟨rfl, -⟩ := List.cons.inj heq
          exact ⟨hkey, .inl List.mem_cons_self⟩
        · exact ⟨hkey, .inr ⟨rest', List.mem_cons_of_mem _ ((List.mem_erase_of_ne heq).mpr hmem)⟩⟩
  · obtain rfl | hg' := List.mem_cons.mp hg'
    · exact fun op' hop => hs.tails _ hg op' (mem_tail_followUp hop)
    · exact hs.tails g (List.mem_of_mem_erase hg')

/-- **One step.** -/
theorem Inv.step {e : Event} (hs : Inv s) (hok : Undisturbed s e) (h : step s e = some s') :
    Inv s' := by
  cases e with
  | call c =>
    obtain rfl := Option.some.inj h
    exact hs.call c _
  | op g =>
    obtain ⟨op, rest, rfl, hg, rfl⟩ := exists_op h
    exact hs.perform hg hok

/-! ### …and the condition is the weakest -/

/-- What an operation displaces is in the store before it, and not after it. -/
theorem displaces_spec (hs : Inv s) (h : sys ∈ displaces s op) :
    (sys ∈ s.started ∨ ∃ rest', .start sys :: rest' ∈ s.goroutines) ∧
      (∀ sys', op ≠ .start sys') ∧ (perform s op).store sys.id ≠ some sys ∧
      (perform s op).started = s.started ∧ (perform s op).cancelled = s.cancelled := by
  cases op with
  | set new =>
    obtain ⟨hstore, hne⟩ := Option.filter_eq_some_iff.mp h
    obtain ⟨hid, hstored⟩ := hs.stored _ _ hstore
    refine ⟨hstored, nofun, fun hnew => of_decide_eq_true hne ?_, rfl, rfl⟩
    rw [hid, store_set, Function.update_self] at hnew
    exact (Option.some.inj hnew).symm
  | remove id =>
    obtain ⟨rfl, hstored⟩ := hs.stored _ _ h
    refine ⟨hstored, nofun, fun hnone => ?_, rfl, rfl⟩
    rw [store_remove, Function.update_self] at hnone
    cases hnone
  | has _ | start _ | hasRecord _ | getOk _ | cancel _ _ => cases h

/-- An instance that is displaced while it is not cancelled is live outside the store, at once or
when its goroutine starts it. -/
theorem exists_not_sole {e : Event} (hs : Inv s) (hbad : ¬ Undisturbed s e)
    (h : SystemStore.step s e = some s') :
    ∃ es t, run SystemStore.step s' es = some t ∧ ¬ t.Sole := by
  cases e with
  | call c => exact absurd trivial hbad
  | op g =>
    obtain ⟨op, rest, rfl, hg, rfl⟩ := exists_op h
    obtain ⟨sys, hsys, hc⟩ : ∃ sys ∈ displaces s op, sys ∉ s.cancelled := by
      simpa [Undisturbed] using hbad
    obtain ⟨hstored, hop, hstore, hstarted, hcancelled⟩ := displaces_spec hs hsys
    obtain hmem | ⟨rest', hmem⟩ := hstored
    · refine ⟨[], _, rfl, fun hsole => hstore (hsole.1 sys ⟨?_, ?_⟩)⟩
      · exact hstarted.symm ▸ hmem
      · exact hcancelled.symm ▸ hc
    · have hne : Op.start sys :: rest' ≠ op :: rest := fun heq =>
        hop sys (List.cons.inj heq).1.symm
      have hmem' : .start sys :: rest' ∈
          (followUp s op ++ rest) :: s.goroutines.erase (op :: rest) :=
        List.mem_cons_of_mem _ ((List.mem_erase_of_ne hne).mpr hmem)
      refine ⟨[.op (.start sys :: rest')], _, run_cons_eq_some.mpr ⟨_, if_pos hmem', rfl⟩,
        fun hsole => hstore (hsole.1 sys ⟨List.mem_cons_self, ?_⟩)⟩
      exact hcancelled.symm ▸ hc

/-- **Every live instance is the one in the store** in every undisturbed run; and after the first
step that is disturbed there can be another. -/
theorem sole_of_along {es : List Event} (hok : Along SystemStore.step Undisturbed State.init es)
    (hr : run SystemStore.step State.init es = some s) :
    s.Sole ∧ ∀ e s', ¬ Undisturbed s e → SystemStore.step s e = some s' →
      ∃ es' t, run SystemStore.step s' es' = some t ∧ ¬ t.Sole := by
  have hs : Inv s := inv_of_along (fun hs hok h => hs.step hok h) inv_init hok hr
  exact ⟨hs.sole, fun e s' hbad h => exists_not_sole hs hbad h⟩

end Proofs

/-! ### Two runs -/

/-- The instance that the first call adds. -/
def first : System := ⟨0, "system", "host"⟩

/-- The instance that the second call adds. -/
def second : System := ⟨1, "system", "host"⟩

/-- A system is added from its record; then an agent connects for it, and the first instance is
cancelled and replaced. -/
def replaced : List Event :=
  [.call (.addRecord "system" "host"), .op (addRecord first), .op (addSystem first),
    .op [.set first], .op [.start first], .call (.addWebSocketSystem "system" "host"),
    .op (addRecord second), .op [.getOk "system", .has second],
    .op [.cancel "system" first, .has second], .op [.remove "system", .has second],
    .op (addSystem second), .op [.set second], .op [.start second]]

theorem sole_of_along_replaced :
    ∃ s, run step State.init replaced = some s ∧ s.Sole ∧ s.Live second := by
  have hok : Along step Undisturbed State.init replaced := by decide
  exact ⟨_, rfl, (sole_of_along hok rfl).1, by decide⟩

/-- A user saves the record twice, and both calls look for the id before one of them has set it. -/
def twice : List Event :=
  [.call (.addRecord "system" "host"), .op (addRecord first),
    .call (.addRecord "system" "host"), .op (addRecord second), .op (addSystem first),
    .op (addSystem second), .op [.set first], .op [.start first], .op [.set second],
    .op [.start second]]

/-- **Both calls add their instance**, and both updaters run. -/
theorem not_sole_twice : ∃ s, run step State.init twice = some s ∧ ¬ s.Sole := by
  refine ⟨_, rfl, fun h => ?_⟩
  exact absurd (h.2 first second (by decide) (by decide) rfl) (by decide)

end SystemStore

end Beszel
