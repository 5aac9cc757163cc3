import Beszel.Machinery.Run
import Mathlib.Data.Int.Order.Basic
import Mathlib.Data.List.Basic

/-!
# Hub/CreateRecords — the records of a sample are stored in one transaction

    getRecord ──▸ ⟨ system_stats · containers · services · details · system ⟩ ──▸ commit
                                                           ╰──▸ detailsFetched, smartInterval

`createRecords` of `internal/hub/systems/system.go`.  What the statements wrote is rolled back when
one of them fails, or the commit; the two fields of the `System` are set between two statements and
stay.  The database is the list of the statements that it holds.
-/

namespace Beszel

open Machinery

namespace CreateRecords

/-! ## The data -/

section Data

variable (α : Type)

/-- `system.Details`; `row` is what is stored of it, all but the interval. -/
structure Details where
  row : α
  smartInterval : ℤ
  deriving DecidableEq

/-- `system.CombinedData`; a container has an id. -/
structure CombinedData where
  stats : α
  info : α
  containers : List (String × α)
  systemdServices : List α
  details : Option (Details α)

/-- What is written to the database. -/
inductive Statement
  | systemStats (stats : α)
  | containers (containers : List (String × α))
  | containerStats (containers : List (String × α))
  | systemdServices (services : List α)
  | systemDetails (row : α)
  | system (info : α)
  deriving DecidableEq

/-- The fields of a `System` that a transaction sets: details are requested while they are not
fetched. -/
structure System where
  detailsFetched : Bool
  smartInterval : ℤ
  deriving DecidableEq

/-- The database, the `System` and whether the manager has it. -/
structure State where
  db : List (Statement α)
  sys : System
  managed : Bool

end Data

/-- The calls that can fail. -/
inductive Call
  | getRecord
  | findSystemStats
  | saveSystemStats
  | createContainerRecords
  | findContainerStats
  | saveContainerStats
  | createSystemdStatsRecords
  | updateDetails
  | rowsAffected
  | insertDetails
  | saveSystem
  | commit
  deriving DecidableEq, Repr

/-- How a function ends when it does not return: with an error, or in a panic. -/
inductive Failure
  | error
  | panic
  deriving DecidableEq, Repr

variable {α : Type}

/-- Code that reads and changes the state and may fail; a failure undoes nothing. -/
abbrev Code (α β : Type) := ExceptT Failure (StateM (State α)) β

/-! ## The functions -/

section Functions

/-! Which of the calls fail. -/

variable (fails : Call → Bool)

/-- A call that may return an error. -/
def call (c : Call) : Code α Unit :=
  if fails c then throw .error else pure ()

/-- A statement. -/
def execute (c : Call) (stmt : Statement α) : Code α Unit := do
  call fails c
  modify fun s => { s with db := s.db ++ [stmt] }

/-- `getRecord`: without a record the system is removed from the manager. -/
def getRecord : Code α Unit :=
  if fails .getRecord then do
    modify fun s => { s with managed := false }
    throw .error
  else pure ()

/-- Whether a statement is one of the details. -/
def Statement.isDetails : Statement α → Bool
  | systemDetails _ => true
  | _ => false

/-- Whether there is a row of details. -/
def State.stored (s : State α) : Bool := s.db.any Statement.isDetails

/-- `createSystemDetailsRecord`: the row is updated, or inserted where there is none.  The result of
an update that failed may be nil, and then its `RowsAffected` panics. -/
def createSystemDetailsRecord (details : Details α) : Code α Unit := fun s =>
  if fails .updateDetails then
    if fails .rowsAffected then (.error .panic, s)
    else execute fails .insertDetails (.systemDetails details.row) s
  else if s.stored then
    (.ok (), { s with db := s.db ++ [.systemDetails details.row] })
  else execute fails .insertDetails (.systemDetails details.row) s

/-- What is set once the details are stored. -/
def System.setDetails (sys : System) (details : Details α) : System where
  detailsFetched := true
  smartInterval :=
    if 0 < details.smartInterval then details.smartInterval else sys.smartInterval

/-- `createContainerRecords`, for containers with an id. -/
def createContainerRecords (id : String) (containers : List (String × α)) : Code α Unit :=
  if id ≠ "" then execute fails .createContainerRecords (.containers containers) else pure ()

/-- The containers and their statistics. -/
def createContainers (containers : List (String × α)) : Code α Unit :=
  match containers with
  | [] => pure ()
  | c :: cs => do
    createContainerRecords fails c.1 (c :: cs)
    call fails .findContainerStats
    execute fails .saveContainerStats (.containerStats (c :: cs))

/-- The services. -/
def createServices (services : List α) : Code α Unit :=
  match services with
  | [] => pure ()
  | _ :: _ => execute fails .createSystemdStatsRecords (.systemdServices services)

/-- The details, and the fields of the system. -/
def createDetails (details : Option (Details α)) : Code α Unit :=
  match details with
  | none => pure ()
  | some details => do
    createSystemDetailsRecord fails details
    modify fun s => { s with sys := s.sys.setDetails details }

/-- The function that `createRecords` runs in a transaction. -/
def createRecordsTx (data : CombinedData α) : Code α Unit := do
  call fails .findSystemStats
  execute fails .saveSystemStats (.systemStats data.stats)
  createContainers fails data.containers
  createServices fails data.systemdServices
  createDetails fails data.details
  execute fails .saveSystem (.system data.info)

/-- `RunInTransaction`: the statements of `tx` are taken back if it fails, or the commit. -/
def runInTransaction (tx : Code α Unit) : Code α Unit := fun s =>
  match (tx >>= fun _ => call fails .commit) s with
  | (.ok _, s') => (.ok (), s')
  | (.error e, s') => (.error e, { s' with db := s.db })

/-- **`createRecords`**. -/
def createRecords (data : CombinedData α) : Code α Unit := do
  getRecord fails
  runInTransaction fails (createRecordsTx fails data)

end Functions

/-! ## What succeeds -/

section Success

variable (fails : Call → Bool)

/-- The calls for the containers succeed. -/
def containersOk : List (String × α) → Bool
  | [] => true
  | c :: _ => (c.1 = "" || !fails .createContainerRecords) && !fails .findContainerStats &&
      !fails .saveContainerStats

/-- The call for the services succeeds. -/
def servicesOk : List α → Bool
  | [] => true
  | _ :: _ => !fails .createSystemdStatsRecords

/-- The calls for the details succeed; `stored` is whether there is a row already. -/
def detailsOk (stored : Bool) : Option (Details α) → Bool
  | none => true
  | some _ =>
    if fails .updateDetails then !fails .rowsAffected && !fails .insertDetails
    else stored || !fails .insertDetails

/-- **The calls up to the details succeed.** -/
def detailsStored (data : CombinedData α) (stored : Bool) : Bool :=
  !fails .getRecord && !fails .findSystemStats && !fails .saveSystemStats &&
    containersOk fails data.containers && servicesOk fails data.systemdServices &&
    detailsOk fails stored data.details

end Success

/-! ## How code runs -/

theorem bind_apply {β γ : Type} (c : Code α β) (f : β → Code α γ) (s : State α) :
    (c >>= f) s = match c s with
      | (.ok b, s') => f b s'
      | (.error e, s') => (.error e, s') := by
  change ExceptT.bindCont f (c s).1 (c s).2 = _
  rcases c s with ⟨_ | _, s'⟩ <;> rfl

/-- The code succeeds if `ok`, and leaves the `System` and whether the details are stored. -/
def Leaves (c : Code α Unit) (ok : Bool) : Prop :=
  ∀ s, ((c s).1 = .ok () ↔ ok = true) ∧ (c s).2.sys = s.sys ∧ (c s).2.stored = s.stored

section Leaves

variable (fails : Call → Bool)

theorem Leaves.bind {c c' : Code α Unit} {ok ok' : Bool} (h : Leaves c ok) (h' : Leaves c' ok') :
    Leaves (c >>= fun _ => c') (ok && ok') := by
  intro s
  obtain ⟨hok, hsys, hdb⟩ := h s
  rw [bind_apply]
  rcases hc : c s with ⟨e | _, s'⟩
  · rw [hc] at hok hsys hdb
    have hfalse : ok = false := Bool.eq_false_iff.mpr fun htrue => nomatch hok.mpr htrue
    refine ⟨?_, hsys, hdb⟩
    rw [hfalse, Bool.false_and]
    exact ⟨fun h => (nomatch h), fun h => (nomatch h)⟩
  · rw [hc] at hok hsys hdb
    obtain ⟨hok', hsys', hdb'⟩ := h' s'
    rw [hok.mp rfl, Bool.true_and]
    exact ⟨hok', hsys'.trans hsys, hdb'.trans hdb⟩

theorem leaves_pure : Leaves (pure () : Code α Unit) true :=
  fun _ => ⟨⟨fun _ => rfl, fun _ => rfl⟩, rfl, rfl⟩

theorem leaves_call (c : Call) :
    Leaves (call fails c : Code α Unit) (!fails c) := by
  intro s
  unfold call
  cases fails c with
  | true => exact ⟨⟨fun h => (nomatch h), fun h => (nomatch h)⟩, rfl, rfl⟩
  | false => exact ⟨⟨fun _ => rfl, fun _ => rfl⟩, rfl, rfl⟩

theorem leaves_execute (c : Call) {stmt : Statement α}
    (hstmt : stmt.isDetails = false) :
    Leaves (execute fails c stmt) (!fails c) := by
  have hmodify : Leaves (modify fun s => { s with db := s.db ++ [stmt] } : Code α Unit) true := by
    intro s
    refine ⟨⟨fun _ => rfl, fun _ => rfl⟩, rfl, ?_⟩
    change (s.db ++ [stmt]).any Statement.isDetails = _
    simp [hstmt, State.stored]
  have h := (leaves_call fails c).bind hmodify
  rwa [Bool.and_true] at h

theorem leaves_createContainers (cs : List (String × α)) :
    Leaves (createContainers fails cs) (containersOk fails cs) := by
  cases cs with
  | nil => exact leaves_pure
  | cons c cs =>
    have hcontainers : Leaves (createContainerRecords fails c.1 (c :: cs))
        (c.1 = "" || !fails .createContainerRecords) := by
      unfold createContainerRecords
      by_cases hid : c.1 = ""
      · rw [if_neg (not_not.mpr hid), decide_eq_true hid]
        exact leaves_pure
      · rw [if_pos hid, decide_eq_false hid]
        exact leaves_execute fails _ rfl
    have hstats : Leaves (execute fails .saveContainerStats (.containerStats (c :: cs)))
        (!fails .saveContainerStats) := leaves_execute fails _ rfl
    have h := hcontainers.bind ((leaves_call fails .findContainerStats).bind hstats)
    rw [← Bool.and_assoc] at h
    exact h

theorem leaves_createServices (services : List α) :
    Leaves (createServices fails services) (servicesOk fails services) := by
  cases services with
  | nil => exact leaves_pure
  | cons => exact leaves_execute fails _ rfl

/-- Everything before the details. -/
theorem leaves_beforeDetails (data : CombinedData α) :
    Leaves (do
        call fails .findSystemStats
        execute fails .saveSystemStats (.systemStats data.stats)
        createContainers fails data.containers
        createServices fails data.systemdServices)
      (!fails .findSystemStats && !fails .saveSystemStats &&
        containersOk fails data.containers && servicesOk fails data.systemdServices) := by
  have hstats : Leaves (execute fails .saveSystemStats (.systemStats data.stats))
      (!fails .saveSystemStats) := leaves_execute fails _ rfl
  have h := (leaves_call fails .findSystemStats).bind (hstats.bind
    ((leaves_createContainers fails data.containers).bind
      (leaves_createServices fails data.systemdServices)))
  rwa [← Bool.and_assoc, ← Bool.and_assoc] at h

end Leaves

/-! ## The details -/

/-- What the `System` is after the details. -/
def System.afterDetails (sys : System) : Option (Details α) → System
  | none => sys
  | some details => sys.setDetails details

section Details

variable (fails : Call → Bool)

theorem createSystemDetailsRecord_sys (details : Details α) (s : State α) :
    ((createSystemDetailsRecord fails details s).1 = .ok () ↔
      detailsOk fails s.stored (some details) = true) ∧
    (createSystemDetailsRecord fails details s).2.sys = s.sys ∧
    ((createSystemDetailsRecord fails details s).1 = .ok () →
      (createSystemDetailsRecord fails details s).2.stored = true) := by
  have hmem : (⟨s.db ++ [.systemDetails details.row], s.sys, s.managed⟩ : State α).stored = true :=
    List.any_eq_true.mpr ⟨_, List.mem_concat_self, rfl⟩
  have hinsert : ((execute fails .insertDetails (.systemDetails details.row) s).1 = .ok () ↔
      (!fails .insertDetails) = true) ∧
      (execute fails .insertDetails (.systemDetails details.row) s).2.sys = s.sys ∧
      ((execute fails .insertDetails (.systemDetails details.row) s).1 = .ok () →
        (execute fails .insertDetails (.systemDetails details.row) s).2.stored = true) := by
    unfold execute call
    cases fails .insertDetails with
    | true => exact ⟨⟨fun h => (nomatch h), fun h => (nomatch h)⟩, rfl, fun h => (nomatch h)⟩
    | false => exact ⟨⟨fun _ => rfl, fun _ => rfl⟩, rfl, fun _ => hmem⟩
  unfold createSystemDetailsRecord detailsOk
  cases fails .updateDetails with
  | true =>
    cases fails .rowsAffected with
    | true => exact ⟨⟨fun h => (nomatch h), fun h => (nomatch h)⟩, rfl, fun h => (nomatch h)⟩
    | false => exact hinsert
  | false =>
    cases s.stored with
    | true => exact ⟨⟨fun _ => rfl, fun _ => rfl⟩, rfl, fun _ => hmem⟩
    | false => exact hinsert

/-- **The fields are set when the details are stored**, and not before. -/
theorem createDetails_sys (details : Option (Details α)) (s : State α) :
    ((createDetails fails details s).1 = .ok () ↔ detailsOk fails s.stored details = true) ∧
    ((createDetails fails details s).2.sys =
      if detailsOk fails s.stored details then s.sys.afterDetails details else s.sys) ∧
    ((createDetails fails details s).1 = .ok () →
      (createDetails fails details s).2.stored = (s.stored || details.isSome)) := by
  cases details with
  | none => exact ⟨⟨fun _ => rfl, fun _ => rfl⟩, rfl, fun _ => (Bool.or_false _).symm⟩
  | some details =>
    obtain ⟨hok, hsys, hstored⟩ := createSystemDetailsRecord_sys fails details s
    have hdo : createDetails fails (some details) = (createSystemDetailsRecord fails details >>=
        fun _ => modify fun s => { s with sys := s.sys.setDetails details }) := rfl
    rw [hdo, bind_apply]
    rcases hc : createSystemDetailsRecord fails details s with ⟨e | _, s'⟩
    · rw [hc] at hok hsys
      have hfalse : ¬ detailsOk fails s.stored (some details) = true := fun h => nomatch hok.mpr h
      rw [if_neg hfalse]
      exact ⟨⟨fun h => (nomatch h), fun h => absurd h hfalse⟩, hsys, fun h => (nomatch h)⟩
    · rw [hc] at hok hsys hstored
      rw [if_pos (hok.mp rfl)]
      exact ⟨⟨fun _ => hok.mp rfl, fun _ => rfl⟩, congrArg (System.setDetails · details) hsys,
        fun _ => (hstored rfl).trans (Bool.or_true _).symm⟩

/-- A transaction takes the database back, not the `System`. -/
theorem runInTransaction_sys (tx : Code α Unit) (s : State α) :
    (runInTransaction fails tx s).1 = ((tx >>= fun _ => call fails .commit) s).1 ∧
    (runInTransaction fails tx s).2.sys = ((tx >>= fun _ => call fails .commit) s).2.sys ∧
    ((runInTransaction fails tx s).1 ≠ .ok () → (runInTransaction fails tx s).2.db = s.db) ∧
    ((runInTransaction fails tx s).1 = .ok () →
      (runInTransaction fails tx s).2 = ((tx >>= fun _ => call fails .commit) s).2) := by
  unfold runInTransaction
  rcases (tx >>= fun _ => call fails .commit) s with ⟨_ | _, s'⟩
  · exact ⟨rfl, rfl, fun _ => rfl, fun h => (nomatch h)⟩
  · exact ⟨rfl, rfl, fun h => absurd rfl h, fun _ => rfl⟩

/-- The transaction, and its commit. -/
theorem createRecordsTx_sys (data : CombinedData α) (s : State α)
    (hget : fails .getRecord = false) :
    (((createRecordsTx fails data >>= fun _ => call fails .commit) s).1 = .ok () ↔
      detailsStored fails data s.stored = true ∧ fails .saveSystem = false ∧
        fails .commit = false) ∧
    (((createRecordsTx fails data >>= fun _ => call fails .commit) s).2.sys =
      if detailsStored fails data s.stored then s.sys.afterDetails data.details else s.sys) ∧
    (((createRecordsTx fails data >>= fun _ => call fails .commit) s).1 = .ok () →
      ((createRecordsTx fails data >>= fun _ => call fails .commit) s).2.stored =
        (s.stored || data.details.isSome)) := by
  have hstored : detailsStored fails data s.stored =
      ((!fails .findSystemStats && !fails .saveSystemStats && containersOk fails data.containers &&
        servicesOk fails data.systemdServices) && detailsOk fails s.stored data.details) := by
    unfold detailsStored
    rw [hget, Bool.not_false, Bool.true_and]
  have hsystem : Leaves (execute fails .saveSystem (.system data.info)) (!fails .saveSystem) :=
    leaves_execute fails _ rfl
  have htail := hsystem.bind (leaves_call fails .commit)
  have hdo : (createRecordsTx fails data >>= fun _ => call fails .commit) =
      ((do
        call fails .findSystemStats
        execute fails .saveSystemStats (.systemStats data.stats)
        createContainers fails data.containers
        createServices fails data.systemdServices) >>= fun _ =>
      (createDetails fails data.details >>= fun _ =>
        (execute fails .saveSystem (.system data.info) >>= fun _ => call fails .commit))) := by
    unfold createRecordsTx
    simp only [bind_assoc]
  obtain ⟨hok, hsys, hdb⟩ := leaves_beforeDetails fails data s
  rw [hdo, hstored, bind_apply]
  generalize (do
    call fails .findSystemStats
    execute fails .saveSystemStats (.systemStats data.stats)
    createContainers fails data.containers
    createServices fails data.systemdServices : Code α Unit) s = before at hok hsys hdb ⊢
  obtain ⟨_ | _, s₁⟩ := before
  · -- a statement before the details fails
    have hfalse := Bool.eq_false_iff.mpr fun htrue => nomatch hok.mpr htrue
    rw [hfalse, Bool.false_and]
    exact ⟨⟨fun h => (nomatch h), fun h => (nomatch h.1)⟩, hsys, fun h => (nomatch h)⟩
  rw [hok.mp rfl, Bool.true_and, ← hdb, ← hsys]
  obtain ⟨hok₁, hsys₁, hdb₁⟩ := createDetails_sys fails data.details s₁
  dsimp only
  rw [bind_apply]
  rcases hc : createDetails fails data.details s₁ with ⟨_ | _, s₂⟩
  · -- the details are not stored
    rw [hc] at hok₁ hsys₁
    exact ⟨⟨fun h => (nomatch h), fun h => (nomatch hok₁.mpr h.1)⟩, hsys₁, fun h => (nomatch h)⟩
  · rw [hc] at hok₁ hsys₁ hdb₁
    obtain ⟨hok₂, hsys₂, hdb₂⟩ := htail s₂
    refine ⟨hok₂.trans ?_, hsys₂.trans hsys₁, fun _ => hdb₂.trans (hdb₁ rfl)⟩
    rw [hok₁.mp rfl, Bool.and_eq_true, Bool.not_eq_true', Bool.not_eq_true']
    exact ⟨fun h => ⟨rfl, h⟩, fun h => h.2⟩

/-- **What a call leaves in the `System`** and in the database, and when it returns nil. -/
theorem createRecords_sys (data : CombinedData α) (s : State α) :
    ((createRecords fails data s).1 = .ok () ↔
      detailsStored fails data s.stored = true ∧ fails .saveSystem = false ∧
        fails .commit = false) ∧
    ((createRecords fails data s).2.sys =
      if detailsStored fails data s.stored then s.sys.afterDetails data.details else s.sys) ∧
    ((createRecords fails data s).1 ≠ .ok () → (createRecords fails data s).2.db = s.db) ∧
    ((createRecords fails data s).1 = .ok () →
      (createRecords fails data s).2.stored = (s.stored || data.details.isSome)) := by
  unfold createRecords
  rw [bind_apply]
  cases hget : fails .getRecord with
  | true =>
    have hfalse : detailsStored fails data s.stored = false := by
      unfold detailsStored
      rw [hget]
      rfl
    have hrun : getRecord fails s = (.error .error, { s with managed := false }) := by
      unfold getRecord
      rw [hget]
      rfl
    rw [hrun, hfalse]
    exact ⟨⟨fun h => (nomatch h), fun h => (nomatch h.1)⟩, rfl, fun _ => rfl, fun h => (nomatch h)⟩
  | false =>
    have hrun : getRecord fails s = (.ok (), s) := by
      unfold getRecord
      rw [hget]
      rfl
    obtain ⟨hfst, hsys, hdb, heq⟩ := runInTransaction_sys fails (createRecordsTx fails data) s
    obtain ⟨hok, hafter, hstored⟩ := createRecordsTx_sys fails data s hget
    rw [hrun]
    dsimp only
    refine ⟨hfst ▸ hok, hsys ▸ hafter, hdb, fun h => ?_⟩
    rw [heq h]
    exact hstored (hfst ▸ h)

end Details

/-! ## Main results -/

/-- The fields are what the details say already. -/
def Settled (sys : System) (details : Option (Details α)) : Prop :=
  ∀ d, details = some d →
    sys.detailsFetched = true ∧ (d.smartInterval ≤ 0 ∨ d.smartInterval = sys.smartInterval)

theorem afterDetails_eq_iff (sys : System) (details : Option (Details α)) :
    sys.afterDetails details = sys ↔ Settled sys details := by
  cases details with
  | none => exact ⟨fun _ d hd => (nomatch hd), fun _ => rfl⟩
  | some d =>
    obtain ⟨fetched, interval⟩ := sys
    simp only [System.afterDetails, System.setDetails, System.mk.injEq, Settled, Option.some_inj,
      forall_eq']
    rw [eq_comm]
    split_ifs with hpos
    · exact and_congr_right fun _ => (or_iff_right (not_le.mpr hpos)).symm
    · exact and_congr_right fun _ => ⟨fun _ => .inl (not_lt.mp hpos), fun _ => rfl⟩

/-- A call that fails before the details are stored, or not at all, or that sets the fields to what
they are. -/
def Clean (s : State α) (fails : Call → Bool) (data : CombinedData α) : Prop :=
  detailsStored fails data s.stored = false ∨
    (fails .saveSystem = false ∧ fails .commit = false) ∨ Settled s.sys data.details

theorem sys_of_clean {fails : Call → Bool} {data : CombinedData α} {s : State α}
    (h : Clean s fails data) (hret : (createRecords fails data s).1 ≠ .ok ()) :
    (createRecords fails data s).2.sys = s.sys := by
  obtain ⟨hok, hsys, -, -⟩ := createRecords_sys fails data s
  rw [Ne, hok] at hret
  rw [hsys]
  rcases h with hstored | hlast | hsettled
  · rw [hstored, if_neg Bool.false_ne_true]
  · by_cases hstored : detailsStored fails data s.stored = true
    · exact absurd ⟨hstored, hlast⟩ hret
    · rw [if_neg hstored]
  · rw [(afterDetails_eq_iff s.sys data.details).mpr hsettled, ite_self]

/-- **A failed call leaves the `System` as it was** if and only if it fails before the details are
stored, or not at all, or the fields are what the details say already. -/
theorem unchanged_iff (fails : Call → Bool) (data : CombinedData α) (s : State α) :
    ((createRecords fails data s).1 ≠ .ok () → (createRecords fails data s).2.sys = s.sys) ↔
      Clean s fails data := by
  refine ⟨fun h => ?_, fun h => sys_of_clean h⟩
  obtain ⟨hok, hsys, -, -⟩ := createRecords_sys fails data s
  cases hstored : detailsStored fails data s.stored with
  | false => exact .inl hstored
  | true =>
    by_cases hlast : fails .saveSystem = false ∧ fails .commit = false
    · exact .inr (.inl hlast)
    · have hret := h fun hret => hlast (hok.mp hret).2
      rw [hsys, if_pos hstored] at hret
      exact .inr (.inr ((afterDetails_eq_iff s.sys data.details).mp hret))

/-- The calls of a system, one after the other. -/
def step (s : State α) (e : (Call → Bool) × CombinedData α) : Option (State α) :=
  some (createRecords e.1 e.2 s).2

/-- `update` sets `IncludeDetails`. -/
def System.includeDetails (sys : System) : Bool := !sys.detailsFetched

/-- Details that are not stored are requested again. -/
def Requests (s : State α) : Prop := s.stored = false → s.sys.includeDetails = true

/-- **Details that are not stored are requested again**, as long as all calls are clean. -/
theorem requests_of_clean {s t : State α} {es : List ((Call → Bool) × CombinedData α)}
    (hs : Requests s) (hclean : Along step (fun s e => Clean s e.1 e.2) s es)
    (hrun : run step s es = some t) : Requests t := by
  refine inv_of_along (fun {s e s'} hs hok hstep => ?_) hs hclean hrun
  obtain rfl := Option.some.inj hstep
  obtain ⟨-, hsys, hdb, hstored⟩ := createRecords_sys e.1 e.2 s
  intro hnone
  by_cases hret : (createRecords e.1 e.2 s).1 = .ok ()
  · rw [hstored hret, Bool.or_eq_false_iff] at hnone
    have hdetails : e.2.details = none := Option.isNone_iff_eq_none.mp (by simpa using hnone.2)
    rw [hsys, hdetails, System.afterDetails, ite_self]
    exact hs hnone.1
  · rw [sys_of_clean hok hret]
    have heq : (createRecords e.1 e.2 s).2.stored = s.stored :=
      congrArg (List.any · Statement.isDetails) (hdb hret)
    exact hs (heq ▸ hnone)

/-- The save of the system record fails after the details are stored: they are taken back, and not
requested again. -/
theorem not_unchanged :
    ¬ ((createRecords (· = .saveSystem) ⟨(), (), [], [], some ⟨(), 0⟩⟩
        ⟨[], ⟨false, 0⟩, true⟩ : Except Failure Unit × State Unit).1 ≠ .ok () →
      (createRecords (· = .saveSystem) ⟨(), (), [], [], some ⟨(), 0⟩⟩
        ⟨[], ⟨false, 0⟩, true⟩ : Except Failure Unit × State Unit).2.sys = ⟨false, 0⟩) := by
  decide

end CreateRecords

end Beszel
