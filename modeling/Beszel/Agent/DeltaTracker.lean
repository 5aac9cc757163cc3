import Beszel.Agent.Docker
import Beszel.Agent.Network
import Mathlib.Data.List.DropRight

/-!
# Agent/DeltaTracker — differences between two intervals

    set k 5, set k 7 ──cycle──▸ set k 10 ──▸ Delta k = 10 - 7
       preceding interval       current

`agent/deltatracker`, for any type of keys and any type of numbers.  What a history of calls comes
to is read off the calls themselves: `currentInterval`, `precedingInterval` and `lastSet`.
-/

namespace Beszel

namespace Agent

namespace Deltatracker

/-! ## The tracker -/

variable {K V : Type}

/-- `DeltaTracker`. -/
structure DeltaTracker (K V : Type) where
  current : AList fun _ : K => V
  previous : AList fun _ : K => V

namespace DeltaTracker

variable [DecidableEq K]

/-- `NewDeltaTracker`. -/
def new : DeltaTracker K V := ⟨∅, ∅⟩

/-- `DeltaTracker.Set`. -/
def set (t : DeltaTracker K V) (id : K) (value : V) : DeltaTracker K V :=
  { t with current := t.current.insert id value }

/-- `DeltaTracker.Previous`. -/
def previous? (t : DeltaTracker K V) (id : K) : Option V := t.previous.lookup id

/-- `DeltaTracker.Cycle`. -/
def cycle (t : DeltaTracker K V) : DeltaTracker K V := ⟨∅, t.current⟩

variable [Zero V] [Sub V]

/-- The loop of `DeltaTracker.Deltas` over the current map, which is walked in some order. -/
def deltasIn (t : DeltaTracker K V) (walk : List (Σ _ : K, V)) : AList fun _ : K => V :=
  walk.foldl (fun deltas e =>
    match t.previous.lookup e.1 with
    | some previousVal => deltas.insert e.1 (e.2 - previousVal)
    | none => deltas.insert e.1 0) ∅

/-- `DeltaTracker.Delta`. -/
def delta (t : DeltaTracker K V) (id : K) : V :=
  match t.current.lookup id with
  | none => 0
  | some currentVal =>
    match t.previous.lookup id with
    | none => 0
    | some previousVal => currentVal - previousVal

end DeltaTracker

/-! ## Histories -/

/-- A call that changes the tracker. -/
inductive Call (K V : Type)
  | set (id : K) (value : V)
  | cycle
  deriving DecidableEq

/-- A call within an interval. -/
def Call.isSet : Call K V → Bool
  | .set _ _ => true
  | .cycle => false

/-- The calls since the last `Cycle`. -/
def currentInterval (calls : List (Call K V)) : List (Call K V) := calls.rtakeWhile Call.isSet

/-- The calls between the last two `Cycle`s. -/
def precedingInterval (calls : List (Call K V)) : List (Call K V) :=
  currentInterval (calls.rdropWhile Call.isSet).dropLast

theorem currentInterval_cycle (calls : List (Call K V)) :
    currentInterval (calls ++ [.cycle]) = [] :=
  List.rtakeWhile_concat_neg _ _ _ Bool.false_ne_true

theorem currentInterval_set (calls : List (Call K V)) (id : K) (value : V) :
    currentInterval (calls ++ [.set id value]) = currentInterval calls ++ [.set id value] :=
  List.rtakeWhile_concat_pos _ _ _ rfl

theorem precedingInterval_cycle (calls : List (Call K V)) :
    precedingInterval (calls ++ [.cycle]) = currentInterval calls := by
  rw [precedingInterval, List.rdropWhile_concat_neg _ _ _ Bool.false_ne_true,
    List.dropLast_concat]

theorem precedingInterval_set (calls : List (Call K V)) (id : K) (value : V) :
    precedingInterval (calls ++ [.set id value]) = precedingInterval calls := by
  rw [precedingInterval, List.rdropWhile_concat_pos _ _ _ rfl]
  rfl

section Tracker

variable [DecidableEq K]

/-- A call is made. -/
def step (t : DeltaTracker K V) : Call K V → DeltaTracker K V
  | .set id value => t.set id value
  | .cycle => t.cycle

/-- The tracker after some calls. -/
def run (calls : List (Call K V)) : DeltaTracker K V := calls.foldl step .new

/-- The last value that is set for a key. -/
def lastSet (key : K) (calls : List (Call K V)) : Option V :=
  (calls.filterMap fun
    | .set id value => if id = key then some value else none
    | .cycle => none).getLast?

/-- The difference of two values, zero if one of them is missing. -/
def difference [Zero V] [Sub V] : Option V → Option V → V
  | some current, some previous => current - previous
  | _, _ => 0

/-! ## What a history comes to -/

theorem run_append (calls calls' : List (Call K V)) :
    run (calls ++ calls') = calls'.foldl step (run calls) := List.foldl_append

theorem run_concat (calls : List (Call K V)) (call : Call K V) :
    run (calls ++ [call]) = step (run calls) call := run_append calls [call]

theorem lastSet_concat (key : K) (calls : List (Call K V)) (id : K) (value : V) :
    lastSet key (calls ++ [.set id value]) =
      if id = key then some value else lastSet key calls := by
  unfold lastSet
  rw [List.filterMap_append]
  split_ifs with h
  · simp [h]
  · simp [h]

/-- **The maps hold what was set last**: the current one in the current interval, the previous one
in the interval before. -/
theorem lookup_run (calls : List (Call K V)) (key : K) :
    (run calls).current.lookup key = lastSet key (currentInterval calls) ∧
      (run calls).previous.lookup key = lastSet key (precedingInterval calls) := by
  induction calls using List.reverseRecOn with
  | nil => exact ⟨rfl, rfl⟩
  | append_singleton calls call ih =>
    obtain ⟨hcurrent, hprevious⟩ := ih
    rw [run_concat]
    cases call with
    | set id value =>
      rw [currentInterval_set, precedingInterval_set, lastSet_concat]
      refine ⟨?_, hprevious⟩
      change ((run calls).current.insert id value).lookup key = _
      split_ifs with h
      · rw [h, AList.lookup_insert]
      · rw [AList.lookup_insert_ne (Ne.symm h), hcurrent]
    | cycle =>
      rw [currentInterval_cycle, precedingInterval_cycle]
      exact ⟨rfl, hcurrent⟩

/-- The current map does not depend on the previous one. -/
theorem current_foldl_step {t t' : DeltaTracker K V} (h : t.current = t'.current)
    (calls : List (Call K V)) : (calls.foldl step t).current = (calls.foldl step t').current := by
  induction calls generalizing t t' with
  | nil => exact h
  | cons call calls ih =>
    refine ih ?_
    cases call with
    | set id value => exact congrArg (AList.insert id value) h
    | cycle => rfl

/-- **Nothing is left of what came before the last two intervals.** -/
theorem run_forgets (older older' preceding current : List (Call K V)) :
    run (older ++ .cycle :: (preceding ++ .cycle :: current)) =
      run (older' ++ .cycle :: (preceding ++ .cycle :: current)) := by
  have hempty : (run older).cycle.current = (run older').cycle.current := rfl
  have hsame : (preceding.foldl step (run older).cycle).cycle =
      (preceding.foldl step (run older').cycle).cycle :=
    congrArg (DeltaTracker.mk ∅) (current_foldl_step hempty preceding)
  simp only [run_append, List.foldl_cons, List.foldl_append]
  exact congrArg (current.foldl step) hsame

/-! ## The differences -/

theorem lookup_foldl_insert (f : K → V → V) {walk : List (Σ _ : K, V)} (h : walk.NodupKeys)
    (m : AList fun _ : K => V) (key : K) :
    (walk.foldl (fun m e => m.insert e.1 (f e.1 e.2)) m).lookup key =
      ((walk.dlookup key).map (f key)).or (m.lookup key) := by
  induction walk generalizing m with
  | nil => simp
  | cons e walk ih =>
    obtain ⟨hnew, hrest⟩ := List.nodupKeys_cons.mp h
    rw [List.foldl_cons, ih hrest]
    by_cases hkey : key = e.1
    · subst hkey
      rw [List.dlookup_eq_none.mpr hnew, List.dlookup_cons_eq, AList.lookup_insert]
      rfl
    · rw [List.dlookup_cons_ne _ _ hkey, AList.lookup_insert_ne hkey]

variable [Zero V] [Sub V]

theorem delta_eq (t : DeltaTracker K V) (key : K) :
    t.delta key = difference (t.current.lookup key) (t.previous.lookup key) := by
  unfold DeltaTracker.delta
  cases t.current.lookup key with
  | none => rfl
  | some current => cases t.previous.lookup key <;> rfl

/-- One round of the loop of `Deltas`. -/
theorem lookup_deltasIn_step (t : DeltaTracker K V) (deltas : AList fun _ : K => V)
    (e : Σ _ : K, V) :
    (match t.previous.lookup e.1 with
      | some previousVal => deltas.insert e.1 (e.2 - previousVal)
      | none => deltas.insert e.1 0) =
    deltas.insert e.1 (difference (some e.2) (t.previous.lookup e.1)) := by
  cases t.previous.lookup e.1 <;> rfl

/-- **The entries of `Deltas`**, in whatever order the map is walked. -/
theorem lookup_deltasIn (t : DeltaTracker K V) {walk : List (Σ _ : K, V)}
    (hwalk : walk.Perm t.current.entries) (key : K) :
    (t.deltasIn walk).lookup key = (t.current.lookup key).map fun current =>
      difference (some current) (t.previous.lookup key) := by
  have hnodup : walk.NodupKeys := (List.perm_nodupKeys hwalk).mpr t.current.nodupKeys
  unfold DeltaTracker.deltasIn
  simp only [lookup_deltasIn_step]
  rw [lookup_foldl_insert (fun k current => difference (some current) (t.previous.lookup k)) hnodup,
    AList.lookup_empty, Option.or_none, List.perm_dlookup key hnodup hwalk]
  rfl

/-- **Histories of the tracker**: after every sequence of calls, `Delta` and `Deltas` give the last
value of the current interval minus the last one of the interval before, `Delta` is zero where one
of them is missing, and `Deltas` has a zero or no entry there; what was set before the last two
intervals leaves no trace. -/
theorem delta_deltas_history (calls : List (Call K V)) (key : K) {walk : List (Σ _ : K, V)}
    (hwalk : walk.Perm (run calls).current.entries) :
    (run calls).delta key =
      difference (lastSet key (currentInterval calls)) (lastSet key (precedingInterval calls)) ∧
    ((run calls).deltasIn walk).lookup key =
      (lastSet key (currentInterval calls)).map (fun current =>
        difference (some current) (lastSet key (precedingInterval calls))) ∧
    ∀ older older' preceding current : List (Call K V),
      run (older ++ .cycle :: (preceding ++ .cycle :: current)) =
        run (older' ++ .cycle :: (preceding ++ .cycle :: current)) := by
  obtain ⟨hcurrent, hprevious⟩ := lookup_run calls key
  refine ⟨?_, ?_, run_forgets⟩
  · rw [delta_eq, hcurrent, hprevious]
  · rw [lookup_deltasIn _ hwalk, hcurrent, hprevious]

end Tracker

/-- A key that is away for an interval. -/
def returning : List (Call String ℤ) :=
  [.set "eth0" 5, .cycle, .set "wlan0" 1, .cycle, .set "wlan0" 4, .set "eth0" 9]

theorem delta_deltas_history_returning :
    (run returning).delta "wlan0" = 3 ∧
      ((run returning).deltasIn [⟨"wlan0", 4⟩, ⟨"eth0", 9⟩]).lookup "eth0" = some 0 :=
  ⟨(delta_deltas_history returning "wlan0" (.refl _)).1,
    (delta_deltas_history returning "eth0" (.swap ..)).2.1⟩

/-! ## The trackers of the agent -/

/-- A tracker of the agent, among the others. -/
def general (t : Agent.DeltaTracker) : DeltaTracker String UInt64 := ⟨t.current, t.previous⟩

/-- A call to a tracker of the agent. -/
def agentStep (t : Agent.DeltaTracker) : Call String UInt64 → Agent.DeltaTracker
  | .set id value => t.set id value
  | .cycle => t.cycle

theorem general_agentStep (t : Agent.DeltaTracker) (call : Call String UInt64) :
    general (agentStep t call) = step (general t) call := by
  cases call <;> rfl

theorem general_foldl (calls : List (Call String UInt64)) :
    general (calls.foldl agentStep .new) = run calls := by
  induction calls using List.reverseRecOn with
  | nil => rfl
  | append_singleton calls call ih =>
    rw [List.foldl_append, List.foldl_cons, List.foldl_nil, general_agentStep, ih, run_concat]

theorem docker_delta_eq (t : Agent.DeltaTracker) (id : String) :
    Docker.delta t id = difference (t.current.lookup id) (t.previous.lookup id) := by
  unfold Docker.delta
  cases t.current.lookup id with
  | none => rfl
  | some current => cases t.previous.lookup id <;> rfl

/-- **The rates of the containers and the interfaces** come from the last two intervals. -/
theorem agentTracker_history (calls : List (Call String UInt64)) (id : String) :
    Docker.delta (calls.foldl agentStep .new) id =
        difference (lastSet id (currentInterval calls)) (lastSet id (precedingInterval calls)) ∧
      (calls.foldl agentStep .new).previous? id = lastSet id (precedingInterval calls) := by
  obtain ⟨hcurrent, hprevious⟩ := lookup_run calls id
  rw [← general_foldl] at hcurrent hprevious
  refine ⟨?_, hprevious⟩
  rw [docker_delta_eq, ← hcurrent, ← hprevious]
  rfl

end Deltatracker

end Agent

end Beszel
