import Beszel.Agent.Gather
import Beszel.Machinery.Columns

/-!
# Agent/Details — the details are those of the request that filled the cache

    gather 60000 details ──collect──▸ cache 60000 ──fresh──▸ gather 60000
                     ╰── details                ╰── details of the first, whatever the second asks

The option `IncludeDetails` of `gatherStats`, followed through the runs of the agent.  A session
keeps beside the agent what its answers were asked, and what the request asked that filled the entry
of each key.
-/

namespace Beszel

open Machinery

namespace Agent

namespace Details

open Gather

/-! ## Sessions -/

/-- The agent; the option of the call that holds the mutex; that of the request which filled the
entry of a key; and those of the requests that were answered, beside the answers in the log. -/
structure Session where
  agent : Gather.State
  asked : Bool
  filledBy : UInt16 → Option Bool
  asks : List Bool

/-- A session with an agent that was not called yet. -/
def Session.new (host : Agent.State) (filesystems : List (String × Gather.FsStats))
    (diskUsageCacheDuration : ℤ) : Session :=
  ⟨.new host filesystems diskUsageCacheDuration, false, fun _ => none, []⟩

/-- What is kept of a step that leads the agent to `agent`. -/
def Session.follow (s : Session) (agent : Gather.State) : Gather.Event → Session
  | .gather key includeDetails reads =>
    if (s.agent.get key reads.now).isSome then
      { s with agent := agent, asks := includeDetails :: s.asks }
    else { s with agent := agent, asked := includeDetails }
  | .publish _ _ =>
    match s.agent.collecting with
    | some c =>
      { s with
        agent := agent
        filledBy := Function.update s.filledBy c.key (some s.asked)
        asks := s.asked :: s.asks }
    | none => { s with agent := agent }
  | _ => { s with agent := agent }

/-- **One step.** -/
def step (excluded : String → Bool) (s : Session) (e : Gather.Event) : Option Session :=
  (Gather.step excluded s.agent e).map fun agent => s.follow agent e

/-- **The answers have the details if and only if they were asked for.** -/
def Session.Transparent (s : Session) : Prop :=
  s.agent.log.map (·.content.values.details) = s.asks

instance (s : Session) : Decidable s.Transparent :=
  inferInstanceAs (Decidable (s.agent.log.map (·.content.values.details) = s.asks))

/-- A request that is answered from the cache asks for what the request asked that filled the
entry. -/
def SameOptions (s : Session) : Gather.Event → Prop
  | .gather key includeDetails reads =>
    (s.agent.get key reads.now).isSome = true → s.filledBy key = some includeDetails
  | _ => True

/-! ## What a collection leaves alone -/

/-- The cache and the answers. -/
abbrev kept (s : Gather.State) : (UInt16 → Option CacheNode) × List Answer := (s.cache, s.log)

section Kept

variable (s : Gather.State) (now : ℤ)

theorem kept_updateDiskUsage (usage : String → Option UsageStat) (root : RootDisk) :
    kept (s.updateDiskUsage now usage root).1 = kept s := by
  have hloop : ∀ cacheExtraFs : Bool,
      kept (s.devices.foldl (State.updateUsage usage cacheExtraFs) (s, root)).1 = kept s := by
    refine fun cacheExtraFs => foldl_unchanged _ (fun acc : Gather.State × RootDisk => kept acc.1)
      (fun acc device => ?_) _ _
    unfold State.updateUsage
    dsimp only
    split
    · rfl
    · cases usage (acc.1.fsStats device).mountpoint <;> rfl
  unfold State.updateDiskUsage
  dsimp only
  split_ifs <;> exact hloop _

theorem kept_initializeDiskIoStats (diskIoCounters : List (String × DiskCounters)) :
    kept (s.initializeDiskIoStats now diskIoCounters) = kept s := by
  refine foldl_unchanged _ kept (fun s device => ?_) _ _
  unfold State.initializeIo
  cases diskIoCounters.lookup device <;> rfl

theorem kept_updateDiskIo (key : UInt16) (ioCounters : Option (List (String × DiskCounters)))
    (root : RootDisk) : kept (s.updateDiskIo key now ioCounters root).1 = kept s := by
  cases ioCounters with
  | none => rfl
  | some ioCounters =>
    refine foldl_unchanged _ (fun acc : Gather.State × RootDisk => kept acc.1)
      (fun acc entry => ?_) _ _
    unfold State.updateIo
    dsimp only
    split
    · rfl
    · split
      · rfl
      · split
        · exact kept_initializeDiskIoStats _ now ioCounters
        · rfl

theorem kept_collect (key : UInt16) (includeDetails : Bool) (reads : HostReadings) :
    kept (collect s key includeDetails reads) = kept s :=
  (kept_updateDiskIo _ reads.now key reads.ioCounters _).trans
    (kept_updateDiskUsage s reads.now reads.usage _)

end Kept

/-- A step inside a call, or of the worker. -/
def inner : Gather.Event → Bool
  | .gather _ _ _ => false
  | .publish _ _ => false
  | _ => true

/-- The details of the call that holds the mutex. -/
abbrev collected (s : Gather.State) : Option Bool := s.collecting.map (·.data.values.details)

theorem collected_of_eq {s : Gather.State} {c : Collection} (h : s.collecting = some c) :
    collected s = some c.data.values.details :=
  congrArg (Option.map (·.data.values.details)) h

/-- What a step of the poll writes is not kept. -/
theorem kept_writes (s : Gather.State) (addr : Option ℕ) :
    kept (match addr with
      | some addr => s.spoil (.container addr)
      | none => s) = kept s ∧
    (match addr with
      | some addr => s.spoil (.container addr)
      | none => s).collecting = s.collecting := by
  cases addr <;> exact ⟨rfl, rfl⟩

theorem inner_dockerStep {excluded : String → Bool} {s s' : Gather.State} {c : Collection}
    {e : Docker.Event} (hc : s.collecting = some c)
    (h : dockerStep excluded s c e = some s') : kept s' = kept s ∧ collected s' = collected s := by
  unfold dockerStep at h
  split at h
  · cases h
  · obtain ⟨hkept, hcollecting⟩ := kept_writes s (Docker.writes s.docker e)
    have hcollected := congrArg (Option.map (·.data.values.details)) hcollecting
    dsimp only at h
    split at h
    · obtain ⟨-, rfl⟩ := guard_eq_some h
      exact ⟨hkept, hcollected⟩
    · obtain rfl := Option.some.inj h
      exact ⟨hkept, (collected_of_eq hc).symm⟩
    · obtain rfl := Option.some.inj h
      exact ⟨hkept, hcollected⟩

/-- **A step inside a call** answers nothing, and changes neither the cache nor the details. -/
theorem inner_step {excluded : String → Bool} {s s' : Gather.State} {e : Gather.Event}
    (he : inner e = true) (h : Gather.step excluded s e = some s') :
    kept s' = kept s ∧ collected s' = collected s := by
  cases e with
  | gather => cases he
  | publish => cases he
  | docker e =>
    simp only [Gather.step] at h
    split at h
    · rename_i hcollecting
      exact inner_dockerStep hcollecting h
    · cases h
  | dockerFailed =>
    simp only [Gather.step] at h
    split at h
    · rename_i hcollecting
      obtain ⟨-, rfl⟩ := guard_eq_some h
      exact ⟨rfl, (collected_of_eq hcollecting).symm⟩
    · cases h
  | totalCount =>
    simp only [Gather.step] at h
    split at h
    · rename_i hcollecting
      obtain rfl := Option.some.inj h
      exact ⟨rfl, (collected_of_eq hcollecting).symm⟩
    · cases h
  | failedCount =>
    simp only [Gather.step] at h
    split at h
    · rename_i hcollecting
      obtain rfl := Option.some.inj h
      exact ⟨rfl, (collected_of_eq hcollecting).symm⟩
    · cases h
  | listServices =>
    simp only [Gather.step] at h
    split at h
    · rename_i hcollecting
      have hcollected := (collected_of_eq hcollecting).symm
      split at h
      · obtain rfl := Option.some.inj h
        exact ⟨rfl, hcollected⟩
      · obtain rfl := Option.some.inj h
        exact ⟨rfl, hcollected⟩
    · cases h
  | updateService unit =>
    obtain rfl := Option.some.inj h
    unfold State.updateServiceStats
    split <;> exact ⟨rfl, rfl⟩
  | pruneServices currentUnits =>
    obtain rfl := Option.some.inj h
    exact ⟨rfl, rfl⟩
  | freshServices =>
    obtain rfl := Option.some.inj h
    exact ⟨rfl, rfl⟩

/-! ## Every step -/

/-- **The invariant**: the entry of a key, and the call that holds the mutex, have the details as
the request asked. -/
structure Inv (s : Session) : Prop where
  filled : ∀ key, s.filledBy key = (s.agent.cache key).map (·.data.values.details)
  asked : ∀ details ∈ collected s.agent, details = s.asked

theorem inv_new (host : Agent.State) (filesystems : List (String × Gather.FsStats))
    (diskUsageCacheDuration : ℤ) : Inv (.new host filesystems diskUsageCacheDuration) where
  filled _ := rfl
  asked _ h := nomatch h

section Step

variable {excluded : String → Bool} {s s' : Session}

/-- One more answer. -/
theorem transparent_cons {agent : Gather.State} {asked asked' : Bool}
    {filledBy : UInt16 → Option Bool} {a : Answer} (hlog : agent.log = a :: s.agent.log) :
    (Session.mk agent asked filledBy (asked' :: s.asks)).Transparent ↔
      a.content.values.details = asked' ∧ s.Transparent := by
  unfold Session.Transparent
  rw [hlog, List.map_cons, List.cons.injEq]

theorem step_gather {key : UInt16} {includeDetails : Bool} {reads : HostReadings} (hinv : Inv s)
    (h : step excluded s (.gather key includeDetails reads) = some s') :
    Inv s' ∧ (s'.Transparent ↔
      s.Transparent ∧ SameOptions s (.gather key includeDetails reads)) := by
  obtain ⟨agent, hagent, rfl⟩ := Option.map_eq_some_iff.mp h
  simp only [Gather.step] at hagent
  split at hagent
  · cases hagent
  · split at hagent
    case h_1 data hget =>
      -- the entry has the details as the request asked that filled it
      obtain rfl := Option.some.inj hagent
      have hfresh : (s.agent.get key reads.now).isSome = true := by rw [hget, Option.isSome_some]
      obtain ⟨node, hnode, rfl⟩ := mem_cache_of_get hget
      have hfilled : s.filledBy key = some node.data.values.details := by
        rw [hinv.filled key, Option.mem_def.mp hnode, Option.map_some]
      unfold Session.follow SameOptions
      dsimp only
      rw [if_pos hfresh]
      refine ⟨⟨hinv.filled, hinv.asked⟩, (transparent_cons rfl).trans ?_⟩
      rw [and_comm, hfilled, Option.some_inj]
      exact and_congr_right fun _ => ⟨fun h _ => h, fun h => h hfresh⟩
    case h_2 hget =>
      obtain rfl := Option.some.inj hagent
      have hstale : ¬ (s.agent.get key reads.now).isSome = true := by
        rw [hget]
        exact Bool.false_ne_true
      obtain ⟨hcache, hlog⟩ := Prod.mk.inj (kept_collect s.agent key includeDetails reads)
      unfold Session.follow SameOptions
      dsimp only
      rw [if_neg hstale]
      refine ⟨⟨fun key' => ?_, fun details hdetails => ?_⟩, ?_⟩
      · dsimp only
        rw [hcache]
        exact hinv.filled key'
      · exact (Option.some.inj hdetails).symm
      · unfold Session.Transparent
        dsimp only
        rw [hlog]
        exact (and_iff_left fun h => absurd h hstale).symm

theorem step_publish {now : ℤ} {updates : Option (ℤ × ℤ × Bool)} (hinv : Inv s)
    (h : step excluded s (.publish now updates) = some s') :
    Inv s' ∧ (s'.Transparent ↔ s.Transparent) := by
  obtain ⟨agent, hagent, rfl⟩ := Option.map_eq_some_iff.mp h
  simp only [Gather.step] at hagent
  split at hagent
  · rename_i key data hcollecting
    obtain rfl := Option.some.inj hagent
    have hasked : data.values.details = s.asked :=
      hinv.asked _ (collected_of_eq hcollecting)
    unfold Session.follow
    dsimp only
    rw [hcollecting]
    refine ⟨⟨fun key' => ?_, fun details hdetails =>
      absurd hdetails (Option.not_mem_none details)⟩,
      (transparent_cons rfl).trans (and_iff_right hasked)⟩
    unfold State.set
    dsimp only
    by_cases hkey : key' = key
    · rw [hkey, Function.update_self, Function.update_self, Option.map_some, hasked]
    · rw [Function.update_of_ne hkey, Function.update_of_ne hkey]
      exact hinv.filled key'
  · cases hagent

theorem step_inner {e : Gather.Event} (he : inner e = true) (hinv : Inv s)
    (h : step excluded s e = some s') : Inv s' ∧ (s'.Transparent ↔ s.Transparent) := by
  obtain ⟨agent, hagent, rfl⟩ := Option.map_eq_some_iff.mp h
  obtain ⟨hkept, hcollected⟩ := inner_step he hagent
  obtain ⟨hcache, hlog⟩ := Prod.mk.inj hkept
  have hfollow : s.follow agent e = { s with agent := agent } := by
    unfold Session.follow
    split
    · cases he
    · cases he
    · rfl
  rw [hfollow]
  refine ⟨⟨fun key => ?_, fun details hdetails => ?_⟩, ?_⟩
  · dsimp only
    rw [hcache]
    exact hinv.filled key
  · exact hinv.asked details (hcollected ▸ hdetails)
  · unfold Session.Transparent
    dsimp only
    rw [hlog]

/-- **The step lemma**: a step keeps the answers as asked if and only if it answers from an entry
that was filled for the same option, or from none. -/
theorem step_iff {e : Gather.Event} (hinv : Inv s) (h : step excluded s e = some s') :
    Inv s' ∧ (s'.Transparent ↔ s.Transparent ∧ SameOptions s e) := by
  match e with
  | .gather key includeDetails reads => exact step_gather hinv h
  | .publish now updates =>
    exact (step_publish hinv h).imp_right fun h => h.trans (and_iff_left trivial).symm
  | .docker _ | .dockerFailed | .totalCount | .failedCount | .listServices | .updateService _
  | .pruneServices _ | .freshServices =>
    exact (step_inner rfl hinv h).imp_right fun h => h.trans (and_iff_left trivial).symm

/-- **The run lemma.** -/
theorem run_iff {t : Session} {es : List Gather.Event} (hinv : Inv s)
    (hrun : run (step excluded) s es = some t) :
    t.Transparent ↔ s.Transparent ∧ Along (step excluded) SameOptions s es := by
  induction es generalizing s with
  | nil =>
    obtain rfl := Option.some.inj hrun
    exact (and_iff_left trivial).symm
  | cons e es ih =>
    obtain ⟨u, hu, hrun⟩ := run_cons_eq_some.mp hrun
    obtain ⟨hinv', hstep⟩ := step_iff hinv hu
    rw [ih hinv' hrun, hstep, along_cons, and_assoc]
    refine and_congr_right fun _ => and_congr_right fun _ => ⟨fun h v hv => ?_, fun h => h u hu⟩
    obtain rfl := Option.some.inj (hu.symm.trans hv)
    exact h

end Step

/-! ## Main results -/

/-- **In every run, the answers have the details exactly when they were asked for, if and only if**
every request answered from the cache asks for what the request asked that filled the entry. -/
theorem transparent_iff {excluded : String → Bool} {host : Agent.State}
    {filesystems : List (String × Gather.FsStats)} {diskUsageCacheDuration : ℤ}
    {es : List Gather.Event} {t : Session}
    (hrun : run (step excluded) (.new host filesystems diskUsageCacheDuration) es = some t) :
    t.Transparent ↔
      Along (step excluded) SameOptions (.new host filesystems diskUsageCacheDuration) es :=
  (run_iff (inv_new host filesystems diskUsageCacheDuration) hrun).trans (and_iff_right rfl)

/-- An agent without filesystems. -/
def exampleSession : Session := .new (.new ⟨[], fun _ => none, fun _ => none, none⟩ "") [] 0

/-- What is read at a time in seconds. -/
def readsAt (seconds : ℤ) : HostReadings where
  now := seconds * 1000000000
  readings := ⟨none, none, none, none, none, none, none, ∅, ⟨0, 0, none, none, none⟩⟩
  usage _ := none
  ioCounters := none

/-- A collection for the default key. -/
def collectOnce (includeDetails : Bool) (seconds : ℤ) : List Gather.Event :=
  [.gather 60000 includeDetails (readsAt seconds), .dockerFailed, .totalCount, .listServices,
    .publish (seconds * 1000000000) none]

/-- The details are asked for twice, and are there twice. -/
theorem transparent_iff_same_option :
    ∃ t, run (step fun _ => false) exampleSession
        (collectOnce true 0 ++ [.gather 60000 true (readsAt 10)]) = some t ∧
      t.asks = [true, true] ∧ t.agent.log.map (·.isCached) = [true, false] ∧
      (t.Transparent ↔ Along (step fun _ => false) SameOptions exampleSession
        (collectOnce true 0 ++ [.gather 60000 true (readsAt 10)])) := by
  have hrun : (run (step fun _ => false) exampleSession
      (collectOnce true 0 ++ [.gather 60000 true (readsAt 10)])).map
        (fun t => (t.asks, t.agent.log.map (·.isCached))) = some ([true, true], [true, false]) := by
    decide +kernel
  obtain ⟨t, ht, heq⟩ := Option.map_eq_some_iff.mp hrun
  exact ⟨t, ht, (Prod.mk.inj heq).1, (Prod.mk.inj heq).2, transparent_iff ht⟩

/-- A request with the details is answered from the entry of one without: the details are missing;
and the other way round they are there without being asked for. -/
theorem not_transparent :
    (∃ t ∈ run (step fun _ => false) exampleSession
        (collectOnce false 0 ++ [.gather 60000 true (readsAt 10)]), ¬ t.Transparent) ∧
      ∃ t ∈ run (step fun _ => false) exampleSession
        (collectOnce true 0 ++ [.gather 60000 false (readsAt 10)]), ¬ t.Transparent := by
  have hmissing : (run (step fun _ => false) exampleSession
      (collectOnce false 0 ++ [.gather 60000 true (readsAt 10)])).any (¬ ·.Transparent) = true := by
    decide +kernel
  have hunasked : (run (step fun _ => false) exampleSession
      (collectOnce true 0 ++ [.gather 60000 false (readsAt 10)])).any (¬ ·.Transparent) = true := by
    decide +kernel
  rw [Option.any_eq_true] at hmissing hunasked
  obtain ⟨t, ht, hmissing⟩ := hmissing
  obtain ⟨u, hu, hunasked⟩ := hunasked
  exact ⟨⟨t, ht, of_decide_eq_true hmissing⟩, u, hu, of_decide_eq_true hunasked⟩

end Details

end Agent

end Beszel
