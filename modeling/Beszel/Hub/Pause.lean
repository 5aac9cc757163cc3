import Beszel.Hub.Systems

/-!
# Hub/Pause — a user's pause and the rounds of the updaters

    update: check ──▸ fetch ──▸ load ──▸ save 'up'        setDown: check ──▸ load ──▸ save 'down'
                          ▲                                              ▲
    user:           save 'paused' ──▸ hook                         save 'paused' ──▸ hook

The machine of `Hub/Systems`, and whether the last change of the status by a user was a pause.  A
round looks at the status of its instance once, at its start, and saves the record at the end of it;
the instance takes the new status when the hook of the user's save runs.
-/

namespace Beszel

open Machinery

namespace Pause

open SystemManager (Op Event Branch perform followUp)

/-! ## The machine -/

/-- `paused` says that the last change of the status by a user was a pause. -/
structure State where
  hub : SystemManager.State
  paused : Bool

/-- A hub that has just started, with the record in any state. -/
def State.init (db : Option SystemStatus) : State := ⟨.init db, false⟩

/-- A user's save may be a pause; to create or to delete the record ends one. -/
def pausedAfter (paused : Bool) : Event → Bool
  | .commit status => status = .paused
  | .create | .delete => false
  | _ => paused

/-- **One event.** -/
def step (s : State) (e : Event) : Option State :=
  (SystemManager.step s.hub e).map fun hub => ⟨hub, pausedAfter s.paused e⟩

/-- **A pause is kept**: after a user's pause the stored status is `paused`. -/
def State.Kept (s : State) : Prop := s.paused = true → s.hub.db = some .paused

/-- Between the status check of `update` or `setDown` and its save. -/
def passed : Op → Bool
  | .fetch _ _ | .load _ _ | .save _ _ | .downLoad _ | .downSave _ => true
  | _ => false

/-- Nobody is between a check and its save. -/
def Clear (gs : List (List Op)) : Prop := ∀ g ∈ gs, ∀ op ∈ g, passed op = false

/-- A pause is committed while nobody is between a check and its save, and no check is passed while
the stored status is `paused`. -/
def InTime (s : State) : Event → Prop
  | .commit .paused => Clear s.hub.goroutines
  | .op (.update i _ :: _) _ _ =>
    s.hub.db = some .paused → (s.hub.systems i).status = .paused
  | .op (.downCheck i :: _) _ _ =>
    s.hub.db = some .paused →
      (s.hub.systems i).status = .down ∨ (s.hub.systems i).status = .paused
  | _ => True

/-- What runs in time keep: while the stored status is `paused` nobody is about to save. -/
structure Inv (s : State) : Prop where
  kept : s.Kept
  clear : s.hub.db = some .paused → Clear s.hub.goroutines

/-! ## What an operation does to the record and the rounds -/

section Operations

variable {s : SystemManager.State} {op : Op} {rest ops : List Op} {branch : Branch} {ok : Bool}

theorem db_writeBy_ne {status : SystemStatus} {i : ℕ} (hne : status ≠ .paused)
    (hdb : s.db ≠ some .paused) : (SystemManager.writeBy s i status).db ≠ some .paused := by
  unfold SystemManager.writeBy
  split
  · exact hdb
  · exact fun h => hne (Option.some.inj h)

/-- Only a save writes the record. -/
theorem db_perform (hop : passed op = false) : (perform s branch ok op).db = s.db := by
  cases op with
  | save i loop | downSave i => exact absurd hop Bool.true_eq_false.mp
  | hookDispatch i status | select i =>
    simp only [perform]
    split_ifs <;> rfl
  | _ => rfl

/-- No round pauses a system. -/
theorem db_perform_ne (hdb : s.db ≠ some .paused) :
    (perform s branch ok op).db ≠ some .paused := by
  cases op with
  | save i loop | downSave i =>
    simp only [perform]
    split_ifs
    · exact db_writeBy_ne (by decide) hdb
    · exact hdb
  | hookDispatch i status | select i =>
    simp only [perform]
    split_ifs <;> exact hdb
  | _ => exact hdb

/-- What an operation starts begins with its check. -/
theorem clear_perform (hs : Clear s.goroutines) : Clear (perform s branch ok op).goroutines := by
  cases op with
  | start i =>
    intro g hg
    rcases List.mem_cons.mp hg with rfl | hg
    · simp [passed]
    · exact hs g hg
  | hookDispatch i status =>
    simp only [perform]
    split_ifs
    · intro g hg
      rcases List.mem_cons.mp hg with rfl | hg
      · simp [passed]
      · exact hs g hg
    · exact hs
  | select i =>
    simp only [perform]
    split_ifs <;> exact hs
  | save i loop | downSave i =>
    simp only [perform]
    split_ifs
    · exact (SystemManager.writeBy_spec s i _).2.2 ▸ hs
    · exact hs
  | _ => exact hs

/-- **Past no check, an operation leads to none**, unless it is the check and passes it. -/
theorem followUp_not_passed (hop : passed op = false)
    (hupdate : ∀ i loop, op = .update i loop → (s.systems i).status = .paused)
    (hdown : ∀ i, op = .downCheck i →
      (s.systems i).status = .down ∨ (s.systems i).status = .paused)
    (h : followUp s branch ok op = some ops) : ∀ op' ∈ ops, passed op' = false := by
  have hadd (status : SystemStatus) (wsConn : Bool) (caller : Option ℕ) :
      ∀ op' ∈ SystemManager.addRecord status wsConn caller, passed op' = false := by
    simp [SystemManager.addRecord, passed]
  cases op with
  | fetch | load | save | downLoad | downSave => exact absurd hop Bool.true_eq_false.mp
  | update i loop =>
    obtain rfl := Option.some.inj h
    rw [if_pos (hupdate i loop rfl)]
    simp [passed]
  | downCheck i =>
    obtain rfl := Option.some.inj h
    rw [if_pos (hdown i rfl)]
    exact fun _ h => absurd h List.not_mem_nil
  | select i =>
    cases branch with
    | done =>
      obtain ⟨-, h⟩ := Option.ite_none_right_eq_some.mp h
      obtain rfl := Option.some.inj h
      exact fun _ h => absurd h List.not_mem_nil
    | tick =>
      obtain rfl := Option.some.inj h
      simp [passed]
    | down =>
      obtain ⟨-, rfl⟩ := guard_eq_some h
      simp [passed]
  | hookGet status caller =>
    obtain rfl := Option.some.inj h
    split
    · simp [passed]
    · split_ifs
      · exact fun _ h => absurd h List.not_mem_nil
      · exact hadd status false caller
  | hookDispatch i status =>
    obtain rfl := Option.some.inj h
    split_ifs
    · exact hadd .pending false none
    · exact fun _ h => absurd h List.not_mem_nil
  | has status wsConn caller =>
    obtain rfl := Option.some.inj h
    split_ifs
    · cases caller <;> simp [passed]
    · simp [passed]
  | getOk | rotate =>
    obtain rfl := Option.some.inj h
    cases s.store <;> simp [passed]
  | hasRecord | pausing | rotateCheck | starting =>
    obtain rfl := Option.some.inj h
    split_ifs <;> simp [passed]
  | set | start | remove | cancel | hookStatus =>
    obtain rfl := Option.some.inj h
    simp [passed]

end Operations

/-! ## Runs -/

section Runs

variable {s s' : State} {hub : SystemManager.State}

theorem inv_init (db : Option SystemStatus) : Inv (State.init db) :=
  ⟨fun h => absurd h Bool.false_ne_true, fun _ _ hg => absurd hg List.not_mem_nil⟩

/-- A goroutine is started that is past no check. -/
theorem Inv.spawn (hs : Inv s) {g : List Op} (hg : ∀ op ∈ g, passed op = false) :
    Inv ⟨s.hub.spawn g, s.paused⟩ := by
  refine ⟨hs.kept, fun hdb g' hg' => ?_⟩
  rcases List.mem_cons.mp hg' with rfl | hg'
  · exact hg
  · exact hs.clear hdb g' hg'

/-- The record after a change by a user, which starts a goroutine past no check. -/
theorem inv_spawn_of_db {db : Option SystemStatus} {paused : Bool} {g : List Op}
    (hp : paused = true → db = some .paused) (hclear : db = some .paused → Clear hub.goroutines)
    (hg : ∀ op ∈ g, passed op = false) :
    Inv ⟨SystemManager.State.spawn { hub with db := db } g, paused⟩ :=
  Inv.spawn (s := ⟨{ hub with db := db }, paused⟩) ⟨hp, hclear⟩ hg

/-- **A goroutine does its next operation.** -/
theorem Inv.goroutine {g : List Op} {branch : Branch} {ok : Bool} (hs : Inv s)
    (hok : InTime s (.op g branch ok)) (h : SystemManager.step s.hub (.op g branch ok) = some hub) :
    Inv ⟨hub, s.paused⟩ := by
  cases g with
  | nil => cases h
  | cons op rest =>
    obtain ⟨hg, h⟩ := Option.ite_none_right_eq_some.mp h
    obtain ⟨ops, hops, rfl⟩ := Option.map_eq_some_iff.mp h
    by_cases hdb : s.hub.db = some .paused
    · have hclear := hs.clear hdb
      have hpassed : passed op = false := hclear _ hg op List.mem_cons_self
      have hnext : ∀ op' ∈ ops, passed op' = false := by
        refine followUp_not_passed hpassed (fun i loop hop => ?_) (fun i hop => ?_) hops
        · subst hop
          exact hok hdb
        · subst hop
          exact hok hdb
      refine ⟨fun _ => (db_perform hpassed).trans hdb, fun _ g' hg' => ?_⟩
      rcases List.mem_cons.mp hg' with rfl | hg'
      · intro op' hop
        rcases List.mem_append.mp hop with hop | hop
        · exact hnext op' hop
        · exact hclear _ hg op' (List.mem_cons_of_mem _ hop)
      · exact clear_perform hclear g' (List.mem_of_mem_erase hg')
    · exact ⟨fun hp => absurd (hs.kept hp) hdb, fun h => absurd h (db_perform_ne hdb)⟩

/-- **One step.** -/
theorem Inv.step {e : Event} (hs : Inv s) (hok : InTime s e) (hstep : step s e = some s') :
    Inv s' := by
  obtain ⟨hub, h, rfl⟩ := Option.map_eq_some_iff.mp hstep
  have hadd (status : SystemStatus) (wsConn : Bool) :
      ∀ op ∈ SystemManager.addRecord status wsConn none, passed op = false := by
    simp [SystemManager.addRecord, passed]
  cases e with
  | create =>
    obtain ⟨-, rfl⟩ := guard_eq_some h
    exact inv_spawn_of_db (fun hp => absurd hp Bool.false_ne_true)
      (fun hdb => absurd (Option.some.inj hdb) (by decide)) (hadd _ _)
  | delete =>
    obtain rfl := Option.some.inj h
    exact inv_spawn_of_db (fun hp => absurd hp Bool.false_ne_true)
      (fun hdb => absurd hdb.symm (Option.some_ne_none _)) (by simp [passed])
  | commit status =>
    simp only [SystemManager.step, Option.ite_none_left_eq_some, Option.some.injEq] at h
    obtain ⟨-, rfl⟩ := h
    refine inv_spawn_of_db (fun hp => congrArg some (of_decide_eq_true hp)) (fun hdb => ?_)
      (by simp [passed])
    obtain rfl := Option.some.inj hdb
    exact hok
  | addSystem status =>
    obtain rfl := Option.some.inj h
    exact hs.spawn (by simp [passed])
  | addWebSocketSystem =>
    obtain ⟨status, -, rfl⟩ := Option.map_eq_some_iff.mp h
    exact hs.spawn (hadd _ _)
  | removeSystem | tokenRotated =>
    obtain rfl := Option.some.inj h
    exact hs.spawn (by simp [passed])
  | op g branch ok => exact hs.goroutine hok h

/-- **A user's pause is kept** in every run in time, with the record in any state at the start. -/
theorem kept_of_along {db : Option SystemStatus} {es : List Event}
    (hok : Along step InTime (State.init db) es) (hr : run step (State.init db) es = some s) :
    s.Kept :=
  (inv_of_along (fun hs hok h => hs.step hok h) (inv_init db) hok hr).kept

end Runs

/-! ### A pause between two rounds, and pauses inside one -/

open SystemManager (turn added)

/-- A user pauses the system, and the hook finds the first instance. -/
def pause : List Event :=
  [.commit .paused, turn [.hookGet .paused none], turn [.hookStatus 0 .paused],
    turn [.hookDispatch 0 .paused]]

/-- The round of the first instance passes its check. -/
def checked : List Event := [turn [.starting 0, .select 0], turn [.update 0 true, .select 0]]

/-- The rest of the round. -/
def saved : List Event :=
  [turn [.fetch 0 true, .select 0], turn [.load 0 true, .select 0], turn [.save 0 true, .select 0]]

/-- The hook of the save, and the next round. -/
def nextRound : List Event :=
  [turn [.hookGet .up (some 0), .select 0], turn [.hookStatus 0 .up, .select 0],
    turn [.hookDispatch 0 .up, .select 0]] ++ pause ++
    [turn [.select 0], turn [.update 0 true, .select 0], .tokenRotated, turn [.rotate]]

instance (gs : List (List Op)) : Decidable (Clear gs) :=
  inferInstanceAs (Decidable (∀ g ∈ gs, ∀ op ∈ g, _))

instance (s : State) : ∀ e : Event, Decidable (InTime s e)
  | .commit .paused => inferInstanceAs (Decidable (Clear _))
  | .op (op :: _) _ _ =>
    match op with
    | .update _ _ | .downCheck _ => inferInstanceAs (Decidable (_ → _))
    | .hasRecord | .has _ _ _ | .set _ _ | .start _ | .getOk _ | .cancel _ _ | .remove _
    | .hookGet _ _ | .hookStatus _ _ | .hookDispatch _ _ | .rotate | .rotateCheck _ | .starting _
    | .select _ | .pausing _ | .fetch _ _ | .load _ _ | .save _ _ | .downLoad _ | .downSave _ =>
      .isTrue trivial
  | .commit .up | .commit .down | .commit .pending | .op [] _ _ | .create | .delete
  | .addSystem _ | .addWebSocketSystem | .removeSystem | .tokenRotated => .isTrue trivial

theorem kept_of_along_between :
    ∃ s, run step (State.init (some .up)) (added .up ++ checked ++ saved ++ nextRound) = some s ∧
      s.paused = true ∧ s.Kept := by
  have hok : Along step InTime (State.init (some .up))
      (added .up ++ checked ++ saved ++ nextRound) := by decide +kernel
  exact ⟨_, rfl, rfl, kept_of_along hok rfl⟩

/-- The agent's connection, whose token is rotated: `setDown` passes its check and loads. -/
def rotating : List Event :=
  [.addWebSocketSystem, turn (SystemManager.addRecord .up true none), turn [.has .up true none],
    turn [.set .up true], .tokenRotated, turn [.rotate], turn [.rotateCheck 0],
    turn [.downCheck 0, .getOk none]]

/-- **A pause during the fetch is overwritten** by the `up` of the round, and one between the check
and the save of a token rotation by its `down`. -/
theorem not_kept_pauseDuringFetch :
    (∃ s, run step (State.init (some .up)) (added .up ++ checked ++ pause ++ saved) = some s ∧
      s.paused = true ∧ s.hub.db = some .up ∧ ¬ s.Kept) ∧
    ∃ s, run step (State.init (some .up)) (rotating ++ pause ++
        [turn [.downLoad 0, .getOk none], turn [.downSave 0, .getOk none]]) = some s ∧
      s.paused = true ∧ s.hub.db = some .down ∧ ¬ s.Kept := by
  refine ⟨⟨_, rfl, rfl, rfl, fun h => ?_⟩, ⟨_, rfl, rfl, rfl, fun h => ?_⟩⟩
  all_goals exact absurd (h rfl) (by decide)

end Pause

end Beszel
