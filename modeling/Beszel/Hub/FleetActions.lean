import Beszel.Hub.Routes
import Beszel.Machinery.Columns
import Beszel.Machinery.Pool

/-!
# Hub/FleetActions — the two routes that fan out to every system

    systems ──up──▸ first 500 ──▸ goroutines, five at a time ──▸ outcomes ──▸ map by display name

`applyAllPackageUpdates` of `internal/hub/hub.go` and `updateAllAgents` of
`internal/hub/agent_install.go`, with their goroutines.  The outcomes arrive in any order, and the
map that is returned has the last one under each name.
-/

namespace Beszel

open Machinery

namespace FleetActions

open Routes

/-! ## The two handlers -/

/-- A handler that fans out: the records its loop goes over, or the response where it does not come
to it; the records whose outcome the loop sends itself; and what is done for a record. -/
structure Action where
  records : Except Response (List SystemRecord)
  skips : SystemRecord → Bool
  one : SystemRecord → List Effect × String

section Handlers

variable (h : Hub) (agents : Agents)

/-- `applyAllPackageUpdates`. -/
def applyAll (securityOnly : Bool) (find : Option String) : Action where
  records :=
    match find with
    | some err => .error (apiError 500 err)
    | none => .ok (upRecords h)
  skips rec := rec.count securityOnly = 0
  one := applyAllOne h agents securityOnly

/-- `updateAllAgents`. -/
def updateAll (find : Option String) : Action where
  records :=
    if h.stagedAgentChecksums = [] then .error noneStaged
    else
      match find with
      | some err => .error (apiError 500 err)
      | none => .ok (upRecords h)
  skips _ := false
  one := updateAllOne h agents

/-- What a goroutine has done: the requests, and the outcome it has sent. -/
abbrev Done := List Effect × (String × String)

/-- The goroutines of a handler: `sem` has five places, `results` one for every record. -/
def Action.pool (a : Action) (records : List SystemRecord) : Pool SystemRecord Done where
  limit := 5
  capacity := records.length
  inline := a.skips
  work rec := ((a.one rec).1, rec.name, (a.one rec).2)

/-- The requests sent. -/
def effects (t : Pool.State SystemRecord Done) : List Effect := t.results.flatMap Prod.fst

/-- The loop over the channel at the end. -/
def collect (outcomes : List (String × String)) : AList fun _ : String => String :=
  outcomes.foldl (fun out o => out.insert o.1 o.2) ∅

/-- The map that is returned. -/
def out (t : Pool.State SystemRecord Done) : AList fun _ : String => String :=
  collect (t.results.map Prod.snd)

end Handlers

/-! ## The map -/

section Map

variable {outcomes : List (String × String)}

theorem mem_foldl_insert {m : AList fun _ : String => String} {k : String} :
    k ∈ outcomes.foldl (fun out o => out.insert o.1 o.2) m ↔ k ∈ outcomes.map Prod.fst ∨ k ∈ m := by
  induction outcomes generalizing m with
  | nil => simp
  | cons o outcomes ih => rw [List.foldl_cons, ih, AList.mem_insert, List.map_cons, List.mem_cons,
      or_left_comm, or_assoc]

/-- **The map has the names**, each once. -/
theorem length_keys_collect :
    (collect outcomes).keys.length = (outcomes.map Prod.fst).dedup.length := by
  refine List.Perm.length_eq ?_
  rw [List.perm_ext_iff_of_nodup (AList.keys_nodup _) (List.nodup_dedup _)]
  intro k
  rw [List.mem_dedup, ← AList.mem_keys]
  refine mem_foldl_insert.trans (or_iff_left ?_)
  exact List.not_mem_nil

/-- Where keys are distinct, one element has a key. -/
theorem filter_key_eq_singleton {α κ : Type} [DecidableEq κ] {key : α → κ} {l : List α} {a : α}
    (hkeys : (l.map key).Nodup) (ha : a ∈ l) : l.filter (key · = key a) = [a] := by
  induction l with
  | nil => cases ha
  | cons b l ih =>
    obtain ⟨hb, hkeys⟩ := List.nodup_cons.mp hkeys
    rcases List.mem_cons.mp ha with rfl | ha
    · have hnone : l.filter (key · = key a) = [] := by
        rw [List.filter_eq_nil_iff]
        exact fun c hc heq => hb (List.mem_map.mpr ⟨c, hc, of_decide_eq_true heq⟩)
      rw [List.filter_cons_of_pos (by simp), hnone]
    · have hne : key b ≠ key a := fun heq => hb (List.mem_map.mpr ⟨a, ha, heq.symm⟩)
      rw [List.filter_cons_of_neg (by simpa using hne), ih hkeys ha]

/-- **An outcome with a name of its own** is found under it. -/
theorem lookup_collect {o : String × String} (hnames : (outcomes.map Prod.fst).Nodup)
    (ho : o ∈ outcomes) : (collect outcomes).lookup o.1 = some o.2 := by
  have hfilter : outcomes.filter (·.1 = o.1) = [o] := filter_key_eq_singleton hnames ho
  have hlookup := lookup_foldl_insert (fun o : String × String => o.2) (fun _ o => o.2) Prod.fst
    outcomes ∅ o.1
  rw [hfilter] at hlookup
  exact hlookup

end Map

/-! ## What a handler does -/

/-- The systems that are up, as many as they are. -/
def upSystems (h : Hub) : List SystemRecord := h.systems.filter (·.status = .up)

/-- **A handler reaches the whole fleet**: it comes to its loop and to the end of it; then it has
sent the one call to every system that is up and wanted, and to no other, and the map has one entry
for every system that is up, with its own outcome. -/
def ReachesFleet (h : Hub) (a : Action) (call : Call) (wanted : SystemRecord → Bool) : Prop :=
  ∃ records, a.records = .ok records ∧
    (∀ es s, run (Pool.step (a.pool records)) (.init records) es = some s →
      ∃ es' t, run (Pool.step (a.pool records)) s es' = some t ∧ t.Done) ∧
    ∀ es t, run (Pool.step (a.pool records)) (.init records) es = some t → t.Done →
      (effects t).Perm (((upSystems h).filter wanted).map fun rec => .sent rec.id call) ∧
        (out t).keys.length = (upSystems h).length ∧
        ∀ rec ∈ upSystems h, (out t).lookup rec.name = some (a.one rec).2

/-- The fleet is at most 500 systems with distinct names, and those that are wanted are in the store
of the manager. -/
def Reachable (h : Hub) (wanted : SystemRecord → Bool) : Prop :=
  (upSystems h).length ≤ 500 ∧ ((upSystems h).map SystemRecord.name).Nodup ∧
    ∀ rec ∈ upSystems h, wanted rec = true → rec.id ∈ h.store

section Runs

variable {h : Hub} {a : Action} {records : List SystemRecord}
  {t : Pool.State SystemRecord Done}

/-- Every run comes to its end. -/
theorem ends {es : List (Pool.Event SystemRecord)} {s : Pool.State SystemRecord Done}
    (hs : run (Pool.step (a.pool records)) (.init records) es = some s) :
    ∃ es' t, run (Pool.step (a.pool records)) s es' = some t ∧ t.Done :=
  Pool.exists_run_done (Nat.succ_pos 4) le_rfl (Pool.inv_run hs)

/-- A handler is at its end after four steps for each record at most. -/
theorem length_le {es : List (Pool.Event SystemRecord)} {s : Pool.State SystemRecord Done}
    (hs : run (Pool.step (a.pool records)) (.init records) es = some s) :
    es.length ≤ 4 * records.length :=
  (Pool.length_le_of_run hs).trans_eq (by simp [Pool.State.left, Pool.State.init])

/-- **No more than five agents are asked at a time.** -/
theorem working_le {es : List (Pool.Event SystemRecord)} {s : Pool.State SystemRecord Done}
    (hs : run (Pool.step (a.pool records)) (.init records) es = some s) : s.working.length ≤ 5 :=
  (Nat.le_add_right _ _).trans (Pool.inv_run hs).places

/-- **What the goroutines do is what the loop would do**, in some order: the requests. -/
theorem effects_perm (hs : Pool.Inv (a.pool records) records t) (hdone : t.Done) :
    (effects t).Perm (fanOut a.one records).1 := by
  have hperm := (Pool.perm_of_done hs hdone).flatMap_right Prod.fst
  rwa [List.flatMap_map] at hperm

/-- …and the outcomes. -/
theorem outcomes_perm (hs : Pool.Inv (a.pool records) records t) (hdone : t.Done) :
    (t.results.map Prod.snd).Perm (records.map fun rec => (rec.name, (a.one rec).2)) := by
  have hperm := (Pool.perm_of_done hs hdone).map Prod.snd
  rwa [List.map_map] at hperm

/-- The names in the channel. -/
theorem names_perm (hs : Pool.Inv (a.pool records) records t) (hdone : t.Done) :
    ((t.results.map Prod.snd).map Prod.fst).Perm (records.map SystemRecord.name) := by
  have hperm := (outcomes_perm hs hdone).map Prod.fst
  rwa [List.map_map (l := records)] at hperm

/-- **The map has one entry for every record** if and only if the names are distinct. -/
theorem length_keys_out (hs : Pool.Inv (a.pool records) records t) (hdone : t.Done) :
    (out t).keys.length = (records.map SystemRecord.name).dedup.length := by
  unfold out
  rw [length_keys_collect]
  exact (names_perm hs hdone).dedup.length_eq

/-- **Every record has its own outcome** under its name, if the names are distinct. -/
theorem lookup_out (hs : Pool.Inv (a.pool records) records t) (hdone : t.Done)
    (hnames : (records.map SystemRecord.name).Nodup) {rec : SystemRecord} (hrec : rec ∈ records) :
    (out t).lookup rec.name = some (a.one rec).2 := by
  have hnodup := (names_perm hs hdone).nodup_iff.mpr hnames
  have hmem : (rec.name, (a.one rec).2) ∈ t.results.map Prod.snd :=
    (outcomes_perm hs hdone).mem_iff.mpr (List.mem_map.mpr ⟨rec, hrec, rfl⟩)
  exact lookup_collect hnodup hmem

end Runs

/-- The requests to the records that are wanted and in the store. -/
theorem flatMap_ite_sent {h : Hub} {call : Call} {wanted : SystemRecord → Bool}
    {records : List SystemRecord}
    (hstore : ∀ rec ∈ records, wanted rec = true → rec.id ∈ h.store) :
    (records.flatMap fun rec =>
        if wanted rec = true ∧ rec.id ∈ h.store then [Effect.sent rec.id call] else []) =
      (records.filter wanted).map fun rec => .sent rec.id call := by
  induction records with
  | nil => rfl
  | cons rec records ih =>
    rw [List.flatMap_cons, ih fun rec' hrec' => hstore rec' (List.mem_cons_of_mem rec hrec')]
    cases hw : wanted rec with
    | true =>
      rw [if_pos ⟨rfl, hstore rec List.mem_cons_self hw⟩, List.filter_cons_of_pos hw]
      rfl
    | false =>
      rw [if_neg fun h => Bool.false_ne_true h.1, List.filter_cons_of_neg (hw ▸ Bool.false_ne_true)]
      rfl

/-- **A handler reaches the whole fleet if and only if** it comes to its loop, and the fleet is at
most 500 systems with distinct names, those that are wanted being in the store. -/
theorem reachesFleet_iff_of_effects {h : Hub} {a : Action} {call : Call}
    {wanted : SystemRecord → Bool}
    (hrecords : ∀ records, a.records = .ok records → records = (upSystems h).take 500)
    (heffects : ∀ rec, (a.one rec).1 =
      if wanted rec = true ∧ rec.id ∈ h.store then [.sent rec.id call] else []) :
    ReachesFleet h a call wanted ↔ (∃ records, a.records = .ok records) ∧ Reachable h wanted := by
  have hone : ∀ records : List SystemRecord, (fanOut a.one records).1 =
      records.flatMap fun rec =>
        if wanted rec = true ∧ rec.id ∈ h.store then [Effect.sent rec.id call] else [] :=
    fun records => congrArg (List.flatMap · records) (funext heffects)
  constructor
  · rintro ⟨records, hok, hends, hall⟩
    obtain ⟨es, t, hrun, hdone⟩ := hends [] _ rfl
    have hinv := Pool.inv_run hrun
    obtain ⟨hsent, hlength, -⟩ := hall es t hrun hdone
    rw [length_keys_out hinv hdone, hrecords records hok] at hlength
    have hsub := (List.dedup_sublist (((upSystems h).take 500).map SystemRecord.name))
    have hle := hsub.length_le
    rw [hlength, List.length_map, List.length_take] at hle
    have hlimit : (upSystems h).length ≤ 500 := by omega
    rw [List.take_of_length_le hlimit] at hsub hlength
    refine ⟨⟨records, hok⟩, hlimit, ?_, fun rec hrec hwanted => ?_⟩
    · rw [← List.dedup_eq_self]
      exact hsub.eq_of_length (hlength.trans (List.length_map _).symm)
    · have hmem : Effect.sent rec.id call ∈ (fanOut a.one records).1 :=
        (effects_perm hinv hdone).mem_iff.mp (hsent.mem_iff.mpr
          (List.mem_map.mpr ⟨rec, List.mem_filter.mpr ⟨hrec, hwanted⟩, rfl⟩))
      rw [hone] at hmem
      obtain ⟨rec', -, hrec'⟩ := List.mem_flatMap.mp hmem
      split_ifs at hrec' with hguard
      · injection List.mem_singleton.mp hrec' with hid
        exact hid ▸ hguard.2
      · cases hrec'
  · rintro ⟨⟨records, hok⟩, hlimit, hnames, hstore⟩
    have hup : records = upSystems h :=
      (hrecords records hok).trans (List.take_of_length_le hlimit)
    subst hup
    refine ⟨_, hok, fun es s hs => ends hs, fun es t hrun hdone => ?_⟩
    have hinv := Pool.inv_run hrun
    refine ⟨?_, ?_, fun rec hrec => lookup_out hinv hdone hnames hrec⟩
    · rw [← flatMap_ite_sent hstore, ← hone]
      exact effects_perm hinv hdone
    · rw [length_keys_out hinv hdone, List.dedup_eq_self.mpr hnames, List.length_map]

/-! ## Main results -/

section Main

variable (h : Hub) (agents : Agents) (securityOnly : Bool) (find : Option String)

/-- A system that reports an update. -/
def reports (securityOnly : Bool) (rec : SystemRecord) : Bool := rec.count securityOnly ≠ 0

/-- **The handlers with their goroutines do what the handlers of the routes do**, where these list
the requests and the outcomes in the order of the records. -/
theorem applyAllPackageUpdates_eq :
    applyAllPackageUpdates h agents securityOnly find =
      match (applyAll h agents securityOnly find).records with
      | .error response => ([], response)
      | .ok records => fanOut (applyAll h agents securityOnly find).one records := by
  cases find <;> rfl

theorem updateAllAgents_eq :
    updateAllAgents h agents find =
      match (updateAll h agents find).records with
      | .error response => ([], response)
      | .ok records => fanOut (updateAll h agents find).one records := by
  unfold updateAllAgents updateAll
  split_ifs
  · rfl
  · cases find <;> rfl

theorem applyAll_records :
    (∃ records, (applyAll h agents securityOnly find).records = .ok records) ↔ find = none := by
  cases find with
  | none => exact ⟨fun _ => rfl, fun _ => ⟨_, rfl⟩⟩
  | some => exact ⟨fun ⟨_, hok⟩ => (nomatch hok), fun hnone => (nomatch hnone)⟩

theorem updateAll_records :
    (∃ records, (updateAll h agents find).records = .ok records) ↔
      h.stagedAgentChecksums ≠ [] ∧ find = none := by
  unfold updateAll
  split_ifs with hstaged
  · exact ⟨fun ⟨_, hok⟩ => (nomatch hok), fun hne => absurd hstaged hne.1⟩
  · cases find with
    | none => exact ⟨fun _ => ⟨hstaged, rfl⟩, fun _ => ⟨_, rfl⟩⟩
    | some => exact ⟨fun ⟨_, hok⟩ => (nomatch hok), fun hnone => (nomatch hnone.2)⟩

/-- **Both handlers reach the whole fleet if and only if** the query does not fail, at most 500
systems are up, their names are distinct, and those a request is for are in the store of the
manager; agents can be updated only where binaries are staged. -/
theorem reachesFleet_iff :
    (ReachesFleet h (applyAll h agents securityOnly find)
        (.applyPackageUpdates [] true securityOnly) (reports securityOnly) ↔
          find = none ∧ Reachable h (reports securityOnly)) ∧
      (ReachesFleet h (updateAll h agents find) (.updateAgent h.appURL h.stagedAgentChecksums)
        (fun _ => true) ↔
          (h.stagedAgentChecksums ≠ [] ∧ find = none) ∧ Reachable h fun _ => true) := by
  constructor
  · rw [← applyAll_records h agents securityOnly find]
    refine reachesFleet_iff_of_effects (fun records hok => ?_) fun rec => ?_
    · cases find with
      | none => exact (Except.ok.inj hok).symm
      | some => cases hok
    · refine applyAllOne_effects.trans ?_
      simp only [reports, decide_eq_true_eq]
  · rw [← updateAll_records h agents find]
    refine reachesFleet_iff_of_effects (fun records hok => ?_) fun rec => ?_
    · unfold updateAll at hok
      split_ifs at hok
      cases find with
      | none => exact (Except.ok.inj hok).symm
      | some => cases hok
    · refine updateAllOne_effects.trans ?_
      simp only [true_and]

end Main

/-! ### Two systems of one name -/

/-- A hub with two systems that have the name `db`, one of which reports an update. -/
def namesakes : Hub where
  shareAllSystems := ""
  containerDetails := ""
  users := []
  systems := [⟨"sys1", "db", .up, [], 1, 0⟩, ⟨"sys2", "db", .up, [], 0, 0⟩]
  store := ["sys1", "sys2"]
  alerts := []
  stagedAgentChecksums := []
  appURL := "http://localhost:8090"

/-- Both outcomes go under one name, so the map has one entry for the two. -/
theorem not_reachesFleet :
    ¬ ReachesFleet namesakes (applyAll namesakes healthyAgents false none)
      (.applyPackageUpdates [] true false) (reports false) := by
  rintro ⟨records, hok, hends, hall⟩
  obtain rfl := Except.ok.inj hok
  obtain ⟨es, t, hrun, hdone⟩ := hends [] _ rfl
  have hlength := (hall es t hrun hdone).2.1
  rw [length_keys_out (Pool.inv_run hrun) hdone] at hlength
  exact absurd hlength (by decide)

end FleetActions

end Beszel
