import Beszel.Hub.AgentConnect

/-!
# Hub/NewSystem — the system of a universal token is created in two saves

    systems ──commit──▸ onRecordAfterCreateSuccess ──▸ System in the manager
       ╰──▸ fingerprints ──▸ error, or the record

`createNewSystemForUniversalToken` of `internal/hub/agent_connect.go` together with the hooks of
`internal/hub/systems/system_manager.go` that the first save runs.  An agent whose fingerprint was
not stored connects again as one that is not known.
-/

namespace Beszel

open Machinery

namespace NewSystem

open AgentConnect (Db SystemRow FingerprintRecord Env)

/-! ## The manager -/

/-- A `System`, as `AddRecord` populates it. -/
structure System where
  id : SystemId
  status : SystemStatus
  host : String
  port : String
  deriving DecidableEq, Repr

/-- The database and the store of the manager. -/
structure State where
  db : Db
  systems : List System
  deriving DecidableEq, Repr

/-- `AddSystem`, with the error it returns. -/
def addSystem (systems : List System) (sys : System) : List System × Option String :=
  if (Table.lookup System.id systems sys.id).isSome then (systems, some "system exists")
  else if sys.id = "" ∨ sys.host = "" then (systems, some "system missing required fields")
  else (systems ++ [sys], none)

/-- `AddRecord` without a `System`: one in the store is removed first. -/
def addRecord (systems : List System) (record : SystemRow) (status : SystemStatus) :
    List System × Option String :=
  addSystem (Table.remove System.id systems record.id)
    ⟨record.id, status, record.host, record.port⟩

/-- `onRecordCreate` sets the status. -/
def onRecordCreate : SystemStatus := .pending

/-- `onRecordAfterCreateSuccess`, which only logs the error. -/
def onRecordAfterCreateSuccess (systems : List System) (record : SystemRow) : List System :=
  (addRecord systems record onRecordCreate).1

/-! ## The function -/

/-- An agent that is not known: its request, its answer to the challenge and what its handshake
takes from outside. -/
structure Call where
  acr : AgentConnect.Attempt
  agentFingerprint : FingerprintResponse
  env : Env

/-- The host name of the agent, or its address. -/
def Call.hostname (c : Call) : String :=
  if c.agentFingerprint.hostname = "" then c.env.remoteAddr else c.agentFingerprint.hostname

/-- The record that `createSystem` saves. -/
def Call.record (c : Call) : SystemRow where
  id := c.env.systemId
  name := if c.agentFingerprint.name = "" then c.hostname else c.agentFingerprint.name
  host := c.env.remoteAddr
  port := if c.agentFingerprint.port = "" then "45876" else c.agentFingerprint.port
  users := [c.acr.userId]

/-- `createSystem`: the save runs the hooks. -/
def createSystem (s : State) (c : Call) : Except String SystemId × State :=
  match c.env.saveSystem with
  | .error err => (.error err, s)
  | .ok () =>
    (.ok c.record.id,
      { db := { s.db with systems := s.db.systems ++ [c.record] }
        systems := onRecordAfterCreateSuccess s.systems c.record })

/-- What is left to do once the system is there. -/
def bindNewSystem (s : State) (c : Call) (systemId : SystemId) :
    Except String FingerprintRecord × State :=
  let r := AgentConnect.bindNewSystem s.db c.env c.acr.token systemId c.agentFingerprint.fingerprint
  (r.1, { s with db := r.2 })

/-- **`createNewSystemForUniversalToken`**. -/
def createNewSystemForUniversalToken (s : State) (c : Call) :
    Except String FingerprintRecord × State :=
  if c.acr.isUniversalToken = false ∨ c.acr.userId = "" then (.error "invalid token", s)
  else
    match createSystem s c with
    | (.error err, s) => (.error err, s)
    | (.ok systemId, s) => bindNewSystem s c systemId

theorem createSystem_db (s : State) (c : Call) :
    AgentConnect.createSystem s.db c.env c.acr.userId c.agentFingerprint =
      (createSystem s c).1.map fun systemId => (systemId, (createSystem s c).2.db) := by
  unfold createSystem AgentConnect.createSystem
  cases c.env.saveSystem with
  | error err => rfl
  | ok => rfl

/-- **The hooks aside, this is the function of the handshake.** -/
theorem createNewSystem_db (s : State) (c : Call) :
    AgentConnect.createNewSystemForUniversalToken s.db c.env c.acr c.agentFingerprint =
      ((createNewSystemForUniversalToken s c).1, (createNewSystemForUniversalToken s c).2.db) := by
  unfold createNewSystemForUniversalToken AgentConnect.createNewSystemForUniversalToken
  split_ifs
  · rfl
  · have hfailed : (createSystem s c).1.isOk = false → (createSystem s c).2 = s := by
      unfold createSystem
      cases c.env.saveSystem with
      | error => exact fun _ => rfl
      | ok => exact fun h => nomatch h
    rw [createSystem_db]
    rcases hc : createSystem s c with ⟨err | systemId, s'⟩
    · rw [hc] at hfailed
      exact congrArg (fun s : State => (Except.error err, s.db)) (hfailed rfl).symm
    · rfl

/-! ## What a call comes to -/

/-- The fingerprint is stored if the system is. -/
def Clean (c : Call) : Prop :=
  c.acr.isUniversalToken = true → c.acr.userId ≠ "" → c.env.saveSystem.isOk = true →
    c.env.saveFingerprint.isOk = true

instance (c : Call) : Decidable (Clean c) :=
  inferInstanceAs (Decidable (_ → _ → _ → _))

/-- A call stores nothing, the system with its fingerprint, or the system alone. -/
inductive Outcome (s : State) (c : Call) : Except String FingerprintRecord × State → Prop
  | refused (err : String) (hclean : Clean c) : Outcome s c (.error err, s)
  | stored (q fp : FingerprintRecord) (systems : List System) (hclean : Clean c)
      (hfp : fp.systemId = c.record.id) :
      Outcome s c
        (.ok q, ⟨⟨s.db.fingerprints ++ [fp], s.db.systems ++ [c.record]⟩, systems⟩)
  | orphaned (err : String) (systems : List System) (hclean : ¬ Clean c) :
      Outcome s c (.error err, ⟨⟨s.db.fingerprints, s.db.systems ++ [c.record]⟩, systems⟩)

theorem outcome (s : State) (c : Call) : Outcome s c (createNewSystemForUniversalToken s c) := by
  unfold createNewSystemForUniversalToken
  split_ifs with hguard
  · refine .refused _ fun huniversal huser => ?_
    rcases hguard with hfalse | hempty
    · exact absurd huniversal (hfalse ▸ Bool.false_ne_true)
    · exact absurd hempty huser
  · obtain ⟨huniversal, huser⟩ := not_or.mp hguard
    unfold createSystem
    cases hsystem : c.env.saveSystem with
    | error err =>
      refine .refused err fun _ _ hok => ?_
      rw [hsystem] at hok
      cases hok
    | ok =>
      dsimp only
      unfold bindNewSystem AgentConnect.bindNewSystem AgentConnect.setFingerprint
      rw [if_pos rfl]
      cases hfp : c.env.saveFingerprint with
      | error err =>
        refine .orphaned err _ fun hclean => ?_
        have hok := hclean (Bool.not_eq_false _ ▸ huniversal) huser (hsystem ▸ rfl)
        rw [hfp] at hok
        cases hok
      | ok => exact .stored _ _ _ (fun _ _ _ => hfp ▸ rfl) rfl

/-! ## Main results -/

/-- A call that returns an error changes neither the database nor the manager. -/
def Atomic (s : State) (c : Call) : Prop :=
  (createNewSystemForUniversalToken s c).1.isOk = false →
    (createNewSystemForUniversalToken s c).2 = s

/-- One call after the other. -/
def step (s : State) (c : Call) : Option State := some (createNewSystemForUniversalToken s c).2

/-- A system without a fingerprint record. -/
def Orphan (db : Db) (row : SystemRow) : Prop :=
  row ∈ db.systems ∧ ∀ fp ∈ db.fingerprints, fp.systemId ≠ row.id

/-- **A call is atomic if and only if it is clean.** -/
theorem atomic_iff (s : State) (c : Call) : Atomic s c ↔ Clean c := by
  have houtcome := outcome s c
  unfold Atomic
  generalize createNewSystemForUniversalToken s c = r at houtcome ⊢
  cases houtcome with
  | refused err hclean => exact ⟨fun _ => hclean, fun _ _ => rfl⟩
  | stored q fp systems hclean hfp => exact ⟨fun _ => hclean, fun _ h => nomatch h⟩
  | orphaned err systems hclean =>
    refine ⟨fun h => ?_, fun h => absurd h hclean⟩
    have hsystems : s.db.systems ++ [c.record] = s.db.systems :=
      congrArg (fun s => s.db.systems) (h rfl)
    exact absurd (List.append_right_eq_self.mp hsystems) (List.cons_ne_nil _ _)

/-- A clean call leaves no system without a fingerprint that was not there. -/
theorem orphan_of_clean {s : State} {c : Call} {row : SystemRow} (hc : Clean c)
    (h : Orphan (createNewSystemForUniversalToken s c).2.db row) : Orphan s.db row := by
  have houtcome := outcome s c
  generalize createNewSystemForUniversalToken s c = r at houtcome h
  cases houtcome with
  | refused err hclean => exact h
  | stored q fp systems hclean hfp =>
    obtain ⟨hrow, hnone⟩ := h
    refine ⟨?_, fun fp' hfp' => hnone fp' (List.mem_append_left _ hfp')⟩
    rcases List.mem_append.mp hrow with hrow | hrow
    · exact hrow
    · obtain rfl := List.mem_singleton.mp hrow
      exact absurd hfp (hnone fp List.mem_concat_self)
  | orphaned err systems hclean => exact absurd hc hclean

/-- **An agent that keeps reconnecting** leaves no systems without a fingerprint behind, as long as
its calls are clean. -/
theorem orphans_of_clean {s t : State} {cs : List Call} (hclean : ∀ c ∈ cs, Clean c)
    (hrun : run step s cs = some t) (row : SystemRow) (h : Orphan t.db row) : Orphan s.db row := by
  induction cs generalizing s with
  | nil =>
    obtain rfl := Option.some.inj hrun
    exact h
  | cons c cs ih =>
    obtain ⟨u, hu, hrun⟩ := run_cons_eq_some.mp hrun
    obtain rfl := Option.some.inj hu
    exact orphan_of_clean (hclean c List.mem_cons_self)
      (ih (fun c' hc' => hclean c' (List.mem_cons_of_mem c hc')) hrun)

/-- **The calls of a run are atomic, and leave no system without a fingerprint behind**, if and only
if they are clean. -/
theorem atomic_run_iff (s : State) (cs : List Call) :
    (Along step Atomic s cs ∧
        ∀ t, run step s cs = some t → ∀ row, Orphan t.db row → Orphan s.db row) ↔
      ∀ c ∈ cs, Clean c := by
  have halong : ∀ s, Along step Atomic s cs ↔ ∀ c ∈ cs, Clean c := by
    induction cs with
    | nil => exact fun s => ⟨fun _ c hc => absurd hc List.not_mem_nil, fun _ => trivial⟩
    | cons c cs ih =>
      intro s
      rw [along_cons, atomic_iff, List.forall_mem_cons]
      exact and_congr_right fun _ => ⟨fun h => (ih _).mp (h _ rfl), fun h s' _ => (ih s').mpr h⟩
  rw [halong]
  exact and_iff_left_of_imp fun hclean t hrun => orphans_of_clean hclean hrun

/-! ### A fingerprint that cannot be stored -/

/-- A universal token. -/
def exampleCall : Call where
  acr := ⟨"token", true, "user", []⟩
  agentFingerprint := ⟨"fingerprint", "host", "", ""⟩
  env := ⟨"10.0.0.1", "system", "record", .ok (), .error "database is locked", .ok ()⟩

/-- The call returns an error; the system is in the database and in the manager, and there is no
fingerprint by which the next connection would find it. -/
theorem not_atomic :
    createNewSystemForUniversalToken ⟨⟨[], []⟩, []⟩ exampleCall =
        (.error "database is locked",
          ⟨⟨[], [⟨"system", "host", "10.0.0.1", "45876", ["user"]⟩]⟩,
            [⟨"system", .pending, "10.0.0.1", "45876"⟩]⟩) ∧
      ¬ Atomic ⟨⟨[], []⟩, []⟩ exampleCall :=
  ⟨by rfl, fun h => nomatch (congrArg State.systems (h rfl))⟩

end NewSystem

end Beszel
