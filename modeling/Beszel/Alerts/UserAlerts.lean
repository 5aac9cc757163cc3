import Beszel.Alerts.History

/-!
# Alerts/UserAlerts — a user sets or deletes an alert of several systems

    body ──▸ for every system: find ──▸ skip, change, create or delete ──▸ commit
                                ╰──error──▸ roll back

`internal/alerts/alerts_api.go`.  The loops run inside one transaction, and find the alert of a
system by user, system and name.  A list may name a system twice or a system there is not: the first
is done once, and an unknown system gets its alert like any other.
-/

namespace Beszel

open Machinery

namespace UserAlerts

/-! ## The requests -/

/-- A record of `alerts`. -/
structure Alert extends AlertsHistory.Alert where
  min : UInt8
  deriving DecidableEq

/-- What an alert is found by. -/
def Alert.key (a : Alert) : String × String × String := (a.user, a.system, a.name)

/-- What happens in a round of a loop: whether the query and the write succeed, and the id that a
new record gets. -/
structure Round where
  queries : Bool
  writes : Bool
  newId : String

/-- What happens in a request: whether the collection is found, the rounds, and whether the
transaction is committed. -/
structure Env where
  finds : Bool
  rounds : ℕ → Round
  commits : Bool

/-- A loop over the systems, until there is an error. -/
def forSystems {σ : Type*} (body : Round → String → σ → Option σ) :
    (ℕ → Round) → List String → σ → Option σ
  | _, [], s => some s
  | rounds, systemId :: systems, s =>
    (body (rounds 0) systemId s).bind (forSystems body (fun i => rounds (i + 1)) systems)

/-- `RunInTransaction`: what the work leaves, if it ends without an error and is committed. -/
def runInTransaction {σ : Type*} (commits : Bool) (work : Option σ) : Option σ :=
  if commits then work else none

/-- The answer to a request. -/
inductive Response
  | badRequest (message : String)
  | error
  | success (count : Option UInt16)
  deriving DecidableEq

/-- The body of an upsert. -/
structure UpsertData where
  min : UInt8
  value : ℚ
  name : String
  systems : List String
  overwrite : Bool

/-- A new record of a user. -/
def newAlert (userID : String) (reqData : UpsertData) (systemId id : String) : Alert where
  id := id
  user := userID
  system := systemId
  name := reqData.name
  value := reqData.value
  min := reqData.min
  triggered := false

/-- A record with the values of a request. -/
def overwritten (reqData : UpsertData) (alertRecord : Alert) : Alert :=
  { alertRecord with value := reqData.value, min := reqData.min }

/-- A round of the loop of `UpsertUserAlerts`. -/
def upsertAlert (userID : String) (reqData : UpsertData) (round : Round) (systemId : String)
    (alerts : List Alert) : Option (List Alert) :=
  if !round.queries then none
  else
    match Table.lookup Alert.key alerts (userID, systemId, reqData.name) with
    | some alertRecord =>
      if !reqData.overwrite then some alerts
      else if !round.writes then none
      else some (Table.replace (·.id) alerts (overwritten reqData alertRecord))
    | none =>
      -- an id that is taken is refused
      if !round.writes || alerts.any (·.id = round.newId) then none
      else some (alerts ++ [newAlert userID reqData systemId round.newId])

/-- `UpsertUserAlerts`; the body is `none` if it cannot be bound. -/
def upsertUserAlerts (userID : String) (body : Option UpsertData) (env : Env)
    (alerts : List Alert) : Response × List Alert :=
  match body with
  | none => (.badRequest "Bad data", alerts)
  | some reqData =>
    if userID = "" || reqData.name = "" || reqData.systems.isEmpty then
      (.badRequest "Bad data", alerts)
    else if !env.finds then (.error, alerts)
    else
      match runInTransaction env.commits
        (forSystems (upsertAlert userID reqData) env.rounds reqData.systems alerts) with
      | some alerts' => (.success none, alerts')
      | none => (.error, alerts)

/-- The body of a deletion. -/
structure DeleteData where
  alertName : String
  systems : List String

/-- A round of the loop of `DeleteUserAlerts`, with `numDeleted`. -/
def deleteAlert (userID : String) (reqData : DeleteData) (round : Round) (systemId : String)
    (s : List Alert × UInt16) : Option (List Alert × UInt16) :=
  if !round.queries then none
  else
    match Table.lookup Alert.key s.1 (userID, systemId, reqData.alertName) with
    | none => some s
    | some alertRecord =>
      if !round.writes then none
      else some (Table.remove (·.id) s.1 alertRecord.id, s.2 + 1)

/-- `DeleteUserAlerts`. -/
def deleteUserAlerts (userID : String) (body : Option DeleteData) (env : Env)
    (alerts : List Alert) : Response × List Alert :=
  match body with
  | none => (.badRequest "Bad data", alerts)
  | some reqData =>
    if userID = "" || reqData.alertName = "" || reqData.systems.isEmpty then
      (.badRequest "Bad data", alerts)
    else
      match runInTransaction env.commits
        (forSystems (deleteAlert userID reqData) env.rounds reqData.systems (alerts, 0)) with
      | some (alerts', numDeleted) => (.success (some numDeleted), alerts')
      | none => (.error, alerts)

/-! ## What is to hold -/

/-- **Alerts are told apart** by their ids, and by user, system and name. -/
structure Unique (alerts : List Alert) : Prop where
  ids : (alerts.map (·.id)).Nodup
  keys : (alerts.map Alert.key).Nodup

/-- An alert of the user and the name, of a listed system. -/
def Listed (userID name : String) (systems : List String) (a : Alert) : Prop :=
  a.user = userID ∧ a.name = name ∧ a.system ∈ systems

instance (userID name : String) (systems : List String) :
    DecidablePred (Listed userID name systems) := fun _ => instDecidableAnd

/-- The alert `a` is what an upsert makes of `old`. -/
def Written (reqData : UpsertData) (old : Option Alert) (a : Alert) : Prop :=
  match old with
  | none => a.value = reqData.value ∧ a.min = reqData.min ∧ a.triggered = false
  | some b => a = if reqData.overwrite then overwritten reqData b else b

/-- Every alert is still there, with all its fields but the value and the minutes. -/
def Kept (alerts alerts' : List Alert) : Prop :=
  ∀ a ∈ alerts, ∃ a' ∈ alerts', a' = { a with value := a'.value, min := a'.min }

/-- **An upsert that succeeds**: every listed system has one alert, with the values of the request
if it is new or overwritten, and with its own otherwise; every alert that was there is still there,
triggered or not as it was; all other alerts are the same. -/
structure Upserted (userID : String) (reqData : UpsertData) (alerts alerts' : List Alert) :
    Prop where
  unique : Unique alerts'
  listed : ∀ systemId ∈ reqData.systems, ∃ a,
    alerts'.filter (Alert.key · = (userID, systemId, reqData.name)) = [a] ∧
      Written reqData (Table.lookup Alert.key alerts (userID, systemId, reqData.name)) a
  kept : Kept alerts alerts'
  others : alerts'.filter (¬ Listed userID reqData.name reqData.systems ·) =
    alerts.filter (¬ Listed userID reqData.name reqData.systems ·)

/-- **A deletion that succeeds**: the alerts of the listed systems are gone and counted, all other
alerts are the same. -/
structure Deleted (userID : String) (reqData : DeleteData) (numDeleted : UInt16)
    (alerts alerts' : List Alert) : Prop where
  unique : Unique alerts'
  rest : alerts' = alerts.filter (¬ Listed userID reqData.alertName reqData.systems ·)
  count : numDeleted.toNat = alerts.countP (Listed userID reqData.alertName reqData.systems ·)

/-! ## One row of a table with two keys -/

variable {alerts alerts' : List Alert} {a b : Alert} {userID : String}

theorem Alert.key_eq_iff {system name : String} :
    a.key = (userID, system, name) ↔ a.user = userID ∧ a.system = system ∧ a.name = name := by
  rw [Alert.key, Prod.mk.injEq, Prod.mk.injEq]

/-- The alerts of one more system. -/
theorem listed_cons_iff {name first : String} {systems : List String} :
    Listed userID name (first :: systems) a ↔
      a.key = (userID, first, name) ∨ Listed userID name systems a := by
  rw [Alert.key_eq_iff, Listed, Listed, List.mem_cons]
  tauto

theorem listed_singleton_iff {name system : String} :
    Listed userID name [system] a ↔ a.key = (userID, system, name) := by
  rw [Alert.key_eq_iff, Listed, List.mem_singleton]
  tauto

theorem Unique.id_iff (h : Unique alerts) (ha : a ∈ alerts) (hb : b ∈ alerts) :
    a.id = b.id ↔ a.key = b.key := by
  constructor
  · exact fun hid => congrArg Alert.key (List.inj_on_of_nodup_map h.ids ha hb hid)
  · exact fun hkey => congrArg (·.id) (List.inj_on_of_nodup_map h.keys ha hb hkey)

/-- Saving over an id is saving over user, system and name. -/
theorem Unique.replace_eq (h : Unique alerts) (ha : a ∈ alerts) (hid : b.id = a.id)
    (hkey : b.key = a.key) :
    Table.replace (·.id) alerts b = Table.replace Alert.key alerts b := by
  refine List.map_congr_left fun c hc => if_congr ?_ rfl rfl
  change c.id = b.id ↔ c.key = b.key
  rw [hid, hkey]
  exact h.id_iff hc ha

theorem Unique.remove_eq (h : Unique alerts) (ha : a ∈ alerts) :
    Table.remove (·.id) alerts a.id = Table.remove Alert.key alerts a.key :=
  List.filter_congr fun _ hc => decide_eq_decide.mpr (not_congr (h.id_iff hc ha))

theorem Unique.replace (h : Unique alerts) (ha : a ∈ alerts) (hid : b.id = a.id)
    (hkey : b.key = a.key) : Unique (Table.replace (·.id) alerts b) where
  ids := by
    rw [Table.map_key_replace]
    exact h.ids
  keys := by
    rw [h.replace_eq ha hid hkey, Table.map_key_replace]
    exact h.keys

theorem Unique.filter (h : Unique alerts) (p : Alert → Bool) : Unique (alerts.filter p) where
  ids := h.ids.sublist (List.filter_sublist.map _)
  keys := h.keys.sublist (List.filter_sublist.map _)

theorem Unique.append (h : Unique alerts) (hid : ∀ b ∈ alerts, b.id ≠ a.id)
    (hkey : Table.lookup Alert.key alerts a.key = none) : Unique (alerts ++ [a]) where
  ids := by
    rw [List.map_append, List.map_singleton]
    refine h.ids.append (List.nodup_singleton _) (List.disjoint_singleton.mpr fun hmem => ?_)
    obtain ⟨b, hb, heq⟩ := List.mem_map.mp hmem
    exact hid b hb heq
  keys := by
    rw [List.map_append, List.map_singleton]
    refine h.keys.append (List.nodup_singleton _) (List.disjoint_singleton.mpr fun hmem => ?_)
    obtain ⟨b, hb, heq⟩ := List.mem_map.mp hmem
    exact Table.key_ne_of_lookup_eq_none hkey b hb heq

/-! ## Upserts -/

theorem Kept.trans {alerts₁ : List Alert} (h : Kept alerts alerts₁) (h' : Kept alerts₁ alerts') :
    Kept alerts alerts' := by
  intro a ha
  obtain ⟨a₁, ha₁, heq₁⟩ := h a ha
  obtain ⟨a', ha', heq'⟩ := h' a₁ ha₁
  refine ⟨a', ha', ?_⟩
  rw [heq₁] at heq'
  exact heq'

theorem Written.trans {reqData : UpsertData} {old : Option Alert} (h : Written reqData old a)
    (h' : Written reqData (some a) b) : Written reqData old b := by
  unfold Written at h' ⊢
  subst h'
  cases old with
  | none => split_ifs <;> [exact ⟨rfl, rfl, h.2.2⟩; exact h]
  | some c =>
    unfold Written at h
    subst h
    split_ifs <;> rfl

variable {reqData : UpsertData} {systemId : String}

/-- **What the rounds of some systems do**: each has its alert written, and an alert of no such
system is the same. -/
structure Writes (userID : String) (reqData : UpsertData) (systems : List String)
    (alerts alerts' : List Alert) : Prop where
  unique : Unique alerts'
  kept : Kept alerts alerts'
  listed : ∀ systemId ∈ systems, ∃ a,
    Table.lookup Alert.key alerts' (userID, systemId, reqData.name) = some a ∧
      Written reqData (Table.lookup Alert.key alerts (userID, systemId, reqData.name)) a
  others : ∀ p : Alert → Bool, (∀ a, Listed userID reqData.name systems a → p a = false) →
    alerts'.filter p = alerts.filter p

/-- A new alert. -/
theorem Unique.writes_newAlert {id : String} (h : Unique alerts) (hid : ∀ b ∈ alerts, b.id ≠ id)
    (hfound : Table.lookup Alert.key alerts (userID, systemId, reqData.name) = none) :
    Writes userID reqData [systemId] alerts (alerts ++ [newAlert userID reqData systemId id]) where
  unique := h.append hid hfound
  kept := fun a ha => ⟨a, List.mem_append_left _ ha, rfl⟩
  listed := by
    rw [List.forall_mem_singleton, hfound]
    refine ⟨newAlert userID reqData systemId id, ?_, rfl, rfl, rfl⟩
    unfold Table.lookup at hfound ⊢
    rw [List.find?_append, hfound, Option.none_or]
    exact List.find?_cons_of_pos (decide_eq_true rfl)
  others p hp := by
    rw [List.filter_append, List.filter_singleton, hp _ (listed_singleton_iff.mpr rfl)]
    exact List.append_nil _

/-- An alert that is there, with the values of the request. -/
theorem Unique.writes_overwritten (h : Unique alerts)
    (hfound : Table.lookup Alert.key alerts (userID, systemId, reqData.name) = some a)
    (hover : reqData.overwrite = true) :
    Writes userID reqData [systemId] alerts
      (Table.replace (·.id) alerts (overwritten reqData a)) := by
  have hmem := Table.mem_of_lookup hfound
  have hkey := Table.key_of_lookup hfound
  have hreplace : Table.replace (·.id) alerts (overwritten reqData a) =
      Table.replace Alert.key alerts (overwritten reqData a) := h.replace_eq hmem rfl rfl
  refine ⟨h.replace hmem rfl rfl, fun b hb => ?_, ?_, fun p hp => ?_⟩
  · rw [hreplace]
    by_cases hba : b.key = a.key
    · rw [List.inj_on_of_nodup_map h.keys hb hmem hba]
      exact ⟨_, Table.mem_replace_self hmem rfl, rfl⟩
    · exact ⟨b, Table.mem_replace_of_ne hb hba, rfl⟩
  · rw [List.forall_mem_singleton, hreplace, Table.lookup_replace, hfound]
    refine ⟨_, if_pos hkey, ?_⟩
    unfold Written
    rw [hover]
    rfl
  · rw [hreplace]
    exact Table.filter_replace fun b hb => hp b (listed_singleton_iff.mpr (hb.trans hkey))

/-- An alert that is there, as it is. -/
theorem Unique.writes_skipped (h : Unique alerts)
    (hfound : Table.lookup Alert.key alerts (userID, systemId, reqData.name) = some a)
    (hover : reqData.overwrite = false) : Writes userID reqData [systemId] alerts alerts where
  unique := h
  kept := fun b hb => ⟨b, hb, rfl⟩
  listed := by
    rw [List.forall_mem_singleton, hfound]
    refine ⟨a, rfl, ?_⟩
    unfold Written
    rw [hover]
    rfl
  others _ _ := rfl

/-- **A round of an upsert** writes the alert of its system. -/
theorem upsertAlert_writes {round : Round} (h : Unique alerts)
    (hs : upsertAlert userID reqData round systemId alerts = some alerts') :
    Writes userID reqData [systemId] alerts alerts' := by
  unfold upsertAlert at hs
  obtain ⟨-, hs⟩ := Option.ite_none_left_eq_some.mp hs
  cases hfound : Table.lookup Alert.key alerts (userID, systemId, reqData.name) with
  | none =>
    rw [hfound] at hs
    obtain ⟨hfree, hs⟩ := Option.ite_none_left_eq_some.mp hs
    obtain rfl := Option.some.inj hs
    simp only [Bool.or_eq_true, List.any_eq_true, decide_eq_true_eq, not_or, not_exists,
      not_and] at hfree
    exact h.writes_newAlert hfree.2 hfound
  | some alertRecord =>
    rw [hfound] at hs
    dsimp only at hs
    cases hover : reqData.overwrite with
    | true =>
      rw [hover, Bool.not_true, if_neg Bool.false_ne_true] at hs
      obtain ⟨-, hs⟩ := Option.ite_none_left_eq_some.mp hs
      obtain rfl := Option.some.inj hs
      exact h.writes_overwritten hfound hover
    | false =>
      rw [hover, Bool.not_false, if_pos rfl] at hs
      obtain rfl := Option.some.inj hs
      exact h.writes_skipped hfound hover

/-- The alert of another system, from what the rounds leave as it is. -/
theorem lookup_congr {k : String × String × String}
    (h : alerts'.filter (Alert.key · = k) = alerts.filter (Alert.key · = k)) :
    Table.lookup Alert.key alerts' k = Table.lookup Alert.key alerts k := by
  unfold Table.lookup
  rw [← List.head?_filter, ← List.head?_filter, h]

/-- A round leaves the alert of a system that is not listed. -/
theorem Writes.lookup_eq {systems : List String} (h : Writes userID reqData systems alerts alerts')
    (hmem : systemId ∉ systems) :
    Table.lookup Alert.key alerts' (userID, systemId, reqData.name) =
      Table.lookup Alert.key alerts (userID, systemId, reqData.name) := by
  refine lookup_congr (h.others _ fun b hb => ?_)
  rw [decide_eq_false_iff_not, Alert.key_eq_iff]
  exact fun heq => hmem (heq.2.1 ▸ hb.2.2)

/-- **One round, and the rounds after it.** -/
theorem Writes.cons {first : String} {systems : List String} {alerts₁ : List Alert}
    (h₁ : Writes userID reqData [first] alerts alerts₁)
    (h : Writes userID reqData systems alerts₁ alerts') :
    Writes userID reqData (first :: systems) alerts alerts' where
  unique := h.unique
  kept := h₁.kept.trans h.kept
  listed systemId hmem := by
    obtain ⟨a₁, hfound₁, hwritten₁⟩ := h₁.listed first List.mem_cons_self
    by_cases hlater : systemId ∈ systems
    · obtain ⟨a, hfound, hwritten⟩ := h.listed systemId hlater
      refine ⟨a, hfound, ?_⟩
      by_cases hfirst : systemId = first
      · -- the system is listed again: the first round wrote what the later one reads
        subst hfirst
        rw [hfound₁] at hwritten
        exact hwritten₁.trans hwritten
      · rwa [h₁.lookup_eq fun hmem => hfirst (List.mem_singleton.mp hmem)] at hwritten
    · obtain rfl := (List.mem_cons.mp hmem).resolve_right hlater
      exact ⟨a₁, (h.lookup_eq hlater).trans hfound₁, hwritten₁⟩
  others p hp := by
    rw [h.others p fun a ha => hp a (listed_cons_iff.mpr (.inr ha))]
    exact h₁.others p fun a ha =>
      hp a (listed_cons_iff.mpr (.inl (listed_singleton_iff.mp ha)))

/-- **The loop of an upsert.** -/
theorem forSystems_upsert {rounds : ℕ → Round} {systems : List String} (h : Unique alerts)
    (hs : forSystems (upsertAlert userID reqData) rounds systems alerts = some alerts') :
    Writes userID reqData systems alerts alerts' := by
  induction systems generalizing rounds alerts with
  | nil =>
    obtain rfl := Option.some.inj hs
    exact ⟨h, fun a ha => ⟨a, ha, rfl⟩, fun _ hmem => absurd hmem List.not_mem_nil,
      fun _ _ => rfl⟩
  | cons first systems ih =>
    obtain ⟨alerts₁, hround, hrest⟩ := Option.bind_eq_some_iff.mp hs
    have hfirst := upsertAlert_writes h hround
    exact hfirst.cons (ih hfirst.unique hrest)

/-! ## Deletions -/

variable {deleteData : DeleteData}

/-- **A round of a deletion**: the alert of its system, if there is one, is removed and counted. -/
theorem deleteAlert_spec {round : Round} {systemId : String} {num num' : UInt16}
    (h : Unique alerts)
    (hs : deleteAlert userID deleteData round systemId (alerts, num) = some (alerts', num')) :
    alerts' = alerts.filter (Alert.key · ≠ (userID, systemId, deleteData.alertName)) ∧
      alerts.countP (Alert.key · = (userID, systemId, deleteData.alertName)) ≤ 1 ∧
      num' = num +
        UInt16.ofNat (alerts.countP (Alert.key · = (userID, systemId, deleteData.alertName))) := by
  rw [List.countP_eq_length_filter, Table.filter_key h.keys]
  unfold deleteAlert at hs
  obtain ⟨-, hs⟩ := Option.ite_none_left_eq_some.mp hs
  cases hfound : Table.lookup Alert.key alerts (userID, systemId, deleteData.alertName) with
  | none =>
    rw [hfound] at hs
    cases hs
    refine ⟨(List.filter_eq_self.mpr fun a ha => decide_eq_true ?_).symm, Nat.zero_le _, ?_⟩
    · exact Table.key_ne_of_lookup_eq_none hfound a ha
    · exact (UInt16.add_zero num).symm
  | some alertRecord =>
    rw [hfound] at hs
    obtain ⟨-, hs⟩ := Option.ite_none_left_eq_some.mp hs
    cases hs
    refine ⟨?_, le_rfl, rfl⟩
    rw [h.remove_eq (Table.mem_of_lookup hfound), Table.key_of_lookup hfound]
    rfl

/-- **The loop of a deletion.** -/
theorem forSystems_delete {rounds : ℕ → Round} {systems : List String} {num num' : UInt16}
    (h : Unique alerts)
    (hs : forSystems (deleteAlert userID deleteData) rounds systems (alerts, num) =
      some (alerts', num')) :
    alerts' = alerts.filter (¬ Listed userID deleteData.alertName systems ·) ∧
      alerts.countP (Listed userID deleteData.alertName systems ·) ≤ systems.length ∧
      num' = num +
        UInt16.ofNat (alerts.countP (Listed userID deleteData.alertName systems ·)) := by
  induction systems generalizing rounds alerts num with
  | nil =>
    obtain ⟨rfl, rfl⟩ := Prod.mk.inj (Option.some.inj hs)
    have hnone : ∀ a ∈ alerts, ¬ Listed userID deleteData.alertName [] a :=
      fun a _ hlisted => List.not_mem_nil hlisted.2.2
    rw [List.countP_eq_zero.mpr fun a ha => by simpa using hnone a ha]
    exact ⟨(List.filter_eq_self.mpr fun a ha => decide_eq_true (hnone a ha)).symm, le_rfl,
      (UInt16.add_zero num).symm⟩
  | cons first systems ih =>
    obtain ⟨⟨alerts₁, num₁⟩, hround, hrest⟩ := Option.bind_eq_some_iff.mp hs
    obtain ⟨rfl, hone, rfl⟩ := deleteAlert_spec h hround
    obtain ⟨rfl, hcount, rfl⟩ := ih (h.filter _) hrest
    have hsplit : alerts.countP (Listed userID deleteData.alertName (first :: systems) ·) =
        alerts.countP (Alert.key · = (userID, first, deleteData.alertName)) +
          (alerts.filter (Alert.key · ≠ (userID, first, deleteData.alertName))).countP
            (Listed userID deleteData.alertName systems ·) := by
      rw [List.countP_eq_countP_filter_add _ _
        (fun a => decide (Alert.key a = (userID, first, deleteData.alertName))),
        List.countP_filter, List.countP_filter, List.countP_filter]
      congr 1 <;> refine List.countP_congr fun a _ => ?_
      · simp only [Bool.and_eq_true, decide_eq_true_eq, listed_cons_iff]
        tauto
      · simp only [Bool.and_eq_true, decide_eq_true_eq, listed_cons_iff, Bool.not_eq_true',
          decide_eq_false_iff_not]
        tauto
    rw [hsplit, UInt16.ofNat_add, ← UInt16.add_assoc, List.length_cons]
    refine ⟨?_, by omega, rfl⟩
    rw [List.filter_filter]
    refine List.filter_congr fun a _ => ?_
    rw [Bool.eq_iff_iff, Bool.and_eq_true, decide_eq_true_eq, decide_eq_true_eq,
      decide_eq_true_eq, listed_cons_iff]
    tauto

/-! ## The requests keep their promises -/

variable {env : Env}

/-- **An upsert answers with success only if it has done its work, and else has done nothing.** -/
theorem upsertUserAlerts_spec (h : Unique alerts) {body : Option UpsertData} {response : Response}
    (hr : upsertUserAlerts userID body env alerts = (response, alerts')) :
    (response = .success none ∧ ∃ reqData ∈ body, Upserted userID reqData alerts alerts') ∨
      response ≠ .success none ∧ alerts' = alerts := by
  unfold upsertUserAlerts at hr
  cases body with
  | none =>
    cases hr
    exact .inr ⟨Response.noConfusion, rfl⟩
  | some reqData =>
    dsimp only at hr
    split_ifs at hr
    · cases hr
      exact .inr ⟨Response.noConfusion, rfl⟩
    · cases hr
      exact .inr ⟨Response.noConfusion, rfl⟩
    · cases hwork : runInTransaction env.commits
          (forSystems (upsertAlert userID reqData) env.rounds reqData.systems alerts) with
      | none =>
        rw [hwork] at hr
        cases hr
        exact .inr ⟨Response.noConfusion, rfl⟩
      | some after =>
        rw [hwork] at hr
        cases hr
        obtain ⟨-, hloop⟩ := Option.ite_none_right_eq_some.mp hwork
        have hwrites := forSystems_upsert h hloop
        refine .inl ⟨rfl, reqData, rfl, hwrites.unique, fun systemId hmem => ?_, hwrites.kept,
          hwrites.others _ fun a ha => decide_eq_false (not_not.mpr ha)⟩
        obtain ⟨a, hfound, hwritten⟩ := hwrites.listed systemId hmem
        refine ⟨a, ?_, hwritten⟩
        rw [Table.filter_key hwrites.unique.keys, hfound]
        rfl

/-- **A deletion** of fewer than 65536 systems likewise. -/
theorem deleteUserAlerts_spec (h : Unique alerts) {body : Option DeleteData}
    (hlength : ∀ reqData ∈ body, reqData.systems.length < 65536) {response : Response}
    (hr : deleteUserAlerts userID body env alerts = (response, alerts')) :
    (∃ numDeleted, response = .success (some numDeleted) ∧
        ∃ reqData ∈ body, Deleted userID reqData numDeleted alerts alerts') ∨
      (∀ numDeleted, response ≠ .success (some numDeleted)) ∧ alerts' = alerts := by
  unfold deleteUserAlerts at hr
  cases body with
  | none =>
    cases hr
    exact .inr ⟨fun _ => Response.noConfusion, rfl⟩
  | some reqData =>
    dsimp only at hr
    split_ifs at hr
    · cases hr
      exact .inr ⟨fun _ => Response.noConfusion, rfl⟩
    · cases hwork : runInTransaction env.commits
          (forSystems (deleteAlert userID reqData) env.rounds reqData.systems (alerts, 0)) with
      | none =>
        rw [hwork] at hr
        cases hr
        exact .inr ⟨fun _ => Response.noConfusion, rfl⟩
      | some after =>
        rw [hwork] at hr
        cases hr
        obtain ⟨-, hloop⟩ := Option.ite_none_right_eq_some.mp hwork
        obtain ⟨hrest, hcount, hnum⟩ := forSystems_delete h hloop
        refine .inl ⟨_, rfl, reqData, rfl, hrest ▸ h.filter _, hrest, ?_⟩
        have hsmall := hlength reqData rfl
        rw [hnum, UInt16.zero_add, UInt16.toNat_ofNat', Nat.mod_eq_of_lt (by omega)]

/-- **The two requests**: one that succeeds leaves every listed system with its one alert, or
without one and the number of them, and all other alerts as they were; one that fails changes
nothing. -/
theorem requests_spec (h : Unique alerts) (userID : String) (env : Env)
    (upsertBody : Option UpsertData) (deleteBody : Option DeleteData)
    (hlength : ∀ reqData ∈ deleteBody, reqData.systems.length < 65536) :
    (∀ response alerts', upsertUserAlerts userID upsertBody env alerts = (response, alerts') →
      (response = .success none ∧ ∃ reqData ∈ upsertBody, Upserted userID reqData alerts alerts') ∨
        response ≠ .success none ∧ alerts' = alerts) ∧
      ∀ response alerts', deleteUserAlerts userID deleteBody env alerts = (response, alerts') →
        (∃ numDeleted, response = .success (some numDeleted) ∧
            ∃ reqData ∈ deleteBody, Deleted userID reqData numDeleted alerts alerts') ∨
          (∀ numDeleted, response ≠ .success (some numDeleted)) ∧ alerts' = alerts :=
  ⟨fun _ _ hr => upsertUserAlerts_spec h hr, fun _ _ hr => deleteUserAlerts_spec h hlength hr⟩

/-- A request in which nothing fails. -/
def smooth : Env := ⟨true, fun i => ⟨true, true, String.ofList (List.replicate i '+')⟩, true⟩

/-- A triggered alert of a system. -/
def triggeredAlert (user system : String) : Alert where
  id := user ++ system
  user := user
  system := system
  name := "CPU"
  value := 80
  min := 10
  triggered := true

/-- Two of three systems are new, one of them is listed twice; then two are deleted. -/
theorem requests_spec_cpu :
    (∀ response alerts', upsertUserAlerts "anna"
        (some ⟨5, 45, "CPU", ["web", "db", "web", "nas"], false⟩) smooth
        [triggeredAlert "anna" "db", triggeredAlert "ben" "db"] = (response, alerts') →
      (response = .success none ∧ ∃ reqData ∈
          (some ⟨5, 45, "CPU", ["web", "db", "web", "nas"], false⟩ : Option UpsertData),
          Upserted "anna" reqData [triggeredAlert "anna" "db", triggeredAlert "ben" "db"] alerts') ∨
        response ≠ .success none ∧
          alerts' = [triggeredAlert "anna" "db", triggeredAlert "ben" "db"]) ∧
      ∀ response alerts', deleteUserAlerts "anna" (some ⟨"CPU", ["db", "web", "db"]⟩) smooth
          [triggeredAlert "anna" "db", triggeredAlert "ben" "db"] = (response, alerts') →
        (∃ numDeleted, response = .success (some numDeleted) ∧
            ∃ reqData ∈ (some ⟨"CPU", ["db", "web", "db"]⟩ : Option DeleteData),
              Deleted "anna" reqData numDeleted
                [triggeredAlert "anna" "db", triggeredAlert "ben" "db"] alerts') ∨
          (∀ numDeleted, response ≠ .success (some numDeleted)) ∧
            alerts' = [triggeredAlert "anna" "db", triggeredAlert "ben" "db"] :=
  requests_spec ⟨by decide, by decide⟩ "anna" smooth _ _ (by decide)

end UserAlerts

end Beszel
