import Beszel.Machinery.Run
import Beszel.Machinery.Table
import Beszel.Common.Protocol
import Beszel.Hub.Record

/-!
# Hub/AgentConnect — agents connecting with a token, and the fingerprint they are bound to

    token ──lookup──▸ fingerprint records ──challenge──▸ presented fingerprint ──▸ system

`internal/hub/agent_connect.go`.  The records of the token are read when the agent connects and
used again after the challenge round trip, on the goroutine of that connection; a first connection
writes the presented fingerprint into its record, together with the token that was read.  Between
the two, other handshakes finish and users rotate tokens.
-/

namespace Beszel

open Machinery

namespace AgentConnect

/-! ## The records -/

/-- `ws.FingerprintRecord`, a row of the `fingerprints` collection. -/
structure FingerprintRecord where
  id : String
  systemId : SystemId
  fingerprint : String
  token : String
  deriving DecidableEq, Repr

/-- The fields of a system record that `createSystem` sets. -/
structure SystemRow where
  id : SystemId
  name : String
  host : String
  port : String
  users : List String
  deriving DecidableEq, Repr

/-- The two collections. -/
structure Db where
  fingerprints : List FingerprintRecord
  systems : List SystemRow
  deriving DecidableEq, Repr

/-- The fingerprint record with an id. -/
def Db.record (db : Db) (id : String) : Option FingerprintRecord :=
  Table.lookup FingerprintRecord.id db.fingerprints id

/-- `agentConnectRequest` after the upgrade, with the records read for its token. -/
structure Attempt where
  token : String
  isUniversalToken : Bool
  userId : String
  fpRecords : List FingerprintRecord
  deriving DecidableEq, Repr

/-- What a handshake takes from outside: the agent's address, the ids PocketBase gives to new
records, and the outcomes of its three writes. -/
structure Env where
  remoteAddr : String
  systemId : SystemId
  fingerprintId : String
  saveSystem : Except String Unit
  saveFingerprint : Except String Unit
  addSystem : Except String Unit

/-! ## The request -/

/-- `validateAgentHeaders`, on the two headers. -/
def validateAgentHeaders (token agentVersion : String) : Bool :=
  !(agentVersion = "" || token = "" || 64 < token.utf8ByteSize)

/-- `getFingerprintRecordsByToken`. -/
def getFingerprintRecordsByToken (db : Db) (token : String) : List FingerprintRecord :=
  db.fingerprints.filter (·.token = token)

/-- `agentConnect` up to the goroutine of the connection: the status and text of a refusal, or the
attempt.  `universal` is the user of a universal token, `semVer` whether the version parses,
`upgraded` the outcome of the upgrade. -/
def agentConnect (db : Db) (token agentVersion : String) (universal : Option String)
    (semVer upgraded : Bool) : Except (ℕ × String) Attempt :=
  if validateAgentHeaders token agentVersion = false then .error (400, "")
  else if getFingerprintRecordsByToken db token = [] ∧ universal = none then
    .error (401, "Invalid token")
  else if semVer = false then .error (401, "Invalid agent version")
  else if upgraded = false then .error (500, "WebSocket upgrade failed")
  else
    .ok ⟨token, universal.isSome, universal.getD "", getFingerprintRecordsByToken db token⟩

/-! ## The handshake -/

/-- `SetFingerprint`: a record without an id is created, the others are loaded by id and saved with
the token and the fingerprint given. -/
def setFingerprint (db : Db) (env : Env) (fpRecord : FingerprintRecord) (fingerprint : String) :
    Except String Db :=
  if fpRecord.id = "" then
    env.saveFingerprint.map fun _ =>
      { db with
        fingerprints := db.fingerprints ++
          [⟨env.fingerprintId, fpRecord.systemId, fingerprint, fpRecord.token⟩] }
  else
    match db.record fpRecord.id with
    | none => .error "sql: no rows in result set"
    | some record =>
      env.saveFingerprint.map fun _ =>
        { db with
          fingerprints := Table.replace FingerprintRecord.id db.fingerprints
            { record with token := fpRecord.token, fingerprint := fingerprint } }

/-- `createSystem`: the name falls back to the host name, that to the agent's address. -/
def createSystem (db : Db) (env : Env) (userId : String) (agentFingerprint : FingerprintResponse) :
    Except String (SystemId × Db) :=
  let hostname :=
    if agentFingerprint.hostname = "" then env.remoteAddr else agentFingerprint.hostname
  let port := if agentFingerprint.port = "" then "45876" else agentFingerprint.port
  let name := if agentFingerprint.name = "" then hostname else agentFingerprint.name
  env.saveSystem.map fun _ =>
    (env.systemId,
      { db with systems := db.systems ++ [⟨env.systemId, name, env.remoteAddr, port, [userId]⟩] })

/-- The new system of a universal token, after `createSystem`: the new record's fingerprint. -/
def bindNewSystem (db : Db) (env : Env) (token : String) (systemId : SystemId)
    (fingerprint : String) : Except String FingerprintRecord × Db :=
  match setFingerprint db env ⟨"", systemId, "", token⟩ fingerprint with
  | .error err => (.error err, db)
  | .ok db => (.ok ⟨"", systemId, fingerprint, token⟩, db)

/-- `createNewSystemForUniversalToken`. -/
def createNewSystemForUniversalToken (db : Db) (env : Env) (acr : Attempt)
    (agentFingerprint : FingerprintResponse) : Except String FingerprintRecord × Db :=
  if acr.isUniversalToken = false ∨ acr.userId = "" then (.error "invalid token", db)
  else
    match createSystem db env acr.userId agentFingerprint with
    | .error err => (.error err, db)
    | .ok (systemId, db) => bindNewSystem db env acr.token systemId agentFingerprint.fingerprint

/-- `handleNoRecords`. -/
def handleNoRecords (db : Db) (env : Env) (acr : Attempt)
    (agentFingerprint : FingerprintResponse) : Except String FingerprintRecord × Db :=
  if acr.isUniversalToken = false ∨ acr.userId = "" then (.error "no matching fingerprints", db)
  else createNewSystemForUniversalToken db env acr agentFingerprint

/-- `handleSingleRecord`. -/
def handleSingleRecord (db : Db) (env : Env) (fpRecord : FingerprintRecord)
    (agentFingerprint : FingerprintResponse) : Except String FingerprintRecord × Db :=
  if fpRecord.fingerprint = "" then
    match setFingerprint db env fpRecord agentFingerprint.fingerprint with
    | .error err => (.error err, db)
    | .ok db => (.ok { fpRecord with fingerprint := agentFingerprint.fingerprint }, db)
  else if fpRecord.fingerprint ≠ agentFingerprint.fingerprint then
    (.error "fingerprint mismatch", db)
  else (.ok fpRecord, db)

/-- `handleMultipleRecordsOrUniversalToken`. -/
def handleMultipleRecordsOrUniversalToken (db : Db) (env : Env) (acr : Attempt)
    (agentFingerprint : FingerprintResponse) : Except String FingerprintRecord × Db :=
  match acr.fpRecords.find? (·.fingerprint = agentFingerprint.fingerprint) with
  | some fpRecord => (.ok fpRecord, db)
  | none =>
    if acr.isUniversalToken then createNewSystemForUniversalToken db env acr agentFingerprint
    else (.error "fingerprint mismatch", db)

/-- `findOrCreateSystemForToken`. -/
def findOrCreateSystemForToken (db : Db) (env : Env) (acr : Attempt)
    (agentFingerprint : FingerprintResponse) : Except String FingerprintRecord × Db :=
  match acr.fpRecords, acr.isUniversalToken with
  | [], _ => handleNoRecords db env acr agentFingerprint
  | [fpRecord], false => handleSingleRecord db env fpRecord agentFingerprint
  | _, _ => handleMultipleRecordsOrUniversalToken db env acr agentFingerprint

/-! ## Any number of agents -/

/-- A connection that was added to a system: the record it was admitted by and the fingerprint it
presented. -/
structure Added where
  record : FingerprintRecord
  fingerprint : String
  deriving DecidableEq, Repr

structure State where
  db : Db
  attempts : List Attempt
  added : List Added

/-- What can happen: an agent connects; an upgraded connection answers the challenge, or fails
before; a user gives a record a new token, or — the settings page's way of rotating a token and of
deleting a fingerprint — clears its fingerprint as well. -/
inductive Event
  | connect (token agentVersion : String) (universal : Option String) (semVer upgraded : Bool)
  | verify (acr : Attempt) (agentFingerprint : FingerprintResponse) (env : Env)
  | abort (acr : Attempt)
  | rotate (id token : String)
  | reset (id token : String)

/-- A user's update of a record. -/
def Db.update (db : Db) (id : String) (f : FingerprintRecord → FingerprintRecord) : Db :=
  match db.record id with
  | none => db
  | some record =>
    { db with fingerprints := Table.replace FingerprintRecord.id db.fingerprints (f record) }

/-- The end of `verifyWsConn`: the connection is added to the system of the record. -/
def addWebSocketSystem (added : List Added) (env : Env) (agentFingerprint : FingerprintResponse) :
    Except String FingerprintRecord → List Added
  | .error _ => added
  | .ok record =>
    match env.addSystem with
    | .error _ => added
    | .ok () => ⟨record, agentFingerprint.fingerprint⟩ :: added

/-- **One event.** -/
def step (s : State) : Event → Option State
  | .connect token agentVersion universal semVer upgraded =>
    match agentConnect s.db token agentVersion universal semVer upgraded with
    | .error _ => some s
    | .ok acr => some { s with attempts := acr :: s.attempts }
  | .verify acr agentFingerprint env =>
    if acr ∈ s.attempts then
      let r := findOrCreateSystemForToken s.db env acr agentFingerprint
      some
        { db := r.2
          attempts := s.attempts.erase acr
          added := addWebSocketSystem s.added env agentFingerprint r.1 }
    else none
  | .abort acr =>
    if acr ∈ s.attempts then some { s with attempts := s.attempts.erase acr } else none
  | .rotate id token => some { s with db := s.db.update id ({ · with token := token }) }
  | .reset id token =>
    some { s with db := s.db.update id ({ · with token := token, fingerprint := "" }) }

/-! ## The first fingerprint wins

A handshake decides on the records its connection has read.  It is undisturbed if the record it
chose still has no fingerprint, or the one presented, and — where it is about to write — still the
token that was read. -/

/-- The record a handshake chooses among those it has read. -/
def Attempt.chosen (acr : Attempt) (fingerprint : String) : Option FingerprintRecord :=
  match acr.fpRecords, acr.isUniversalToken with
  | [], _ => none
  | [fpRecord], false =>
    if fpRecord.fingerprint = "" ∨ fpRecord.fingerprint = fingerprint then some fpRecord else none
  | fpRecords, _ => fpRecords.find? (·.fingerprint = fingerprint)

/-- The handshake is a first connection: it will write the record it chose. -/
def Attempt.binds (acr : Attempt) : Bool :=
  match acr.fpRecords, acr.isUniversalToken with
  | [fpRecord], false => fpRecord.fingerprint = ""
  | _, _ => false

/-- The chosen record is still as the handshake takes it to be. -/
def Undisturbed (s : State) : Event → Prop
  | .verify acr agentFingerprint _ =>
    ∀ q ∈ acr.chosen agentFingerprint.fingerprint, ∀ cur ∈ s.db.record q.id,
      (cur.fingerprint = "" ∨ cur.fingerprint = agentFingerprint.fingerprint) ∧
        (acr.binds = true → cur.token = q.token)
  | _ => True

/-- The token a user last gave the record, in a list of events. -/
def lastToken (id : String) : String → List Event → String
  | token, [] => token
  | token, .rotate id' token' :: es => lastToken id (if id' = id then token' else token) es
  | token, .reset id' token' :: es => lastToken id (if id' = id then token' else token) es
  | token, _ :: es => lastToken id token es

/-- **What becomes of a record**: its token is the last one a user gave it; and if it had a
fingerprint and no user cleared it, it still has that fingerprint, and every connection admitted by
it since presented it. -/
def FirstWins (id : String) (r : FingerprintRecord) (es : List Event) (s t : State) : Prop :=
  ∃ r', t.db.record id = some r' ∧ r'.token = lastToken id r.token es ∧
    (r.fingerprint ≠ "" → (∀ token, Event.reset id token ∉ es) → r'.fingerprint = r.fingerprint ∧
      ∃ new, t.added = new ++ s.added ∧
        ∀ c ∈ new, c.record.id = id → c.fingerprint = r.fingerprint)

section Proofs

variable {db : Db} {env : Env} {acr : Attempt} {resp : FingerprintResponse} {id : String}

/-- What a handshake comes to: refused with the fingerprints as they were, admitted by a record that
has the fingerprint, admitted and bound to the one record of the token, or admitted by a record that
is new. -/
inductive Outcome (db : Db) (acr : Attempt) (fingerprint : String) :
    Except String FingerprintRecord × Db → Prop
  | refused (err : String) (db' : Db) (h : db'.fingerprints = db.fingerprints) :
      Outcome db acr fingerprint (.error err, db')
  | matched (q : FingerprintRecord) (h : acr.chosen fingerprint = some q) :
      Outcome db acr fingerprint (.ok q, db)
  | bound (q record : FingerprintRecord) (h : acr.chosen fingerprint = some q)
      (hb : acr.binds = true) (hr : db.record q.id = some record) :
      Outcome db acr fingerprint (.ok { q with fingerprint := fingerprint },
        { db with
          fingerprints := Table.replace FingerprintRecord.id db.fingerprints
            { record with token := q.token, fingerprint := fingerprint } })
  | created (q row : FingerprintRecord) (db' : Db) (hq : q.id = "")
      (h : db'.fingerprints = db.fingerprints ++ [row]) : Outcome db acr fingerprint (.ok q, db')

theorem outcome_bindNewSystem {db' : Db} (h : db'.fingerprints = db.fingerprints)
    (token : String) (systemId : SystemId) (fingerprint : String) :
    Outcome db acr fingerprint (bindNewSystem db' env token systemId fingerprint) := by
  unfold bindNewSystem setFingerprint
  rcases env.saveFingerprint with err | u
  · exact .refused err db' h
  · exact .created _ ⟨env.fingerprintId, systemId, fingerprint, token⟩ _ rfl
      (congrArg (· ++ [_]) h)

/-- A new system leaves the fingerprints alone. -/
theorem fingerprints_createSystem {userId : String} {systemId : SystemId} {db' : Db}
    (h : createSystem db env userId resp = .ok (systemId, db')) :
    db'.fingerprints = db.fingerprints := by
  unfold createSystem at h
  rcases hs : env.saveSystem with err | u <;> simp only [hs] at h <;> cases h
  rfl

theorem outcome_createNewSystem :
    Outcome db acr resp.fingerprint (createNewSystemForUniversalToken db env acr resp) := by
  unfold createNewSystemForUniversalToken
  split_ifs
  · exact .refused _ db rfl
  · split
    · exact .refused _ db rfl
    · next systemId db' h => exact outcome_bindNewSystem (fingerprints_createSystem h) _ _ _

theorem outcome_single {q : FingerprintRecord} (hq : acr.fpRecords = [q])
    (hu : acr.isUniversalToken = false) :
    Outcome db acr resp.fingerprint (handleSingleRecord db env q resp) := by
  unfold handleSingleRecord
  split_ifs with hempty hne
  · have hch : acr.chosen resp.fingerprint = some q := by simp [Attempt.chosen, hq, hu, hempty]
    have hb : acr.binds = true := by simp [Attempt.binds, hq, hu, hempty]
    unfold setFingerprint
    split_ifs with hid
    · rcases env.saveFingerprint with err | u
      · exact .refused err db rfl
      · exact .created _ _ _ hid rfl
    · rcases hr : db.record q.id with _ | record
      · exact .refused _ db rfl
      · rcases env.saveFingerprint with err | u
        · exact .refused err db rfl
        · exact .bound q record hch hb hr
  · exact .refused _ db rfl
  · have hfp : q.fingerprint = resp.fingerprint := not_not.mp hne
    exact .matched q (by simp [Attempt.chosen, hq, hu, hfp])

theorem outcome_multiple
    (hch : acr.chosen resp.fingerprint =
      acr.fpRecords.find? (·.fingerprint = resp.fingerprint)) :
    Outcome db acr resp.fingerprint (handleMultipleRecordsOrUniversalToken db env acr resp) := by
  unfold handleMultipleRecordsOrUniversalToken
  split
  · next q hf => exact .matched q (hch.trans hf)
  · split_ifs
    · exact outcome_createNewSystem
    · exact .refused _ db rfl

/-- **What a handshake comes to**, in every case of the records read. -/
theorem outcome (db : Db) (env : Env) (acr : Attempt) (resp : FingerprintResponse) :
    Outcome db acr resp.fingerprint (findOrCreateSystemForToken db env acr resp) := by
  rcases hq : acr.fpRecords with _ | ⟨q, _ | ⟨q', qs⟩⟩
  · rw [findOrCreateSystemForToken, hq]
    unfold handleNoRecords
    split_ifs
    · exact .refused _ db rfl
    · exact outcome_createNewSystem
  · rcases hu : acr.isUniversalToken with _ | _ <;> simp only [findOrCreateSystemForToken, hq, hu]
    · exact outcome_single hq hu
    · exact outcome_multiple (by simp [Attempt.chosen, hq, hu])
  · have h : findOrCreateSystemForToken db env acr resp =
        handleMultipleRecordsOrUniversalToken db env acr resp := by
      simp [findOrCreateSystemForToken, hq]
    rw [h]
    exact outcome_multiple (by simp [Attempt.chosen, hq])

/-! ### Who is admitted -/

/-- A record of the token carries the fingerprint, and its system is returned. -/
def Attempt.Known (acr : Attempt) (fingerprint : String) (q : FingerprintRecord) : Prop :=
  ∃ r ∈ acr.fpRecords, r.fingerprint = fingerprint ∧ q.systemId = r.systemId

/-- The token is the token of one system, which has no fingerprint yet; now it has this one. -/
def Attempt.First (acr : Attempt) (fingerprint : String) (db' : Db) (q : FingerprintRecord) :
    Prop :=
  acr.isUniversalToken = false ∧ ∃ r, acr.fpRecords = [r] ∧ r.fingerprint = "" ∧
    q.systemId = r.systemId ∧ db'.record r.id = some { r with fingerprint := fingerprint }

/-- The token is the universal token of a user, no record of it carries the fingerprint, and a new
system is created, which this user and nobody else owns. -/
def Attempt.New (acr : Attempt) (fingerprint : String) (db db' : Db) (q : FingerprintRecord) :
    Prop :=
  acr.isUniversalToken = true ∧ acr.userId ≠ "" ∧
    (∀ r ∈ acr.fpRecords, r.fingerprint ≠ fingerprint) ∧
    ∃ row : SystemRow, db'.systems = db.systems ++ [row] ∧ row.users = [acr.userId] ∧
      q.systemId = row.id

/-- A result that is right for the attempt, and leaves the records alone that have a fingerprint. -/
def Admitted (db : Db) (acr : Attempt) (fingerprint : String)
    (r : Except String FingerprintRecord × Db) : Prop :=
  (∀ q, r.1 = .ok q →
    acr.Known fingerprint q ∨ acr.First fingerprint r.2 q ∨ acr.New fingerprint db r.2 q) ∧
  ∀ fp ∈ db.fingerprints, fp.fingerprint ≠ "" → fp ∈ r.2.fingerprints

theorem admitted_error {fingerprint err : String} {db' : Db}
    (h : db'.fingerprints = db.fingerprints) : Admitted db acr fingerprint (.error err, db') :=
  ⟨nofun, fun _ hfp _ => h.symm ▸ hfp⟩

theorem admitted_known {fingerprint : String} {q : FingerprintRecord} (hq : q ∈ acr.fpRecords)
    (h : q.fingerprint = fingerprint) : Admitted db acr fingerprint (.ok q, db) := by
  refine ⟨fun q' hq' => .inl ⟨q, hq, h, ?_⟩, fun fp hfp _ => hfp⟩
  obtain rfl := Except.ok.inj hq'
  rfl

theorem admitted_createNewSystem
    (hne : ∀ r ∈ acr.fpRecords, r.fingerprint ≠ resp.fingerprint) :
    Admitted db acr resp.fingerprint (createNewSystemForUniversalToken db env acr resp) := by
  unfold createNewSystemForUniversalToken
  split_ifs with hu
  · exact admitted_error rfl
  · obtain ⟨huniv, huser⟩ : acr.isUniversalToken = true ∧ acr.userId ≠ "" := by simpa using hu
    split
    · exact admitted_error rfl
    · next systemId db' h =>
      have hfps : db'.fingerprints = db.fingerprints := fingerprints_createSystem h
      unfold bindNewSystem setFingerprint
      rcases env.saveFingerprint with err | u
      · exact admitted_error hfps
      · refine ⟨fun q hq => .inr (.inr ⟨huniv, huser, hne, ?_⟩), fun fp hfp _ => ?_⟩
        · obtain rfl := Except.ok.inj hq
          unfold createSystem at h
          rcases hs : env.saveSystem with err | u <;> simp only [hs] at h <;> cases h
          exact ⟨_, rfl, rfl, rfl⟩
        · exact List.mem_append_left _ (hfps.symm ▸ hfp)

theorem admitted_single {q : FingerprintRecord} (hq : acr.fpRecords = [q])
    (hu : acr.isUniversalToken = false) (hid : q.id ≠ "")
    (hids : (db.fingerprints.map FingerprintRecord.id).Nodup) (hmem : q ∈ db.fingerprints) :
    Admitted db acr resp.fingerprint (handleSingleRecord db env q resp) := by
  have hr : db.record q.id = some q := Table.lookup_of_mem hids hmem
  unfold handleSingleRecord
  split_ifs with hempty hne
  · unfold setFingerprint
    rw [if_neg hid, hr]
    rcases env.saveFingerprint with err | u
    · exact admitted_error rfl
    · refine ⟨fun q' hq' => .inr (.inl ⟨hu, q, hq, hempty, ?_, ?_⟩), fun fp hfp hne => ?_⟩
      · obtain rfl := Except.ok.inj hq'
        rfl
      · refine Table.lookup_replace.trans ?_
        rw [if_pos rfl]
        exact congrArg (Option.map _) hr
      · refine Table.mem_replace_of_ne hfp fun hkey => hne ?_
        rw [List.inj_on_of_nodup_map hids hfp hmem hkey]
        exact hempty
  · exact admitted_error rfl
  · exact admitted_known (hq ▸ List.mem_singleton_self q) (not_not.mp hne)

theorem admitted_multiple :
    Admitted db acr resp.fingerprint (handleMultipleRecordsOrUniversalToken db env acr resp) := by
  unfold handleMultipleRecordsOrUniversalToken
  split
  · next q hf =>
    have hfp : q.fingerprint = resp.fingerprint := by simpa using List.find?_some hf
    exact admitted_known (List.mem_of_find?_eq_some hf) hfp
  · next hf =>
    split_ifs
    · exact admitted_createNewSystem fun r hr => by simpa using List.find?_eq_none.mp hf r hr
    · exact admitted_error rfl

/-- **A connection is admitted to a system only** by a record of its token that carries the
fingerprint it presents, as the first connection of a system with a token of its own, or as a new
system of the user of a universal token; and no fingerprint that is stored is changed.  The records
read for the token are still stored, under the unique ids of the database. -/
theorem admitted_findOrCreateSystemForToken
    (hids : (db.fingerprints.map FingerprintRecord.id).Nodup)
    (hne : ∀ r ∈ db.fingerprints, r.id ≠ "")
    (hread : ∀ r ∈ acr.fpRecords, r ∈ db.fingerprints ∧ r.token = acr.token) :
    Admitted db acr resp.fingerprint (findOrCreateSystemForToken db env acr resp) := by
  rcases hq : acr.fpRecords with _ | ⟨q, _ | ⟨q', qs⟩⟩
  · rw [findOrCreateSystemForToken, hq]
    unfold handleNoRecords
    split_ifs
    · exact admitted_error rfl
    · exact admitted_createNewSystem fun r hr => absurd (hq ▸ hr) List.not_mem_nil
  · rcases hu : acr.isUniversalToken with _ | _ <;> simp only [findOrCreateSystemForToken, hq, hu]
    · have hmem : q ∈ db.fingerprints := (hread q (hq ▸ List.mem_singleton_self q)).1
      exact admitted_single hq hu (hne q hmem) hids hmem
    · exact admitted_multiple
  · have h : findOrCreateSystemForToken db env acr resp =
        handleMultipleRecordsOrUniversalToken db env acr resp := by
      simp [findOrCreateSystemForToken, hq]
    rw [h]
    exact admitted_multiple

/-- A user's update, seen from any record. -/
theorem record_update {f : FingerprintRecord → FingerprintRecord} {r : FingerprintRecord}
    (hf : ∀ r, (f r).id = r.id) (hr : db.record id = some r) (id' : String) :
    (db.update id' f).record id = some (if id' = id then f r else r) := by
  unfold Db.update
  rcases hr' : db.record id' with _ | record
  · have hne : id' ≠ id := by
      rintro rfl
      exact absurd (hr'.symm.trans hr) (by simp)
    rw [if_neg hne]
    exact hr
  · have hid : (f record).id = id' := (hf record).trans (Table.key_of_lookup hr')
    refine Table.lookup_replace.trans ?_
    rw [hid]
    split_ifs with h
    · obtain rfl : record = r := Option.some.inj (hr'.symm.trans (h ▸ hr))
      exact congrArg (Option.map _) hr
    · exact hr

/-- The connections after a handshake: one more at most, with the fingerprint it presented. -/
theorem added_verify {added : List Added} {result : Except String FingerprintRecord} {F : String}
    (h : ∀ q, result = .ok q → q.id = id → resp.fingerprint = F) :
    ∃ new, addWebSocketSystem added env resp result = new ++ added ∧
      ∀ c ∈ new, c.record.id = id → c.fingerprint = F := by
  have hnone : ∃ new, added = new ++ added ∧ ∀ c ∈ new, c.record.id = id → c.fingerprint = F :=
    ⟨[], rfl, fun _ hc => absurd hc List.not_mem_nil⟩
  rcases result with err | q
  · exact hnone
  · rcases hadd : env.addSystem with err | u <;> simp only [addWebSocketSystem, hadd]
    · exact hnone
    · refine ⟨[⟨q, resp.fingerprint⟩], rfl, fun c hc hcid => ?_⟩
      obtain rfl := List.mem_singleton.mp hc
      exact h q rfl hcid

/-- A record with an id that admits a connection is the one chosen. -/
theorem Outcome.chosen {fingerprint : String} {r : Except String FingerprintRecord × Db}
    (h : Outcome db acr fingerprint r) {q : FingerprintRecord} (hq : r.1 = .ok q)
    (hid : q.id ≠ "") : ∃ q', acr.chosen fingerprint = some q' ∧ q'.id = q.id := by
  cases h with
  | refused err db' h => cases hq
  | matched q' h =>
    obtain rfl := Except.ok.inj hq
    exact ⟨q', h, rfl⟩
  | bound q' record h hb hr =>
    obtain rfl := Except.ok.inj hq
    exact ⟨q', h, rfl⟩
  | created q' row db' hempty h =>
    obtain rfl := Except.ok.inj hq
    exact absurd hempty hid

/-- **An undisturbed handshake keeps the record's token, and its fingerprint if it has one.** -/
theorem firstWins_verify {s t : State} {r : FingerprintRecord} (hid : id ≠ "")
    (hr : s.db.record id = some r) (hok : Undisturbed s (.verify acr resp env))
    (h : step s (.verify acr resp env) = some t) :
    FirstWins id r [.verify acr resp env] s t := by
  -- a handshake that chose this record presents its fingerprint, if it has one
  have hchosen : ∀ q, acr.chosen resp.fingerprint = some q → q.id = id → r.fingerprint ≠ "" →
      resp.fingerprint = r.fingerprint := fun q hq hqid hne =>
    ((hok q hq r (hqid ▸ hr)).1.resolve_left hne).symm
  obtain ⟨-, rfl⟩ := guard_eq_some h
  have ho := outcome s.db env acr resp
  generalize findOrCreateSystemForToken s.db env acr resp = result at ho ⊢
  have hadd : r.fingerprint ≠ "" → ∃ new,
      addWebSocketSystem s.added env resp result.1 = new ++ s.added ∧
        ∀ c ∈ new, c.record.id = id → c.fingerprint = r.fingerprint := by
    refine fun hne => added_verify fun q hq hqid => ?_
    obtain ⟨q', hq', hqid'⟩ := ho.chosen hq (hqid.trans_ne hid)
    exact hchosen q' hq' (hqid'.trans hqid) hne
  cases ho with
  | refused err db' h =>
    refine ⟨r, ?_, rfl, fun hne _ => ⟨rfl, hadd hne⟩⟩
    exact (congrArg (Table.lookup FingerprintRecord.id · id) h).trans hr
  | matched q hq => exact ⟨r, hr, rfl, fun hne _ => ⟨rfl, hadd hne⟩⟩
  | bound q record hq hb hrec =>
    have hrid : record.id = q.id := Table.key_of_lookup hrec
    by_cases hqid : q.id = id
    · obtain rfl : record = r := Option.some.inj (hrec.symm.trans (hqid ▸ hr))
      refine ⟨{ record with token := q.token, fingerprint := resp.fingerprint }, ?_,
        ((hok q hq record hrec).2 hb).symm, fun hne _ => ⟨hchosen q hq hqid hne, hadd hne⟩⟩
      refine Table.lookup_replace.trans ?_
      rw [if_pos (hrid.trans hqid)]
      exact congrArg (Option.map _) hr
    · refine ⟨r, ?_, rfl, fun hne _ => ⟨rfl, hadd hne⟩⟩
      refine Table.lookup_replace.trans ?_
      rw [if_neg fun h => hqid (hrid.symm.trans h)]
      exact hr
  | created q row db' hq h =>
    refine ⟨r, ?_, rfl, fun hne _ => ⟨rfl, hadd hne⟩⟩
    unfold Db.record
    rw [h]
    exact Table.lookup_append_of_some hr

/-- An event that touches neither the fingerprints nor the connections. -/
theorem firstWins_of_eq {s t : State} {e : Event} {r : FingerprintRecord}
    (hr : s.db.record id = some r) (hdb : t.db = s.db) (hadd : t.added = s.added)
    (htok : lastToken id r.token [e] = r.token) : FirstWins id r [e] s t :=
  ⟨r, hdb ▸ hr, htok.symm, fun _ _ => ⟨rfl, [], hadd, fun _ hc => absurd hc List.not_mem_nil⟩⟩

/-- **One event.** -/
theorem firstWins_step {s t : State} {e : Event} {r : FingerprintRecord} (hid : id ≠ "")
    (hr : s.db.record id = some r) (hok : Undisturbed s e) (h : step s e = some t) :
    FirstWins id r [e] s t := by
  rcases e with ⟨token, agentVersion, universal, semVer, upgraded⟩ | ⟨acr, resp, env⟩ | acr |
    ⟨id', token⟩ | ⟨id', token⟩
  · simp only [step] at h
    split at h <;> obtain rfl := Option.some.inj h <;> exact firstWins_of_eq hr rfl rfl rfl
  · exact firstWins_verify hid hr hok h
  · obtain ⟨-, rfl⟩ := guard_eq_some h
    exact firstWins_of_eq hr rfl rfl rfl
  · obtain rfl := Option.some.inj h
    refine ⟨if id' = id then { r with token := token } else r, ?_, ?_, fun _ _ =>
      ⟨?_, [], rfl, fun _ hc => absurd hc List.not_mem_nil⟩⟩
    · refine record_update ?_ hr id'
      exact fun _ => rfl
    · unfold lastToken
      split_ifs <;> rfl
    · split_ifs <;> rfl
  · obtain rfl := Option.some.inj h
    refine ⟨if id' = id then { r with token := token, fingerprint := "" } else r, ?_, ?_,
      fun _ hreset => ⟨?_, [], rfl, fun _ hc => absurd hc List.not_mem_nil⟩⟩
    · refine record_update ?_ hr id'
      exact fun _ => rfl
    · unfold lastToken
      split_ifs <;> rfl
    · rw [if_neg]
      rintro rfl
      exact hreset token List.mem_cons_self

theorem lastToken_cons (token : String) (e : Event) (es : List Event) :
    lastToken id token (e :: es) = lastToken id (lastToken id token [e]) es := by
  cases e <;> rfl

/-- **In every run of undisturbed handshakes the first fingerprint wins**: the record's token is the
last one a user gave it; and once it has a fingerprint — until a user clears it — it keeps that
fingerprint and admits no connection that presents another. -/
theorem firstWins_of_undisturbed {s t : State} {es : List Event} {r : FingerprintRecord}
    (hid : id ≠ "") (hr : s.db.record id = some r) (hok : Along step Undisturbed s es)
    (hrun : run step s es = some t) : FirstWins id r es s t := by
  induction es generalizing s r with
  | nil =>
    obtain rfl := Option.some.inj hrun
    exact ⟨r, hr, rfl, fun _ _ => ⟨rfl, [], rfl, fun _ hc => absurd hc List.not_mem_nil⟩⟩
  | cons e es ih =>
    obtain ⟨u, hu, hrun⟩ := run_cons_eq_some.mp hrun
    obtain ⟨r₁, hr₁, htok₁, hfp₁⟩ := firstWins_step hid hr hok.1 hu
    obtain ⟨r₂, hr₂, htok₂, hfp₂⟩ := ih hr₁ (hok.2 u hu) hrun
    refine ⟨r₂, hr₂, ?_, fun hne hreset => ?_⟩
    · rw [htok₂, htok₁, ← lastToken_cons]
    · obtain ⟨heq₁, new₁, hadd₁, hnew₁⟩ := hfp₁ hne fun token h =>
        hreset token (List.mem_cons.mpr (.inl (List.mem_singleton.mp h)))
      obtain ⟨heq₂, new₂, hadd₂, hnew₂⟩ := hfp₂ (heq₁ ▸ hne) fun token h =>
        hreset token (List.mem_cons_of_mem e h)
      refine ⟨heq₂.trans heq₁, new₂ ++ new₁, ?_, fun c hc hcid => ?_⟩
      · rw [hadd₂, hadd₁, List.append_assoc]
      · rcases List.mem_append.mp hc with hc | hc
        · exact (hnew₂ c hc hcid).trans heq₁
        · exact hnew₁ c hc hcid

end Proofs

/-! ### Two handshakes at once -/

/-- One record, whose agent has not connected yet. -/
def exampleState : State :=
  ⟨⟨[⟨"record", "system", "", "token"⟩], []⟩, [], []⟩

/-- The attempt of any agent that connects with the token then. -/
def exampleAttempt : Attempt := ⟨"token", false, "", [⟨"record", "system", "", "token"⟩]⟩

/-- Every write succeeds. -/
def exampleEnv : Env := ⟨"10.0.0.1", "", "", .ok (), .ok (), .ok ()⟩

/-- An agent's connection request with the token. -/
def exampleConnect : Event := .connect "token" "0.18.0" none true true

/-- One agent binds the record; connecting again it is admitted, and another agent is not. -/
theorem firstWins_one_after_the_other :
    ∃ s t r, run step exampleState
        [exampleConnect, .verify exampleAttempt ⟨"A", "", "", ""⟩ exampleEnv] = some s ∧
      s.db.record "record" = some r ∧ r.fingerprint = "A" ∧
      run step s [exampleConnect,
        .verify ⟨"token", false, "", [⟨"record", "system", "A", "token"⟩]⟩ ⟨"B", "", "", ""⟩
          exampleEnv] = some t ∧
      FirstWins "record" r [exampleConnect,
        .verify ⟨"token", false, "", [⟨"record", "system", "A", "token"⟩]⟩ ⟨"B", "", "", ""⟩
          exampleEnv] s t := by
  refine ⟨_, _, _, rfl, rfl, rfl, rfl, firstWins_of_undisturbed (by simp) rfl ?_ rfl⟩
  refine .cons trivial rfl (.cons (fun q hq => ?_) rfl trivial)
  exact absurd hq (by simp [Attempt.chosen])

/-- The first agent that connects with the token is admitted. -/
theorem admitted_first_agent :
    Admitted exampleState.db exampleAttempt "A"
        (findOrCreateSystemForToken exampleState.db exampleEnv exampleAttempt ⟨"A", "", "", ""⟩) ∧
      (findOrCreateSystemForToken exampleState.db exampleEnv exampleAttempt ⟨"A", "", "", ""⟩).1
        = .ok ⟨"record", "system", "A", "token"⟩ :=
  ⟨admitted_findOrCreateSystemForToken (by decide) (by decide) (by decide), rfl⟩

/-- **Two handshakes that overlap both bind the record**, the second over the first; and a handshake
that overlaps a rotation puts the old token back. -/
theorem firstWins_fails_on_overlap :
    (∃ s t r, run step exampleState [exampleConnect, exampleConnect,
        .verify exampleAttempt ⟨"A", "", "", ""⟩ exampleEnv] = some s ∧
      s.db.record "record" = some r ∧ r.fingerprint = "A" ∧
      run step s [.verify exampleAttempt ⟨"B", "", "", ""⟩ exampleEnv] = some t ∧
      ¬ FirstWins "record" r [.verify exampleAttempt ⟨"B", "", "", ""⟩ exampleEnv] s t) ∧
    ∃ t r, exampleState.db.record "record" = some r ∧
      run step exampleState [exampleConnect, .rotate "record" "new",
        .verify exampleAttempt ⟨"A", "", "", ""⟩ exampleEnv] = some t ∧
      ¬ FirstWins "record" r [exampleConnect, .rotate "record" "new",
        .verify exampleAttempt ⟨"A", "", "", ""⟩ exampleEnv] exampleState t := by
  refine ⟨⟨_, _, _, rfl, rfl, rfl, rfl, ?_⟩, ⟨_, _, rfl, rfl, ?_⟩⟩
  · rintro ⟨r', hr', -, hfp⟩
    obtain rfl := Option.some.inj hr'
    have := (hfp (by simp) (by simp)).1
    exact absurd this (by decide)
  · rintro ⟨r', hr', htok, -⟩
    obtain rfl := Option.some.inj hr'
    exact absurd htok (by decide)

end AgentConnect

end Beszel
