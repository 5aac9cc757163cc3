import Beszel.Machinery.Table
import Mathlib.Data.List.Perm.Basic
import Mathlib.Data.List.Perm.Subperm
import Mathlib.Data.List.Sort
import Mathlib.Data.String.Basic

/-!
# Hub/Config — the systems are synced with `config.yml`

    config.yml ──defaults──▸ entries ──name ++ host ++ port──▸ update │ create │ delete

`SyncSystems` runs when the hub starts: an entry of the file whose key is the key of a stored system
updates it, an entry without one creates a system, and the systems no entry was found for are
deleted.  The key is the concatenation of name, host and port, and the map from keys to systems has
one system for each.  `generateYAML` is the way back, from the stored systems to a file.

Every write of `SyncSystems` can fail; what was written before stays.
-/

namespace Beszel

open Machinery

namespace Config

/-! ## The database and the file -/

/-- A record of `systems`, with the fields the file has. -/
structure SystemRecord where
  id : String
  name : String
  host : String
  port : String
  users : List String
  deriving DecidableEq

/-- A record of `users`. -/
structure UserRecord where
  id : String
  email : String
  deriving DecidableEq

/-- A record of `fingerprints`. -/
structure FingerprintRecord where
  system : String
  fingerprint : String
  token : String
  deriving DecidableEq

/-- The three collections.  Ids are unique. -/
structure Db where
  users : List UserRecord
  systems : List SystemRecord
  fingerprints : List FingerprintRecord
  nodup : (systems.map (·.id)).Nodup

/-- `systemConfig`: a system of the file; no port is `0`, no token is empty.  `users` has e-mail
addresses in the file and ids after the defaults are filled in. -/
structure SystemConfig where
  name : String
  host : String
  port : UInt16
  token : String
  users : List String
  deriving DecidableEq

/-- `cast.ToString` of a port. -/
def portText (port : UInt16) : String := Nat.repr port.toNat

/-- The key of a stored system… -/
def SystemRecord.key (s : SystemRecord) : String := s.name ++ s.host ++ s.port

/-- …and of an entry. -/
def SystemConfig.key (c : SystemConfig) : String := c.name ++ c.host ++ portText c.port

/-! ## Defaults -/

/-- `userEmailToID`: the last user with the address. -/
def userEmailToID (users : List UserRecord) (email : String) : Option String :=
  (users.reverse.find? (·.email = email)).map (·.id)

/-- The default port. -/
def defaultPort : UInt16 := 45876

/-- A port, or the default. -/
def portOrDefault (port : UInt16) : UInt16 := if port = 0 then defaultPort else port

/-- The ids of an entry's users: the first user if none is named and there is one. -/
def resolveUsers (users : List UserRecord) (emails : List String) : List String :=
  match users, emails with
  | firstUser :: _, [] => [firstUser.id]
  | users, emails => emails.filterMap (userEmailToID users)

/-- The default settings are added to an entry. -/
def withDefaults (users : List UserRecord) (c : SystemConfig) : SystemConfig :=
  { c with port := portOrDefault c.port, users := resolveUsers users c.users }

/-! ## Writes -/

namespace Db

/-- A system is saved over the stored one. -/
def update (db : Db) (s : SystemRecord) : Db :=
  { db with
    systems := Table.replace (·.id) db.systems s
    nodup := by
      rw [Table.map_key_replace]
      exact db.nodup }

/-- A system is created under an id that is not in use. -/
def insert (db : Db) (s : SystemRecord) (hs : s.id ∉ db.systems.map (·.id)) : Db :=
  { db with
    systems := db.systems ++ [s]
    nodup := by
      rw [List.map_append, List.map_singleton]
      exact List.nodup_append'.mpr ⟨db.nodup, List.nodup_singleton _, by simpa using hs⟩ }

/-- A system is deleted, and its fingerprints with it. -/
def delete (db : Db) (s : SystemRecord) : Db where
  users := db.users
  systems := Table.remove (·.id) db.systems s.id
  fingerprints := db.fingerprints.filter (·.system ≠ s.id)
  nodup := db.nodup.sublist (List.filter_sublist.map _)

/-- The fingerprints are changed. -/
def withFingerprints (db : Db) (fingerprints : List FingerprintRecord) : Db :=
  { db with fingerprints := fingerprints }

end Db

/-- `createFingerprintRecord`. -/
def createFingerprintRecord (fingerprints : List FingerprintRecord) (system token : String) :
    List FingerprintRecord :=
  fingerprints ++ [⟨system, "", token⟩]

/-- The first fingerprint of a system gets the token. -/
def setFirstToken (system token : String) : List FingerprintRecord → List FingerprintRecord
  | [] => []
  | f :: fs =>
    if f.system = system then { f with token := token } :: fs
    else f :: setFirstToken system token fs

/-- `updateFingerprintToken`. -/
def updateFingerprintToken (fingerprints : List FingerprintRecord) (system token : String) :
    List FingerprintRecord :=
  match fingerprints.find? (·.system = system) with
  | none => createFingerprintRecord fingerprints system token
  | some _ => setFirstToken system token fingerprints

/-! ## SyncSystems -/

/-- What is not up to `SyncSystems`: new ids, which are not in use, and tokens; for every entry
whether the system and its token are saved; the order of the map, and which deletions succeed. -/
structure Env where
  newId : List String → String
  newId_notMem : ∀ ids, newId ids ∉ ids
  uuid : ℕ → String
  saved : ℕ → Bool
  tokenSaved : ℕ → Bool
  order : List SystemRecord → List SystemRecord
  order_perm : ∀ systems, (order systems).Perm systems
  deleted : SystemRecord → Bool

/-- `existingSystemsMap`: the last system of each key. -/
def existingSystemsMap (systems : List SystemRecord) : List SystemRecord :=
  systems.foldl (Table.store SystemRecord.key) []

/-- What an entry makes of the system it was found for.  The host stays. -/
def SystemRecord.apply (s : SystemRecord) (c : SystemConfig) : SystemRecord :=
  { s with name := c.name, users := c.users, port := portText c.port }

/-- The system an entry creates. -/
def SystemConfig.create (c : SystemConfig) (id : String) : SystemRecord :=
  ⟨id, c.name, c.host, portText c.port, c.users⟩

/-- The body of the loop over the entries: the database, and the map unless a write failed. -/
def syncEntry (env : Env) (i : ℕ) (db : Db) (existing : List SystemRecord) (c : SystemConfig) :
    Db × Option (List SystemRecord) :=
  match Table.lookup SystemRecord.key existing c.key with
  | some s =>
    if env.saved i then
      let db := db.update (s.apply c)
      let existing := Table.remove SystemRecord.key existing c.key
      -- only update the token if the entry has one
      if c.token = "" then (db, some existing)
      else if env.tokenSaved i then
        (db.withFingerprints (updateFingerprintToken db.fingerprints s.id c.token), some existing)
      else (db, none)
    else (db, none)
  | none =>
    if env.saved i then
      let id := env.newId (db.systems.map (·.id))
      let db := db.insert (c.create id) (env.newId_notMem _)
      let token := if c.token = "" then env.uuid i else c.token
      if env.tokenSaved i then
        (db.withFingerprints (createFingerprintRecord db.fingerprints id token), some existing)
      else (db, none)
    else (db, none)

/-- The loop over the entries, up to the first write that fails. -/
def syncEntries (env : Env) :
    ℕ → Db → List SystemRecord → List SystemConfig → Db × Option (List SystemRecord)
  | _, db, existing, [] => (db, some existing)
  | i, db, existing, c :: cs =>
    match syncEntry env i db existing c with
    | (db, none) => (db, none)
    | (db, some existing) => syncEntries env (i + 1) db existing cs

/-- The loop over what is left of the map. -/
def deleteSystems (env : Env) : Db → List SystemRecord → Db × Bool
  | db, [] => (db, true)
  | db, s :: rest => if env.deleted s then deleteSystems env (db.delete s) rest else (db, false)

/-- **`SyncSystems`** for the systems of the file: the database, and whether it succeeded. -/
def syncSystems (env : Env) (db : Db) (systems : List SystemConfig) : Db × Bool :=
  if systems = [] then (db, true)
  else
    match syncEntries env 0 db (existingSystemsMap db.systems)
        (systems.map (withDefaults db.users)) with
    | (db, none) => (db, false)
    | (db, some existing) => deleteSystems env db (env.order existing)

/-! ## What a sync that succeeds leaves -/

/-- What the loop does with the entries, one after the other: each updates the system of its key
that is in the map, which is taken out, or creates one under an id that is not in `ids`. -/
inductive Placed (ids : List String) :
    List SystemRecord → List SystemConfig → List SystemRecord → Prop
  | nil {existing} : Placed ids existing [] []
  | matched {existing c cs s placed} (hs : Table.lookup SystemRecord.key existing c.key = some s)
      (hcs : Placed ids (Table.remove SystemRecord.key existing c.key) cs placed) :
      Placed ids existing (c :: cs) (s.apply c :: placed)
  | created {existing c cs id placed} (hs : Table.lookup SystemRecord.key existing c.key = none)
      (hid : id ∉ ids) (hcs : Placed ids existing cs placed) :
      Placed ids existing (c :: cs) (c.create id :: placed)

theorem Placed.length_eq {ids : List String} {existing placed : List SystemRecord}
    {cs : List SystemConfig} (h : Placed ids existing cs placed) : placed.length = cs.length := by
  induction h with
  | nil => rfl
  | matched _ _ ih => exact congrArg (· + 1) ih
  | created _ _ _ ih => exact congrArg (· + 1) ih

/-- The systems that are not in the map. -/
def Db.outside (db : Db) (existing : List SystemRecord) : List SystemRecord :=
  db.systems.filter fun s => s.id ∉ existing.map (·.id)

theorem Db.mem_outside {db : Db} {existing : List SystemRecord} {s : SystemRecord} :
    s ∈ db.outside existing ↔ s ∈ db.systems ∧ s.id ∉ existing.map (·.id) := by
  simp [Db.outside]

theorem Db.nodup_outside (db : Db) (existing : List SystemRecord) : (db.outside existing).Nodup :=
  db.nodup.of_map.filter _

/-- The map has stored systems, one for each key. -/
structure IsMap (db : Db) (existing : List SystemRecord) : Prop where
  stored : existing ⊆ db.systems
  keys : (existing.map SystemRecord.key).Nodup

/-- **The two ways an entry goes well.** -/
theorem syncEntry_cases {env : Env} {i : ℕ} {db db' : Db} {existing existing' : List SystemRecord}
    {c : SystemConfig} (h : syncEntry env i db existing c = (db', some existing')) :
    (∃ s, Table.lookup SystemRecord.key existing c.key = some s ∧
      existing' = Table.remove SystemRecord.key existing c.key ∧
      db'.systems = Table.replace (·.id) db.systems (s.apply c) ∧
      db'.fingerprints = if c.token = "" then db.fingerprints
        else updateFingerprintToken db.fingerprints s.id c.token) ∨
    (Table.lookup SystemRecord.key existing c.key = none ∧ existing' = existing ∧
      ∃ id ∉ db.systems.map (·.id), db'.systems = db.systems ++ [c.create id]) := by
  simp only [syncEntry] at h
  split at h
  · next s hs =>
    refine .inl ⟨s, hs, ?_⟩
    split_ifs at h with _ htoken
    all_goals simp only [Prod.mk.injEq, Option.some.injEq, reduceCtorEq, and_false] at h
    all_goals obtain ⟨rfl, rfl⟩ := h
    · exact ⟨rfl, rfl, (if_pos htoken).symm⟩
    · exact ⟨rfl, rfl, (if_neg htoken).symm⟩
  · next hs =>
    split_ifs at h
    all_goals simp only [Prod.mk.injEq, Option.some.injEq, reduceCtorEq, and_false] at h
    all_goals obtain ⟨rfl, rfl⟩ := h
    all_goals exact .inr ⟨hs, rfl, _, env.newId_notMem _, rfl⟩

/-- Whatever the writes of an entry do, its system is saved or not, and so is its token. -/
theorem syncEntry_of_lookup (env : Env) (i : ℕ) (db : Db) {existing : List SystemRecord}
    {c : SystemConfig} {s : SystemRecord}
    (hs : Table.lookup SystemRecord.key existing c.key = some s) :
    ((syncEntry env i db existing c).1.systems = db.systems ∨
      (syncEntry env i db existing c).1.systems = Table.replace (·.id) db.systems (s.apply c)) ∧
    ((syncEntry env i db existing c).1.fingerprints = db.fingerprints ∨ c.token ≠ "" ∧
      (syncEntry env i db existing c).1.fingerprints =
        updateFingerprintToken db.fingerprints s.id c.token) ∧
    ∀ existing' ∈ (syncEntry env i db existing c).2,
      existing' = Table.remove SystemRecord.key existing c.key := by
  simp only [syncEntry, hs]
  split_ifs with _ htoken
  · exact ⟨.inr rfl, .inl rfl, fun _ h => (Option.some.inj h).symm⟩
  · exact ⟨.inr rfl, .inr ⟨htoken, rfl⟩, fun _ h => (Option.some.inj h).symm⟩
  · exact ⟨.inr rfl, .inl rfl, fun _ h => absurd h (by simp)⟩
  · exact ⟨.inl rfl, .inl rfl, fun _ h => absurd h (by simp)⟩

/-- The system of a key is taken out of the map, and of those that are left each has another id. -/
theorem IsMap.mem_map_id_remove {db : Db} {existing : List SystemRecord} (h : IsMap db existing)
    {s : SystemRecord} (hs : s ∈ existing) {id : String} :
    id ∈ (Table.remove SystemRecord.key existing s.key).map (·.id) ↔
      id ∈ existing.map (·.id) ∧ id ≠ s.id := by
  simp only [List.mem_map, Table.mem_remove]
  constructor
  · rintro ⟨r, ⟨hr, hkey⟩, rfl⟩
    refine ⟨⟨r, hr, rfl⟩, fun hid => hkey ?_⟩
    rw [List.inj_on_of_nodup_map db.nodup (h.stored hr) (h.stored hs) hid]
  · rintro ⟨⟨r, hr, rfl⟩, hid⟩
    refine ⟨r, ⟨hr, fun hkey => hid ?_⟩, rfl⟩
    rw [List.inj_on_of_nodup_map h.keys hr hs hkey]

/-- Where the keys are unique, an entry takes away no system that a later one finds. -/
theorem lookup_remove_of_later {c : SystemConfig} {cs : List SystemConfig}
    (hkeys : ((c :: cs).map SystemConfig.key).Nodup) (existing : List SystemRecord)
    {d : SystemConfig} (hd : d ∈ cs) :
    Table.lookup SystemRecord.key (Table.remove SystemRecord.key existing c.key) d.key =
      Table.lookup SystemRecord.key existing d.key := by
  have hne : d.key ≠ c.key := fun heq =>
    (List.nodup_cons.mp hkeys).1 (heq ▸ List.mem_map_of_mem hd)
  rw [Table.lookup_remove, if_neg hne]

/-- **An entry that updates a system** puts it among those that are not in the map. -/
theorem IsMap.outside_update {db db' : Db} {existing : List SystemRecord} (h : IsMap db existing)
    {s : SystemRecord} {c : SystemConfig} (hs : s ∈ existing)
    (hdb : db'.systems = Table.replace (·.id) db.systems (s.apply c)) :
    (db'.outside (Table.remove SystemRecord.key existing s.key)).Perm
      (s.apply c :: db.outside existing) := by
  have hout : s.apply c ∉ db.outside existing := fun hmem =>
    (Db.mem_outside.mp hmem).2 (List.mem_map.mpr ⟨s, hs, rfl⟩)
  refine (List.perm_ext_iff_of_nodup (db'.nodup_outside _)
    (List.nodup_cons.mpr ⟨hout, db.nodup_outside _⟩)).mpr fun r => ?_
  rw [Db.mem_outside, List.mem_cons, Db.mem_outside, hdb, h.mem_map_id_remove hs, not_and_not_right]
  constructor
  · rintro ⟨hr, hid⟩
    obtain rfl | ⟨hr, hne⟩ := Table.mem_replace hr
    · exact .inl rfl
    · exact .inr ⟨hr, fun hmem => hne (hid hmem)⟩
  · rintro (rfl | ⟨hr, hid⟩)
    · refine ⟨List.mem_map.mpr ⟨s, h.stored hs, ?_⟩, fun _ => rfl⟩
      exact if_pos rfl
    · refine ⟨Table.mem_replace_of_ne hr fun heq => hid ?_, fun hmem => absurd hmem hid⟩
      exact List.mem_map.mpr ⟨s, hs, heq.symm⟩

/-- **An entry that creates a system** puts it there too. -/
theorem IsMap.outside_create {db db' : Db} {existing : List SystemRecord} (h : IsMap db existing)
    {s : SystemRecord} (hs : s.id ∉ db.systems.map (·.id)) (hdb : db'.systems = db.systems ++ [s]) :
    db'.outside existing = db.outside existing ++ [s] := by
  have hid : s.id ∉ existing.map (·.id) := fun hmem => hs (List.map_subset _ h.stored hmem)
  rw [Db.outside, hdb, List.filter_append, Db.outside]
  congr 1
  simpa using hid

/-- **The map stays one.** -/
theorem IsMap.syncEntry {env : Env} {i : ℕ} {db db' : Db} {existing existing' : List SystemRecord}
    {c : SystemConfig} (h : IsMap db existing)
    (hentry : syncEntry env i db existing c = (db', some existing')) : IsMap db' existing' := by
  obtain ⟨s, hs, rfl, hdb, -⟩ | ⟨hs, rfl, id, -, hdb⟩ := syncEntry_cases hentry
  · refine ⟨fun r hr => ?_, Table.nodup_remove h.keys⟩
    obtain ⟨hr, hkey⟩ := Table.mem_remove.mp hr
    rw [hdb]
    refine Table.mem_replace_of_ne (h.stored hr) fun hid => hkey ?_
    have hstored : s ∈ db.systems := h.stored (Table.mem_of_lookup hs)
    rw [List.inj_on_of_nodup_map db.nodup (h.stored hr) hstored hid, Table.key_of_lookup hs]
  · refine ⟨fun r hr => ?_, h.keys⟩
    rw [hdb]
    exact List.mem_append_left _ (h.stored hr)

/-- An entry takes no id away. -/
theorem ids_subset_of_syncEntry {env : Env} {i : ℕ} {db db' : Db}
    {existing existing' : List SystemRecord} {c : SystemConfig}
    (hentry : syncEntry env i db existing c = (db', some existing')) :
    db.systems.map (·.id) ⊆ db'.systems.map (·.id) := by
  obtain ⟨s, -, -, hdb, -⟩ | ⟨-, -, id, -, hdb⟩ := syncEntry_cases hentry
  · rw [hdb, Table.map_key_replace]
    exact List.Subset.refl _
  · rw [hdb, List.map_append]
    exact List.subset_append_left _ _

/-- **The loop over the entries**, when it goes well, leaves out of the map what was out of it
before and one system for each entry. -/
theorem syncEntries_spec {env : Env} {i : ℕ} {ids : List String} {db db' : Db}
    {existing existing' : List SystemRecord} {cs : List SystemConfig} (hmap : IsMap db existing)
    (hids : ids ⊆ db.systems.map (·.id))
    (h : syncEntries env i db existing cs = (db', some existing')) :
    ∃ placed, Placed ids existing cs placed ∧ IsMap db' existing' ∧
      (db'.outside existing').Perm (db.outside existing ++ placed) := by
  induction cs generalizing i db existing with
  | nil =>
    obtain ⟨rfl, hexisting⟩ := Prod.mk.inj h
    obtain rfl := Option.some.inj hexisting
    exact ⟨[], .nil, hmap, by simp⟩
  | cons c cs ih =>
    rw [syncEntries] at h
    split at h
    · exact absurd h (by simp)
    · next db₁ existing₁ hentry =>
      obtain ⟨placed, hplaced, hmap', hperm⟩ := ih (hmap.syncEntry hentry)
        (List.Subset.trans hids (ids_subset_of_syncEntry hentry)) h
      obtain ⟨s, hs, rfl, hdb, -⟩ | ⟨hs, rfl, id, hid, hdb⟩ := syncEntry_cases hentry
      · refine ⟨_, .matched hs hplaced, hmap', hperm.trans ?_⟩
        have hupdate := hmap.outside_update (c := c) (Table.mem_of_lookup hs) hdb
        rw [Table.key_of_lookup hs] at hupdate
        exact (hupdate.append_right placed).trans List.perm_middle.symm
      · refine ⟨_, .created hs (fun hmem => hid (hids hmem)) hplaced, hmap', hperm.trans ?_⟩
        rw [hmap.outside_create hid hdb, List.append_assoc, List.singleton_append]

/-- **The loop over what is left of the map**, when it goes well, deletes all of it. -/
theorem deleteSystems_spec {env : Env} {db db' : Db} {rest : List SystemRecord}
    (h : deleteSystems env db rest = (db', true)) : db'.systems = db.outside rest := by
  induction rest generalizing db with
  | nil =>
    obtain ⟨rfl, -⟩ := Prod.mk.inj h
    simp [Db.outside]
  | cons s rest ih =>
    rw [deleteSystems] at h
    split_ifs at h
    · rw [ih h]
      simp only [Db.outside, Db.delete, Table.remove, List.filter_filter]
      refine List.filter_congr fun r _ => ?_
      rw [← Bool.decide_and, decide_eq_decide, List.map_cons, List.mem_cons, not_or, and_comm]
    · exact absurd h (by simp)

theorem nodup_existingSystemsMap (systems : List SystemRecord) :
    ((existingSystemsMap systems).map SystemRecord.key).Nodup :=
  Table.nodup_foldl_store (t := []) List.nodup_nil systems

/-- The map has the last system of a key. -/
theorem lookup_existingSystemsMap (systems : List SystemRecord) (key : String) :
    Table.lookup SystemRecord.key (existingSystemsMap systems) key =
      Table.lookup SystemRecord.key systems.reverse key := by
  rw [existingSystemsMap, Table.lookup_foldl_store]
  exact Option.or_none

/-- Where the keys are unique, that is the one system of the key. -/
theorem lookup_of_nodup {systems : List SystemRecord}
    (hkeys : (systems.map SystemRecord.key).Nodup) {s : SystemRecord} (hs : s ∈ systems) :
    Table.lookup SystemRecord.key (existingSystemsMap systems) s.key = some s := by
  rw [lookup_existingSystemsMap]
  refine Table.lookup_of_mem ?_ (List.mem_reverse.mpr hs)
  rwa [List.map_reverse, List.nodup_reverse]

theorem isMap_existingSystemsMap (db : Db) : IsMap db (existingSystemsMap db.systems) where
  stored s hs := by
    have hlookup := Table.lookup_of_mem (nodup_existingSystemsMap db.systems) hs
    rw [lookup_existingSystemsMap] at hlookup
    exact List.mem_reverse.mp (Table.mem_of_lookup hlookup)
  keys := nodup_existingSystemsMap db.systems

/-- The systems that are not the last of their key. -/
def Db.shadowed (db : Db) : List SystemRecord := db.outside (existingSystemsMap db.systems)

/-- **No system is shadowed exactly if the keys are unique.** -/
theorem Db.shadowed_eq_nil_iff (db : Db) :
    db.shadowed = [] ↔ (db.systems.map SystemRecord.key).Nodup := by
  have hmap := isMap_existingSystemsMap db
  rw [shadowed, List.eq_nil_iff_forall_not_mem]
  simp only [mem_outside, not_and, not_not]
  constructor
  · intro h
    have hmem : ∀ s ∈ db.systems, s ∈ existingSystemsMap db.systems := by
      intro s hs
      obtain ⟨r, hr, hid⟩ := List.mem_map.mp (h s hs)
      rwa [← List.inj_on_of_nodup_map db.nodup (hmap.stored hr) hs hid]
    exact db.nodup.of_map.map_on fun s hs r hr hkey =>
      List.inj_on_of_nodup_map hmap.keys (hmem s hs) (hmem r hr) hkey
  · intro hkeys s hs
    exact List.mem_map.mpr ⟨s, Table.mem_of_lookup (lookup_of_nodup hkeys hs), rfl⟩

/-- **A sync that succeeds** leaves the shadowed systems and one system for each entry. -/
theorem syncSystems_spec {env : Env} {db db' : Db} {systems : List SystemConfig}
    (hne : systems ≠ []) (h : syncSystems env db systems = (db', true)) :
    ∃ placed, Placed (db.systems.map (·.id)) (existingSystemsMap db.systems)
        (systems.map (withDefaults db.users)) placed ∧
      db'.systems.Perm (db.shadowed ++ placed) := by
  rw [syncSystems, if_neg hne] at h
  split at h
  · exact absurd h (by simp)
  · next db₁ existing hentries =>
    obtain ⟨placed, hplaced, -, hperm⟩ :=
      syncEntries_spec (isMap_existingSystemsMap db) (List.Subset.refl _) hentries
    refine ⟨placed, hplaced, ?_⟩
    have horder : db₁.outside (env.order existing) = db₁.outside existing := by
      refine List.filter_congr fun s _ => decide_eq_decide.mpr (not_congr ?_)
      exact ((env.order_perm existing).map _).mem_iff
    rw [deleteSystems_spec h, horder]
    exact hperm

/-! ## Writes that change nothing -/

section Stable

variable {env : Env} {db : Db} {existing : List SystemRecord} {cs : List SystemConfig}

theorem syncEntry_users (env : Env) (i : ℕ) (db : Db) (existing : List SystemRecord)
    (c : SystemConfig) : (syncEntry env i db existing c).1.users = db.users := by
  simp only [syncEntry]
  split
  all_goals split_ifs <;> rfl

theorem syncEntries_users (env : Env) (i : ℕ) (db : Db) (existing : List SystemRecord)
    (cs : List SystemConfig) : (syncEntries env i db existing cs).1.users = db.users := by
  induction cs generalizing i db existing with
  | nil => rfl
  | cons c cs ih =>
    have husers := syncEntry_users env i db existing c
    rw [syncEntries]
    split
    · next hentry => rwa [hentry] at husers
    · next hentry =>
      rw [hentry] at husers
      exact (ih _ _ _).trans husers

theorem deleteSystems_users (env : Env) (db : Db) (rest : List SystemRecord) :
    (deleteSystems env db rest).1.users = db.users := by
  induction rest generalizing db with
  | nil => rfl
  | cons s rest ih =>
    rw [deleteSystems]
    split_ifs
    · exact ih _
    · rfl

/-- The users are not synced. -/
theorem syncSystems_users (env : Env) (db : Db) (systems : List SystemConfig) :
    (syncSystems env db systems).1.users = db.users := by
  have husers := syncEntries_users env 0 db (existingSystemsMap db.systems)
    (systems.map (withDefaults db.users))
  rw [syncSystems]
  split_ifs
  · rfl
  · split
    · next hentries => rwa [hentries] at husers
    · next hentries =>
      rw [hentries] at husers
      exact (deleteSystems_users env _ _).trans husers

/-- The entries write no token that is not there. -/
def TokensSet (fingerprints : List FingerprintRecord) (existing : List SystemRecord)
    (cs : List SystemConfig) : Prop :=
  ∀ c ∈ cs, ∀ s, Table.lookup SystemRecord.key existing c.key = some s → c.token ≠ "" →
    updateFingerprintToken fingerprints s.id c.token = fingerprints

/-- **The entries change no system** that already is as its entry says, and no fingerprint that has
its token; what is left of the map has other keys than theirs. -/
theorem syncEntries_systems (hmap : IsMap db existing) (hkeys : (cs.map SystemConfig.key).Nodup)
    (hcs : ∀ c ∈ cs, ∃ s, Table.lookup SystemRecord.key existing c.key = some s ∧ s.apply c = s)
    (env : Env) (i : ℕ) :
    (syncEntries env i db existing cs).1.systems = db.systems ∧
      (TokensSet db.fingerprints existing cs →
        (syncEntries env i db existing cs).1.fingerprints = db.fingerprints) ∧
      ∀ rest ∈ (syncEntries env i db existing cs).2, ∀ s ∈ rest,
        s ∈ existing ∧ s.key ∉ cs.map SystemConfig.key := by
  induction cs generalizing i db existing with
  | nil =>
    refine ⟨rfl, fun _ => rfl, fun rest hrest s hs => ?_⟩
    obtain rfl := Option.some.inj hrest
    exact ⟨hs, by simp⟩
  | cons c cs ih =>
    obtain ⟨s, hs, hsame⟩ := hcs c List.mem_cons_self
    obtain ⟨hsystems, hfingerprints, hrest⟩ := syncEntry_of_lookup env i db hs
    have hstored : s ∈ db.systems := hmap.stored (Table.mem_of_lookup hs)
    rw [hsame, Table.replace_of_mem db.nodup hstored, or_self] at hsystems
    have htoken : TokensSet db.fingerprints existing (c :: cs) →
        (syncEntry env i db existing c).1.fingerprints = db.fingerprints := fun hset =>
      hfingerprints.elim id fun h => h.2.trans (hset c List.mem_cons_self s hs h.1)
    rw [syncEntries]
    split
    · next hentry =>
      rw [hentry] at hsystems htoken
      exact ⟨hsystems, htoken, fun rest hrest => absurd hrest (by simp)⟩
    · next db₁ existing₁ hentry =>
      rw [hentry] at hsystems hrest htoken
      obtain rfl := hrest existing₁ rfl
      have hlookup := fun d hd => lookup_remove_of_later hkeys existing (d := d) hd
      obtain ⟨hdb, hset, hleft⟩ := ih (hmap.syncEntry hentry) (List.nodup_cons.mp hkeys).2
        (fun d hd => hlookup d hd ▸ hcs d (List.mem_cons_of_mem c hd)) (i + 1)
      refine ⟨hdb.trans hsystems, fun h => ?_, fun rest hrest r hr => ?_⟩
      · refine (hset fun d hd r hr => ?_).trans (htoken h)
        rw [htoken h]
        rw [hlookup d hd] at hr
        exact h d (List.mem_cons_of_mem c hd) r hr
      · obtain ⟨hrexisting, hrkey⟩ := hleft rest hrest r hr
        obtain ⟨hrexisting, hrc⟩ := Table.mem_remove.mp hrexisting
        refine ⟨hrexisting, ?_⟩
        rw [List.map_cons, List.mem_cons, not_or]
        exact ⟨hrc, hrkey⟩

/-- **A sync does no more than its loop over the entries**, whatever its writes do, if each entry
finds a system that is as it says and each system has an entry. -/
theorem syncSystems_eq_syncEntries {systems : List SystemConfig} (hne : systems ≠ [])
    (hkeys : ((systems.map (withDefaults db.users)).map SystemConfig.key).Nodup)
    (hcs : ∀ c ∈ systems.map (withDefaults db.users), ∃ s,
      Table.lookup SystemRecord.key (existingSystemsMap db.systems) c.key = some s ∧ s.apply c = s)
    (hall : ∀ s ∈ db.systems,
      s.key ∈ (systems.map (withDefaults db.users)).map SystemConfig.key) (env : Env) :
    (syncSystems env db systems).1 = (syncEntries env 0 db (existingSystemsMap db.systems)
      (systems.map (withDefaults db.users))).1 := by
  have hmap := isMap_existingSystemsMap db
  obtain ⟨-, -, hrest⟩ := syncEntries_systems hmap hkeys hcs env 0
  rw [syncSystems, if_neg hne]
  split
  · next hentries => rw [hentries]
  · next db₁ rest hentries =>
    rw [hentries] at hrest ⊢
    have hnil : env.order rest = [] := by
      refine List.eq_nil_iff_forall_not_mem.mpr fun s hs => ?_
      obtain ⟨hs, hkey⟩ := hrest rest rfl s ((env.order_perm rest).mem_iff.mp hs)
      exact hkey (hall s (hmap.stored hs))
    rw [hnil]
    rfl

end Stable

/-! ## When a sync is exact and idempotent -/

/-- Name, host and port of a system… -/
def SystemRecord.triple (s : SystemRecord) : String × String × String := (s.name, s.host, s.port)

/-- …and of an entry. -/
def SystemConfig.triple (c : SystemConfig) : String × String × String :=
  (c.name, c.host, portText c.port)

/-- The triple and the users of a system… -/
def SystemRecord.row (s : SystemRecord) : (String × String × String) × List String :=
  (s.triple, s.users)

/-- …and of an entry. -/
def SystemConfig.row (c : SystemConfig) : (String × String × String) × List String :=
  (c.triple, c.users)

/-- The key, from the triple. -/
def tripleKey (t : String × String × String) : String := t.1 ++ t.2.1 ++ t.2.2

/-- The systems are those of the entries, each once. -/
structure Exact (db : Db) (entries : List SystemConfig) : Prop where
  nodup : (db.systems.map SystemRecord.triple).Nodup
  mem_iff : ∀ t, t ∈ db.systems.map SystemRecord.triple ↔ t ∈ entries.map SystemConfig.triple

/-- An entry with the host of the system that has its key. -/
def SystemConfig.hosted (existing : List SystemRecord) (c : SystemConfig) : SystemConfig :=
  { c with
    host := ((Table.lookup SystemRecord.key existing c.key).map (·.host)).getD c.host }

/-- **The keys tell the systems apart**: those of the systems and those of the entries are unique,
and the hosts that the entries keep are those that they name, up to the order. -/
structure Unambiguous (db : Db) (entries : List SystemConfig) : Prop where
  systemKeys : (db.systems.map SystemRecord.key).Nodup
  entryKeys : (entries.map SystemConfig.key).Nodup
  hosts : (entries.map fun c => (c.hosted (existingSystemsMap db.systems)).row).Perm
    (entries.map SystemConfig.row)

/-- What the loop makes of entries with unique keys. -/
theorem Placed.map_row {ids : List String} {existing placed : List SystemRecord}
    {cs : List SystemConfig} (h : Placed ids existing cs placed)
    (hkeys : (cs.map SystemConfig.key).Nodup) :
    placed.map SystemRecord.row = cs.map fun c => (c.hosted existing).row := by
  induction h with
  | nil => rfl
  | @matched existing c cs s placed hs _ ih =>
    rw [List.map_cons, List.map_cons, ih (List.nodup_cons.mp hkeys).2]
    congr 1
    · simp [SystemConfig.hosted, hs, SystemRecord.row, SystemConfig.row, SystemRecord.triple,
        SystemConfig.triple, SystemRecord.apply]
    · refine List.map_congr_left fun d hd => ?_
      rw [SystemConfig.hosted, SystemConfig.hosted, lookup_remove_of_later hkeys existing hd]
  | @created existing c cs id placed hs _ _ ih =>
    rw [List.map_cons, List.map_cons, ih (List.nodup_cons.mp hkeys).2]
    congr 1
    simp [SystemConfig.hosted, hs, SystemRecord.row, SystemConfig.row, SystemRecord.triple,
      SystemConfig.triple, SystemConfig.create]

theorem map_key_eq (entries : List SystemConfig) :
    entries.map SystemConfig.key = (entries.map SystemConfig.triple).map tripleKey := by
  rw [List.map_map]
  rfl

section Rows

variable {db : Db} {systems : List SystemConfig}
  (hkeys : ((systems.map (withDefaults db.users)).map SystemConfig.key).Nodup)
  (hsystems : (db.systems.map SystemRecord.key).Nodup)
  (hrows : (db.systems.map SystemRecord.row).Perm
    ((systems.map (withDefaults db.users)).map SystemConfig.row))
include hkeys hsystems hrows

omit hkeys in
/-- Where the systems have the rows of the entries, each entry finds the system that is as it
says. -/
theorem lookup_of_rows : ∀ c ∈ systems.map (withDefaults db.users), ∃ s,
    Table.lookup SystemRecord.key (existingSystemsMap db.systems) c.key = some s ∧
      s.apply c = s := by
  intro c hc
  obtain ⟨s, hs, hrow⟩ := List.mem_map.mp (hrows.mem_iff.mpr (List.mem_map_of_mem hc))
  obtain ⟨htriple, husers⟩ := Prod.mk.inj hrow
  have hkey : s.key = c.key := congrArg tripleKey htriple
  refine ⟨s, hkey ▸ lookup_of_nodup hsystems hs, ?_⟩
  simp only [SystemRecord.triple, SystemConfig.triple, Prod.mk.injEq] at htriple
  rw [SystemRecord.apply, ← htriple.1, ← htriple.2.2, ← husers]

/-- …and nothing is deleted. -/
theorem syncSystems_of_rows (hne : systems ≠ []) (env : Env) :
    (syncSystems env db systems).1 = (syncEntries env 0 db (existingSystemsMap db.systems)
      (systems.map (withDefaults db.users))).1 := by
  refine syncSystems_eq_syncEntries hne hkeys (lookup_of_rows hsystems hrows) (fun s hs => ?_) env
  obtain ⟨c, hc, hrow⟩ := List.mem_map.mp (hrows.mem_iff.mp (List.mem_map_of_mem hs))
  exact List.mem_map.mpr ⟨c, hc, congrArg tripleKey (Prod.mk.inj hrow).1⟩

/-- **The sync changes no system**, whatever its writes do, and no fingerprint with its token. -/
theorem unchanged_of_rows (hne : systems ≠ []) (env : Env) :
    (syncSystems env db systems).1.systems = db.systems ∧
      (TokensSet db.fingerprints (existingSystemsMap db.systems)
        (systems.map (withDefaults db.users)) →
          (syncSystems env db systems).1.fingerprints = db.fingerprints) := by
  obtain ⟨hdb, hset, -⟩ := syncEntries_systems (isMap_existingSystemsMap db) hkeys
    (lookup_of_rows hsystems hrows) env 0
  rw [syncSystems_of_rows hkeys hsystems hrows hne env]
  exact ⟨hdb, hset⟩

end Rows

/-- **Where the keys tell the systems apart, the sync is exact.** -/
theorem Unambiguous.rows {env : Env} {db db' : Db} {systems : List SystemConfig}
    (h : Unambiguous db (systems.map (withDefaults db.users))) (hne : systems ≠ [])
    (hsync : syncSystems env db systems = (db', true)) :
    (db'.systems.map SystemRecord.row).Perm
      ((systems.map (withDefaults db.users)).map SystemConfig.row) := by
  obtain ⟨placed, hplaced, hperm⟩ := syncSystems_spec hne hsync
  rw [db.shadowed_eq_nil_iff.mpr h.systemKeys, List.nil_append] at hperm
  refine (hperm.map _).trans ?_
  rw [hplaced.map_row h.entryKeys]
  exact h.hosts

/-- An environment in which every write succeeds. -/
def Env.allOk (env : Env) : Env :=
  { env with saved := fun _ => true, tokenSaved := fun _ => true, deleted := fun _ => true }

theorem deleteSystems_allOk (env : Env) (db : Db) (rest : List SystemRecord) :
    (deleteSystems env.allOk db rest).2 = true := by
  induction rest generalizing db with
  | nil => rfl
  | cons s rest ih =>
    rw [deleteSystems, if_pos (show env.allOk.deleted s = true from rfl)]
    exact ih _

theorem syncEntries_allOk (env : Env) (i : ℕ) (db : Db) (existing : List SystemRecord)
    (cs : List SystemConfig) : (syncEntries env.allOk i db existing cs).2.isSome := by
  induction cs generalizing i db existing with
  | nil => rfl
  | cons c cs ih =>
    have hentry : (syncEntry env.allOk i db existing c).2.isSome := by
      simp only [syncEntry, Env.allOk, if_true]
      split
      · split_ifs <;> rfl
      · rfl
    rw [syncEntries]
    split
    · next h => simp [h] at hentry
    · exact ih _ _ _

/-- **A sync whose writes all succeed, succeeds.** -/
theorem syncSystems_allOk (env : Env) (db : Db) (systems : List SystemConfig) :
    (syncSystems env.allOk db systems).2 = true := by
  have hentries := syncEntries_allOk env 0 db (existingSystemsMap db.systems)
    (systems.map (withDefaults db.users))
  rw [syncSystems]
  split_ifs
  · rfl
  · split
    · next h => simp [h] at hentries
    · exact deleteSystems_allOk env _ _

/-- A list that has no more than another, each once, has the same. -/
theorem Exact.perm {db : Db} {entries : List SystemConfig} (h : Exact db entries)
    (hlength : entries.length ≤ db.systems.length) :
    (db.systems.map SystemRecord.triple).Perm (entries.map SystemConfig.triple) := by
  have hsub : db.systems.map SystemRecord.triple ⊆ entries.map SystemConfig.triple :=
    fun t ht => (h.mem_iff t).mp ht
  refine (List.subperm_of_subset h.nodup hsub).perm_of_length_le ?_
  simpa using hlength

theorem Exact.length_le {db : Db} {entries : List SystemConfig} (h : Exact db entries) :
    db.systems.length ≤ entries.length := by
  have hsub : db.systems.map SystemRecord.triple ⊆ entries.map SystemConfig.triple :=
    fun t ht => (h.mem_iff t).mp ht
  simpa using (List.subperm_of_subset h.nodup hsub).length_le

/-- Entries whose triples the systems have keep their hosts. -/
theorem map_hosted_eq {db : Db} {entries : List SystemConfig}
    (hkeys : (db.systems.map SystemRecord.key).Nodup)
    (hperm : (db.systems.map SystemRecord.triple).Perm (entries.map SystemConfig.triple)) :
    (entries.map fun c => (c.hosted (existingSystemsMap db.systems)).row) =
      entries.map SystemConfig.row := by
  refine List.map_congr_left fun c hc => ?_
  obtain ⟨s, hs, htriple⟩ := List.mem_map.mp (hperm.mem_iff.mpr (List.mem_map_of_mem hc))
  have hkey : s.key = c.key := congrArg tripleKey htriple
  have hlookup := lookup_of_nodup hkeys hs
  rw [hkey] at hlookup
  have hhost : s.host = c.host := congrArg (·.2.1) htriple
  simp [SystemConfig.hosted, SystemConfig.row, SystemConfig.triple, hlookup, hhost]

/-- **A sync that succeeds is exact and idempotent exactly if the keys tell the systems apart.** -/
theorem syncSystems_exact_iff {env : Env} {db db' : Db} {systems : List SystemConfig}
    (hne : systems ≠ []) (hsync : syncSystems env db systems = (db', true)) :
    (Exact db' (systems.map (withDefaults db.users)) ∧
      ∀ env', (syncSystems env' db' systems).1.systems = db'.systems) ↔
    Unambiguous db (systems.map (withDefaults db.users)) := by
  have husers : db'.users = db.users := by
    rw [← syncSystems_users env db systems, hsync]
  constructor
  · rintro ⟨hexact, hagain⟩
    obtain ⟨placed, hplaced, hperm⟩ := syncSystems_spec hne hsync
    -- the systems are as many as the entries, so that none is shadowed
    have hlength := hperm.length_eq
    have hle := hexact.length_le
    rw [List.length_append, hplaced.length_eq] at hlength
    have hshadowed : db.shadowed = [] := List.length_eq_zero_iff.mp (by omega)
    have htriples := hexact.perm (by omega)
    rw [hshadowed, List.nil_append] at hperm
    -- nor is one in a second run, which creates none
    have hsync' :
        syncSystems env.allOk db' systems = ((syncSystems env.allOk db' systems).1, true) :=
      Prod.ext rfl (syncSystems_allOk env db' systems)
    obtain ⟨placed', hplaced', hperm'⟩ := syncSystems_spec hne hsync'
    rw [hagain] at hperm'
    rw [husers] at hplaced'
    have hlength' := hperm'.length_eq
    rw [List.length_append, hplaced'.length_eq] at hlength'
    have hshadowed' : db'.shadowed = [] := List.length_eq_zero_iff.mp (by omega)
    have hkeys' := db'.shadowed_eq_nil_iff.mp hshadowed'
    have hkeys : ((systems.map (withDefaults db.users)).map SystemConfig.key).Nodup := by
      rw [map_key_eq, ← (htriples.map tripleKey).nodup_iff, List.map_map]
      exact hkeys'
    rw [hshadowed', List.nil_append] at hperm'
    refine ⟨db.shadowed_eq_nil_iff.mp hshadowed, hkeys, ?_⟩
    rw [← hplaced.map_row hkeys, ← map_hosted_eq hkeys' htriples, ← hplaced'.map_row hkeys]
    exact (hperm.symm.trans hperm').map _
  · intro h
    have hrows := h.rows hne hsync
    have htriples : (db'.systems.map SystemRecord.triple).Perm
        ((systems.map (withDefaults db.users)).map SystemConfig.triple) := by
      have hfst := hrows.map Prod.fst
      rwa [List.map_map, List.map_map] at hfst
    have hkeys' : (db'.systems.map SystemRecord.key).Nodup := by
      have hkeys := h.entryKeys
      rw [map_key_eq, ← (htriples.map tripleKey).nodup_iff, List.map_map] at hkeys
      exact hkeys
    refine ⟨⟨?_, fun t => htriples.mem_iff⟩, ?_⟩
    · exact htriples.nodup_iff.mpr (List.Nodup.of_map tripleKey (map_key_eq _ ▸ h.entryKeys))
    · rw [← husers] at hrows
      exact fun env' => (unchanged_of_rows (husers ▸ h.entryKeys) hkeys' hrows hne env').1

/-- An id that is longer than those in use. -/
def longerId (ids : List String) : String := ids.foldr (fun id rest => "a" ++ id ++ rest) "a"

theorem length_lt_longerId {ids : List String} {id : String} (h : id ∈ ids) :
    id.length < (longerId ids).length := by
  induction ids with
  | nil => exact absurd h List.not_mem_nil
  | cons id' ids ih =>
    have hlength : (longerId (id' :: ids)).length = 1 + id'.length + (longerId ids).length := by
      rw [longerId, List.foldr_cons, String.length_append, String.length_append]
      rfl
    obtain rfl | h := List.mem_cons.mp h
    · omega
    · have hlt := ih h
      omega

/-- An environment in which every write succeeds. -/
def exampleEnv : Env where
  newId := longerId
  newId_notMem _ h := (length_lt_longerId h).false
  uuid _ := "uuid"
  saved _ := true
  tokenSaved _ := true
  order systems := systems
  order_perm := .refl
  deleted _ := true

/-- A user and a system. -/
def exampleDb : Db where
  users := [⟨"u", "admin@example.com"⟩]
  systems := [⟨"s", "web", "10.0.0.1", "45876", ["u"]⟩]
  fingerprints := [⟨"s", "", "token"⟩]
  nodup := by decide

/-- The file with the system of the example, and one more. -/
def exampleSystems : List SystemConfig :=
  [⟨"web", "10.0.0.1", 0, "", ["admin@example.com"]⟩, ⟨"db", "10.0.0.2", 45877, "", []⟩]

theorem syncSystems_exact_iff_example :
    Unambiguous exampleDb (exampleSystems.map (withDefaults exampleDb.users)) ∧
      Exact (syncSystems exampleEnv exampleDb exampleSystems).1
        (exampleSystems.map (withDefaults exampleDb.users)) ∧
      ∀ env', (syncSystems env' (syncSystems exampleEnv exampleDb exampleSystems).1
        exampleSystems).1.systems =
      (syncSystems exampleEnv exampleDb exampleSystems).1.systems := by
  have h : Unambiguous exampleDb (exampleSystems.map (withDefaults exampleDb.users)) :=
    ⟨by decide +kernel, by decide +kernel, by decide +kernel⟩
  have hsync : syncSystems exampleEnv exampleDb exampleSystems =
      ((syncSystems exampleEnv exampleDb exampleSystems).1, true) :=
    Prod.ext rfl (by decide +kernel)
  exact ⟨h, (syncSystems_exact_iff (by decide) hsync).mpr h⟩

/-- The stored system `web` at `10.0.0.1` has the key of the entry `web1` at `0.0.0.1`: it is
renamed, and keeps its host. -/
theorem not_syncSystems_exact : ¬ ∀ (env : Env) (db db' : Db) (systems : List SystemConfig),
    systems ≠ [] → syncSystems env db systems = (db', true) →
      Exact db' (systems.map (withDefaults db.users)) ∧
        ∀ env', (syncSystems env' db' systems).1.systems = db'.systems := by
  intro h
  have hsync : syncSystems exampleEnv exampleDb [⟨"web1", "0.0.0.1", 45876, "", []⟩] =
      ((syncSystems exampleEnv exampleDb [⟨"web1", "0.0.0.1", 45876, "", []⟩]).1, true) :=
    Prod.ext rfl (by decide +kernel)
  have hexact := (h _ _ _ _ (by decide) hsync).1
  have hmem := (hexact.mem_iff ("web1", "10.0.0.1", "45876")).mp (by decide +kernel)
  exact absurd hmem (by decide +kernel)

/-! ## Export and import -/

/-- `getUserEmailMap`. -/
def getUserEmailMap (users : List UserRecord) (id : String) : Option String :=
  (users.reverse.find? (·.id = id)).map (·.email)

/-- `systemTokenMap`: the token of the last fingerprint of a system, empty if it has none. -/
def systemTokenMap (fingerprints : List FingerprintRecord) (system : String) : String :=
  ((fingerprints.reverse.find? (·.system = system)).map (·.token)).getD ""

section Export

variable (toUint16 : String → UInt16)

/-- The entry of a system. -/
def exportSystem (db : Db) (s : SystemRecord) : SystemConfig where
  name := s.name
  host := s.host
  port := toUint16 s.port
  token := systemTokenMap db.fingerprints s.id
  users := s.users.filterMap (getUserEmailMap db.users)

/-- The systems, sorted by name. -/
def Db.byName (db : Db) : List SystemRecord := db.systems.mergeSort fun s r => s.name ≤ r.name

/-- **`generateYAML`**: the systems of the file that is written.  `toUint16` is `cast.ToUint16`. -/
def generateYAML (db : Db) : List SystemConfig := db.byName.map (exportSystem toUint16 db)

/-- **The round trip**: whatever the writes do, no system is created or deleted, and each keeps its
host, its port, its users and its tokens. -/
def RoundTrip (db : Db) : Prop :=
  ∀ env, (syncSystems env db (generateYAML toUint16 db)).1.systems.map
      (fun s => (s.id, s.host, s.port, s.users)) =
        db.systems.map (fun s => (s.id, s.host, s.port, s.users)) ∧
    (syncSystems env db (generateYAML toUint16 db)).1.fingerprints.map
      (fun f => (f.system, f.token)) = db.fingerprints.map fun f => (f.system, f.token)

/-- The token that is updated: that of the first fingerprint. -/
def firstToken (fingerprints : List FingerprintRecord) (system : String) : Option String :=
  (fingerprints.find? (·.system = system)).map (·.token)

/-- **What the file can say**: the keys are unique; a port is a number from 1 to 65535 written
without leading zeros; there are users, unless the database has none, and each is the one its
address stands for; the fingerprints of a system agree on the token that is exported. -/
structure Exportable (db : Db) : Prop where
  keys : (db.systems.map SystemRecord.key).Nodup
  port : ∀ s ∈ db.systems, s.port = portText (portOrDefault (toUint16 s.port))
  users : ∀ s ∈ db.systems, (s.users = [] → db.users = []) ∧ ∀ id ∈ s.users,
    ∃ email ∈ getUserEmailMap db.users id, userEmailToID db.users email = some id
  token : ∀ s ∈ db.systems, systemTokenMap db.fingerprints s.id ≠ "" →
    firstToken db.fingerprints s.id = some (systemTokenMap db.fingerprints s.id)

end Export

/-! ### Users -/

/-- A list that is filtered and mapped to itself. -/
theorem filterMap_eq_self_iff {α : Type*} {f : α → Option α} {l : List α} :
    l.filterMap f = l ↔ ∀ a ∈ l, f a = some a := by
  induction l with
  | nil => simp
  | cons a l ih =>
    rw [List.forall_mem_cons, ← ih]
    cases hf : f a with
    | none =>
      rw [List.filterMap_cons_none hf]
      refine ⟨fun h => ?_, fun h => absurd h.1 (by simp)⟩
      have hle := List.length_filterMap_le f l
      rw [h, List.length_cons] at hle
      omega
    | some b =>
      rw [List.filterMap_cons_some hf, List.cons.injEq, Option.some.injEq]

theorem getUserEmailMap_of_mem {users : List UserRecord} {u : UserRecord} (hu : u ∈ users) :
    getUserEmailMap users u.id ≠ none := by
  rw [getUserEmailMap, Ne, Option.map_eq_none_iff, List.find?_eq_none]
  exact fun h => h u (List.mem_reverse.mpr hu) (decide_eq_true rfl)

/-- **The users of a system survive the file** exactly if each is the one its address stands for,
and there is one unless the database has none. -/
theorem resolveUsers_filterMap_eq_iff (users : List UserRecord) (ids : List String) :
    resolveUsers users (ids.filterMap (getUserEmailMap users)) = ids ↔
      (ids = [] → users = []) ∧ ∀ id ∈ ids,
        ∃ email ∈ getUserEmailMap users id, userEmailToID users email = some id := by
  have hself : (ids.filterMap (getUserEmailMap users)).filterMap (userEmailToID users) = ids ↔
      ∀ id ∈ ids, ∃ email ∈ getUserEmailMap users id, userEmailToID users email = some id := by
    rw [List.filterMap_filterMap, filterMap_eq_self_iff]
    simp only [Option.bind_eq_some_iff, Option.mem_def]
  cases users with
  | nil => exact ⟨fun h => ⟨fun _ => rfl, hself.mp h⟩, fun h => hself.mpr h.2⟩
  | cons u users =>
    cases hemails : ids.filterMap (getUserEmailMap (u :: users)) with
    | nil =>
      -- the first user is filled in; it would have been exported
      have hnone : ∀ id ∈ ids, getUserEmailMap (u :: users) id = none :=
        List.filterMap_eq_nil_iff.mp hemails
      constructor
      · intro h
        have hu : u.id ∈ ids := h ▸ List.mem_singleton_self u.id
        exact absurd (hnone u.id hu) (getUserEmailMap_of_mem List.mem_cons_self)
      · rintro ⟨hempty, hall⟩
        cases ids with
        | nil => exact absurd (hempty rfl) (by simp)
        | cons id ids =>
          obtain ⟨email, hemail, -⟩ := hall id List.mem_cons_self
          rw [hnone id List.mem_cons_self] at hemail
          exact absurd hemail (by simp)
    | cons email emails =>
      rw [hemails] at hself
      refine ⟨fun h => ⟨fun hids => ?_, hself.mp h⟩, fun h => hself.mpr h.2⟩
      rw [hids] at hemails
      exact absurd hemails (by simp)

/-! ### Tokens -/

/-- The first token is read off the systems and tokens of the fingerprints. -/
theorem firstToken_eq (fingerprints : List FingerprintRecord) (system : String) :
    firstToken fingerprints system =
      ((fingerprints.map fun f => (f.system, f.token)).find? (·.1 = system)).map (·.2) := by
  rw [List.find?_map, Option.map_map]
  rfl

theorem firstToken_setFirstToken {system token : String} (fingerprints : List FingerprintRecord)
    (hfirst : fingerprints.find? (·.system = system) ≠ none) (system' : String) :
    firstToken (setFirstToken system token fingerprints) system' =
      if system = system' then some token else firstToken fingerprints system' := by
  induction fingerprints with
  | nil => exact absurd rfl hfirst
  | cons f fs ih =>
    rw [setFirstToken]
    by_cases hf : f.system = system
    · rw [if_pos hf]
      by_cases hs : system = system'
      · simp [firstToken, hf, hs]
      · simp [firstToken, hf, hs]
    · rw [if_neg hf]
      rw [List.find?_cons_of_neg (by simpa using hf)] at hfirst
      have ih := ih hfirst
      by_cases hs : f.system = system'
      · have hne : system ≠ system' := fun h => hf (hs.trans h.symm)
        simp [firstToken, hs, hne]
      · simpa [firstToken, hs] using ih

/-- **A token that is updated is the first one**, and those of other systems stay. -/
theorem firstToken_updateFingerprintToken (fingerprints : List FingerprintRecord)
    (system token system' : String) :
    firstToken (updateFingerprintToken fingerprints system token) system' =
      if system = system' then some token else firstToken fingerprints system' := by
  rw [updateFingerprintToken]
  split
  · next hnone =>
    rw [firstToken, createFingerprintRecord, List.find?_append]
    split_ifs with h
    · rw [← h, hnone]
      simp
    · rw [List.find?_cons_of_neg (by simpa using h)]
      simp [firstToken]
  · next hsome => exact firstToken_setFirstToken fingerprints (by simp [hsome]) system'

/-- Updating the first token to what it is changes nothing. -/
theorem updateFingerprintToken_of_firstToken {fingerprints : List FingerprintRecord}
    {system token : String} (h : firstToken fingerprints system = some token) :
    updateFingerprintToken fingerprints system token = fingerprints := by
  have hset : setFirstToken system token fingerprints = fingerprints := by
    induction fingerprints with
    | nil => rfl
    | cons f fs ih =>
      rw [setFirstToken]
      split_ifs with hf
      · have htoken : f.token = token := by simpa [firstToken, hf] using h
        rw [← htoken]
      · have hfs : firstToken fs system = some token := by simpa [firstToken, hf] using h
        rw [ih hfs]
  rw [updateFingerprintToken]
  split
  · next hnone => simp [firstToken, hnone] at h
  · exact hset

/-- **The loop over entries that all find a system** sets the first token of each to that of its
entry, if that has one, and leaves those of systems that are not in the map. -/
theorem firstToken_syncEntries {env : Env} {i : ℕ} {db db' : Db}
    {existing existing' : List SystemRecord} {cs : List SystemConfig} (hmap : IsMap db existing)
    (hkeys : (cs.map SystemConfig.key).Nodup)
    (hcs : ∀ c ∈ cs, ∃ s, Table.lookup SystemRecord.key existing c.key = some s)
    (h : syncEntries env i db existing cs = (db', some existing')) :
    (∀ id, id ∉ existing.map (·.id) →
      firstToken db'.fingerprints id = firstToken db.fingerprints id) ∧
    ∀ c ∈ cs, ∀ s, Table.lookup SystemRecord.key existing c.key = some s → c.token ≠ "" →
      firstToken db'.fingerprints s.id = some c.token := by
  induction cs generalizing i db existing with
  | nil =>
    obtain ⟨rfl, -⟩ := Prod.mk.inj h
    exact ⟨fun _ _ => rfl, fun c hc => absurd hc List.not_mem_nil⟩
  | cons c cs ih =>
    rw [syncEntries] at h
    split at h
    · exact absurd h (by simp)
    · next db₁ existing₁ hentry =>
      obtain ⟨s, hs⟩ := hcs c List.mem_cons_self
      obtain ⟨s', hs', rfl, -, htoken⟩ | ⟨hnone, -⟩ := syncEntry_cases hentry
      · obtain rfl : s = s' := Option.some.inj (hs.symm.trans hs')
        have hmem : s ∈ existing := Table.mem_of_lookup hs
        have hlookup := fun d hd => lookup_remove_of_later hkeys existing (d := d) hd
        have hout : ∀ {id}, id ∈ (Table.remove SystemRecord.key existing c.key).map (·.id) ↔
            id ∈ existing.map (·.id) ∧ id ≠ s.id := by
          rw [← Table.key_of_lookup hs]
          exact hmap.mem_map_id_remove hmem
        obtain ⟨hother, hset⟩ := ih (hmap.syncEntry hentry) (List.nodup_cons.mp hkeys).2
          (fun d hd => hlookup d hd ▸ hcs d (List.mem_cons_of_mem c hd)) h
        refine ⟨fun id hid => ?_, fun d hd r hr hd' => ?_⟩
        · rw [hother id fun hmem => hid (hout.mp hmem).1, htoken]
          split_ifs
          · rfl
          · have hne : s.id ≠ id := fun heq => hid (heq ▸ List.mem_map_of_mem hmem)
            rw [firstToken_updateFingerprintToken, if_neg hne]
        · obtain rfl | hd := List.mem_cons.mp hd
          · obtain rfl : s = r := Option.some.inj (hs.symm.trans hr)
            rw [hother s.id fun hmem => (hout.mp hmem).2 rfl, htoken, if_neg hd',
              firstToken_updateFingerprintToken, if_pos rfl]
          · exact hset d hd r (hlookup d hd ▸ hr) hd'
      · exact absurd (hs.symm.trans hnone) (by simp)

/-! ### The round trip -/

/-- Entries that create nothing have unique keys, and each finds a system. -/
theorem Placed.all_matched {ids : List String} {existing placed : List SystemRecord}
    {cs : List SystemConfig} (h : Placed ids existing cs placed)
    (hids : ∀ s ∈ placed, s.id ∈ ids) :
    (cs.map SystemConfig.key).Nodup ∧ ∀ c ∈ cs, ∃ s,
      Table.lookup SystemRecord.key existing c.key = some s ∧ s.apply c ∈ placed := by
  induction h with
  | nil => exact ⟨List.nodup_nil, fun c hc => absurd hc List.not_mem_nil⟩
  | @matched existing c cs s placed hs _ ih =>
    obtain ⟨hkeys, hcs⟩ := ih fun s hs => hids s (List.mem_cons_of_mem _ hs)
    have hne : ∀ d ∈ cs, d.key ≠ c.key ∧ ∃ s,
        Table.lookup SystemRecord.key existing d.key = some s ∧ s.apply d ∈ placed := by
      intro d hd
      obtain ⟨r, hr, hplaced⟩ := hcs d hd
      rw [Table.lookup_remove] at hr
      split_ifs at hr with hkey
      exact ⟨hkey, r, hr, hplaced⟩
    refine ⟨List.nodup_cons.mpr ⟨fun hmem => ?_, hkeys⟩, fun d hd => ?_⟩
    · obtain ⟨d, hd, hkey⟩ := List.mem_map.mp hmem
      exact (hne d hd).1 hkey
    · obtain rfl | hd := List.mem_cons.mp hd
      · exact ⟨s, hs, List.mem_cons_self⟩
      · obtain ⟨r, hr, hplaced⟩ := (hne d hd).2
        exact ⟨r, hr, List.mem_cons_of_mem _ hplaced⟩
  | created _ hid _ _ => exact absurd (hids _ List.mem_cons_self) hid

section RoundTrip

variable {toUint16 : String → UInt16} {db : Db}

/-- The entry of a system, with the defaults. -/
def entryOf (toUint16 : String → UInt16) (db : Db) (s : SystemRecord) : SystemConfig :=
  withDefaults db.users (exportSystem toUint16 db s)

theorem byName_perm (db : Db) : db.byName.Perm db.systems := List.mergeSort_perm _ _

theorem map_withDefaults_generateYAML (toUint16 : String → UInt16) (db : Db) :
    (generateYAML toUint16 db).map (withDefaults db.users) =
      db.byName.map (entryOf toUint16 db) := by
  rw [generateYAML, List.map_map]
  rfl

theorem mem_entries {c : SystemConfig} :
    c ∈ (generateYAML toUint16 db).map (withDefaults db.users) ↔
      ∃ s ∈ db.systems, entryOf toUint16 db s = c := by
  rw [map_withDefaults_generateYAML, List.mem_map]
  simp only [(byName_perm db).mem_iff]

theorem generateYAML_eq_nil_iff : generateYAML toUint16 db = [] ↔ db.systems = [] := by
  rw [generateYAML, List.map_eq_nil_iff, ← List.length_eq_zero_iff, (byName_perm db).length_eq,
    List.length_eq_zero_iff]

section Survives

variable (hport : ∀ s ∈ db.systems, s.port = portText (portOrDefault (toUint16 s.port)))
  (husers : ∀ s ∈ db.systems,
    resolveUsers db.users (s.users.filterMap (getUserEmailMap db.users)) = s.users)
include hport husers

/-- A system whose port and users survive the file has the row of its entry. -/
theorem row_entryOf : ∀ s ∈ db.systems, (entryOf toUint16 db s).row = s.row := by
  intro s hs
  simp only [SystemConfig.row, SystemConfig.triple, entryOf, withDefaults, exportSystem,
    SystemRecord.row, SystemRecord.triple, ← hport s hs, husers s hs]

theorem key_entryOf : ∀ s ∈ db.systems, (entryOf toUint16 db s).key = s.key := fun s hs =>
  congrArg tripleKey (Prod.mk.inj (row_entryOf hport husers s hs)).1

theorem rows_generateYAML : (db.systems.map SystemRecord.row).Perm
    (((generateYAML toUint16 db).map (withDefaults db.users)).map SystemConfig.row) := by
  rw [map_withDefaults_generateYAML, List.map_map]
  refine ((byName_perm db).symm.map SystemRecord.row).trans (.of_eq ?_)
  exact List.map_congr_left fun s hs =>
    (row_entryOf hport husers s ((byName_perm db).mem_iff.mp hs)).symm

/-- The keys of the entries are those of the systems. -/
theorem nodup_entries (hkeys : (db.systems.map SystemRecord.key).Nodup) :
    (((generateYAML toUint16 db).map (withDefaults db.users)).map SystemConfig.key).Nodup := by
  have hperm := (rows_generateYAML hport husers).map fun row => tripleKey row.1
  rw [List.map_map, List.map_map] at hperm
  exact hperm.nodup_iff.mp hkeys

/-- The tokens are written where they are, exactly if the first fingerprint has the last one's. -/
theorem tokensSet_of (hkeys : (db.systems.map SystemRecord.key).Nodup)
    (htoken : ∀ s ∈ db.systems, systemTokenMap db.fingerprints s.id ≠ "" →
      firstToken db.fingerprints s.id = some (systemTokenMap db.fingerprints s.id)) :
    TokensSet db.fingerprints (existingSystemsMap db.systems)
      ((generateYAML toUint16 db).map (withDefaults db.users)) := by
  intro c hc s hs hne
  obtain ⟨r, hr, rfl⟩ := mem_entries.mp hc
  rw [key_entryOf hport husers r hr, lookup_of_nodup hkeys hr] at hs
  obtain rfl : r = s := Option.some.inj hs
  exact updateFingerprintToken_of_firstToken (htoken r hr hne)

end Survives

/-- **What the file can say survives the round trip.** -/
theorem Exportable.roundTrip (h : Exportable toUint16 db) : RoundTrip toUint16 db := by
  intro env
  by_cases hsystems : db.systems = []
  · rw [generateYAML_eq_nil_iff.mpr hsystems]
    exact ⟨rfl, rfl⟩
  · have husers : ∀ s ∈ db.systems,
        resolveUsers db.users (s.users.filterMap (getUserEmailMap db.users)) = s.users :=
      fun s hs => (resolveUsers_filterMap_eq_iff _ _).mpr (h.users s hs)
    obtain ⟨hdb, hset⟩ := unchanged_of_rows (nodup_entries h.port husers h.keys) h.keys
      (rows_generateYAML h.port husers) (mt generateYAML_eq_nil_iff.mp hsystems) env
    rw [hdb, hset (tokensSet_of h.port husers h.keys h.token)]
    exact ⟨rfl, rfl⟩

theorem portOrDefault_ne_zero (port : UInt16) : portOrDefault port ≠ 0 := by
  unfold portOrDefault
  split_ifs with h
  · decide
  · exact h

/-- The first half of the way back: with unique keys each system is found by its own entry. -/
theorem RoundTrip.survives (hcast : ∀ port, toUint16 (portText port) = port)
    (h : RoundTrip toUint16 db) (hsystems : db.systems ≠ []) :
    (db.systems.map SystemRecord.key).Nodup ∧ ∀ s ∈ db.systems,
      s.port = portText (entryOf toUint16 db s).port ∧ s.users = (entryOf toUint16 db s).users := by
  have hne : generateYAML toUint16 db ≠ [] := mt generateYAML_eq_nil_iff.mp hsystems
  have hsync : syncSystems exampleEnv.allOk db (generateYAML toUint16 db) =
      ((syncSystems exampleEnv.allOk db (generateYAML toUint16 db)).1, true) :=
    Prod.ext rfl (syncSystems_allOk _ _ _)
  obtain ⟨placed, hplaced, hperm⟩ := syncSystems_spec hne hsync
  have hkept := (h exampleEnv.allOk).1
  -- as many systems as entries, so that none is shadowed
  have hlength := hperm.length_eq
  have hsame := congrArg List.length hkept
  rw [List.length_append, hplaced.length_eq, map_withDefaults_generateYAML, List.length_map,
    (byName_perm db).length_eq] at hlength
  rw [List.length_map, List.length_map] at hsame
  have hshadowed : db.shadowed = [] := List.length_eq_zero_iff.mp (by omega)
  have hkeys := db.shadowed_eq_nil_iff.mp hshadowed
  rw [hshadowed, List.nil_append] at hperm
  -- what the entries made is what there was
  have hfound : ∀ s ∈ placed, ∃ r ∈ db.systems,
      (r.id, r.host, r.port, r.users) = (s.id, s.host, s.port, s.users) := by
    intro s hs
    refine List.mem_map.mp (hkept ▸ List.mem_map.mpr ⟨s, hperm.mem_iff.mpr hs, rfl⟩)
  obtain ⟨hentries, hmatched⟩ := hplaced.all_matched fun s hs => by
    obtain ⟨r, hr, heq⟩ := hfound s hs
    exact List.mem_map.mpr ⟨r, hr, congrArg Prod.fst heq⟩
  refine ⟨hkeys, fun s hs => ?_⟩
  obtain ⟨r, hr, hrplaced⟩ := hmatched _ (mem_entries.mpr ⟨s, hs, rfl⟩)
  have hrsystems : r ∈ db.systems := (isMap_existingSystemsMap db).stored (Table.mem_of_lookup hr)
  obtain ⟨r', hr', heq⟩ := hfound _ hrplaced
  simp only [SystemRecord.apply, Prod.mk.injEq] at heq
  obtain rfl : r' = r := List.inj_on_of_nodup_map db.nodup hr' hrsystems heq.1
  suffices hrs : r' = s by
    rw [← hrs] at heq ⊢
    exact heq.2.2
  -- its own entry has the same key, so that it is the entry of the system
  have hkey : r'.key = (entryOf toUint16 db s).key := Table.key_of_lookup hr
  have hport : (entryOf toUint16 db r').port = (entryOf toUint16 db s).port := by
    change portOrDefault (toUint16 r'.port) = _
    rw [heq.2.2.1, hcast]
    exact if_neg (portOrDefault_ne_zero _)
  have hentry : (entryOf toUint16 db r').key = (entryOf toUint16 db s).key := by
    rw [← hkey, SystemConfig.key, hport, ← heq.2.2.1]
    rfl
  rw [map_withDefaults_generateYAML, List.map_map] at hentries
  exact List.inj_on_of_nodup_map hentries ((byName_perm db).mem_iff.mpr hrsystems)
    ((byName_perm db).mem_iff.mpr hs) hentry

/-- **Export and import leave the systems and their tokens as they were exactly if the file can say
what is stored.** -/
theorem roundTrip_iff (hcast : ∀ port, toUint16 (portText port) = port) :
    RoundTrip toUint16 db ↔ Exportable toUint16 db := by
  refine ⟨fun h => ?_, Exportable.roundTrip⟩
  by_cases hsystems : db.systems = []
  · refine ⟨by simp [hsystems], ?_, ?_, ?_⟩
    all_goals intro s hs; exact absurd hs (by simp [hsystems])
  · obtain ⟨hkeys, hsurvives⟩ := h.survives hcast hsystems
    have hport : ∀ s ∈ db.systems, s.port = portText (portOrDefault (toUint16 s.port)) :=
      fun s hs => (hsurvives s hs).1
    have husers : ∀ s ∈ db.systems,
        resolveUsers db.users (s.users.filterMap (getUserEmailMap db.users)) = s.users :=
      fun s hs => (hsurvives s hs).2.symm
    refine ⟨hkeys, hport, fun s hs => (resolveUsers_filterMap_eq_iff _ _).mp (husers s hs),
      fun s hs hne => ?_⟩
    have hnodup := nodup_entries hport husers hkeys
    have hrows := rows_generateYAML hport husers
    have hlookup := lookup_of_rows hkeys hrows
    have htokens := (h exampleEnv.allOk).2
    rw [syncSystems_of_rows hnodup hkeys hrows (mt generateYAML_eq_nil_iff.mp hsystems)] at htokens
    obtain ⟨rest, hrest⟩ := Option.isSome_iff_exists.mp (syncEntries_allOk exampleEnv 0 db
      (existingSystemsMap db.systems) ((generateYAML toUint16 db).map (withDefaults db.users)))
    have hset := (firstToken_syncEntries (isMap_existingSystemsMap db) hnodup
      (fun c hc => (hlookup c hc).imp fun _ => And.left) (Prod.ext rfl hrest)).2
      _ (mem_entries.mpr ⟨s, hs, rfl⟩) s
      (key_entryOf hport husers s hs ▸ lookup_of_nodup hkeys hs) hne
    rw [firstToken_eq, htokens, ← firstToken_eq] at hset
    exact hset

/-- `cast.ToUint16` of decimal digits; it gives zero for what it does not read. -/
def exampleToUint16 (text : String) : UInt16 :=
  if text.toList.all Char.isDigit then UInt16.ofNat (Nat.ofDigitChars 10 text.toList 0) else 0

theorem exampleToUint16_portText (port : UInt16) : exampleToUint16 (portText port) = port := by
  have hdigits : (Nat.toDigits 10 port.toNat).all Char.isDigit :=
    List.all_eq_true.mpr fun c hc => Nat.isDigit_of_mem_toDigits (by decide) (by decide) hc
  rw [exampleToUint16, portText, Nat.toList_repr, if_pos hdigits, Nat.ofDigitChars_ten_toDigits]
  exact UInt16.ofNat_toNat

/-- A system with a port, a user and a token survives the file. -/
theorem roundTrip_iff_example :
    Exportable exampleToUint16 exampleDb ∧ RoundTrip exampleToUint16 exampleDb := by
  have h : Exportable exampleToUint16 exampleDb :=
    ⟨by decide +kernel, by decide +kernel, by decide +kernel, by decide +kernel⟩
  exact ⟨h, (roundTrip_iff exampleToUint16_portText).mpr h⟩

/-- The system of the example without a port. -/
def examplePortless : Db where
  users := exampleDb.users
  systems := [⟨"s", "web", "10.0.0.1", "", ["u"]⟩]
  fingerprints := exampleDb.fingerprints
  nodup := by decide

/-- It is exported with port 0, imported with the default port and not found under that key, so it
is deleted and another one created. -/
theorem not_roundTrip : ¬ ∀ (toUint16 : String → UInt16) (db : Db),
    (∀ port, toUint16 (portText port) = port) → RoundTrip toUint16 db := by
  intro h
  have htrip := h exampleToUint16 examplePortless exampleToUint16_portText
  obtain ⟨-, hsurvives⟩ := htrip.survives exampleToUint16_portText (by decide)
  have hport := (hsurvives _ List.mem_cons_self).1
  exact absurd hport (by decide +kernel)

end RoundTrip

end Config

end Beszel
